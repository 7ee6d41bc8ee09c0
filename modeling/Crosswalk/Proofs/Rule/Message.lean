import Crosswalk.Proofs.Rule.Verdict
import Crosswalk.Proofs.Value.LongInteger

/-!
Messages of rules.

A message is put together from the texts of what its placeholders stand for, so the only thing that
it can fail on is an integer that is too long, in the value that was checked or in the logic of the
rule.

A template of text without braces and of words in braces is taken to pieces in one way, whatever its
words are. The message has the text as it is and, for every word, the text of what it stands for. What
is put in is not looked at again: it is no part of the template, whatever braces there are in it.
-/

namespace Crosswalk.Rule

open Fallible Text

namespace Message

lemma raises_pieceText (ctx : Table Value) (p : Piece) :
    Raises (· = .integerTooLong) (pieceText ctx p) := by
  cases p with
  | literal c => simp [pieceText]
  | placeholder name =>
    rw [pieceText]
    split
    · exact Value.raises_toChars _
    · simp

lemma raises_render (template : String) (r : Rule) (v : Value) :
    Raises (· = .integerTooLong) (render template r v) :=
  raises_bind (raises_mapM fun p _ => raises_pieceText _ p) fun _ _ => by simp

/-! ### Templates -/

/-- A part of a template: text without braces, or a word in braces. -/
inductive Segment where
  | plain (cs : List Char) (no_brace : ∀ c ∈ cs, c ≠ openBrace ∧ c ≠ closeBrace)
  | named (word : List Char) (ne_nil : word ≠ []) (is_word : ∀ c ∈ word, isWord c)

namespace Segment

def chars : Segment → List Char
  | plain cs _ => cs
  | named word _ _ => openBrace :: word ++ [closeBrace]

def pieces : Segment → List Piece
  | plain cs _ => cs.map .literal
  | named word _ _ => [.placeholder word]

/-- What a segment stands for, if it is a known name in braces. -/
def entry? (ctx : Table Value) : Segment → Option Value
  | plain _ _ => none
  | named word _ _ => Table.get? ctx (String.ofList word)

/-- What a segment becomes: the text of what a known name stands for, and itself otherwise. -/
inductive Becomes (ctx : Table Value) (s : Segment) : List Char → Prop
  | known {v : Value} {t : String} (entry : s.entry? ctx = some v) (text : v.toText = .ok t) :
    Becomes ctx s t.toList
  | unchanged (entry : s.entry? ctx = none) : Becomes ctx s s.chars

end Segment

def template (segments : List Segment) : String := String.ofList (segments.flatMap Segment.chars)

/-! ### Pieces -/

lemma not_isWord_closeBrace : isWord closeBrace = false := by decide

lemma placeholder?_named {word : List Char} (hne : word ≠ []) (hword : ∀ c ∈ word, isWord c)
    (rest : List Char) : placeholder? (word ++ closeBrace :: rest) = some (word, rest) := by
  have htake : (word ++ closeBrace :: rest).takeWhile isWord = word := by
    rw [List.takeWhile_append_of_pos hword,
      List.takeWhile_cons_of_neg (by simp [not_isWord_closeBrace]), List.append_nil]
  simp [placeholder?, htake, hne]

lemma piecesFrom_plain {cs : List Char} (h : ∀ c ∈ cs, c ≠ openBrace ∧ c ≠ closeBrace) (n : Nat)
    (rest : List Char) :
    piecesFrom (cs.length + n) (cs ++ rest) = cs.map .literal ++ piecesFrom n rest := by
  induction cs with
  | nil => simp
  | cons c cs ih =>
    obtain ⟨hc, hcs⟩ := List.forall_mem_cons.1 h
    rw [List.length_cons, Nat.add_right_comm, List.cons_append, piecesFrom, if_neg hc.1]
    dsimp only
    rw [ih hcs, List.map_cons, List.cons_append]

lemma piecesFrom_named {word : List Char} (hne : word ≠ []) (hword : ∀ c ∈ word, isWord c) (n : Nat)
    (rest : List Char) : piecesFrom (n + 1) (openBrace :: word ++ closeBrace :: rest) =
      .placeholder word :: piecesFrom n rest := by
  rw [List.cons_append, piecesFrom, if_pos rfl, placeholder?_named hne hword]

lemma piecesFrom_segments {segments : List Segment} {n : Nat}
    (h : (segments.flatMap Segment.chars).length ≤ n) :
    piecesFrom n (segments.flatMap Segment.chars) = segments.flatMap Segment.pieces := by
  induction segments generalizing n with
  | nil => cases n <;> rfl
  | cons s segments ih =>
    rw [List.flatMap_cons, List.length_append] at h
    rw [List.flatMap_cons, List.flatMap_cons]
    cases s with
    | plain cs hplain =>
      rw [Segment.chars] at h
      obtain ⟨n, rfl⟩ : ∃ m, n = cs.length + m := Nat.exists_eq_add_of_le (by omega)
      rw [Segment.chars, Segment.pieces, piecesFrom_plain hplain, ih (by omega)]
    | named word hne hword =>
      simp only [Segment.chars, List.length_append, List.length_cons] at h
      obtain ⟨n, rfl⟩ : ∃ m, n = m + 1 := ⟨n - 1, by omega⟩
      rw [Segment.chars, Segment.pieces, List.append_assoc, List.singleton_append,
        piecesFrom_named hne hword, ih (by omega), List.singleton_append]

lemma pieces_template (segments : List Segment) :
    pieces (template segments).toList = segments.flatMap Segment.pieces := by
  rw [template, String.toList_ofList, pieces, piecesFrom_segments (Nat.le_refl _)]

/-! ### What becomes of a template -/

/-- The text of what a segment stands for, or the segment itself. -/
def Segment.text (ctx : Table Value) (s : Segment) : Except Fault (List Char) :=
  match s.entry? ctx with
  | some v => v.toChars
  | none => .ok s.chars

lemma Segment.fails_text (ctx : Table Value) (s : Segment) :
    Fails (s.text ctx) ↔ ∃ v, s.entry? ctx = some v ∧ v.holdsLong := by
  rcases h : s.entry? ctx with _ | v <;> simp [text, h]

lemma Segment.text_eq_ok {ctx : Table Value} {s : Segment} {part : List Char} :
    s.text ctx = .ok part ↔ s.Becomes ctx part := by
  constructor
  · intro h
    rw [text] at h
    split at h
    next v hentry =>
      obtain ⟨t, ht, heq⟩ := bind_eq_ok.1 h
      cases heq
      exact .known hentry ht
    next hentry =>
      cases h
      exact .unchanged hentry
  · rintro (⟨hentry, ht⟩ | hentry)
    · rw [text, hentry]
      dsimp only
      rw [Value.toChars, ht]
      rfl
    · rw [text, hentry]

def written (ctx : Table Value) (ps : List Piece) : Except Fault (List Char) :=
  List.flatten <$> ps.mapM (pieceText ctx)

lemma written_append (ctx : Table Value) (ps qs : List Piece) :
    written ctx (ps ++ qs) = do return (← written ctx ps) ++ (← written ctx qs) := by
  rw [written, written, written, List.mapM_append]
  rcases ps.mapM (pieceText ctx) with f | xs
  · rfl
  · rcases qs.mapM (pieceText ctx) with f | ys
    · rfl
    · simp

lemma written_pieces (ctx : Table Value) (s : Segment) : written ctx s.pieces = s.text ctx := by
  cases s with
  | plain cs hplain =>
    have hchars : (cs.map Piece.literal).mapM (pieceText ctx) = .ok (cs.map ([·])) := by
      rw [List.mapM_map]
      exact mapM_eq_ok fun c _ => rfl
    have hflat : (cs.map ([·])).flatten = cs := by simp [← List.flatMap_def]
    rw [written, Segment.pieces, hchars, map_ok, hflat]
    rfl
  | named word hne hword =>
    have hpiece : pieceText ctx (.placeholder word) = (Segment.named word hne hword).text ctx := rfl
    rw [written, Segment.pieces, List.mapM_cons, hpiece]
    rcases (Segment.named word hne hword).text ctx with f | part
    · rfl
    · simp

lemma written_segments (ctx : Table Value) (segments : List Segment) :
    written ctx (segments.flatMap Segment.pieces) =
      List.flatten <$> segments.mapM (Segment.text ctx) := by
  induction segments with
  | nil => rfl
  | cons s segments ih =>
    rw [List.flatMap_cons, written_append, written_pieces, ih, List.mapM_cons]
    rcases s.text ctx with f | part
    · rfl
    · rcases segments.mapM (Segment.text ctx) with f | parts <;> rfl

lemma render_template_eq (segments : List Segment) (r : Rule) (v : Value) :
    render (template segments) r v =
      (String.ofList ∘ List.flatten) <$> segments.mapM (Segment.text (context r v)) := by
  have hrender : render (template segments) r v =
      String.ofList <$> written (context r v) (pieces (template segments).toList) := by
    rw [render, written]
    rcases (pieces (template segments).toList).mapM (pieceText (context r v)) with f | parts <;> rfl
  rw [hrender, pieces_template, written_segments]
  rcases segments.mapM (Segment.text (context r v)) with f | parts <;> rfl

/-- **A message is its template with every known name replaced.** There is one unless a name stands for
something without a text, and it is what the segments become one by one, in order. -/
theorem render_replaces (segments : List Segment) (r : Rule) (v : Value) :
    (Fails (render (template segments) r v) ↔
      ∃ s ∈ segments, ∃ w, s.entry? (context r v) = some w ∧ w.holdsLong) ∧
    ∀ message, render (template segments) r v = .ok message ↔
      ∃ parts, List.Forall₂ (Segment.Becomes (context r v)) segments parts ∧
        message = String.ofList parts.flatten := by
  rw [render_template_eq]
  refine ⟨?_, fun message => ?_⟩
  · rw [fails_map, fails_mapM]
    simp only [Segment.fails_text]
  · rw [map_eq_ok]
    simp only [mapM_eq_ok_iff, Segment.text_eq_ok, Function.comp_apply, eq_comm (a := message)]

example (r : Rule) : render "got {value}, not {pattern2}" r (.text "{field}") =
    .ok "got {field}, not {pattern2}" := rfl

end Message

/-! ### Messages of a record -/

lemma raises_finding (r : Rule) (record : Record) :
    Raises (· = .integerTooLong) (r.finding record) :=
  raises_bind (Message.raises_render _ _ _) fun _ _ => by simp

lemma raises_ofRules (rules : List Rule) (record : Record) :
    Raises (· = .integerTooLong) (Verdict.ofRules rules record) := by
  rw [Verdict.ofRules, findings_eq]
  exact raises_bind (raises_mapM fun r _ => raises_finding r record) fun _ _ => by simp

end Crosswalk.Rule
