import Mathlib.Data.List.TakeWhile
import Crosswalk.Proofs.Formula.Grammar
import Crosswalk.Proofs.Fallible
import Crosswalk.Proofs.Number.Numeral

/-!
The tokens of a formula are what they are written like.

A token's first character is the text's, so only an operator is written like one. The parser looks at
what a token is written like where the grammar looks at its kind.
-/

namespace Crosswalk.Formula

open Fallible

def IsName (cs : List Char) : Prop := (∃ c ∈ cs.head?, isNameStart c) ∧ ∀ c ∈ cs, isNameChar c

def Token.NamesSource (t : Token) : Prop :=
  t.kind = .field → '.' ∈ t.text → t.text.takeWhile (· != '.') = sourceName

def Token.IsGenuine (t : Token) : Prop :=
  t.kind ≠ .operator → sumOperator? t = none ∧ termOperator? t = none

lemma run_append {p : Char → Bool} {cs rest : List Char} (hcs : ∀ c ∈ cs, p c)
    (hrest : ∀ c ∈ rest.head?, ¬ p c) : run p (cs ++ rest) = (cs, rest) :=
  Prod.ext (Numeral.span_append hcs hrest).1 (Numeral.span_append hcs hrest).2

lemma nextToken?_of_isOperator {c : Char} (h : isOperator c) (rest : List Char) :
    nextToken? (c :: rest) = some (.operator, [c], rest) := by
  simp only [isOperator, Bool.or_eq_true, decide_eq_true_eq] at h
  obtain ((rfl | rfl) | rfl) | rfl := h <;> rfl

lemma fraction?_head {cs text rest : List Char} (h : fraction? cs = some (text, rest)) :
    text.head? = some '.' := by
  unfold fraction? at h
  split at h
  · split at h
    · cases h
    · cases h
      rfl
  · cases h

lemma isNameChar_of_isNameStart {c : Char} (h : isNameStart c) : isNameChar c := by
  simp only [isNameStart, isNameChar, Char.isAlphanum, Bool.or_eq_true] at h ⊢
  tauto

/-- A token begins as the text does. -/
lemma nextToken?_head {c : Char} {rest text rest' : List Char} {kind : TokenKind}
    (h : nextToken? (c :: rest) = some (kind, text, rest')) : text.head? = some c := by
  rw [nextToken?] at h
  dsimp only [run] at h
  -- a run of digits or of a name has the character that it starts with
  split at h
  next hdigit =>
    have hhead : (List.takeWhile Char.isDigit (c :: rest)).head? = some c := by simp [hdigit]
    split at h <;> cases h
    · simp [hhead]
    · exact hhead
  next =>
  split at h
  next hpoint =>
    obtain ⟨⟨frac, more⟩, hfrac, heq⟩ := Option.map_eq_some_iff.1 h
    cases heq
    rw [fraction?_head hfrac, hpoint]
  next =>
  split at h
  next hstart =>
    have hname : isNameChar c := isNameChar_of_isNameStart hstart
    have hhead : (List.takeWhile isNameChar (c :: rest)).head? = some c := by simp [hname]
    split at h <;> cases h
    · simp [hhead]
    · exact hhead
  next =>
  repeat' split at h
  all_goals cases h
  all_goals rfl

lemma isOperator_of_sumOperator? {t : Token} {o : Operator} (h : sumOperator? t = some o) :
    ∃ c, isOperator c ∧ t.text = [c] := by
  unfold sumOperator? at h
  split at h
  · exact ⟨'+', rfl, ‹_›⟩
  · split at h
    · exact ⟨'-', rfl, ‹_›⟩
    · cases h

lemma isOperator_of_termOperator? {t : Token} {o : Operator} (h : termOperator? t = some o) :
    ∃ c, isOperator c ∧ t.text = [c] := by
  unfold termOperator? at h
  split at h
  · exact ⟨'*', rfl, ‹_›⟩
  · split at h
    · exact ⟨'/', rfl, ‹_›⟩
    · cases h

lemma isGenuine_of_nextToken? {cs text rest : List Char} {kind : TokenKind}
    (h : nextToken? cs = some (kind, text, rest)) (pos : Nat) :
    (⟨kind, text, pos⟩ : Token).IsGenuine := by
  -- the reader takes the character of an operator for that before anything else
  have operator : (∃ c, isOperator c ∧ text = [c]) → kind = .operator := by
    rintro ⟨c, hc, rfl⟩
    cases cs with
    | nil => cases h
    | cons d cs =>
      obtain rfl : c = d := by simpa using nextToken?_head h
      rw [nextToken?_of_isOperator hc] at h
      cases h
      rfl
  intro hkind
  constructor
  · exact Option.eq_none_iff_forall_ne_some.2 fun o ho =>
      hkind (operator (isOperator_of_sumOperator? ho))
  · exact Option.eq_none_iff_forall_ne_some.2 fun o ho =>
      hkind (operator (isOperator_of_termOperator? ho))

lemma isGenuine_of_tokensFrom {fuel pos : Nat} {cs : List Char} {ts : List Token}
    (h : tokensFrom fuel pos cs = .ok ts) : ∀ t ∈ ts, t.IsGenuine := by
  -- on the fuel: every token of the list has been read at some point
  induction fuel generalizing pos cs ts with
  | zero =>
    obtain rfl : [] = ts := by cases cs <;> simpa [tokensFrom] using h
    simp
  | succ fuel ih =>
    cases cs with
    | nil =>
      obtain rfl : [] = ts := by simpa [tokensFrom] using h
      simp
    | cons c rest =>
      rw [tokensFrom] at h
      split at h
      · exact ih h
      · split at h
        · cases h
        next kind text rest' htoken =>
          obtain ⟨us, hus, hts⟩ := bind_eq_ok.1 h
          cases hts
          intro t ht
          obtain rfl | ht := List.mem_cons.1 ht
          · exact isGenuine_of_nextToken? htoken pos
          · exact ih hus t ht

lemma isGenuine_of_tokens {cs : List Char} {ts : List Token} (h : tokens cs = .ok ts) :
    ∀ t ∈ ts, t.IsGenuine := by
  unfold tokens at h
  split at h
  · cases h
  · exact isGenuine_of_tokensFrom h

lemma drop_takeWhile_length (p : Char → Bool) (cs : List Char) :
    cs.drop (cs.takeWhile p).length = cs.dropWhile p := by
  have h : (cs.takeWhile p ++ cs.dropWhile p).drop (cs.takeWhile p).length = cs.dropWhile p :=
    List.drop_left
  rwa [List.takeWhile_append_dropWhile] at h

lemma fieldRef_eq_ok {t : Token} {r : FieldRef} (hk : t.kind = .field) :
    fieldRef t = .ok r ↔ t.NamesSource ∧ reference t = r := by
  have hnames : t.NamesSource ↔ ('.' ∈ t.text → t.text.takeWhile (· != '.') = sourceName) :=
    ⟨fun h => h hk, fun h _ => h⟩
  rw [hnames, fieldRef, reference, drop_takeWhile_length]
  by_cases hpoint : '.' ∈ t.text
  · cases hdrop : t.text.dropWhile (· != '.') with
    | nil =>
      have := List.dropWhile_eq_nil_iff.1 hdrop '.' hpoint
      simp at this
    | cons c name =>
      by_cases hsource : t.text.takeWhile (· != '.') = sourceName
      · simp [hpoint, hsource]
      · simp [hpoint, hsource, refuse]
  · have hall : ∀ c ∈ t.text, (c != '.') = true := fun c hc => by
      simpa using fun h : c = '.' => hpoint (h ▸ hc)
    have hdrop : t.text.dropWhile (· != '.') = [] := List.dropWhile_eq_nil_iff.2 hall
    have htake : t.text.takeWhile (· != '.') = t.text := List.takeWhile_eq_self_iff.2 hall
    simp [hpoint, hdrop, htake]

lemma Token.namesSource_of_ne {t : Token} (h : t.kind ≠ .field) : t.NamesSource :=
  fun hk => absurd hk h

end Crosswalk.Formula
