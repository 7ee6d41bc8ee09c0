import Crosswalk.Proofs.Formula.Lexeme
import Crosswalk.Proofs.Formula.Parse

/-!
Tokens cover their text.

A text is read from left to right, and wherever there is no white space the longest lexeme is taken. The
reading ends with the text or where no lexeme begins, and in a text of permitted characters that is at a
point. The tokens of a text that is read to its end are known by their places: they are the longest
lexemes there, in order, with nothing but white space outside.
-/

namespace Crosswalk.Formula

open Fallible Text

def IsVisible (c : Char) : Prop := c.isAlphanum ∨ c ∈ ['_', '.', '+', '-', '*', '/', '(', ')']

/-- A formula may have the character. -/
def Permitted (c : Char) : Prop := IsVisible c ∨ isBlank c

/-- Reading `cs`, whose first character stands at `pos`, gives `ts` and leaves `rest`. -/
inductive Scans : Nat → List Char → List Token → List Char → Prop
  | stop (pos rest) : Scans pos rest [] rest
  | blank {pos c cs ts rest} (blank : isBlank c) (tail : Scans (pos + 1) cs ts rest) :
    Scans pos (c :: cs) ts rest
  | token {pos kind text cs ts rest} (longest : Longest kind text cs)
    (tail : Scans (pos + text.length) cs ts rest) :
    Scans pos (text ++ cs) (⟨kind, text, pos⟩ :: ts) rest

/-- A point is neither in a number nor between the two names of a field. -/
def HasStrayPoint (cs : List Char) : Prop :=
  ∃ ts rest, Scans 0 cs ts ('.' :: rest) ∧ Barren ('.' :: rest)

/-- From `pos` on, the tokens stand in the text in order, each as the longest lexeme at its place, and
there is nothing but white space outside. -/
structure Tiles (pos : Nat) (cs : List Char) (ts : List Token) : Prop where
  from_le : ∀ t ∈ ts, pos ≤ t.pos
  ordered : ts.Pairwise fun t u => t.pos < u.pos ∧ t.pos + t.text.length ≤ u.pos
  slice : ∀ t ∈ ts, (cs.drop t.pos).take t.text.length = t.text
  longest : ∀ t ∈ ts, Longest t.kind t.text (cs.drop (t.pos + t.text.length))
  blank : ∀ i c, pos ≤ i → cs[i]? = some c →
    (∀ t ∈ ts, i < t.pos ∨ t.pos + t.text.length ≤ i) → isBlank c

variable {c : Char} {cs text rest whole : List Char} {kind : TokenKind} {ts : List Token}
  {t : Token} {pos fuel : Nat}

/-! ### Characters -/

lemma bounds_of_isAlphanum (h : c.isAlphanum) : 48 ≤ c.toNat ∧ c.toNat ≤ 122 := by
  rcases Bool.or_eq_true _ _ ▸ h with h | h
  · have bounds := isAlpha_iff.1 h
    omega
  · simp [Char.isDigit, UInt32.le_iff_toNat_le] at h
    omega

lemma IsVisible.not_isBlank (h : IsVisible c) : isBlank c = false := by
  rcases h with h | h
  · obtain ⟨hlow, hhigh⟩ := bounds_of_isAlphanum h
    simp [isBlank, isSpace]
    omega
  · simp only [List.mem_cons, List.not_mem_nil, or_false] at h
    obtain rfl | rfl | rfl | rfl | rfl | rfl | rfl | rfl := h <;> rfl

lemma isVisible_of_isNameChar (h : isNameChar c) : IsVisible c := by
  rw [isNameChar, Bool.or_eq_true, decide_eq_true_eq] at h
  exact h.imp id fun h => by simp [h]

lemma isVisible_of_isOperator (h : isOperator c) : IsVisible c := by
  simp only [isOperator, Bool.or_eq_true, decide_eq_true_eq] at h
  obtain ((rfl | rfl) | rfl) | rfl := h <;> exact .inr (by decide)

lemma isFormulaChar_iff : isFormulaChar c ↔ Permitted c := by
  simp [isFormulaChar, Permitted, IsVisible, isNameChar, isOperator, or_assoc, or_comm,
    or_left_comm]

lemma exists_lexeme (h : IsVisible c) (hpoint : c ≠ '.') : ∃ kind, Lexeme kind [c] := by
  have digit : c.isDigit → Lexeme .number [c] := fun hc => .whole ⟨by simp, by simpa using hc⟩
  have name : isNameStart c → Lexeme .field [c] := fun hc =>
    .name ⟨⟨c, rfl, hc⟩, by simpa using isNameChar_of_isNameStart hc⟩
  rcases h with h | h
  · rcases Bool.or_eq_true _ _ ▸ h with h | h
    · exact ⟨_, name (by simp [isNameStart, h])⟩
    · exact ⟨_, digit h⟩
  · simp only [List.mem_cons, List.not_mem_nil, or_false] at h
    -- of the marks, only the point is no token by itself
    obtain rfl | rfl | rfl | rfl | rfl | rfl | rfl | rfl := h
    · exact ⟨_, name rfl⟩
    · exact absurd rfl hpoint
    · exact ⟨_, .operator rfl⟩
    · exact ⟨_, .operator rfl⟩
    · exact ⟨_, .operator rfl⟩
    · exact ⟨_, .operator rfl⟩
    · exact ⟨_, .opening⟩
    · exact ⟨_, .closing⟩

lemma IsDigits.isVisible (h : IsDigits cs) : ∀ c ∈ cs, IsVisible c :=
  fun c hc => .inl (by simp [Char.isAlphanum, h.2 c hc])

lemma IsName.isVisible (h : IsName cs) : ∀ c ∈ cs, IsVisible c :=
  fun c hc => isVisible_of_isNameChar (h.2 c hc)

lemma isVisible_point : IsVisible '.' := .inr (by decide)

lemma Lexeme.isVisible (h : Lexeme kind text) : ∀ c ∈ text, IsVisible c := by
  cases h with
  | whole digits => exact digits.isVisible
  | fraction digits => exact List.forall_mem_cons.2 ⟨isVisible_point, digits.isVisible⟩
  | mixed digits behind =>
    exact List.forall_mem_append.2
      ⟨digits.isVisible, List.forall_mem_cons.2 ⟨isVisible_point, behind.isVisible⟩⟩
  | name name => exact name.isVisible
  | qualified first name =>
    exact List.forall_mem_append.2
      ⟨first.isVisible, List.forall_mem_cons.2 ⟨isVisible_point, name.isVisible⟩⟩
  | operator operator => simpa using isVisible_of_isOperator operator
  | opening => exact List.forall_mem_singleton.2 (.inr (by decide))
  | closing => exact List.forall_mem_singleton.2 (.inr (by decide))

/-! ### Reading -/

lemma Scans.suffix (h : Scans pos cs ts rest) : rest <:+ cs := by
  induction h with
  | stop pos rest => exact List.suffix_refl _
  | blank _ _ ih => exact ih.trans (List.suffix_cons _ _)
  | token _ _ ih => exact ih.trans (List.suffix_append _ _)

lemma Scans.permitted (h : Scans pos cs ts rest) (hrest : ∀ c ∈ rest, Permitted c) :
    ∀ c ∈ cs, Permitted c := by
  induction h with
  | stop pos rest => exact hrest
  | blank hblank _ ih => exact List.forall_mem_cons.2 ⟨.inr hblank, ih hrest⟩
  | token longest _ ih =>
    exact List.forall_mem_append.2 ⟨fun c hc => .inl (longest.lexeme.isVisible c hc), ih hrest⟩

lemma exists_scans (pos : Nat) (cs : List Char) : ∃ ts rest, Scans pos cs ts rest ∧
    (rest = [] ∨ ∃ c rest', rest = c :: rest' ∧ isBlank c = false ∧ Barren rest) := by
  -- on the characters left, of which a token takes at least one
  induction hn : cs.length using Nat.strong_induction_on generalizing pos cs with
  | _ n ih =>
  subst hn
  cases cs with
  | nil => exact ⟨[], [], .stop pos [], .inl rfl⟩
  | cons c cs =>
    cases hblank : isBlank c with
    | true =>
      obtain ⟨ts, rest, hscans, hend⟩ := ih cs.length (by simp) (pos + 1) cs rfl
      exact ⟨ts, rest, .blank hblank hscans, hend⟩
    | false =>
      rcases hread : nextToken? (c :: cs) with _ | ⟨kind, text, rest⟩
      · exact ⟨[], _, .stop pos _, .inr ⟨c, cs, rfl, hblank, nextToken?_eq_none.1 hread⟩⟩
      · obtain ⟨heq, hlongest⟩ := nextToken?_eq_some.1 hread
        have hpos := List.length_pos_of_ne_nil hlongest.lexeme.ne_nil
        obtain ⟨ts, rest', hscans, hend⟩ :=
          ih rest.length (by rw [heq, List.length_append]; omega) (pos + text.length) rest rfl
        rw [heq]
        exact ⟨_, rest', .token hlongest hscans, hend⟩

lemma tokensFrom_token (h : Longest kind text rest) (fuel pos : Nat) :
    tokensFrom (fuel + 1) pos (text ++ rest) =
      (⟨kind, text, pos⟩ :: ·) <$> tokensFrom fuel (pos + text.length) rest := by
  have hread : nextToken? (text ++ rest) = some (kind, text, rest) := nextToken?_eq_some.2 ⟨rfl, h⟩
  obtain ⟨c, text', rfl⟩ := List.exists_cons_of_ne_nil h.lexeme.ne_nil
  have hblank : isBlank c = false := (h.lexeme.isVisible c (by simp)).not_isBlank
  rw [List.cons_append] at hread ⊢
  rw [tokensFrom, if_neg (by simp [hblank]), hread]
  dsimp only
  rcases tokensFrom fuel (pos + (c :: text').length) rest with f | us <;> rfl

lemma tokensFrom_barren (h : isBlank c = false) (hbarren : Barren (c :: rest)) (fuel pos : Nat) :
    Fails (tokensFrom (fuel + 1) pos (c :: rest)) := by
  rw [tokensFrom, if_neg (by simp [h]), nextToken?_eq_none.2 hbarren]
  simp [refuse]

lemma tokensFrom_of_scans (h : Scans pos cs ts rest) (hfuel : cs.length ≤ fuel) :
    ∃ fuel' pos', rest.length ≤ fuel' ∧
      tokensFrom fuel pos cs = (ts ++ ·) <$> tokensFrom fuel' pos' rest := by
  -- on the reading: each of its steps uses one unit of fuel and takes a character
  induction h generalizing fuel with
  | stop pos rest =>
    refine ⟨fuel, pos, hfuel, ?_⟩
    rcases tokensFrom fuel pos rest with f | us <;> rfl
  | blank hblank _ ih =>
    rw [List.length_cons] at hfuel
    obtain ⟨fuel, rfl⟩ : ∃ n, fuel = n + 1 := ⟨fuel - 1, by omega⟩
    rw [tokensFrom, if_pos hblank]
    exact ih (by omega)
  | token longest _ ih =>
    have hpos := List.length_pos_of_ne_nil longest.lexeme.ne_nil
    rw [List.length_append] at hfuel
    obtain ⟨fuel, rfl⟩ : ∃ n, fuel = n + 1 := ⟨fuel - 1, by omega⟩
    obtain ⟨fuel', pos', hrest, htail⟩ := @ih fuel (by omega)
    refine ⟨fuel', pos', hrest, ?_⟩
    rw [tokensFrom_token longest, htail]
    rcases tokensFrom fuel' pos' _ with f | us <;> rfl

lemma tokensFrom_of_scans_nil (h : Scans pos cs ts []) (hfuel : cs.length ≤ fuel) :
    tokensFrom fuel pos cs = .ok ts := by
  obtain ⟨fuel', pos', -, heq⟩ := tokensFrom_of_scans h hfuel
  have hnil : tokensFrom fuel' pos' [] = .ok [] := by cases fuel' <;> rfl
  rw [heq, hnil, map_ok, List.append_nil]

lemma fails_of_scans (h : Scans pos cs ts (c :: rest)) (hblank : isBlank c = false)
    (hbarren : Barren (c :: rest)) (hfuel : cs.length ≤ fuel) : Fails (tokensFrom fuel pos cs) := by
  obtain ⟨fuel', pos', hrest, heq⟩ := tokensFrom_of_scans h hfuel
  obtain ⟨fuel', rfl⟩ : ∃ n, fuel' = n + 1 := ⟨fuel' - 1, by rw [List.length_cons] at hrest; omega⟩
  rw [heq, fails_map]
  exact tokensFrom_barren hblank hbarren fuel' pos'

/-! ### Texts -/

lemma tokens_of_permitted (h : ∀ c ∈ cs, Permitted c) : tokens cs = tokensFrom cs.length 0 cs := by
  have hfind : cs.find? (fun c => !isFormulaChar c) = none :=
    List.find?_eq_none.2 fun c hc => by simpa using isFormulaChar_iff.2 (h c hc)
  rw [tokens, hfind]

lemma fails_of_not_permitted (h : ¬ ∀ c ∈ cs, Permitted c) : Fails (tokens cs) := by
  cases hfind : cs.find? fun c => !isFormulaChar c with
  | none =>
    refine absurd (fun c hc => isFormulaChar_iff.1 ?_) h
    simpa using List.find?_eq_none.1 hfind c hc
  | some c => simp [tokens, hfind, refuse]

lemma tokens_of_not_permitted {front back : List Char} (hfront : ∀ c ∈ front, Permitted c)
    (hc : ¬ Permitted c) : tokens (front ++ c :: back) = .error
      ⟨.expression, "Formula contains disallowed character " ++ quoted (String.singleton c)⟩ := by
  have hnone : front.find? (fun c => !isFormulaChar c) = none :=
    List.find?_eq_none.2 fun d hd => by simpa using isFormulaChar_iff.2 (hfront d hd)
  have hfind : (front ++ c :: back).find? (fun c => !isFormulaChar c) = some c := by
    rw [List.find?_append, hnone, Option.none_or,
      List.find?_cons_of_pos (by simpa using fun h => hc (isFormulaChar_iff.1 h))]
  rw [tokens, hfind]
  rfl

lemma scans_or_stray (h : ∀ c ∈ cs, Permitted c) : (∃ ts, Scans 0 cs ts []) ∨ HasStrayPoint cs := by
  obtain ⟨ts, rest, hscans, rfl | ⟨c, rest', rfl, hblank, hbarren⟩⟩ := exists_scans 0 cs
  · exact .inl ⟨ts, hscans⟩
  · have hvisible : IsVisible c :=
      (h c (hscans.suffix.mem (by simp))).resolve_right (by simp [hblank])
    by_cases hpoint : c = '.'
    · subst hpoint
      exact .inr ⟨ts, rest', hscans, hbarren⟩
    · obtain ⟨kind, hlexeme⟩ := exists_lexeme hvisible hpoint
      exact absurd ⟨rest', rfl⟩ (hbarren kind [c] hlexeme)

lemma tokens_of_scans (h : Scans 0 cs ts []) : tokens cs = .ok ts := by
  rw [tokens_of_permitted (h.permitted (by simp)), tokensFrom_of_scans_nil h (Nat.le_refl _)]

lemma fails_of_stray (h : HasStrayPoint cs) : Fails (tokens cs) := by
  by_cases hall : ∀ c ∈ cs, Permitted c
  · obtain ⟨ts, rest, hscans, hbarren⟩ := h
    rw [tokens_of_permitted hall]
    exact fails_of_scans hscans (by decide) hbarren (Nat.le_refl _)
  · exact fails_of_not_permitted hall

lemma fails_tokens : Fails (tokens cs) ↔ (∃ c ∈ cs, ¬ Permitted c) ∨ HasStrayPoint cs := by
  constructor
  · intro hfails
    by_cases hall : ∀ c ∈ cs, Permitted c
    · refine .inr ((scans_or_stray hall).resolve_left ?_)
      rintro ⟨ts, hscans⟩
      simp [tokens_of_scans hscans] at hfails
    · exact .inl (by simpa using hall)
  · rintro (⟨c, hc, hnot⟩ | hstray)
    · exact fails_of_not_permitted fun hall => hnot (hall c hc)
    · exact fails_of_stray hstray

lemma tokens_eq_ok : tokens cs = .ok ts ↔ Scans 0 cs ts [] := by
  refine ⟨fun h => ?_, tokens_of_scans⟩
  have hfails : ¬ Fails (tokens cs) := by simp [h]
  rw [fails_tokens, not_or] at hfails
  obtain ⟨hall, hstray⟩ := hfails
  obtain ⟨us, hscans⟩ := (scans_or_stray (by simpa using hall)).resolve_right hstray
  rw [tokens_of_scans hscans] at h
  cases h
  exact hscans

/-! ### Places -/

lemma getElem?_of_drop (h : whole.drop pos = c :: cs) : whole[pos]? = some c := by
  have h0 : (whole.drop pos)[0]? = some c := by rw [h]; rfl
  rwa [List.getElem?_drop] at h0

lemma drop_of_drop (h : whole.drop pos = text ++ rest) : whole.drop (pos + text.length) = rest := by
  rw [← List.drop_drop, h, List.drop_left]

lemma drop_succ_of_drop (h : whole.drop pos = c :: cs) : whole.drop (pos + 1) = cs :=
  drop_of_drop (show whole.drop pos = [c] ++ cs from h)

namespace Tiles

lemma nil (h : whole.drop pos = []) : Tiles pos whole [] where
  from_le := by simp
  ordered := .nil
  slice := by simp
  longest := by simp
  blank i c hi hc _ := by
    obtain ⟨hlt, -⟩ := List.getElem?_eq_some_iff.1 hc
    have hle := List.drop_eq_nil_iff.1 h
    omega

lemma cons_blank (h : whole.drop pos = c :: cs) (hblank : isBlank c)
    (ht : Tiles (pos + 1) whole ts) : Tiles pos whole ts where
  from_le t hmem := Nat.le_of_succ_le (ht.from_le t hmem)
  ordered := ht.ordered
  slice := ht.slice
  longest := ht.longest
  blank i d hi hd hout := by
    obtain rfl | hlt := Nat.eq_or_lt_of_le hi
    · rw [getElem?_of_drop h] at hd
      cases hd
      exact hblank
    · exact ht.blank i d hlt hd hout

lemma cons_token (h : whole.drop pos = text ++ rest) (hlongest : Longest kind text rest)
    (ht : Tiles (pos + text.length) whole ts) : Tiles pos whole (⟨kind, text, pos⟩ :: ts) where
  from_le := List.forall_mem_cons.2
    ⟨Nat.le_refl _, fun t hmem => Nat.le_trans (Nat.le_add_right _ _) (ht.from_le t hmem)⟩
  ordered := List.pairwise_cons.2 ⟨fun u hu => by
    have hpos := List.length_pos_of_ne_nil hlongest.lexeme.ne_nil
    have hle := ht.from_le u hu
    exact ⟨Nat.lt_of_lt_of_le (Nat.lt_add_of_pos_right hpos) hle, hle⟩, ht.ordered⟩
  slice := List.forall_mem_cons.2 ⟨by rw [h, List.take_left], ht.slice⟩
  longest := List.forall_mem_cons.2 ⟨by rwa [drop_of_drop h], ht.longest⟩
  blank i d hi hd hout := by
    obtain ⟨hhead, htail⟩ := List.forall_mem_cons.1 hout
    exact ht.blank i d (hhead.resolve_left (Nat.not_lt.2 hi)) hd htail

lemma eq_nil (h : Tiles pos whole ts) (hend : whole.drop pos = []) : ts = [] := by
  refine List.eq_nil_iff_forall_not_mem.2 fun t ht => (h.longest t ht).lexeme.ne_nil ?_
  have hle := List.drop_eq_nil_iff.1 hend
  have hdrop : whole.drop t.pos = [] :=
    List.drop_eq_nil_iff.2 (Nat.le_trans hle (h.from_le t ht))
  rw [← h.slice t ht, hdrop, List.take_nil]

lemma tail (h : Tiles t.pos whole (t :: ts)) :
    whole.drop t.pos = t.text ++ whole.drop (t.pos + t.text.length) ∧
      Tiles (t.pos + t.text.length) whole ts where
  left := by
    have hslice := h.slice t (by simp)
    have hsplit := List.take_append_drop t.text.length (whole.drop t.pos)
    rw [hslice, List.drop_drop] at hsplit
    exact hsplit.symm
  right :=
    { from_le := fun u hu => ((List.pairwise_cons.1 h.ordered).1 u hu).2
      ordered := (List.pairwise_cons.1 h.ordered).2
      slice := (List.forall_mem_cons.1 h.slice).2
      longest := (List.forall_mem_cons.1 h.longest).2
      blank := fun i d hi hd hout =>
        h.blank i d (Nat.le_trans (Nat.le_add_right _ _) hi) hd
          (List.forall_mem_cons.2 ⟨.inr hi, hout⟩) }

lemma pos_lt (h : Tiles pos whole ts) (hfirst : ¬ ∃ t us, ts = t :: us ∧ t.pos = pos) :
    ∀ t ∈ ts, pos < t.pos := by
  cases ts with
  | nil => simp
  | cons t us =>
    have hne : t.pos ≠ pos := fun heq => hfirst ⟨t, us, rfl, heq⟩
    have hlt : pos < t.pos := Nat.lt_of_le_of_ne (h.from_le t (by simp)) hne.symm
    exact List.forall_mem_cons.2
      ⟨hlt, fun u hu => Nat.lt_trans hlt ((List.pairwise_cons.1 h.ordered).1 u hu).1⟩

lemma succ (h : Tiles pos whole ts) (hcs : whole.drop pos = c :: cs)
    (hlt : ∀ t ∈ ts, pos < t.pos) : isBlank c ∧ Tiles (pos + 1) whole ts where
  left := h.blank pos c (Nat.le_refl _) (getElem?_of_drop hcs) fun t ht => .inl (hlt t ht)
  right :=
    { h with
      from_le := hlt
      blank := fun i d hi => h.blank i d (Nat.le_of_succ_le hi) }

end Tiles

lemma tiles_of_scans (h : Scans pos cs ts rest) (hrest : rest = []) (hcs : whole.drop pos = cs) :
    Tiles pos whole ts := by
  induction h with
  | stop pos rest => exact .nil (hcs.trans hrest)
  | blank hblank _ ih => exact .cons_blank hcs hblank (ih hrest (drop_succ_of_drop hcs))
  | token longest _ ih => exact .cons_token hcs longest (ih hrest (drop_of_drop hcs))

lemma tiles_of_tokens (h : tokens cs = .ok ts) : Tiles 0 cs ts :=
  tiles_of_scans (tokens_eq_ok.1 h) rfl rfl

lemma scans_of_tiles (h : Tiles pos whole ts) : Scans pos (whole.drop pos) ts [] := by
  -- on the text that is left to be covered
  induction hn : (whole.drop pos).length using Nat.strong_induction_on generalizing pos ts with
  | _ n ih =>
  subst hn
  cases hcs : whole.drop pos with
  | nil =>
    rw [h.eq_nil hcs]
    exact .stop pos []
  | cons c cs =>
    -- the first token begins here, or nothing does
    by_cases hfirst : ∃ t us, ts = t :: us ∧ t.pos = pos
    · obtain ⟨t, us, rfl, rfl⟩ := hfirst
      obtain ⟨hsplit, htail⟩ := h.tail
      have hlongest := h.longest t (by simp)
      have hpos := List.length_pos_of_ne_nil hlongest.lexeme.ne_nil
      rw [← hcs, hsplit]
      exact .token hlongest (ih _ (by rw [hsplit, List.length_append]; omega) htail rfl)
    · obtain ⟨hblank, htail⟩ := h.succ hcs (h.pos_lt hfirst)
      have hdrop : whole.drop (pos + 1) = cs := drop_succ_of_drop hcs
      have hscans := ih cs.length (by rw [hcs, List.length_cons]; omega) htail (by rw [hdrop])
      rw [hdrop] at hscans
      exact .blank hblank hscans

/-- **Tokens cover their text.** A text is refused if and only if it has a character that no formula
has, of which the first one is named, or a point that is neither in a number nor between the names of a
field. The tokens of any other text are the only ones that cover it: in order, each the longest lexeme
at its place, with white space in between. -/
theorem tokens_tile (cs : List Char) :
    (Fails (tokens cs) ↔ (∃ c ∈ cs, ¬ Permitted c) ∨ HasStrayPoint cs) ∧
    (∀ front c back, cs = front ++ c :: back → (∀ d ∈ front, Permitted d) → ¬ Permitted c →
      tokens cs = .error
        ⟨.expression, "Formula contains disallowed character " ++ quoted (String.singleton c)⟩) ∧
    ∀ ts, tokens cs = .ok ts ↔ Tiles 0 cs ts := by
  refine ⟨fails_tokens, ?_, fun ts => ?_⟩
  · rintro front c back rfl hfront hc
    exact tokens_of_not_permitted hfront hc
  · exact ⟨tiles_of_tokens, fun h => tokens_of_scans (scans_of_tiles h)⟩

/-- Of two characters that no formula has, the first one is named. -/
theorem percent_named :
    (∀ d ∈ ['a', ' '], Permitted d) ∧ ¬ Permitted '%' ∧
      tokens "a % 2 ; b".toList =
        .error ⟨.expression, "Formula contains disallowed character '%'"⟩ := by
  have hall : ['a', ' '].all isFormulaChar := by decide
  have hfront : ∀ d ∈ ['a', ' '], Permitted d :=
    fun d hd => isFormulaChar_iff.1 (List.all_eq_true.1 hall d hd)
  have hpercent : ¬ Permitted '%' := by
    rw [← isFormulaChar_iff]
    decide
  exact ⟨hfront, hpercent, (tokens_tile _).2.1 _ '%' " 2 ; b".toList rfl hfront hpercent⟩

/-- A point belongs to the lexeme that reaches it first. -/
example : (tokens "a.b .5 1.2.3".toList).map (·.map fun t => (String.ofList t.text, t.pos)) =
    .ok [("a.b", 0), (".5", 4), ("1.2", 7), (".3", 10)] := rfl

end Crosswalk.Formula
