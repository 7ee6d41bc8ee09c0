import Crosswalk.Proofs.Formula.Token

/-!
The lexemes of formulas.

What a token may be written like is a language for every kind of token, and what is read at the start
of a text is the longest lexeme there. A point begins a number or stands within a number or a field,
so a text without white space at its start has no lexeme there only if it begins with a point that has
no digit behind it, or with a character that no lexeme has.
-/

namespace Crosswalk.Formula

def IsDigits (cs : List Char) : Prop := cs ≠ [] ∧ ∀ c ∈ cs, c.isDigit

/-- What a token of a kind is written like. -/
inductive Lexeme : TokenKind → List Char → Prop
  | whole {ds} (digits : IsDigits ds) : Lexeme .number ds
  | fraction {es} (digits : IsDigits es) : Lexeme .number ('.' :: es)
  | mixed {ds es} (digits : IsDigits ds) (behind : IsDigits es) : Lexeme .number (ds ++ '.' :: es)
  | name {n} (name : IsName n) : Lexeme .field n
  | qualified {m n} (first : IsName m) (name : IsName n) : Lexeme .field (m ++ '.' :: n)
  | operator {c} (operator : isOperator c) : Lexeme .operator [c]
  | opening : Lexeme .opening ['(']
  | closing : Lexeme .closing [')']

/-- A lexeme in front of `rest`, where no longer one begins. -/
structure Longest (kind : TokenKind) (text rest : List Char) : Prop where
  lexeme : Lexeme kind text
  longest : ∀ k more, Lexeme k more → more <+: text ++ rest → more.length ≤ text.length

/-- No lexeme begins here. -/
def Barren (cs : List Char) : Prop := ∀ kind text, Lexeme kind text → ¬ text <+: cs

variable {c : Char} {cs text rest : List Char} {kind : TokenKind}

/-! ### Runs of characters -/

lemma isDigits_takeWhile (hc : c.isDigit) (cs : List Char) :
    IsDigits ((c :: cs).takeWhile Char.isDigit) :=
  ⟨by simp [hc], List.all_eq_true.1 List.all_takeWhile⟩

lemma isName_takeWhile (hc : isNameStart c) (cs : List Char) :
    IsName ((c :: cs).takeWhile isNameChar) :=
  ⟨⟨c, by simp [isNameChar_of_isNameStart hc], hc⟩, List.all_eq_true.1 List.all_takeWhile⟩

lemma exists_run (p : Char → Bool) (rest : List Char) : ∃ more rest', rest = more ++ rest' ∧
    (∀ c ∈ more, p c) ∧ ∀ c ∈ rest'.head?, ¬ p c := by
  refine ⟨rest.takeWhile p, rest.dropWhile p, List.takeWhile_append_dropWhile.symm,
    List.all_eq_true.1 List.all_takeWhile, fun c hc => ?_⟩
  have h := List.head?_dropWhile_not p rest
  rw [Option.mem_def.1 hc] at h
  simpa using h

lemma IsDigits.append {ds more : List Char} (h : IsDigits ds) (hmore : ∀ c ∈ more, c.isDigit) :
    IsDigits (ds ++ more) :=
  ⟨by simp [h.1], fun c hc => (List.mem_append.1 hc).elim (h.2 c) (hmore c)⟩

lemma IsName.append {n more : List Char} (h : IsName n) (hmore : ∀ c ∈ more, isNameChar c) :
    IsName (n ++ more) := by
  obtain ⟨⟨c, hc, hstart⟩, hall⟩ := h
  exact ⟨⟨c, by simp [List.head?_append, Option.mem_def.1 hc], hstart⟩,
    fun d hd => (List.mem_append.1 hd).elim (hall d) (hmore d)⟩

lemma IsName.ne_nil (h : IsName cs) : cs ≠ [] := by
  rintro rfl
  simp [IsName] at h

lemma Lexeme.ne_nil (h : Lexeme kind text) : text ≠ [] := by
  cases h with
  | whole digits => exact digits.1
  | name name => exact name.ne_nil
  | _ => simp

/-! ### What is read -/

lemma fraction?_digits {es : List Char} (h : IsDigits es) (hrest : ∀ c ∈ rest.head?, ¬ c.isDigit) :
    fraction? ('.' :: (es ++ rest)) = some ('.' :: es, rest) := by
  obtain ⟨c, es', rfl⟩ := List.exists_cons_of_ne_nil h.1
  rw [fraction?, run_append h.2 hrest]

lemma qualified?_name {n : List Char} (h : IsName n) (hrest : ∀ c ∈ rest.head?, ¬ isNameChar c) :
    qualified? ('.' :: (n ++ rest)) = some ('.' :: n, rest) := by
  obtain ⟨⟨c, hc, hstart⟩, hall⟩ := h
  obtain ⟨n, rfl⟩ := List.head?_eq_some_iff.1 hc
  rw [List.cons_append, qualified?, if_pos hstart,
    run_append (fun d hd => hall d (List.mem_cons_of_mem _ hd)) hrest]

lemma nextToken?_digits {ds : List Char} (h : IsDigits ds) (hrest : ∀ c ∈ rest.head?, ¬ c.isDigit) :
    nextToken? (ds ++ rest) =
      match fraction? rest with
      | some (frac, rest) => some (.number, ds ++ frac, rest)
      | none => some (.number, ds, rest) := by
  obtain ⟨c, ds', hds⟩ := List.exists_cons_of_ne_nil h.1
  have hc : c.isDigit := h.2 c (by simp [hds])
  have hrun := run_append h.2 hrest
  rw [hds, List.cons_append] at hrun ⊢
  cases hfrac : fraction? rest <;> simp [nextToken?, hc, hrun, hfrac]

lemma nextToken?_point (cs : List Char) :
    nextToken? ('.' :: cs) =
      (fraction? ('.' :: cs)).map fun (frac, rest) => (.number, frac, rest) := rfl

lemma isAlpha_iff :
    c.isAlpha ↔ (65 ≤ c.toNat ∧ c.toNat ≤ 90) ∨ (97 ≤ c.toNat ∧ c.toNat ≤ 122) := by
  have upper : c.isUpper ↔ 65 ≤ c.toNat ∧ c.toNat ≤ 90 := decide_eq_true_iff
  have lower : c.isLower ↔ 97 ≤ c.toNat ∧ c.toNat ≤ 122 :=
    (Bool.and_eq_true _ _).to_iff.trans (and_congr decide_eq_true_iff decide_eq_true_iff)
  exact (Bool.or_eq_true _ _).to_iff.trans (or_congr upper lower)

lemma not_isDigit_of_isNameStart (h : isNameStart c) : c.isDigit = false := by
  rw [isNameStart, Bool.or_eq_true, decide_eq_true_eq] at h
  rcases h with h | rfl
  · have bounds := isAlpha_iff.1 h
    simp [Char.isDigit, UInt32.le_iff_toNat_le]
    omega
  · rfl

lemma nextToken?_name {n : List Char} (h : IsName n) (hrest : ∀ c ∈ rest.head?, ¬ isNameChar c) :
    nextToken? (n ++ rest) =
      match qualified? rest with
      | some (more, rest) => some (.field, n ++ more, rest)
      | none => some (.field, n, rest) := by
  obtain ⟨⟨c, hc, hstart⟩, hall⟩ := h
  obtain ⟨n', hn⟩ := List.head?_eq_some_iff.1 hc
  have hpoint : c ≠ '.' := by
    rintro rfl
    cases hstart
  have hrun := run_append hall hrest
  rw [hn, List.cons_append] at hrun ⊢
  have hdigit : c.isDigit = false := not_isDigit_of_isNameStart hstart
  cases hmore : qualified? rest <;> simp [nextToken?, hdigit, hpoint, hstart, hrun, hmore]

/-- Where a lexeme begins, a token of its kind is read that begins with it. -/
lemma Lexeme.read (h : Lexeme kind text) (rest : List Char) :
    ∃ more rest', nextToken? (text ++ rest) = some (kind, text ++ more, rest') := by
  -- the reader takes the longest run, so what it takes begins with the lexeme
  cases h with
  | whole digits =>
    obtain ⟨more, rest, rfl, hmore, hrest⟩ := exists_run Char.isDigit rest
    rw [← List.append_assoc, nextToken?_digits (digits.append hmore) hrest]
    rcases fraction? rest with _ | ⟨frac, rest⟩
    · exact ⟨more, rest, rfl⟩
    · exact ⟨more ++ frac, rest, by simp⟩
  | @fraction es digits =>
    obtain ⟨more, rest, rfl, hmore, hrest⟩ := exists_run Char.isDigit rest
    rw [List.cons_append, ← List.append_assoc, nextToken?_point,
      fraction?_digits (digits.append hmore) hrest]
    exact ⟨more, rest, rfl⟩
  | @mixed ds es digits behind =>
    obtain ⟨more, rest, rfl, hmore, hrest⟩ := exists_run Char.isDigit rest
    rw [List.append_assoc, List.cons_append, ← List.append_assoc es,
      nextToken?_digits digits (by rintro c ⟨⟩; decide),
      fraction?_digits (behind.append hmore) hrest]
    exact ⟨more, rest, by simp⟩
  | name name =>
    obtain ⟨more, rest, rfl, hmore, hrest⟩ := exists_run isNameChar rest
    rw [← List.append_assoc, nextToken?_name (name.append hmore) hrest]
    rcases qualified? rest with _ | ⟨frac, rest⟩
    · exact ⟨more, rest, rfl⟩
    · exact ⟨more ++ frac, rest, by simp⟩
  | @qualified m n first name =>
    obtain ⟨more, rest, rfl, hmore, hrest⟩ := exists_run isNameChar rest
    rw [List.append_assoc, List.cons_append, ← List.append_assoc n,
      nextToken?_name first (by rintro c ⟨⟩; decide), qualified?_name (name.append hmore) hrest]
    exact ⟨more, rest, by simp⟩
  | operator operator => exact ⟨[], rest, nextToken?_of_isOperator operator rest⟩
  | opening => exact ⟨[], rest, rfl⟩
  | closing => exact ⟨[], rest, rfl⟩

lemma fraction?_eq_some (h : fraction? cs = some (text, rest)) :
    ∃ es, IsDigits es ∧ text = '.' :: es ∧ cs = text ++ rest := by
  unfold fraction? at h
  split at h
  next cs =>
    dsimp only [run] at h
    split at h
    · cases h
    next es rest' hne heq =>
      obtain ⟨rfl, rfl⟩ := Prod.mk.inj heq
      cases h
      refine ⟨_, ⟨fun hnil => ?_, List.all_eq_true.1 List.all_takeWhile⟩, rfl, ?_⟩
      · exact hne hnil
      · simp [List.takeWhile_append_dropWhile]
  next => cases h

lemma qualified?_eq_some (h : qualified? cs = some (text, rest)) :
    ∃ n, IsName n ∧ text = '.' :: n ∧ cs = text ++ rest := by
  unfold qualified? at h
  split at h
  next c cs =>
    split at h
    next hstart =>
      dsimp only [run] at h
      cases h
      refine ⟨_, isName_takeWhile hstart cs, ?_, ?_⟩
      · simp [isNameChar_of_isNameStart hstart]
      · simp [List.takeWhile_append_dropWhile]
    next => cases h
  next => cases h

lemma lexeme_of_digits {ds rest' : List Char} (hds : IsDigits ds)
    (h : (match fraction? rest with
      | some (frac, rest) => some (.number, ds ++ frac, rest)
      | none => some (.number, ds, rest)) = some (kind, text, rest')) :
    Lexeme kind text ∧ ds ++ rest = text ++ rest' := by
  split at h
  next frac rest hfrac =>
    cases h
    obtain ⟨es, hes, rfl, rfl⟩ := fraction?_eq_some hfrac
    exact ⟨.mixed hds hes, (List.append_assoc _ _ _).symm⟩
  next =>
    cases h
    exact ⟨.whole hds, rfl⟩

lemma lexeme_of_name {n rest' : List Char} (hn : IsName n)
    (h : (match qualified? rest with
      | some (more, rest) => some (.field, n ++ more, rest)
      | none => some (.field, n, rest)) = some (kind, text, rest')) :
    Lexeme kind text ∧ n ++ rest = text ++ rest' := by
  split at h
  next more rest hmore =>
    cases h
    obtain ⟨m, hm, rfl, rfl⟩ := qualified?_eq_some hmore
    exact ⟨.qualified hn hm, (List.append_assoc _ _ _).symm⟩
  next =>
    cases h
    exact ⟨.name hn, rfl⟩

/-- What is read is a lexeme at the start of the text. -/
lemma lexeme_of_nextToken? (h : nextToken? cs = some (kind, text, rest)) :
    Lexeme kind text ∧ cs = text ++ rest := by
  unfold nextToken? at h
  split at h
  · cases h
  next c cs =>
  dsimp only [run] at h
  -- the reader tries its kinds of tokens one after the other
  split at h
  next hdigit =>
    obtain ⟨hlexeme, heq⟩ := lexeme_of_digits (isDigits_takeWhile hdigit cs) h
    exact ⟨hlexeme, List.takeWhile_append_dropWhile.symm.trans heq⟩
  split at h
  next =>
    obtain ⟨⟨frac, rest⟩, hfrac, heq⟩ := Option.map_eq_some_iff.1 h
    cases heq
    obtain ⟨es, hes, rfl, heq⟩ := fraction?_eq_some hfrac
    exact ⟨.fraction hes, heq⟩
  split at h
  next hstart =>
    obtain ⟨hlexeme, heq⟩ := lexeme_of_name (isName_takeWhile hstart cs) h
    exact ⟨hlexeme, List.takeWhile_append_dropWhile.symm.trans heq⟩
  split at h
  next hoperator =>
    cases h
    exact ⟨.operator hoperator, rfl⟩
  split at h
  next hopening =>
    cases h
    exact ⟨hopening ▸ .opening, rfl⟩
  split at h
  next hclosing =>
    cases h
    exact ⟨hclosing ▸ .closing, rfl⟩
  cases h

/-- **What is read is the longest lexeme.** -/
theorem nextToken?_eq_some :
    nextToken? cs = some (kind, text, rest) ↔ cs = text ++ rest ∧ Longest kind text rest := by
  constructor
  · intro h
    obtain ⟨hlexeme, rfl⟩ := lexeme_of_nextToken? h
    refine ⟨rfl, hlexeme, fun k more hmore hbegins => ?_⟩
    obtain ⟨rest', hrest⟩ := hbegins
    obtain ⟨more', rest'', hread⟩ := hmore.read rest'
    rw [hrest, h] at hread
    cases hread
    simp
  · -- the reader finds one that is no shorter, so it finds this one
    rintro ⟨rfl, hlexeme, hlongest⟩
    obtain ⟨more, rest', hread⟩ := hlexeme.read rest
    obtain ⟨hmore, heq⟩ := lexeme_of_nextToken? hread
    have hle := hlongest _ _ hmore ⟨rest', heq.symm⟩
    rw [List.length_append] at hle
    obtain rfl : more = [] := List.eq_nil_of_length_eq_zero (by omega)
    rw [List.append_nil] at hread heq
    rw [hread, List.append_cancel_left heq]

lemma nextToken?_eq_none : nextToken? cs = none ↔ Barren cs := by
  constructor
  · rintro h kind text hlexeme ⟨rest, rfl⟩
    obtain ⟨more, rest', hread⟩ := hlexeme.read rest
    rw [h] at hread
    cases hread
  · intro h
    refine Option.eq_none_iff_forall_ne_some.2 fun (kind, text, rest) hread => ?_
    obtain ⟨hlexeme, rfl⟩ := lexeme_of_nextToken? hread
    exact h kind text hlexeme ⟨rest, rfl⟩

end Crosswalk.Formula
