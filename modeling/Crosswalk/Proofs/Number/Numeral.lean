import Mathlib.Data.List.Induction
import Mathlib.Tactic.Common
import Crosswalk.Number.Numeral

/-!
What digits write, and which texts are numerals.

A `Writing` has the parts of a numeral as they are written: a sign, digits, a point with more digits, and
an exponent behind a mark. A text is read as a numeral exactly if it is a proper writing of one.
-/

namespace Crosswalk.Numeral

lemma digit_le {c : Char} (h : c.isDigit) : c.toNat - 48 ≤ 9 := by
  simp only [Char.isDigit, Bool.and_eq_true, decide_eq_true_eq] at h
  have := UInt32.le_iff_toNat_le.1 h.2
  simp only [Char.toNat]
  change c.val.toNat ≤ 57 at this
  omega

lemma value_concat (ds : List Char) (c : Char) :
    value (ds ++ [c]) = value ds * 10 + (c.toNat - 48) := by
  simp [value]

lemma value_lt {ds : List Char} (h : ∀ c ∈ ds, c.isDigit) : value ds < 10 ^ ds.length := by
  induction ds using List.reverseRecOn with
  | nil => simp [value]
  | append_singleton ds c ih =>
    have hds := ih fun d hd => h d (by simp [hd])
    have hc := digit_le (h c (by simp))
    rw [value_concat, List.length_append, List.length_singleton, Nat.pow_succ]
    omega

/-! ### Numbers of digits -/

lemma value_eq (ds : List Char) : value ds = Nat.ofDigitChars 10 ds 0 := by
  rw [Nat.ofDigitChars_eq_foldl, value]
  simp [Nat.mul_comm]

lemma value_append_zeros (ds : List Char) (n : Nat) :
    value (ds ++ List.replicate n '0') = value ds * 10 ^ n := by
  rw [value_eq, value_eq, Nat.ofDigitChars_append, Nat.ofDigitChars_replicate_zero, Nat.mul_comm]

lemma value_zeros_append (n : Nat) (ds : List Char) :
    value (List.replicate n '0' ++ ds) = value ds := by
  rw [value_eq, value_eq, Nat.ofDigitChars_append, Nat.ofDigitChars_replicate_zero, Nat.mul_zero]

@[simp] lemma value_toString (n : Nat) : value (toString n).toList = n := by
  rw [value_eq, Nat.toString_eq_ofList_toDigits, String.toList_ofList,
    Nat.ofDigitChars_ten_toDigits]

/-! ### Numerals -/

lemma span_append {p : Char → Bool} {cs rest : List Char} (hcs : ∀ c ∈ cs, p c)
    (hrest : ∀ c ∈ rest.head?, ¬ p c) :
    (cs ++ rest).takeWhile p = cs ∧ (cs ++ rest).dropWhile p = rest := by
  have hstop : rest.takeWhile p = [] ∧ rest.dropWhile p = rest := by
    cases rest with
    | nil => simp
    | cons c rest =>
      have hc : ¬ p c := hrest c rfl
      rw [List.takeWhile_cons_of_neg hc, List.dropWhile_cons_of_neg hc]
      exact ⟨rfl, rfl⟩
  rw [List.takeWhile_append_of_pos hcs, List.dropWhile_append_of_pos hcs, hstop.1, hstop.2,
    List.append_nil]
  exact ⟨rfl, rfl⟩

lemma digits_append {ds rest : List Char} (hds : ∀ c ∈ ds, c.isDigit)
    (hrest : ∀ c ∈ rest.head?, ¬ c.isDigit) : digits (ds ++ rest) = (ds, rest) :=
  Prod.ext (span_append hds hrest).1 (span_append hds hrest).2

lemma digits_eq {ds : List Char} (hds : ∀ c ∈ ds, c.isDigit) : digits ds = (ds, []) := by
  have h : digits (ds ++ []) = (ds, []) := digits_append hds (by simp)
  rwa [List.append_nil] at h

/-! ### The grammar of numerals -/

def signText : Option Bool → List Char
  | none => []
  | some false => ['+']
  | some true => ['-']

/-- An exponent as it is written, behind a small or a capital mark. -/
structure Scale where
  capital : Bool
  sign : Option Bool
  digits : List Char

namespace Scale

def chars (x : Scale) : List Char :=
  (if x.capital then 'E' else 'e') :: (signText x.sign ++ x.digits)

def Proper (x : Scale) : Prop := x.digits ≠ [] ∧ ∀ c ∈ x.digits, c.isDigit

def value (x : Scale) : Int := Binary64.signed (x.sign == some true) (Numeral.value x.digits)

end Scale

structure Writing where
  sign : Option Bool
  whole : List Char
  /-- What stands behind the point, if there is one. -/
  fraction : Option (List Char)
  scale : Option Scale

namespace Writing

variable (w : Writing)

def places : List Char := w.fraction.getD []

def exponent : Int := (w.scale.map Scale.value).getD 0

def chars : List Char :=
  signText w.sign ++ (w.whole ++ ((w.fraction.map ('.' :: ·)).getD [] ++
    (w.scale.map Scale.chars).getD []))

/-- Digits stand where they should, and there is one before or behind the point. -/
structure Proper : Prop where
  whole : ∀ c ∈ w.whole, c.isDigit
  places : ∀ c ∈ w.places, c.isDigit
  some_digit : w.whole ≠ [] ∨ w.places ≠ []
  scale : ∀ x ∈ w.scale, x.Proper

def numeral : Numeral where
  neg := w.sign == some true
  coefficient := value (w.whole ++ w.places)
  exponent := w.exponent - w.places.length

end Writing

def marks : List Char := ['+', '-', '.', 'e', 'E']

lemma Writing.Proper.mem_chars {w : Writing} (h : w.Proper) {c : Char} (hc : c ∈ w.chars) :
    c.isDigit ∨ c ∈ marks := by
  have hsign : ∀ s, ∀ c ∈ signText s, c ∈ marks := by
    rintro (_ | _ | _) <;> simp [signText, marks]
  obtain ⟨s, ds, fraction, scale⟩ := w
  obtain ⟨hwhole, hplaces, -, hscale⟩ := h
  simp only [chars, List.mem_append] at hc
  -- the sign, the whole part, the fraction and the exponent
  obtain hc | hc | hc | hc := hc
  · exact .inr (hsign s c hc)
  · exact .inl (hwhole c hc)
  · rcases fraction with _ | fs
    · cases hc
    · obtain rfl | hc := List.mem_cons.1 hc
      · exact .inr (by decide)
      · exact .inl (hplaces c hc)
  · rcases scale with _ | x
    · cases hc
    · obtain rfl | hc := List.mem_cons.1 hc
      · exact .inr (by cases x.capital <;> decide)
      · obtain hc | hc := List.mem_append.1 hc
        · exact .inr (hsign x.sign c hc)
        · exact .inl ((hscale x rfl).2 c hc)

lemma sign_signText (s : Option Bool) {cs : List Char} (h : ∀ c ∈ cs.head?, c ≠ '-' ∧ c ≠ '+') :
    sign (signText s ++ cs) = (s == some true, cs) := by
  rcases s with _ | _ | _
  · rcases cs with _ | ⟨c, cs⟩
    · rfl
    · obtain ⟨hminus, hplus⟩ := h c rfl
      simp only [signText, List.nil_append]
      unfold sign
      split
      case h_1 heq => exact absurd (List.cons.inj heq).1 hminus
      case h_2 heq => exact absurd (List.cons.inj heq).1 hplus
      case h_3 => rfl
  · rfl
  · rfl

lemma exists_sign (cs : List Char) :
    ∃ s, cs = signText s ++ (sign cs).2 ∧ (sign cs).1 = (s == some true) := by
  unfold sign
  split
  · exact ⟨some true, rfl, rfl⟩
  · exact ⟨some false, rfl, rfl⟩
  · exact ⟨none, rfl, rfl⟩

lemma digits_fst (cs : List Char) : ∀ c ∈ (digits cs).1, c.isDigit :=
  fun _ hc => List.all_eq_true.1 (List.all_takeWhile) _ hc

lemma fst_append_snd_digits (cs : List Char) : (digits cs).1 ++ (digits cs).2 = cs :=
  List.takeWhile_append_dropWhile

lemma ne_sign_of_isDigit {c : Char} (h : c.isDigit) : c ≠ '-' ∧ c ≠ '+' := by
  constructor <;> rintro rfl <;> simp at h

lemma exponent?_nil : exponent? [] = some 0 := rfl

lemma exponent?_eq_some {cs : List Char} {x : Int} : exponent? cs = some x ↔
    cs = [] ∧ x = 0 ∨ ∃ k : Scale, k.Proper ∧ cs = k.chars ∧ x = k.value := by
  constructor
  · intro h
    rcases cs with _ | ⟨c, cs⟩
    · exact .inl ⟨rfl, (Option.some.inj h).symm⟩
    · rw [exponent?] at h
      split_ifs at h with hmark
      obtain ⟨s, hcs, hs⟩ := exists_sign cs
      have hdigits := fst_append_snd_digits (sign cs).2
      dsimp only at h
      split_ifs at h with hbad
      -- the reader wants digits behind the mark and its sign, and nothing behind these
      obtain ⟨hne, hrest⟩ := not_or.1 hbad
      have hrest : (digits (sign cs).2).2 = [] := by simpa using hrest
      rw [hrest, List.append_nil] at hdigits
      have hall : ∀ d ∈ (sign cs).2, d.isDigit := hdigits ▸ digits_fst (sign cs).2
      refine .inr ⟨⟨decide (c = 'E'), s, (sign cs).2⟩, ⟨?_, hall⟩, ?_, ?_⟩
      · simpa [hdigits] using hne
      · rw [Scale.chars, ← hcs]
        obtain rfl | rfl := hmark <;> rfl
      · rw [← Option.some.inj h, hdigits, hs]
        rfl
  · rintro (⟨rfl, rfl⟩ | ⟨⟨capital, s, ds⟩, ⟨hne, hds⟩, rfl, rfl⟩)
    · rfl
    · have hmark : (if capital then 'E' else 'e') = 'e' ∨ (if capital then 'E' else 'e') = 'E' := by
        cases capital <;> simp
      have hsign : sign (signText s ++ ds) = (s == some true, ds) :=
        sign_signText s fun c hc => ne_sign_of_isDigit (hds c (List.mem_of_mem_head? hc))
      rw [Scale.chars, exponent?, if_pos hmark, hsign]
      dsimp only
      rw [digits_eq hds]
      simp [hne, Scale.value]

lemma Writing.Proper.digits_ne_nil {w : Writing} (h : w.Proper) : w.whole ++ w.places ≠ [] := by
  rw [Ne, List.append_eq_nil_iff, not_and_or]
  exact h.some_digit

lemma Writing.Proper.read_scale {w : Writing} (h : w.Proper) :
    exponent? ((w.scale.map Scale.chars).getD []) = some w.exponent := by
  rw [exponent?_eq_some, exponent]
  rcases hx : w.scale with _ | x
  · exact .inl ⟨rfl, rfl⟩
  · exact .inr ⟨x, h.scale x hx, rfl, rfl⟩

lemma Writing.head_scale (w : Writing) :
    ∀ c ∈ ((w.scale.map Scale.chars).getD []).head?, ¬ c.isDigit ∧ c ≠ '.' := by
  obtain ⟨_, _, _, scale⟩ := w
  intro c hc
  rcases scale with _ | ⟨_ | _, s, ds⟩
  · simp at hc
  · obtain rfl : 'e' = c := by simpa [Scale.chars] using hc
    decide
  · obtain rfl : 'E' = c := by simpa [Scale.chars] using hc
    decide

lemma Writing.Proper.head_word {w : Writing} (h : w.Proper) (tail : List Char) :
    ∀ c ∈ (w.whole ++ ((w.fraction.map ('.' :: ·)).getD [] ++ tail)).head?, c ≠ '-' ∧ c ≠ '+' := by
  obtain ⟨hwhole, -, hsome, -⟩ := h
  obtain ⟨s, _ | ⟨d, ds⟩, _ | fs, x⟩ := w
  · simp [Writing.places] at hsome
  · simp
  · simpa using ne_sign_of_isDigit (hwhole d (by simp))
  · simpa using ne_sign_of_isDigit (hwhole d (by simp))

/-- **A proper numeral is read as what it writes.** -/
theorem ofChars?_chars {w : Writing} (h : w.Proper) : ofChars? w.chars = some w.numeral := by
  have hscale := h.read_scale
  have hhead := w.head_scale
  have hdigits := h.digits_ne_nil
  rw [Writing.numeral, Writing.chars, ofChars?, sign_signText w.sign (h.head_word _)]
  generalize (w.scale.map Scale.chars).getD [] = tail at *
  generalize w.exponent = x at *
  -- the whole part ends at the point, or where the exponent begins
  rcases hw : w.fraction with _ | fs
  · have hplaces : w.places = [] := by rw [Writing.places, hw]; rfl
    have hword : digits (w.whole ++ tail) = (w.whole, tail) :=
      digits_append h.whole fun c hc => (hhead c hc).1
    rw [hplaces, List.append_nil] at hdigits
    simp only [Option.map_none, Option.getD_none, List.nil_append, hword, hplaces]
    split
    case h_1 => exact absurd rfl (hhead '.' rfl).2
    case h_2 => simp [hdigits, hscale]
  · have hplaces : w.places = fs := by rw [Writing.places, hw]; rfl
    have hword : digits (w.whole ++ '.' :: (fs ++ tail)) = (w.whole, '.' :: (fs ++ tail)) :=
      digits_append h.whole (by simp)
    have hfraction : digits (fs ++ tail) = (fs, tail) :=
      digits_append (hplaces ▸ h.places) fun c hc => (hhead c hc).1
    rw [hplaces] at hdigits
    simp only [Option.map_some, Option.getD_some, List.cons_append, hword, hfraction, hplaces]
    rw [if_neg (by simpa using hdigits), hscale]
    rfl

lemma exists_scale {cs : List Char} {x : Int} (h : exponent? cs = some x) :
    ∃ k : Option Scale, (∀ y ∈ k, y.Proper) ∧ (k.map Scale.chars).getD [] = cs ∧
      (k.map Scale.value).getD 0 = x := by
  obtain ⟨rfl, rfl⟩ | ⟨k, hk, rfl, rfl⟩ := exponent?_eq_some.1 h
  · exact ⟨none, by simp, rfl, rfl⟩
  · exact ⟨some k, by simpa using hk, rfl, rfl⟩

/-- **What is read as a numeral is the writing of one.** -/
theorem exists_writing {cs : List Char} {n : Numeral} (h : ofChars? cs = some n) :
    ∃ w : Writing, w.Proper ∧ w.chars = cs ∧ w.numeral = n := by
  obtain ⟨s, hcs, hs⟩ := exists_sign cs
  have hword := fst_append_snd_digits (sign cs).2
  have hwhole := digits_fst (sign cs).2
  rw [ofChars?] at h
  dsimp only at h
  generalize sign cs = signed at *
  obtain ⟨neg, word⟩ := signed
  generalize digits word = parts at *
  obtain ⟨whole, rest⟩ := parts
  dsimp only at *
  -- what the reader has taken are the parts of a writing, with or without a fraction
  split at h
  case h_1 rest =>
    have hrest := fst_append_snd_digits rest
    have hplaces := digits_fst rest
    generalize digits rest = parts at *
    obtain ⟨frac, tail⟩ := parts
    dsimp only at *
    split_ifs at h with hempty
    obtain ⟨x, hx, hn⟩ := Option.map_eq_some_iff.1 h
    obtain ⟨k, hk, rfl, rfl⟩ := exists_scale hx
    refine ⟨⟨s, whole, some frac, k⟩, ⟨hwhole, hplaces, ?_, hk⟩, ?_, ?_⟩
    · simpa [Writing.places, imp_iff_not_or] using hempty
    · simp [Writing.chars, hcs, ← hword, ← hrest]
    · rw [← hn, hs]
      rfl
  case h_2 =>
    split_ifs at h with hempty
    obtain ⟨x, hx, hn⟩ := Option.map_eq_some_iff.1 h
    obtain ⟨k, hk, rfl, rfl⟩ := exists_scale hx
    refine ⟨⟨s, whole, none, k⟩, ⟨hwhole, by simp [Writing.places], ?_, hk⟩, ?_, ?_⟩
    · simpa [Writing.places] using hempty
    · simp [Writing.chars, hcs, ← hword]
    · rw [← hn, hs]
      simp [Writing.numeral, Writing.places, Writing.exponent]

/-! ### Texts with a minus sign or none -/

def signChars (neg : Bool) : List Char := if neg then ['-'] else []

lemma exists_signText (neg : Bool) : ∃ s, signChars neg = signText s ∧ (s == some true) = neg := by
  cases neg
  · exact ⟨none, rfl, rfl⟩
  · exact ⟨some true, rfl, rfl⟩

theorem ofChars?_written (neg : Bool) (ds fs point : List Char) {tail : List Char} {x : Int}
    (hds : ∀ c ∈ ds, c.isDigit) (hne : ds ≠ []) (hfs : ∀ c ∈ fs, c.isDigit)
    (hpoint : point = '.' :: fs ∨ point = [] ∧ fs = []) (hx : exponent? tail = some x) :
    ofChars? (signChars neg ++ (ds ++ (point ++ tail))) =
      some ⟨neg, value (ds ++ fs), x - fs.length⟩ := by
  obtain ⟨s, hsign, hneg⟩ := exists_signText neg
  obtain ⟨k, hk, rfl, rfl⟩ := exists_scale hx
  obtain rfl | ⟨rfl, rfl⟩ := hpoint
  · have hread := ofChars?_chars (w := ⟨s, ds, some fs, k⟩) ⟨hds, hfs, .inl hne, hk⟩
    rwa [Writing.numeral, hneg, Writing.chars, ← hsign] at hread
  · have hread := ofChars?_chars (w := ⟨s, ds, none, k⟩) ⟨hds, hfs, .inl hne, hk⟩
    rwa [Writing.numeral, hneg, Writing.chars, ← hsign] at hread

lemma head_of_ofChars? {cs : List Char} {n : Numeral} (h : ofChars? cs = some n) :
    ∃ c rest, (sign cs).2 = c :: rest ∧ (c.isDigit ∨ c = '.') := by
  unfold ofChars? at h
  rcases hword : (sign cs).2 with _ | ⟨c, rest⟩
  · simp [hword, digits] at h
  · refine ⟨c, rest, rfl, ?_⟩
    by_contra hc
    obtain ⟨hdigit, hpoint⟩ := not_or.1 hc
    have hdigits : digits (c :: rest) = ([], c :: rest) := by
      rw [digits, List.takeWhile_cons_of_neg hdigit, List.dropWhile_cons_of_neg hdigit]
    simp only [hword, hdigits, List.isEmpty_nil, true_and, Option.ite_none_left_eq_some] at h
    obtain ⟨hne, -⟩ := h
    split at hne
    case h_1 heq => exact hpoint (List.cons.inj heq).1
    case h_2 => exact hne rfl

lemma toLower_digit {c : Char} (h : c.isDigit) : c.toLower = c := by
  simp only [Char.isDigit, Bool.and_eq_true, decide_eq_true_eq] at h
  unfold Char.toLower
  rw [dif_neg]
  intro hupper
  have h1 := UInt32.le_iff_toNat_le.1 h.2
  have h2 := UInt32.le_iff_toNat_le.1 hupper.1
  exact absurd (Nat.le_trans h2 h1) (by decide)

lemma toUpper_digit {c : Char} (h : c.isDigit) : c.toUpper = c := by
  simp only [Char.isDigit, Bool.and_eq_true, decide_eq_true_eq] at h
  unfold Char.toUpper
  rw [dif_neg]
  intro hlower
  have h1 := UInt32.le_iff_toNat_le.1 h.2
  have h2 := UInt32.le_iff_toNat_le.1 hlower.1
  exact absurd (Nat.le_trans h2 h1) (by decide)

lemma joinDigits?_eq_self {cs : List Char} (h : '_' ∉ cs) : joinDigits? cs = some cs := by
  fun_induction joinDigits? cs with
  | case1 => rfl
  | case2 => simp at h
  | case3 => simp at h
  | case4 => simp at h
  | case5 c rest _ _ ih =>
    rw [ih fun hrest => h (List.mem_cons_of_mem c hrest)]
    rfl

lemma word_of_ofChars? {cs : List Char} {n : Numeral} (h : ofChars? cs = some n) :
    isInfinity ((sign cs).2.map Char.toLower) = false ∧
      (sign cs).2.map Char.toLower ≠ "nan".toList := by
  obtain ⟨c, rest, hword, hc⟩ := head_of_ofChars? h
  have hlower : c.toLower = c := by
    obtain hc | rfl := hc
    · exact toLower_digit hc
    · rfl
  have hne : ∀ d : Char, d.isDigit = false → d ≠ '.' → c ≠ d := by
    rintro d hd hpoint rfl
    obtain hc | rfl := hc
    · simp [hd] at hc
    · exact hpoint rfl
  rw [hword, List.map_cons, hlower]
  have hi := hne 'i' rfl (by decide)
  have hn := hne 'n' rfl (by decide)
  constructor
  · simp [isInfinity, hi]
  · simp [hn]

end Crosswalk.Numeral
