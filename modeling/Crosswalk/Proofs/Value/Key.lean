import Crosswalk.Proofs.Value.Amount
import Crosswalk.Proofs.Value.LongInteger
import Crosswalk.Value.Convert

/-!
Texts of integers, and values that have another text.

The text of an integer is digits with a minus sign in front or without. It is read as the integer, so a
value with such a text is an amount: what is no amount stands under a text that no integer has.
-/

namespace Crosswalk

open Fallible Numeral Text

namespace Text

lemma isBlank_of_isDigit {c : Char} (h : c.isDigit) : isBlank c = false := by
  simp only [Char.isDigit, Bool.and_eq_true, decide_eq_true_eq] at h
  have hlow : 48 ≤ c.toNat := UInt32.le_iff_toNat_le.1 h.1
  have hhigh : c.toNat ≤ 57 := UInt32.le_iff_toNat_le.1 h.2
  simp [isBlank, isSpace]
  omega

lemma dropWhile_eq_self {p : Char → Bool} {cs : List Char} (h : ∀ c ∈ cs, p c = false) :
    cs.dropWhile p = cs := by
  cases cs with
  | nil => rfl
  | cons c cs => rw [List.dropWhile_cons_of_neg (by simp [h c])]

lemma trimWhile_eq_self {p : Char → Bool} {cs : List Char} (h : ∀ c ∈ cs, p c = false) :
    trimWhile p cs = cs := by
  have hback : cs.reverse.dropWhile p = cs.reverse := dropWhile_eq_self (by simpa using h)
  rw [trimWhile, dropWhile_eq_self h, hback, List.reverse_reverse]

end Text

namespace Value

/-- The characters are digits, with a minus sign in front or without. -/
def IsWhole (cs : List Char) : Prop :=
  ∃ neg ds, (∀ d ∈ ds, d.isDigit) ∧ ds ≠ [] ∧ cs = signChars neg ++ ds

lemma toList_integerText {n : Int} {s : String} (h : integerText n = .ok s) :
    s.toList = signChars (n < 0) ++ (toString n.natAbs).toList := by
  rw [integerText_eq] at h
  split_ifs at h with hlong hneg <;> cases h <;> simp [signChars, hneg]

lemma isWhole_integerText {n : Int} {s : String} (h : integerText n = .ok s) :
    IsWhole s.toList :=
  ⟨_, _, fun _ hd => isDigit_of_mem hd, Binary64.toString_ne_nil _, toList_integerText h⟩

lemma not_isLong_of_integerText {n : Int} {s : String} (h : integerText n = .ok s) :
    ¬ IsLong n := by
  intro hlong
  rw [integerText_eq, if_pos hlong] at h
  cases h

lemma not_isBlank_integerText {n : Int} {s : String} (h : integerText n = .ok s) :
    ∀ c ∈ s.toList, Text.isBlank c = false := by
  intro c hc
  rw [toList_integerText h, List.mem_append] at hc
  obtain hc | hc := hc
  · unfold signChars at hc
    split at hc
    · rw [List.mem_singleton.1 hc]
      rfl
    · cases hc
  · exact isBlank_of_isDigit (isDigit_of_mem hc)

/-- **The text of an integer is read as the integer.** -/
lemma amountOfText?_integerText {n : Int} {s : String} (h : integerText n = .ok s) :
    amountOfText? s = some (.ofInt n) := by
  have hds : ∀ d ∈ (toString n.natAbs).toList, d.isDigit := fun d hd => isDigit_of_mem hd
  have hcount : Binary64.digitCount n.natAbs ≤ maxIntegerDigits :=
    (Binary64.digitCount_le_iff (by decide)).2 (not_le.1 (not_isLong_of_integerText h))
  have hread := ofChars?_written (decide (n < 0)) _ [] [] hds (Binary64.toString_ne_nil _)
    (by simp) (.inr ⟨rfl, rfl⟩) exponent?_nil
  rw [List.nil_append, List.append_nil, value_toString] at hread
  rw [amountOfText?, strip, trimWhile_eq_self (not_isBlank_integerText h), toList_integerText h,
    hread, Option.bind_some]
  refine Binary64.ofNumeral?_eq _ (by decide) ?_
  simp only [maxIntegerDigits, Decimal.maxTextAdjusted] at *
  simp
  omega

/-! ### Values that are no amounts -/

lemma not_isWhole_of_mem {c : Char} {cs : List Char} (hmem : c ∈ cs) (hd : c.isDigit = false)
    (hc : c ≠ '-') : ¬ IsWhole cs := by
  rintro ⟨neg, ds, hds, -, rfl⟩
  obtain hsign | hdigit := List.mem_append.1 hmem
  · unfold signChars at hsign
    split at hsign
    · exact hc (List.mem_singleton.1 hsign)
    · cases hsign
  · simp [hds c hdigit] at hd

lemma not_isWhole_hyphen {ds rest : List Char} (hds : ∀ d ∈ ds, d.isDigit) (hne : ds ≠ []) :
    ¬ IsWhole (ds ++ '-' :: rest) := by
  rintro ⟨neg, es, hes, -, heq⟩
  obtain ⟨d, ds, rfl⟩ := List.exists_cons_of_ne_nil hne
  cases neg with
  | true =>
    have hd : d = '-' := (List.cons.inj heq).1
    have := hds d (by simp)
    simp [hd] at this
  | false =>
    have := hes '-' (by rw [show es = _ from heq.symm]; simp)
    simp at this

lemma not_isWhole_iso (d : Date) : ¬ IsWhole d.iso.toList := by
  have hchars : d.iso.toList = (Date.padded 4 d.year).toList ++ '-' ::
      ((Date.padded 2 d.month).toList ++ '-' :: (Date.padded 2 d.day).toList) := by
    simp [Date.iso]
  rw [hchars]
  refine not_isWhole_hyphen ?_ ?_
  · rw [Date.padded, String.toList_append, String.toList_ofList]
    exact Binary64.isDigit_append Binary64.isDigit_zeros fun c hc => isDigit_of_mem hc
  · rw [Date.padded, String.toList_append]
    exact fun h => Binary64.toString_ne_nil _ (List.append_eq_nil_iff.1 h).2

/-- **What is no amount stands under a text that no integer has.** -/
theorem key_ne_integerText {v : Value} (hv : ∀ x, v = .float x → x.Canonical)
    (hnone : v.amount? = .ok none) {n : Int} {s : String} (hs : integerText n = .ok s) :
    v.key ≠ .ok s := by
  intro hkey
  have hwhole := isWhole_integerText hs
  -- every such text has a character that no integer is written with
  cases v with
  | null =>
    obtain rfl := Except.ok.inj hkey
    exact not_isWhole_of_mem (c := 'N') (by decide) rfl (by decide) hwhole
  | bool b =>
    obtain rfl := Except.ok.inj hkey
    exact not_isWhole_of_mem (c := 'e') (by cases b <;> decide) rfl (by decide) hwhole
  | int m =>
    obtain ⟨t, -, h⟩ := bind_eq_ok.1 hnone
    cases h
  | float x =>
    cases x with
    | nan =>
      obtain rfl := Except.ok.inj hkey
      exact not_isWhole_of_mem (c := 'n') (by decide) rfl (by decide) hwhole
    | infinite neg =>
      obtain rfl := Except.ok.inj hkey
      exact not_isWhole_of_mem (c := 'n') (by cases neg <;> decide) rfl (by decide) hwhole
    | finite neg m e =>
      obtain ⟨d, hd, -⟩ := hasAmount_float (hv _ rfl) rfl
      rw [hd] at hnone
      cases hnone
  | decimal d =>
    obtain rfl := Except.ok.inj hkey
    cases d with
    | nan => exact not_isWhole_of_mem (c := 'N') (by decide) rfl (by decide) hwhole
    | infinite neg =>
      exact not_isWhole_of_mem (c := 'I') (by cases neg <;> decide) rfl (by decide) hwhole
    | finite neg c e => cases hnone
  | text t =>
    obtain rfl := Except.ok.inj hkey
    rw [amount?, amountOfText?_integerText hs] at hnone
    cases hnone
  | list vs =>
    obtain ⟨parts, -, h⟩ := bind_eq_ok.1 hkey
    obtain rfl := Except.ok.inj h
    exact not_isWhole_of_mem (c := '[') (by simp) rfl (by decide) hwhole
  | tuple vs =>
    obtain ⟨parts, -, h⟩ := bind_eq_ok.1 hkey
    obtain rfl := Except.ok.inj h
    exact not_isWhole_of_mem (c := '(') (by simp) rfl (by decide) hwhole
  | object fs =>
    obtain ⟨parts, -, h⟩ := bind_eq_ok.1 hkey
    obtain rfl := Except.ok.inj h
    exact not_isWhole_of_mem (c := '\x7b') (by simp) rfl (by decide) hwhole
  | moment t =>
    obtain rfl := Except.ok.inj hkey
    exact not_isWhole_of_mem (c := ' ') (by simp [Moment.isoWith]) rfl (by decide) hwhole
  | date d =>
    obtain rfl := Except.ok.inj hkey
    exact not_isWhole_iso d hwhole

end Value

end Crosswalk
