import Crosswalk.Number.DecimalText
import Crosswalk.Proofs.Number.Numeral
import Crosswalk.Proofs.Number.Shortest
import Crosswalk.Proofs.Number.Text

/-!
The text of a finite binary number, read again as a numeral.

Wherever the point stands, and with an exponent or without, the numeral denotes the digits that were
written at the place where they were written.
-/

namespace Crosswalk.Binary64

open Numeral

lemma isDigit_zeros {n : Nat} : ∀ c ∈ List.replicate n '0', c.isDigit := fun c hc => by
  rw [List.eq_of_mem_replicate hc]
  rfl

lemma isDigit_append {ds es : List Char} (hds : ∀ c ∈ ds, c.isDigit) (hes : ∀ c ∈ es, c.isDigit) :
    ∀ c ∈ ds ++ es, c.isDigit :=
  fun c hc => (List.mem_append.1 hc).elim (hds c) (hes c)

lemma toString_ne_nil (n : Nat) : (toString n).toList ≠ [] := by
  rw [Nat.toString_eq_ofList_toDigits, String.toList_ofList]
  exact Nat.toDigits_ne_nil

lemma exponentText_eq (x : Int) : ∃ ds : List Char, (∀ c ∈ ds, c.isDigit) ∧ ds ≠ [] ∧
    value ds = x.natAbs ∧ (exponentText x).toList = (if x < 0 then '-' else '+') :: ds := by
  have hdigits : ∀ c ∈ (toString x.natAbs).toList, c.isDigit := fun c hc => isDigit_of_mem hc
  have hsign : (if x < 0 then "-" else "+" : String).toList = [if x < 0 then '-' else '+'] := by
    split <;> rfl
  unfold exponentText
  dsimp only
  rw [String.toList_append, hsign]
  by_cases hlen : (toString x.natAbs).length < 2
  · rw [if_pos hlen]
    refine ⟨List.replicate 1 '0' ++ (toString x.natAbs).toList,
      isDigit_append isDigit_zeros hdigits, by simp, ?_, by simp⟩
    rw [value_zeros_append, value_toString]
  · rw [if_neg hlen]
    exact ⟨_, hdigits, toString_ne_nil _, value_toString _, rfl⟩

lemma exponent?_exponentText (x : Int) : exponent? ('e' :: (exponentText x).toList) = some x := by
  obtain ⟨ds, hds, hne, hvalue, htext⟩ := exponentText_eq x
  have hds0 : ds.isEmpty = false := by simpa using hne
  have hsign : sign ((if x < 0 then '-' else '+') :: ds) = (decide (x < 0), ds) := by
    split <;> simp [sign, *]
  rw [htext, exponent?, if_pos (.inl rfl), hsign]
  dsimp only
  rw [digits_eq hds]
  simp only [hds0, hvalue, signed, List.isEmpty_nil, Bool.false_eq_true, Bool.not_true, or_self,
    if_false, decide_eq_true_eq, Option.some.injEq]
  split <;> omega

/-! ### Layouts -/

section

variable (neg : Bool) {text : String} (hds : ∀ d ∈ text.toList, d.isDigit)
  (hne : text.toList ≠ [])

include hds

lemma ofChars?_fraction (n : Nat) :
    ofChars? (signChars neg ++ ("0." ++ String.ofList (List.replicate n '0') ++ text).toList) =
      some ⟨neg, value text.toList, -(n + text.toList.length : Nat)⟩ := by
  have hread := ofChars?_written neg ['0'] (List.replicate n '0' ++ text.toList) _
    (by simp) (by simp) (isDigit_append isDigit_zeros hds) (.inl rfl) exponent?_nil
  have hvalue := value_zeros_append (n + 1) text.toList
  rw [List.replicate_succ, List.cons_append, ← List.singleton_append] at hvalue
  rw [hvalue] at hread
  simpa using hread

include hne

lemma ofChars?_scientific (x : Int) :
    ofChars? (signChars neg ++ ((text.take 1).toString ++
        (if (text.drop 1).toString.isEmpty then "" else "." ++ (text.drop 1).toString) ++ "e" ++
        exponentText x).toList) =
      some ⟨neg, value text.toList, x - (text.toList.length - 1 : Nat)⟩ := by
  have hread := ofChars?_written neg (text.toList.take 1) (text.toList.drop 1)
    (if text.toList.drop 1 = [] then [] else '.' :: text.toList.drop 1)
    (fun d hd => hds d (List.mem_of_mem_take hd)) (by simpa using hne)
    (fun d hd => hds d (List.mem_of_mem_drop hd)) (by split <;> simp_all)
    (exponent?_exponentText x)
  rw [List.take_append_drop, List.length_drop] at hread
  have htext : ((text.take 1).toString ++
      (if (text.drop 1).toString.isEmpty then "" else "." ++ (text.drop 1).toString) ++ "e" ++
      exponentText x).toList =
        text.toList.take 1 ++ ((if text.toList.drop 1 = [] then [] else '.' :: text.toList.drop 1) ++
          'e' :: (exponentText x).toList) := by
    have hempty : (text.drop 1).toString.isEmpty = true ↔ text.toList.drop 1 = [] := by
      rw [String.isEmpty_iff, ← String.toList_inj]
      simp
    simp only [hempty]
    split <;> simp
  rw [htext, hread]

lemma ofChars?_whole (n : Nat) :
    ofChars? (signChars neg ++ (text ++ String.ofList (List.replicate n '0') ++ ".0").toList) =
      some ⟨neg, value text.toList * 10 ^ (n + 1), -1⟩ := by
  have hread := ofChars?_written neg (text.toList ++ List.replicate n '0') ['0'] _
    (isDigit_append hds isDigit_zeros) (by simp [hne]) (by simp) (.inl rfl) exponent?_nil
  have hvalue := value_append_zeros text.toList (n + 1)
  rw [List.replicate_succ', ← List.append_assoc] at hvalue
  rw [hvalue] at hread
  simpa using hread

lemma ofChars?_pointed {n : Nat} (hn : 0 < n) :
    ofChars? (signChars neg ++ ((text.take n).toString ++ "." ++ (text.drop n).toString).toList) =
      some ⟨neg, value text.toList, -(text.toList.length - n : Nat)⟩ := by
  have hread := ofChars?_written neg (text.toList.take n) (text.toList.drop n) _
    (fun d hd => hds d (List.mem_of_mem_take hd)) (by simp [hne]; omega)
    (fun d hd => hds d (List.mem_of_mem_drop hd)) (.inl rfl) exponent?_nil
  rw [List.take_append_drop, List.length_drop] at hread
  simpa using hread

end

/-- **Digits laid out** with a point and an exponent are read as the digits at their place. Zeros
that are added are at most as many as stand before a point without an exponent. -/
theorem ofChars?_layout (neg : Bool) (c : Nat) (point : Int) :
    ∃ j : Nat, j ≤ 16 ∧
      ofChars? (signChars neg ++ (layout (toString c) point).toList) =
        some ⟨neg, c * 10 ^ j, point - (toString c).length - j⟩ := by
  have hds : ∀ d ∈ (toString c).toList, d.isDigit := fun d hd => isDigit_of_mem hd
  have hne := toString_ne_nil c
  have hpos : 0 < (toString c).toList.length := List.length_pos_iff.2 hne
  have hvalue := value_toString c
  rw [← String.length_toList]
  unfold layout
  dsimp only
  rw [← String.length_toList]
  -- digits are laid out with an exponent, behind zeros, in front of zeros, or around the point
  by_cases hfar : point ≤ -4 ∨ 16 < point
  · refine ⟨0, by omega, ?_⟩
    rw [if_pos hfar, ofChars?_scientific neg hds hne, hvalue]
    congr 2
    · omega
    · omega
  rw [if_neg hfar]
  by_cases hsmall : point ≤ 0
  · refine ⟨0, by omega, ?_⟩
    rw [if_pos hsmall, ofChars?_fraction neg hds, hvalue]
    congr 2
    · omega
    · omega
  rw [if_neg hsmall]
  by_cases hwhole : (toString c).toList.length ≤ point
  · refine ⟨(point - (toString c).toList.length).toNat + 1, by omega, ?_⟩
    rw [if_pos hwhole, ofChars?_whole neg hds hne, hvalue]
    congr 2
    omega
  · refine ⟨0, by omega, ?_⟩
    rw [if_neg hwhole, ofChars?_pointed neg hds hne (by omega), hvalue]
    congr 2
    · omega
    · omega

/-! ### Texts -/

lemma ofText?_of_ofChars? {text : String} {n : Numeral} (h : ofChars? text.toList = some n) :
    Decimal.ofText? text = Decimal.ofNumeral? n := by
  obtain ⟨hinf, hnan⟩ := word_of_ofChars? h
  rw [Decimal.ofText?]
  dsimp only
  rw [hinf, if_neg Bool.false_ne_true, if_neg hnan, h, Option.bind_some]

lemma ofChars?_zero (neg : Bool) :
    ofChars? ((if neg then "-" else "") ++ "0.0" : String).toList = some ⟨neg, 0, -1⟩ := by
  cases neg <;> rfl

def isFinite : Binary64 → Bool
  | .finite .. => true
  | _ => false

/-- The number that the text of a finite binary number writes: that of its shortest digits. -/
def written : Binary64 → ℚ
  | .finite s m e => if m = 0 then 0 else signed s (shortest m e).1 * 10 ^ (shortest m e).2
  | _ => 0

lemma ofNumeral?_eq (neg : Bool) {c : Nat} {e : Int} (hlow : Decimal.minTextExponent ≤ e)
    (hhigh : e + digitCount c ≤ Decimal.maxTextAdjusted) :
    Decimal.ofNumeral? ⟨neg, c, e⟩ = some (.finite neg c e) := by
  rw [Decimal.ofNumeral?, if_neg]
  dsimp only [Decimal.digitCount]
  omega

/-- **The text of a finite binary number is read as the number it writes.** -/
theorem ofText?_text {x : Binary64} (hx : x.Canonical) (hfin : x.isFinite) :
    ∃ d, Decimal.ofText? x.text = some d ∧ d.isFinite ∧ d.toRat = x.written := by
  obtain ⟨s, m, e, rfl⟩ : ∃ s m e, x = .finite s m e := by cases x <;> simp_all [isFinite]
  by_cases hm : m = 0
  · refine ⟨.finite s 0 (-1), ?_, rfl, by simp [Decimal.toRat, written, hm, signed]⟩
    rw [text]
    dsimp only
    rw [if_pos hm, ofText?_of_ofChars? (ofChars?_zero s)]
    exact ofNumeral?_eq s (by decide) (by decide +kernel)
  obtain ⟨hk₁, hk₂, hc⟩ := writtenDigits_bounds hx hm
  have hstrip : ((writtenDigits m e).1 : ℚ) * 10 ^ (writtenDigits m e).2 =
      (shortest m e).1 * 10 ^ (shortest m e).2 := stripZeros_value _ _ _
  have htext : (finite s m e).text.toList = signChars s ++ (layout (toString (writtenDigits m e).1)
      ((writtenDigits m e).2 + (toString (writtenDigits m e).1).length)).toList := by
    rw [text]
    dsimp only
    rw [if_neg hm, String.toList_append]
    cases s <;> rfl
  generalize (writtenDigits m e).1 = c, (writtenDigits m e).2 = k at *
  obtain ⟨j, hj, hread⟩ := ofChars?_layout s c (k + (toString c).length)
  rw [← htext, add_sub_cancel_right] at hread
  refine ⟨.finite s (c * 10 ^ j) (k - j), ?_, rfl, ?_⟩
  · have hcount := digitCount_mul_pow_le c j
    rw [ofText?_of_ofChars? hread, ofNumeral?_eq]
    · simp only [Decimal.minTextExponent]
      omega
    · simp only [Decimal.maxTextAdjusted]
      omega
  · -- the zeros that the layout adds are made up for by the exponent
    have hvalue : ((c * 10 ^ j : Nat) : ℚ) * 10 ^ (k - j : Int) =
        (shortest m e).1 * 10 ^ (shortest m e).2 := by
      have hat := Decimal.magnitude_at (show k - j ≤ k by omega) c
      rwa [sub_sub_cancel, Int.toNat_natCast, hstrip, eq_comm] at hat
    rw [Decimal.toRat, written, if_neg hm]
    cases s
    · simpa [signed] using hvalue
    · simpa [signed] using hvalue

end Crosswalk.Binary64
