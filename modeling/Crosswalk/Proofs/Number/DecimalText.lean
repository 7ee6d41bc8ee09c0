import Crosswalk.Number.DecimalText
import Crosswalk.Proofs.Number.Order
import Crosswalk.Proofs.Number.Reread

/-!
The text of a decimal, read again.

Zeros in front of the digits and a point among them do not change what is read, and neither do the two
layouts, so a decimal comes back with the digits and the exponent that it had. Only numerals whose digits
reach too far to the left or to the right are no decimals.
-/

namespace Crosswalk.Decimal

open Numeral

section

variable {digits : String} (hds : ∀ c ∈ digits.toList, c.isDigit) (hne : digits.toList ≠ [])
  (sign : Option Bool) (scale : Option Scale) (hscale : ∀ x ∈ scale, x.Proper)

include hds hne hscale

/-- Digits with a point among them or zeros in front of them are read as the digits at their place,
whatever sign and exponent they have. -/
lemma ofChars?_pointed (point : Int) (hpoint : point ≤ digits.toList.length) :
    ofChars? (signText sign ++ ((pointed digits point).toList ++
        (scale.map Scale.chars).getD [])) =
      some ⟨sign == some true, value digits.toList,
        (scale.map Scale.value).getD 0 - (digits.toList.length - point)⟩ := by
  unfold pointed
  dsimp only
  rw [← String.length_toList]
  -- the point stands in front of the digits, behind them, or among them
  by_cases hsmall : point ≤ 0
  · have hvalue := value_zeros_append ((-point).toNat + 1) digits.toList
    rw [List.replicate_succ, List.cons_append] at hvalue
    have hread := ofChars?_chars (w := ⟨sign, ['0'],
      some (List.replicate (-point).toNat '0' ++ digits.toList), scale⟩)
      ⟨by simp, Binary64.isDigit_append Binary64.isDigit_zeros hds, by simp, hscale⟩
    rw [if_pos hsmall]
    simpa [Writing.chars, Writing.numeral, Writing.places, Writing.exponent, zerosText, hvalue,
      sub_eq_add_neg, hsmall, add_comm] using hread
  rw [if_neg hsmall]
  by_cases hwhole : (digits.toList.length : Int) ≤ point
  · obtain rfl : point = digits.toList.length := by omega
    have hread := ofChars?_chars (w := ⟨sign, digits.toList, none, scale⟩)
      ⟨hds, by simp [Writing.places], .inl hne, hscale⟩
    rw [if_pos hwhole]
    simpa [Writing.chars, Writing.numeral, Writing.places, Writing.exponent, zerosText] using hread
  · have hread := ofChars?_chars (w := ⟨sign, digits.toList.take point.toNat,
      some (digits.toList.drop point.toNat), scale⟩)
      ⟨fun c hc => hds c (List.mem_of_mem_take hc), fun c hc => hds c (List.mem_of_mem_drop hc),
        .inl (by simp [hne]; omega), hscale⟩
    rw [if_neg hwhole]
    have hlength : ((digits.toList.length - point.toNat : Nat) : Int) = digits.toList.length - point := by
      omega
    simpa [Writing.chars, Writing.numeral, Writing.places, Writing.exponent, hlength] using hread

end

def scaleOf (x : Int) : Scale := ⟨true, some (x < 0), (toString x.natAbs).toList⟩

lemma chars_scaleOf (x : Int) : (scaleOf x).chars = ("E" ++ signedText x).toList := by
  by_cases hx : x < 0 <;> simp [scaleOf, Scale.chars, signedText, signText, hx]

lemma value_scaleOf (x : Int) : (scaleOf x).value = x := by
  rw [Scale.value, scaleOf, value_toString]
  simp only [Binary64.signed, beq_iff_eq, Option.some.injEq, decide_eq_true_eq]
  split <;> omega

lemma proper_scaleOf (x : Int) : (scaleOf x).Proper :=
  ⟨Binary64.toString_ne_nil _, fun _ hd => isDigit_of_mem hd⟩

/-- **The text of a finite decimal is read as its digits at their place.** -/
theorem ofChars?_text (s : Bool) (c : Nat) (e : Int) :
    ofChars? (finite s c e).text.toList = some ⟨s, c, e⟩ := by
  have hds : ∀ d ∈ (toString c).toList, d.isDigit := fun d hd => isDigit_of_mem hd
  have hne := Binary64.toString_ne_nil c
  have hlen : 0 < (toString c).toList.length := List.length_pos_iff.2 hne
  obtain ⟨sign, hsign, hneg⟩ := exists_signText s
  have hminus : (if s then "-" else "" : String).toList = signText sign := by
    rw [← hsign]
    cases s <;> rfl
  rw [text, String.toList_append, hminus, ← String.length_toList]
  -- a text has an exponent only if the point would be far from the digits
  by_cases hplain : e ≤ 0 ∧ -6 < e + ((toString c).toList.length : Int)
  · have hread := ofChars?_pointed hds hne sign none (by simp) (e + (toString c).toList.length)
      (by omega)
    rw [hneg, value_toString, Option.map_none, Option.map_none, Option.getD_none, Option.getD_none,
      List.append_nil] at hread
    rw [if_pos hplain, hread]
    congr 2
    omega
  · have hread := ofChars?_pointed hds hne sign
      (some (scaleOf (e + (toString c).toList.length - 1))) (by simpa using proper_scaleOf _) 1
      (by omega)
    rw [hneg, value_toString, Option.map_some, Option.map_some, Option.getD_some, Option.getD_some,
      chars_scaleOf, value_scaleOf, ← String.toList_append, ← String.append_assoc] at hread
    rw [if_neg hplain, hread]
    congr 2
    omega

/-! ### The decimals that texts can write -/

/-- The last digit does not stand too far right, nor the first one too far left. -/
def InReach : Decimal → Prop
  | .finite _ c e => minTextExponent ≤ e ∧ e + digitCount c - 1 ≤ maxTextAdjusted
  | _ => False

def ofNumeral (n : Numeral) : Decimal := .finite n.neg n.coefficient n.exponent

lemma ofNumeral?_eq_some {n : Numeral} {d : Decimal} :
    ofNumeral? n = some d ↔ ofNumeral n = d ∧ d.InReach := by
  rw [ofNumeral?, Option.ite_none_left_eq_some, Option.some.injEq, not_or, not_lt, not_lt]
  constructor
  · rintro ⟨hreach, rfl⟩
    exact ⟨rfl, hreach⟩
  · rintro ⟨rfl, hreach⟩
    exact ⟨hreach, rfl⟩

end Crosswalk.Decimal
