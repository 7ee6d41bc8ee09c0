import Crosswalk.Proofs.Number.Exact
import Crosswalk.Proofs.Number.Range

/-!
The quantities that numbers denote.

Finite numbers denote rationals, whether they are binary or decimal, and infinite ones the infinities. A
binary number has a decimal that denotes the same, and decimals compare as equal if they denote the same.
-/

namespace Crosswalk

/-- A rational number or an infinity. -/
inductive Quantity where
  | finite (q : ℚ)
  | infinite (neg : Bool)

/-- The quantity that a binary number denotes, none if it is not a number. -/
def Binary64.quantity? : Binary64 → Option Quantity
  | .nan => none
  | .infinite s => some (.infinite s)
  | x@(.finite ..) => some (.finite x.toRat)

namespace Decimal

/-- The quantity that a decimal denotes, none if it is not a number. -/
def quantity? : Decimal → Option Quantity
  | .nan => none
  | .infinite s => some (.infinite s)
  | x@(.finite ..) => some (.finite x.toRat)

variable {x y : Decimal}

lemma quantity?_of_isFinite (h : x.isFinite) : x.quantity? = some (.finite x.toRat) := by
  obtain ⟨s, c, e, rfl⟩ := isFinite_iff.1 h
  rfl

lemma quantity?_ofInt (n : Int) : (ofInt n).quantity? = some (.finite n) := by
  rw [quantity?_of_isFinite rfl, toRat_ofInt]

/-- **Decimals compare as equal** exactly if they denote the same quantity. -/
theorem compare?_eq_iff (hx : x.isNaN = false) (y : Decimal) :
    compare? x y = some .eq ↔ x.quantity? = y.quantity? := by
  cases x with
  | nan => cases hx
  | infinite s =>
    cases y with
    | nan => simp [compare?, quantity?]
    | infinite t => cases s <;> cases t <;> simp [compare?, quantity?]
    | finite t d f => cases s <;> simp [compare?, quantity?]
  | finite s c e =>
    cases y with
    | nan => simp [compare?, quantity?]
    | infinite t => cases t <;> simp [compare?, quantity?]
    | finite t d f =>
      rw [compare?_finite rfl rfl]
      simp only [quantity?, Option.some.injEq, Quantity.finite.injEq, compare_eq_iff_eq]

lemma isFinite_ofBinary64 (s : Bool) (m : Nat) (e : Int) :
    (ofBinary64 (.finite s m e)).isFinite := by
  rw [ofBinary64]
  split_ifs <;> rfl

lemma isNaN_ofBinary64 (x : Binary64) : (ofBinary64 x).isNaN = x.isNaN := by
  cases x with
  | nan => rfl
  | infinite s => rfl
  | finite s m e =>
    rw [ofBinary64]
    split_ifs <;> rfl

/-- **The decimal of a binary number** denotes the same. -/
theorem toRat_ofBinary64 (s : Bool) (m : Nat) (e : Int) :
    (ofBinary64 (.finite s m e)).toRat = (Binary64.finite s m e).toRat := by
  rw [ofBinary64, Binary64.toRat]
  by_cases he : 0 ≤ e
  · obtain ⟨k, rfl⟩ := Int.eq_ofNat_of_zero_le he
    rw [if_pos he, toRat]
    cases s <;> simp [Binary64.signed]
  · -- every halving of the mantissa is a tenth of its quintuple
    obtain ⟨k, rfl⟩ : ∃ k : Nat, e = -k := ⟨(-e).toNat, by omega⟩
    have hpow : (5 : ℚ) ^ k * (10 ^ k)⁻¹ = (2 ^ k)⁻¹ := by
      rw [show (10 : ℚ) = 5 * 2 by norm_num, mul_pow, mul_inv, ← mul_assoc,
        mul_inv_cancel₀ (by positivity), one_mul]
    rw [if_neg he, toRat, neg_neg, Int.toNat_natCast, zpow_neg, zpow_neg, zpow_natCast, zpow_natCast,
      ← hpow, ← mul_assoc]
    cases s <;> simp [Binary64.signed]

lemma quantity?_ofBinary64 (x : Binary64) : (ofBinary64 x).quantity? = x.quantity? := by
  cases x with
  | nan => rfl
  | infinite s => rfl
  | finite s m e =>
    rw [quantity?_of_isFinite (isFinite_ofBinary64 s m e), toRat_ofBinary64]
    rfl

end Decimal

end Crosswalk
