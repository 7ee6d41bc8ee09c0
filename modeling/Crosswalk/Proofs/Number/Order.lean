import Mathlib.Algebra.Order.Field.Power
import Mathlib.Tactic.Positivity
import Mathlib.Tactic.Ring
import Crosswalk.Proofs.Number.Decimal

/-!
The order of decimals is that of the numbers they denote.

Numbers whose first digits stand at different places are ordered by these places, and others by their
digits at the lesser exponent.
-/

namespace Crosswalk

namespace Binary64

lemma digitCount_pos (c : Nat) : 0 < digitCount c := Nat.length_toDigits_pos

lemma digitCount_le_iff {c k : Nat} (hk : 0 < k) : digitCount c ≤ k ↔ c < 10 ^ k :=
  Nat.length_toDigits_le_iff (by decide) hk

lemma lt_pow_digitCount (c : Nat) : c < 10 ^ digitCount c :=
  (digitCount_le_iff (digitCount_pos c)).1 le_rfl

lemma pow_digitCount_le {c : Nat} (hc : c ≠ 0) : 10 ^ (digitCount c - 1) ≤ c := by
  rcases Nat.eq_zero_or_pos (digitCount c - 1) with h0 | hpos
  · rw [h0]
    exact Nat.one_le_iff_ne_zero.2 hc
  · by_contra hlt
    have hle := (digitCount_le_iff hpos).2 (not_le.1 hlt)
    omega

lemma digitCount_mul_pow_le (c j : Nat) : digitCount (c * 10 ^ j) ≤ digitCount c + j := by
  rw [digitCount_le_iff (Nat.add_pos_left (digitCount_pos c) j), Nat.pow_add]
  exact Nat.mul_lt_mul_of_pos_right (lt_pow_digitCount c) (by positivity)

end Binary64

namespace Decimal

/-- The number that a finite decimal denotes. -/
def toRat : Decimal → ℚ
  | .finite s c e => Binary64.signed s c * 10 ^ e
  | _ => 0

/-! ### Magnitudes -/

lemma lt_zpow_digitCount (c : Nat) (e : Int) : (c : ℚ) * 10 ^ e < 10 ^ (e + digitCount c) := by
  have h : (c : ℚ) < 10 ^ Binary64.digitCount c := by
    exact_mod_cast Binary64.lt_pow_digitCount c
  rw [digitCount, zpow_add₀ (by norm_num), zpow_natCast, mul_comm]
  exact mul_lt_mul_of_pos_left h (by positivity)

lemma zpow_digitCount_le {c : Nat} (hc : c ≠ 0) (e : Int) :
    10 ^ (e + digitCount c - 1) ≤ (c : ℚ) * 10 ^ e := by
  have h : (10 : ℚ) ^ (Binary64.digitCount c - 1) ≤ c := by
    exact_mod_cast Binary64.pow_digitCount_le hc
  have hpos := Binary64.digitCount_pos c
  rw [digitCount, show e + (Binary64.digitCount c : Int) - 1 =
    ((Binary64.digitCount c - 1 : Nat) : Int) + e by omega, zpow_add₀ (by norm_num), zpow_natCast]
  exact mul_le_mul_of_nonneg_right h (by positivity)

lemma magnitude_lt {a b : Nat} (hb : b ≠ 0) {e f : Int}
    (h : e + digitCount a < f + digitCount b) : (a : ℚ) * 10 ^ e < b * 10 ^ f :=
  calc (a : ℚ) * 10 ^ e < 10 ^ (e + digitCount a) := lt_zpow_digitCount a e
    _ ≤ 10 ^ (f + digitCount b - 1) := zpow_le_zpow_right₀ (by norm_num) (by omega)
    _ ≤ b * 10 ^ f := zpow_digitCount_le hb f

lemma zpow_at {g e : Int} (h : g ≤ e) : (10 : ℚ) ^ e = 10 ^ (e - g).toNat * 10 ^ g := by
  rw [← zpow_natCast, Int.toNat_of_nonneg (by omega), ← zpow_add₀ (by norm_num), sub_add_cancel]

lemma magnitude_at {g e : Int} (h : g ≤ e) (c : Nat) :
    (c : ℚ) * 10 ^ e = (c * 10 ^ (e - g).toNat : Nat) * 10 ^ g := by
  rw [zpow_at h]
  push_cast
  ring

lemma compare_scaled {p : ℚ} (hp : 0 < p) (m n : Nat) :
    compare ((m : ℚ) * p) (n * p) = compare m n := by
  rcases h : compare m n
  · rw [compare_lt_iff_lt] at h ⊢
    exact mul_lt_mul_of_pos_right (by exact_mod_cast h) hp
  · rw [compare_eq_iff_eq] at h ⊢
    rw [h]
  · rw [compare_gt_iff_gt] at h ⊢
    exact mul_lt_mul_of_pos_right (by exact_mod_cast h) hp

lemma magnitude_pos {c : Nat} (hc : c ≠ 0) (e : Int) : (0 : ℚ) < c * 10 ^ e := by
  have : 0 < c := Nat.pos_of_ne_zero hc
  positivity

lemma compareMagnitude_eq (a : Nat) (e : Int) (b : Nat) (f : Int) :
    compareMagnitude a e b f = compare ((a : ℚ) * 10 ^ e) (b * 10 ^ f) := by
  unfold compareMagnitude
  dsimp only
  split_ifs with ha hb hb hlt hgt
  · simp [ha, hb]
  · rw [ha, Nat.cast_zero, zero_mul, eq_comm, compare_lt_iff_lt]
    exact magnitude_pos hb f
  · rw [hb, Nat.cast_zero, zero_mul, eq_comm, compare_gt_iff_gt]
    exact magnitude_pos ha e
  · rw [eq_comm, compare_lt_iff_lt]
    exact magnitude_lt hb hlt
  · rw [eq_comm, compare_gt_iff_gt]
    exact magnitude_lt ha hgt
  · rw [magnitude_at (min_le_left e f) a, magnitude_at (min_le_right e f) b,
      compare_scaled (by positivity)]

/-! ### Signs -/

lemma toRat_finite (s : Bool) (c : Nat) (e : Int) : (finite s c e).toRat =
    if (s && c != 0) = true then -((c : ℚ) * 10 ^ e) else (c : ℚ) * 10 ^ e := by
  rcases eq_or_ne c 0 with rfl | hc
  · simp [toRat, Binary64.signed]
  · cases s <;> simp [toRat, Binary64.signed, hc]

lemma compare_neg_neg (x y : ℚ) : compare (-x) (-y) = compare y x := by
  rcases h : compare y x
  · rw [compare_lt_iff_lt] at h ⊢
    exact neg_lt_neg h
  · rw [compare_eq_iff_eq] at h ⊢
    rw [h]
  · rw [compare_gt_iff_gt] at h ⊢
    exact neg_lt_neg h

/-- **The order of finite decimals** is that of the numbers they denote. -/
theorem compare?_finite {x y : Decimal} (hx : x.isFinite) (hy : y.isFinite) :
    compare? x y = some (compare x.toRat y.toRat) := by
  obtain ⟨s, a, e, rfl⟩ := isFinite_iff.1 hx
  obtain ⟨t, b, f, rfl⟩ := isFinite_iff.1 hy
  have ha : (0 : ℚ) ≤ a * 10 ^ e := by positivity
  have hb : (0 : ℚ) ≤ b * 10 ^ f := by positivity
  rw [toRat_finite, toRat_finite, compare?]
  rcases hs : (s && a != 0) <;> rcases ht : (t && b != 0)
  · simp [compareMagnitude_eq]
  · have hpos : (0 : ℚ) < b * 10 ^ f := magnitude_pos (by simp_all) f
    simp only [Bool.false_eq_true, if_false, if_true, Option.some.injEq]
    exact (compare_gt_iff_gt.2 ((neg_neg_of_pos hpos).trans_le ha)).symm
  · have hpos : (0 : ℚ) < a * 10 ^ e := magnitude_pos (by simp_all) e
    simp only [Bool.true_eq_false, Bool.false_eq_true, if_false, if_true, Option.some.injEq]
    exact (compare_lt_iff_lt.2 ((neg_neg_of_pos hpos).trans_le hb)).symm
  · simp [compareMagnitude_eq, compare_neg_neg]

end Decimal

end Crosswalk
