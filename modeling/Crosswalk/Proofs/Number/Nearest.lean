import Mathlib.Tactic.Linarith
import Crosswalk.Proofs.Number.Order

/-!
The nearest multiple of a unit, and of two that are equally near the one farther from zero.

The multiples that lie within half a unit of a number settle the matter: at most two do, and which of
them is taken depends on nothing but the number. So taking it keeps the order and the sign. A decimal
is put on an exponent by taking the nearest multiple of its power of ten.
-/

namespace Crosswalk

/-- The multiple `n · u` is the nearest to `q`, and the farther from zero of two that are. -/
def IsNearest (u q : ℚ) (n : ℤ) : Prop :=
  ∀ m : ℤ, m ≠ n → |q - n * u| < |q - m * u| ∨ (|q - n * u| = |q - m * u| ∧ |m| < |n|)

namespace IsNearest

variable {u q p : ℚ} {m n : ℤ}

lemma abs_sub_le (h : IsNearest u q n) (m : ℤ) : |q - n * u| ≤ |q - m * u| := by
  rcases eq_or_ne m n with rfl | hm
  · exact le_rfl
  · exact (h m hm).elim le_of_lt fun htie => htie.1.le

lemma unique (h : IsNearest u q n) (h' : IsNearest u q m) : m = n := by
  by_contra hm
  obtain hlt | ⟨-, hfar⟩ := h m hm
  · exact absurd (h'.abs_sub_le n) (not_le.2 hlt)
  · obtain hlt | ⟨-, hfar'⟩ := h' n (Ne.symm hm)
    · exact absurd (h.abs_sub_le m) (not_le.2 hlt)
    · exact lt_asymm hfar hfar'

lemma neg (h : IsNearest u q n) : IsNearest u (-q) (-n) := by
  have hdist : ∀ k : ℤ, |-q - (k : ℚ) * u| = |q - ((-k : ℤ) : ℚ) * u| := fun k => by
    rw [← abs_neg]
    push_cast
    ring_nf
  intro m hm
  have hother := h (-m) fun heq => hm (by rw [← heq, neg_neg])
  rwa [hdist, hdist, neg_neg, abs_neg, ← abs_neg m]

lemma le_middle {a b : ℚ} (hab : a < b) (h : |q - a| ≤ |q - b|) : 2 * q ≤ a + b := by
  have hsq := sq_le_sq.2 h
  nlinarith [hsq]

lemma middle_le {a b : ℚ} (hab : a < b) (h : |q - b| ≤ |q - a|) : a + b ≤ 2 * q := by
  have hsq := sq_le_sq.2 h
  nlinarith [hsq]

/-- **Taking the nearest multiple moves a number by at most half a unit.** -/
lemma abs_sub_le_half (hu : 0 < u) (h : IsNearest u q n) : |q - n * u| ≤ u / 2 := by
  have hright : (n : ℚ) * u < ((n + 1 : ℤ) : ℚ) * u := by
    push_cast
    linarith
  have hleft : ((n - 1 : ℤ) : ℚ) * u < (n : ℚ) * u := by
    push_cast
    linarith
  have hhigh := le_middle hright (h.abs_sub_le _)
  have hlow := middle_le hleft (h.abs_sub_le _)
  push_cast at hhigh hlow
  rw [abs_le]
  constructor <;> linarith

/-- **Taking the nearest multiple keeps the order.** -/
lemma mono (hu : 0 < u) (h : IsNearest u q n) (h' : IsNearest u p m) (hqp : q ≤ p) : n ≤ m := by
  rcases eq_or_lt_of_le hqp with rfl | hlt
  · exact (h'.unique h).le
  by_contra hmn
  have hcast : (m : ℚ) * u < n * u := mul_lt_mul_of_pos_right (by exact_mod_cast not_le.1 hmn) hu
  have hhigh := middle_le hcast (h.abs_sub_le m)
  have hlow := le_middle hcast (h'.abs_sub_le n)
  linarith

/-- The multiple within half a unit, where the half itself belongs to the farther one. -/
lemma of_halves (hu : 0 < u) (hq : 0 ≤ q) {n : Nat} (hlow : n * u - u / 2 ≤ q)
    (hhigh : q < n * u + u / 2) : IsNearest u q n := by
  have habs : |q - (n : ℤ) * u| ≤ u / 2 := by
    rw [abs_le]
    push_cast
    constructor <;> linarith
  intro m hm
  rcases lt_or_gt_of_ne hm with hlt | hgt
  · have hcast : (m : ℚ) + 1 ≤ n := by exact_mod_cast hlt
    have hstep : ((m : ℚ) + 1) * u ≤ n * u := mul_le_mul_of_nonneg_right hcast hu.le
    have hfar : u / 2 ≤ |q - m * u| := le_trans (by linarith) (le_abs_self _)
    rcases lt_or_eq_of_le (habs.trans hfar) with hnear | htie
    · exact .inl hnear
    · -- half-way between `n - 1` and `n`, where `n` is positive because `q` is not negative
      refine .inr ⟨htie, ?_⟩
      have hmid : q - m * u ≤ u / 2 := by
        have := le_abs_self (q - (m : ℚ) * u)
        rw [← htie] at this
        exact this.trans habs
      have hm0 : 0 ≤ m := by
        have hmu : -(1 : ℚ) < m := by
          by_contra hneg
          have := mul_le_mul_of_nonneg_right (not_lt.1 hneg) hu.le
          linarith
        have : (-1 : ℤ) < m := by exact_mod_cast hmu
        omega
      rw [abs_of_nonneg hm0, Nat.abs_cast]
      exact hlt
  · -- a multiple above is further away, as the half is not reached
    have hcast : (n : ℚ) + 1 ≤ m := by exact_mod_cast hgt
    have hstep : ((n : ℚ) + 1) * u ≤ m * u := mul_le_mul_of_nonneg_right hcast hu.le
    have hfar : u / 2 < |q - m * u| := lt_of_lt_of_le (by linarith) (neg_le_abs _)
    exact .inl (habs.trans_lt hfar)

end IsNearest

namespace Decimal

/-! ### Numbers on an exponent -/

lemma half_up_bounds (c : Nat) {d : Nat} (hd : 0 < d) :
    2 * ((2 * c + d) / (2 * d)) * d ≤ 2 * c + d ∧ 2 * c < 2 * ((2 * c + d) / (2 * d)) * d + d := by
  have hdiv := Nat.div_add_mod (2 * c + d) (2 * d)
  have hmod := Nat.mod_lt (2 * c + d) (show 0 < 2 * d by omega)
  have hcomm : 2 * d * ((2 * c + d) / (2 * d)) = 2 * ((2 * c + d) / (2 * d)) * d := by ring
  omega

/-- The digits in units of `10^g` are within half a unit. -/
lemma inUnits_halves (c : Nat) (e g : Int) :
    (inUnits c e g : ℚ) * 10 ^ g - 10 ^ g / 2 ≤ c * 10 ^ e ∧
      (c : ℚ) * 10 ^ e < inUnits c e g * 10 ^ g + 10 ^ g / 2 := by
  have hu : (0 : ℚ) < 10 ^ g := by positivity
  unfold inUnits
  -- digits that stay, digits that vanish, and digits that are cut
  split_ifs with hge hsmall
  · rw [magnitude_at hge c]
    constructor <;> linarith
  · have hlt : (c : ℚ) * 10 ^ e < 10 ^ (g - 1) :=
      (lt_zpow_digitCount c e).trans_le (zpow_le_zpow_right₀ (by norm_num) (by omega))
    have hten : (10 : ℚ) ^ g = 10 ^ (g - 1) * 10 := by
      rw [← zpow_add_one₀ (by norm_num), sub_add_cancel]
    have hc : (0 : ℚ) ≤ c * 10 ^ e := by positivity
    rw [Nat.cast_zero, zero_mul]
    constructor <;> linarith
  · dsimp only
    have hp : (0 : ℚ) < 10 ^ e := by positivity
    have hunit := zpow_at (show e ≤ g by omega)
    obtain ⟨hlow, hhigh⟩ := half_up_bounds c (show 0 < 10 ^ (g - e).toNat by positivity)
    generalize (2 * c + 10 ^ (g - e).toNat) / (2 * 10 ^ (g - e).toNat) = r at *
    have hlow' : 2 * (r : ℚ) * 10 ^ (g - e).toNat ≤ 2 * c + 10 ^ (g - e).toNat := by
      exact_mod_cast hlow
    have hhigh' : 2 * (c : ℚ) < 2 * r * 10 ^ (g - e).toNat + 10 ^ (g - e).toNat := by
      exact_mod_cast hhigh
    have hlow'' := mul_le_mul_of_nonneg_right hlow' hp.le
    have hhigh'' := mul_lt_mul_of_pos_right hhigh' hp
    rw [hunit]
    constructor <;> linarith

lemma isNearest_inUnits (s : Bool) (c : Nat) (e g : Int) :
    IsNearest (10 ^ g) (finite s c e).toRat (Binary64.signed s (inUnits c e g)) := by
  obtain ⟨hlow, hhigh⟩ := inUnits_halves c e g
  have hnear := IsNearest.of_halves (by positivity) (by positivity) hlow hhigh
  cases s with
  | false => exact hnear
  | true =>
    have hneg : (finite true c e).toRat = -((c : ℚ) * 10 ^ e) := by
      simp [toRat, Binary64.signed]
    rw [hneg]
    exact hnear.neg

lemma precision_lt_inUnits {c : Nat} (hc : c ≠ 0) {e g : Int}
    (h : (precision : Int) < digitCount c + e - g) :
    (precision : Int) < digitCount (inUnits c e g) := by
  obtain ⟨-, hhigh⟩ := inUnits_halves c e g
  have hu : (0 : ℚ) < 10 ^ g := by positivity
  have hlow : (10 : ℚ) ^ precision * 10 ^ g ≤ c * 10 ^ e := by
    rw [← zpow_natCast, ← zpow_add₀ (by norm_num)]
    exact (zpow_le_zpow_right₀ (by norm_num) (by omega)).trans (zpow_digitCount_le hc e)
  have hlt : (10 : ℚ) ^ precision < inUnits c e g + 1 := by
    refine lt_of_mul_lt_mul_right ?_ hu.le
    rw [add_mul, one_mul]
    linarith
  have hle : 10 ^ precision ≤ inUnits c e g := by
    have : 10 ^ precision < inUnits c e g + 1 := by exact_mod_cast hlt
    omega
  rw [digitCount, Nat.cast_lt, ← not_le, Binary64.digitCount_le_iff (by decide), not_lt]
  exact hle

lemma inUnits_zero (e g : Int) : inUnits 0 e g = 0 := by
  have hd : 0 < 10 ^ (g - e).toNat := by positivity
  unfold inUnits
  dsimp only
  split_ifs
  · rw [Nat.zero_mul]
  · rfl
  · rw [Nat.div_eq_zero_iff]
    omega

lemma inUnits_self (c : Nat) (g : Int) : inUnits c g g = c := by
  simp [inUnits]

lemma quantize_finite (g : Int) (s : Bool) (c : Nat) (e : Int) :
    quantize g (.finite s c e) =
      if (precision : Int) < digitCount (inUnits c e g) then .error .invalidOperation
      else .ok (.finite s (inUnits c e g) g) := by
  rw [quantize]
  by_cases hc : c = 0
  · rw [if_pos hc, hc, inUnits_zero, if_neg (by decide)]
  rw [if_neg hc]
  by_cases hlong : (precision : Int) < digitCount c + e - g
  · rw [if_pos hlong, if_pos (precision_lt_inUnits hc hlong)]
  · rw [if_neg hlong]

end Decimal

end Crosswalk
