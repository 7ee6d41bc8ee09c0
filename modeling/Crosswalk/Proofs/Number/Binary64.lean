import Mathlib.Algebra.Order.Field.Power
import Mathlib.Tactic.FieldSimp
import Mathlib.Tactic.Linarith
import Mathlib.Tactic.Positivity
import Mathlib.Tactic.Ring
import Crosswalk.Number.Binary64

/-!
Rounding to binary64 gives numbers of the format.

`ratioLog` is the exponent of the leading bit of a quotient, so the quotient scaled by it has a
mantissa of 53 bits, or of fewer at the smallest exponent. A mantissa that rounds up to `2^53` is
the smallest of the next exponent.
-/

namespace Crosswalk

lemma div_le_divNearestEven (n d : Nat) : n / d ≤ divNearestEven n d := by
  unfold divNearestEven
  dsimp only
  split_ifs <;> omega

lemma divNearestEven_le (n d : Nat) : divNearestEven n d ≤ n / d + 1 := by
  unfold divNearestEven
  dsimp only
  split_ifs <;> omega

namespace Binary64

variable {n d : Nat}

lemma zpow_eq_div {b : ℚ} (e : Int) : b ^ e = b ^ e.toNat / b ^ (-e).toNat := by
  rcases le_total 0 e with h | h
  · rw [show (-e).toNat = 0 by omega, pow_zero, div_one, ← zpow_natCast, Int.toNat_of_nonneg h]
  · rw [show e.toNat = 0 by omega, pow_zero, one_div, ← zpow_natCast, ← zpow_neg,
      Int.toNat_of_nonneg (by omega), neg_neg]

lemma zpow_le_ratio_iff (hd : d ≠ 0) (e : Int) :
    (2 : ℚ) ^ e ≤ n / d ↔ d * 2 ^ e.toNat ≤ n * 2 ^ (-e).toNat := by
  have hd' : (0 : ℚ) < d := by positivity
  rw [zpow_eq_div, div_le_div_iff₀ (by positivity) hd', mul_comm]
  exact_mod_cast Iff.rfl

lemma log2_le_ratio (hn : n ≠ 0) (hd : d ≠ 0) :
    (2 : ℚ) ^ ((n.log2 : Int) - d.log2 - 1) ≤ n / d := by
  have h1 : (2 : ℚ) ^ n.log2 ≤ n := by exact_mod_cast Nat.log2_self_le hn
  have h2 : (d : ℚ) ≤ 2 ^ (d.log2 + 1) := by exact_mod_cast Nat.lt_log2_self.le
  have hd' : (0 : ℚ) < d := by positivity
  rw [sub_sub, zpow_sub₀ two_ne_zero, zpow_natCast, ← Nat.cast_succ, zpow_natCast]
  exact div_le_div₀ (by positivity) h1 hd' h2

lemma ratio_lt_log2 (hd : d ≠ 0) : (n / d : ℚ) < 2 ^ ((n.log2 : Int) - d.log2 + 1) := by
  have h1 : (n : ℚ) < 2 ^ (n.log2 + 1) := by exact_mod_cast Nat.lt_log2_self
  have h2 : (2 : ℚ) ^ d.log2 ≤ d := by exact_mod_cast Nat.log2_self_le hd
  rw [show (n.log2 : Int) - d.log2 + 1 = ((n.log2 + 1 : Nat) : Int) - d.log2 by push_cast; ring,
    zpow_sub₀ two_ne_zero, zpow_natCast, zpow_natCast]
  exact div_lt_div₀ h1 h2 (by positivity) (by positivity)

theorem ratioLog_spec (hn : n ≠ 0) (hd : d ≠ 0) :
    (2 : ℚ) ^ ratioLog n d ≤ n / d ∧ (n / d : ℚ) < 2 ^ (ratioLog n d + 1) := by
  unfold ratioLog
  dsimp only
  split_ifs with h
  · exact ⟨(zpow_le_ratio_iff hd _).2 h, ratio_lt_log2 hd⟩
  · refine ⟨log2_le_ratio hn hd, ?_⟩
    rw [← zpow_le_ratio_iff hd, not_le] at h
    simpa using h

lemma scaled_ratio (e : Int) :
    ((n * 2 ^ (-e).toNat : Nat) : ℚ) / (d * 2 ^ e.toNat : Nat) = n / d / 2 ^ e := by
  rw [zpow_eq_div]
  push_cast
  field_simp

lemma mantissa_lt (hn : n ≠ 0) (hd : d ≠ 0) {e : Int} (he : ratioLog n d - 52 ≤ e) :
    n * 2 ^ (-e).toNat / (d * 2 ^ e.toNat) < 2 ^ 53 := by
  have hD : 0 < d * 2 ^ e.toNat := by positivity
  rw [Nat.div_lt_iff_lt_mul hD]
  have hD' : (0 : ℚ) < (d * 2 ^ e.toNat : Nat) := by exact_mod_cast hD
  have h := (ratioLog_spec hn hd).2
  have hs : ((n * 2 ^ (-e).toNat : Nat) : ℚ) / (d * 2 ^ e.toNat : Nat) < 2 ^ 53 := by
    rw [scaled_ratio, div_lt_iff₀ (by positivity), ← zpow_natCast, ← zpow_add₀ two_ne_zero]
    exact h.trans_le (zpow_le_zpow_right₀ one_le_two (by push_cast; omega))
  rw [div_lt_iff₀ hD'] at hs
  exact_mod_cast hs

lemma le_mantissa (hn : n ≠ 0) (hd : d ≠ 0) {e : Int} (he : e ≤ ratioLog n d - 52) :
    2 ^ 52 ≤ n * 2 ^ (-e).toNat / (d * 2 ^ e.toNat) := by
  have hD : 0 < d * 2 ^ e.toNat := by positivity
  rw [Nat.le_div_iff_mul_le hD]
  have hD' : (0 : ℚ) < (d * 2 ^ e.toNat : Nat) := by exact_mod_cast hD
  have h := (ratioLog_spec hn hd).1
  have hs : (2 : ℚ) ^ 52 ≤ ((n * 2 ^ (-e).toNat : Nat) : ℚ) / (d * 2 ^ e.toNat : Nat) := by
    rw [scaled_ratio, le_div_iff₀ (by positivity), ← zpow_natCast, ← zpow_add₀ two_ne_zero]
    exact le_trans (zpow_le_zpow_right₀ one_le_two (by push_cast; omega)) h
  rw [le_div_iff₀ hD'] at hs
  exact_mod_cast hs

lemma canonical_zero (neg : Bool) : (zero neg).Canonical := by
  simp [zero, Canonical, minExponent, maxExponent]

lemma carried_canonical (neg : Bool) {m : Nat} {e : Int} (hm : m ≤ 2 ^ 53) (he : minExponent ≤ e)
    (hbig : 2 ^ 52 ≤ m ∨ e = minExponent) :
    (let (m, e) := if m = 2 ^ 53 then (2 ^ 52, e + 1) else (m, e)
      if maxExponent < e then infinite neg else finite neg m e).Canonical := by
  by_cases h53 : m = 2 ^ 53
  · simp only [h53, if_true]
    split_ifs with hinf
    · trivial
    · exact ⟨by norm_num, by omega, by omega, .inl le_rfl⟩
  · simp only [h53, if_false]
    split_ifs with hinf
    · trivial
    · exact ⟨by omega, he, by omega, hbig⟩

/-- **Rounding stays in the format.** -/
theorem ofRatio_canonical (neg : Bool) (n d : Nat) : (ofRatio neg n d).Canonical := by
  by_cases h0 : n = 0 ∨ d = 0
  · simpa only [ofRatio, if_pos h0] using canonical_zero neg
  obtain ⟨hn, hd⟩ := not_or.1 h0
  rw [ofRatio, if_neg h0]
  have hlt := mantissa_lt hn hd (le_max_left _ minExponent)
  have hle := divNearestEven_le (n * 2 ^ (-(max (ratioLog n d - 52) minExponent)).toNat)
    (d * 2 ^ (max (ratioLog n d - 52) minExponent).toNat)
  refine carried_canonical neg (by omega) (le_max_right _ _) ?_
  rcases le_total (ratioLog n d - 52) minExponent with h | h
  · exact .inr (max_eq_right h)
  · exact .inl ((le_mantissa hn hd (max_eq_left h).le).trans (div_le_divNearestEven _ _))

theorem ofDigits_canonical (neg : Bool) (c : Nat) (e : Int) : (ofDigits neg c e).Canonical := by
  unfold ofDigits
  dsimp only
  split_ifs
  · exact canonical_zero neg
  · trivial
  · exact canonical_zero neg
  · exact ofRatio_canonical _ _ _

lemma isNaN_ofDigits (neg : Bool) (c : Nat) (e : Int) : (ofDigits neg c e).isNaN = false := by
  unfold ofDigits ofRatio
  dsimp only
  split_ifs <;> rfl

@[simp] lemma natAbs_signed (neg : Bool) (m : Nat) : (signed neg m).natAbs = m := by
  unfold signed
  split <;> simp

lemma abs_signed_mul (s : Bool) (m : Nat) {p : ℚ} (hp : 0 ≤ p) : |(signed s m : ℚ) * p| = m * p := by
  rw [abs_mul, abs_of_nonneg hp, ← Int.cast_abs, Int.abs_eq_natAbs, natAbs_signed, Int.cast_natCast]

lemma signed_natAbs (n : Int) : signed (decide (n < 0)) n.natAbs = n := by
  unfold signed
  split_ifs with h
  · have := of_decide_eq_true h
    omega
  · have := mt decide_eq_true h
    omega

lemma natAbs_lt_of_exponent_le {s : Bool} {m k : Nat} {e n : Int} (hm : m < 2 ^ 53) (he : e ≤ k)
    (h : (finite s m e).toInt? = some n) : n.natAbs < 2 ^ (53 + k) := by
  rw [toInt?] at h
  split at h
  · obtain rfl := Option.some.inj h
    have hp : 2 ^ e.toNat ≤ 2 ^ k := Nat.pow_le_pow_right two_pos (by omega)
    rw [natAbs_signed]
    calc m * 2 ^ e.toNat / 2 ^ (-e).toNat ≤ m * 2 ^ e.toNat := Nat.div_le_self _ _
      _ ≤ m * 2 ^ k := Nat.mul_le_mul_left _ hp
      _ < 2 ^ 53 * 2 ^ k := Nat.mul_lt_mul_of_pos_right hm (by positivity)
      _ = 2 ^ (53 + k) := (Nat.pow_add 2 53 k).symm
  · simp at h

lemma natAbs_lt_of_toInt? {x : Binary64} (hx : x.Canonical) {n : Int} (h : x.toInt? = some n) :
    n.natAbs < 2 ^ (53 + maxExponent.toNat) := by
  rcases x with _ | _ | ⟨s, m, e⟩
  · simp [toInt?] at h
  · simp [toInt?] at h
  · obtain ⟨hm, -, he, -⟩ := hx
    exact natAbs_lt_of_exponent_le hm (he.trans (Int.self_le_toNat _)) h

end Binary64

end Crosswalk
