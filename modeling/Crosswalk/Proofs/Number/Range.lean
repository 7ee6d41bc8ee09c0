import Mathlib.Data.Rat.Floor
import Crosswalk.Proofs.Fallible
import Crosswalk.Proofs.Number.Reread
import Crosswalk.Proofs.Number.Whole

/-!
Where arithmetic overflows.

In either format the largest numbers stand half a unit of their last place below the first number that
rounds past them. Binary operations give an infinity from there on, decimal ones have no result: in both
the exact result alone decides, so the sticky digit of a decimal quotient changes nothing.
-/

namespace Crosswalk

open Fallible

/-- A quotient rounds up to an even number from half a unit below it on. -/
lemma le_divNearestEven_iff {b n d : Nat} (hd : d ≠ 0) (heven : b % 2 = 0) :
    b ≤ divNearestEven n d ↔ (b : ℚ) - 1 / 2 ≤ n / d := by
  have hd' : (0 : ℚ) < d := by positivity
  have hhalf : (b : ℚ) - 1 / 2 ≤ n / d ↔ 2 * b * d ≤ 2 * n + d := by
    rw [le_div_iff₀ hd', sub_mul, sub_le_iff_le_add]
    constructor
    · intro h
      have hdouble : (2 * b * d : ℚ) ≤ 2 * n + d := by linarith
      exact_mod_cast hdouble
    · intro h
      have hdouble : (2 * b * d : ℚ) ≤ 2 * n + d := by exact_mod_cast h
      linarith
  have hdivision : d * (n / d) + n % d = n := Nat.div_add_mod n d
  have hrest : n % d < d := Nat.mod_lt _ (Nat.pos_of_ne_zero hd)
  rw [hhalf]
  rcases lt_trichotomy (n / d + 1) b with hlow | hat | hhigh
  · -- a quotient further below stays below
    have hround := divNearestEven_le n d
    have hstep : (n / d + 2) * d ≤ b * d := Nat.mul_le_mul_right d hlow
    constructor
    · omega
    · intro h
      nlinarith
  · -- the number below is odd, so its tie goes up
    have hodd : (n / d) % 2 = 1 := by omega
    have hround : b ≤ divNearestEven n d ↔ d ≤ 2 * (n % d) := by
      unfold divNearestEven
      dsimp only
      split_ifs <;> omega
    rw [hround, ← hat]
    constructor
    · intro h
      nlinarith
    · intro h
      nlinarith
  · -- a quotient that reaches the number is not rounded below it
    have hround := div_le_divNearestEven n d
    have hstep : b * d ≤ n := (Nat.mul_le_mul_right d (by omega)).trans (Nat.div_mul_le_self n d)
    constructor
    · intro _
      linarith
    · omega

namespace Binary64

/-- From here on a number rounds past the largest one of the format. -/
def limit : ℚ := (2 ^ 53 - 1 / 2) * 2 ^ maxExponent

lemma limit_lt : limit < 2 ^ (maxExponent + 53) := by
  have hunit : (0 : ℚ) < 2 ^ maxExponent := by positivity
  rw [limit, add_comm, zpow_add₀ two_ne_zero]
  exact mul_lt_mul_of_pos_right (by norm_num) hunit

lemma lt_limit : 2 ^ (maxExponent + 52) < limit := by
  have hunit : (0 : ℚ) < 2 ^ maxExponent := by positivity
  rw [limit, add_comm, zpow_add₀ two_ne_zero]
  exact mul_lt_mul_of_pos_right (by norm_num) hunit

variable {s t : Bool} {n d m : Nat} {e : Int} {x y : Binary64}

/-- The number that a finite binary number denotes. -/
def toRat : Binary64 → ℚ
  | .finite s m e => signed s m * 2 ^ e
  | _ => 0

lemma isFinite_iff : x.isFinite ↔ ∃ s m e, x = finite s m e := by
  cases x <;> simp [isFinite]

end Binary64

namespace Decimal

/-- From here on a number rounds past the largest one that arithmetic can hold. -/
def limit : ℚ := (10 ^ precision - 1 / 2) * 10 ^ maxLast

lemma limit_lt : limit < 10 ^ (maxLast + 28) := by
  have hunit : (0 : ℚ) < 10 ^ maxLast := by positivity
  rw [limit, add_comm, zpow_add₀ (by norm_num)]
  exact mul_lt_mul_of_pos_right (by norm_num [precision]) hunit

lemma lt_limit : 10 ^ (maxLast + 27) < limit := by
  have hunit : (0 : ℚ) < 10 ^ maxLast := by positivity
  rw [limit, add_comm, zpow_add₀ (by norm_num)]
  exact mul_lt_mul_of_pos_right (by norm_num [precision]) hunit

lemma limit_pos : 0 < limit := lt_trans (by positivity) lt_limit

variable {s t : Bool} {a b c r : Nat} {e f last : Int} {x y z : Decimal}

lemma fails_carried (hr : r ≤ 10 ^ precision) (hlast : last ≤ maxLast) :
    Fails (let (r, last) := if r = 10 ^ precision then (10 ^ (precision - 1), last + 1) else (r, last)
      if maxLast < last then .error .overflow else .ok (finite s r last) : Except Signal Decimal) ↔
    last = maxLast ∧ 10 ^ precision ≤ r := by
  by_cases hcarry : r = 10 ^ precision
  · simp only [hcarry, if_true]
    split_ifs with hover
    · simp only [fails_error, true_iff]
      omega
    · simp only [fails_ok, false_iff]
      omega
  · simp only [hcarry, if_false]
    split_ifs with hover
    · simp only [fails_error, true_iff]
      omega
    · simp only [fails_ok, false_iff]
      omega

lemma rounded_le (h : digitCount c + e - precision ≤ last) (hlt : e < last) :
    (if digitCount c < last - e then 0 else divNearestEven c (10 ^ (last - e).toNat)) ≤ 10 ^ precision := by
  split_ifs
  · exact Nat.zero_le _
  obtain ⟨k, hk⟩ : ∃ k : Nat, last - e = k := ⟨(last - e).toNat, by omega⟩
  have hdigits : Binary64.digitCount c ≤ precision + k := by
    simp only [digitCount] at h
    omega
  have hbound : c < 10 ^ precision * 10 ^ k :=
    calc c < 10 ^ Binary64.digitCount c := Binary64.lt_pow_digitCount c
      _ ≤ 10 ^ (precision + k) := Nat.pow_le_pow_right (by decide) hdigits
      _ = 10 ^ precision * 10 ^ k := Nat.pow_add ..
  have hquotient : c / 10 ^ k < 10 ^ precision := (Nat.div_lt_iff_lt_mul (by positivity)).2 hbound
  rw [hk, Int.toNat_natCast]
  exact (divNearestEven_le c (10 ^ k)).trans hquotient

lemma lt_limit_of_point (h : e + digitCount c < maxLast + 28) : (c : ℚ) * 10 ^ e < limit :=
  calc (c : ℚ) * 10 ^ e < 10 ^ (e + digitCount c) := lt_zpow_digitCount c e
    _ ≤ 10 ^ (maxLast + 27) := zpow_le_zpow_right₀ (by norm_num) (by omega)
    _ < limit := lt_limit

lemma limit_le_of_point (hc : c ≠ 0) (h : maxLast + 28 < e + digitCount c) : limit ≤ (c : ℚ) * 10 ^ e :=
  calc limit ≤ 10 ^ (maxLast + 28) := limit_lt.le
    _ ≤ 10 ^ (e + digitCount c - 1) := zpow_le_zpow_right₀ (by norm_num) (by omega)
    _ ≤ c * 10 ^ e := zpow_digitCount_le hc e

lemma lt_limit_of_whole (hat : e + digitCount c = maxLast + 28) (he : maxLast ≤ e) :
    (c : ℚ) * 10 ^ e < limit := by
  have hunit : (0 : ℚ) < 10 ^ maxLast := by positivity
  have hunits := magnitude_at he c
  have hhigh := lt_zpow_digitCount c e
  rw [hunits, hat, add_comm, zpow_add₀ (by norm_num)] at hhigh
  have hdigits := lt_of_mul_lt_mul_right hhigh hunit.le
  have hwhole : (c * 10 ^ (e - maxLast).toNat : Nat) + (1 : ℚ) ≤ 10 ^ precision := by
    exact_mod_cast hdigits
  rw [hunits, limit]
  refine mul_lt_mul_of_pos_right ?_ hunit
  linarith

lemma limit_le_iff_rounded (he : e ≤ maxLast) :
    limit ≤ (c : ℚ) * 10 ^ e ↔ 10 ^ precision ≤ divNearestEven c (10 ^ (maxLast - e).toNat) := by
  have hunit : (0 : ℚ) < 10 ^ maxLast := by positivity
  have hscaled : (c : ℚ) * 10 ^ e = c / (10 ^ (maxLast - e).toNat : Nat) * 10 ^ maxLast := by
    rw [zpow_at he]
    push_cast
    field_simp
  rw [le_divNearestEven_iff (by positivity) (by decide), limit, hscaled, mul_le_mul_iff_left₀ hunit]
  simp only [Nat.cast_pow, Nat.cast_ofNat]

/-- **Arithmetic has no result from the limit on.** -/
theorem fails_fit (s : Bool) (c : Nat) (e : Int) : Fails (fit s c e) ↔ limit ≤ c * 10 ^ e := by
  by_cases hc : c = 0
  · rw [fit, if_pos hc, hc]
    simpa using limit_pos
  have hmin : minExponent < maxLast := by decide
  have hprecision : (precision : Int) = 28 := rfl
  rw [fit, if_neg hc]
  dsimp only
  -- only with its point at the last place does the rounding of the digits decide
  rcases lt_trichotomy (e + digitCount c) (maxLast + 28) with hless | hat | hmore
  · refine iff_of_false ?_ (lt_limit_of_point hless).not_ge
    rw [if_neg (by omega)]
    by_cases hshift : e < max (digitCount c + e - precision) minExponent
    · rw [if_pos hshift, fails_carried (rounded_le (le_max_left _ _) hshift) (by omega)]
      omega
    · rw [if_neg hshift]
      exact not_fails.2 ⟨_, rfl⟩
  · have hlast : digitCount c + e - precision = maxLast := by omega
    rw [hlast, if_neg (lt_irrefl _), max_eq_left hmin.le]
    by_cases hshift : e < maxLast
    · rw [if_pos hshift, fails_carried (rounded_le hlast.le hshift) le_rfl, if_neg (by omega),
        limit_le_iff_rounded hshift.le]
      simp only [true_and]
    · rw [if_neg hshift]
      exact iff_of_false (not_fails.2 ⟨_, rfl⟩) (lt_limit_of_whole hat (not_lt.1 hshift)).not_ge
  · refine iff_of_true ?_ (limit_le_of_point hc hmore)
    rw [if_pos (by omega)]
    simp

/-! ### Quotients -/

lemma fails_add_zero (hx : x.isFinite) (hy : y.isFinite) (hzero : y.toRat = 0) :
    Fails (x.add y) ↔ limit ≤ |x.toRat| := by
  obtain ⟨s, a, e, rfl⟩ := isFinite_iff.1 hx
  obtain ⟨t, b, f, rfl⟩ := isFinite_iff.1 hy
  have hb : b = 0 := by
    by_contra hb
    have hpos := magnitude_pos hb f
    rw [← abs_signed_mul t, ← toRat, hzero, abs_zero] at hpos
    exact lt_irrefl _ hpos
  rw [toRat, abs_signed_mul, add, addFinite]
  dsimp only
  by_cases ha : a = 0
  · rw [if_pos ⟨ha, hb⟩, fails_fit, ha, Nat.cast_zero, zero_mul, zero_mul]
  · have hplace : max (min e f) (e - precision - 1) ≤ e := by
      simp only [precision]
      omega
    rw [if_neg (fun h => ha h.1), if_neg ha, if_pos hb, fails_fit, ← magnitude_at hplace]

end Decimal

end Crosswalk
