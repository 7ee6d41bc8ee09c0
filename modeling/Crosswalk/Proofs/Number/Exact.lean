import Mathlib.Tactic.Linarith
import Crosswalk.Proofs.Number.Binary64
import Crosswalk.Proofs.Number.Order

/-!
Results that arithmetic does not round.

A number of at most 28 digits is a multiple of the place at which arithmetic rounds numbers of its size,
so nothing is lost there. The same holds of the place below which the lesser of two summands counts as
one unit: a summand that small does not end in a sum of 28 digits.
-/

namespace Crosswalk

lemma divNearestEven_mul_right (m : Nat) {d : Nat} (hd : 0 < d) : divNearestEven (m * d) d = m := by
  simp [divNearestEven, hd]

namespace Decimal

open Binary64 (signed)

lemma toRat_ofInt (n : Int) : (ofInt n).toRat = n := by
  rw [ofInt, toRat, Binary64.signed_natAbs, zpow_zero, mul_one]

/-- The least exponent of a first digit that is not subnormal. -/
def minAdjusted : Int := -999999

/-- Arithmetic can hold the number: it has at most 28 digits, and the first of them stands at an exponent
of the normal numbers. -/
structure Kept (q : ℚ) : Prop where
  short : ∃ n k : ℤ, n.natAbs < 10 ^ precision ∧ q = n * 10 ^ k
  normal : q ≠ 0 → 10 ^ minAdjusted ≤ |q| ∧ |q| < 10 ^ (maxAdjusted + 1)

variable {q : ℚ}

lemma abs_cast_lt {n : ℤ} {b : Nat} (hn : n.natAbs < b) : |(n : ℚ)| < b := by
  rw [← Int.cast_abs, Int.abs_eq_natAbs]
  exact_mod_cast hn

lemma kept_zero : Kept 0 := ⟨⟨0, 0, by decide, by simp⟩, fun h => absurd rfl h⟩

lemma Kept.neg (h : Kept q) : Kept (-q) := by
  obtain ⟨n, k, hn, rfl⟩ := h.short
  refine ⟨⟨-n, k, by rwa [Int.natAbs_neg], by push_cast; ring⟩, fun hne => ?_⟩
  rw [abs_neg]
  exact h.normal (neg_ne_zero.1 hne)

lemma kept_of_place {n k : ℤ} (hn : n.natAbs < 10 ^ precision) (hlow : minAdjusted ≤ k)
    (hhigh : k + 28 ≤ maxAdjusted + 1) : Kept (n * 10 ^ k) := by
  refine ⟨⟨n, k, hn, rfl⟩, fun hne => ?_⟩
  have hten : (1 : ℚ) ≤ 10 := by norm_num
  have hp : (0 : ℚ) < 10 ^ k := by positivity
  have hone : (1 : ℚ) ≤ |(n : ℚ)| := by
    have : n ≠ 0 := fun h => hne (by rw [h, Int.cast_zero, zero_mul])
    exact_mod_cast Int.one_le_abs this
  rw [abs_mul, abs_of_pos hp]
  constructor
  · calc (10 : ℚ) ^ minAdjusted ≤ 10 ^ k := zpow_le_zpow_right₀ hten hlow
      _ ≤ |(n : ℚ)| * 10 ^ k := le_mul_of_one_le_left hp.le hone
  · calc |(n : ℚ)| * 10 ^ k < 10 ^ precision * 10 ^ k :=
          mul_lt_mul_of_pos_right (abs_cast_lt hn) hp
      _ = 10 ^ (k + 28) := by rw [add_comm, zpow_add₀ (by norm_num)]; rfl
      _ ≤ 10 ^ (maxAdjusted + 1) := zpow_le_zpow_right₀ hten hhigh

/-- **A number that can be held is a multiple of every place up to 28 digits behind its first one.** -/
lemma Kept.multiple (h : Kept q) {g : Int} (hg : 10 ^ (g + 27) ≤ |q|) :
    ∃ m : ℤ, q = m * 10 ^ g := by
  obtain ⟨n, k, hn, rfl⟩ := h.short
  have hlt : |(n : ℚ) * 10 ^ k| < 10 ^ (28 + k) := by
    rw [abs_mul, abs_of_pos (show (0 : ℚ) < 10 ^ k by positivity), zpow_add₀ (by norm_num)]
    exact mul_lt_mul_of_pos_right (abs_cast_lt hn) (by positivity)
  have hgk : g + 27 < 28 + k :=
    (zpow_lt_zpow_iff_right₀ (show (1 : ℚ) < 10 by norm_num)).1 (hg.trans_lt hlt)
  refine ⟨n * 10 ^ (k - g).toNat, ?_⟩
  rw [zpow_at (show g ≤ k by omega)]
  push_cast
  ring

/-- The computation has a finite result, which denotes `q`. -/
def Gives (x : Except Signal Decimal) (q : ℚ) : Prop :=
  ∃ z, x = .ok z ∧ z.isFinite ∧ z.toRat = q

lemma gives_finite (s : Bool) (c : Nat) (e : Int) :
    Gives (.ok (.finite s c e)) (signed s c * 10 ^ e) :=
  ⟨_, rfl, rfl, rfl⟩

lemma kept_signed {s : Bool} {c : Nat} {e : Int} (h : Kept (signed s c * 10 ^ e)) :
    Kept (c * 10 ^ e) := by
  cases s with
  | false => exact h
  | true => simpa [signed] using h.neg

/-! ### Rounding -/

lemma Kept.point_bounds {c : Nat} {e : Int} (h : Kept (c * 10 ^ e)) (hc : c ≠ 0) :
    digitCount c + e ≤ maxAdjusted + 1 ∧ minAdjusted < digitCount c + e := by
  have hpos := magnitude_pos hc e
  obtain ⟨hlow, hhigh⟩ := h.normal hpos.ne'
  rw [abs_of_pos hpos] at hlow hhigh
  have hleft := (zpow_lt_zpow_iff_right₀ (show (1 : ℚ) < 10 by norm_num)).1
    ((zpow_digitCount_le hc e).trans_lt hhigh)
  have hright := (zpow_lt_zpow_iff_right₀ (show (1 : ℚ) < 10 by norm_num)).1
    (hlow.trans_lt (lt_zpow_digitCount c e))
  constructor <;> omega

lemma Kept.digits_dvd {c : Nat} {e : Int} (h : Kept (c * 10 ^ e)) (hc : c ≠ 0)
    (hlong : 28 < digitCount c) :
    ∃ m : Nat, c = m * 10 ^ (digitCount c - 28).toNat ∧ m < 10 ^ precision := by
  have hpos := magnitude_pos hc e
  obtain ⟨n, hn⟩ := h.multiple (g := digitCount c + e - 28) <| by
    rw [abs_of_pos hpos, show digitCount c + e - 28 + 27 = e + digitCount c - 1 by omega]
    exact zpow_digitCount_le hc e
  -- the number is a multiple of the place of its 28th digit
  have hdvd : 10 ^ (digitCount c - 28).toNat ∣ c := by
    rw [zpow_at (show e ≤ digitCount c + e - 28 by omega), ← mul_assoc,
      show digitCount c + e - 28 - e = digitCount c - 28 by omega] at hn
    have hcn := mul_right_cancel₀ (show (10 : ℚ) ^ e ≠ 0 by positivity) hn
    rw [← Int.natCast_dvd_natCast]
    exact ⟨n, by rw [mul_comm]; exact_mod_cast hcn⟩
  obtain ⟨m, hm⟩ := hdvd
  refine ⟨m, by rwa [mul_comm], ?_⟩
  have hplaces : (digitCount c - 28).toNat + precision = Binary64.digitCount c := by
    simp only [digitCount, precision] at *
    omega
  have hlt : 10 ^ (digitCount c - 28).toNat * m <
      10 ^ (digitCount c - 28).toNat * 10 ^ precision := by
    rw [← hm, ← Nat.pow_add, hplaces]
    exact Binary64.lt_pow_digitCount c
  exact Nat.lt_of_mul_lt_mul_left hlt

/-- **What can be held is not rounded.** -/
theorem gives_fit {s : Bool} {c : Nat} {e : Int} (h : Kept (signed s c * 10 ^ e)) :
    Gives (fit s c e) (signed s c * 10 ^ e) := by
  have h := kept_signed h
  by_cases hc : c = 0
  · rw [fit, if_pos hc, hc]
    refine ⟨_, rfl, rfl, ?_⟩
    cases s <;> simp [toRat, signed]
  obtain ⟨hleft, hright⟩ := h.point_bounds hc
  have hlast : max (digitCount c + e - precision) minExponent = digitCount c + e - 28 := by
    simp only [minAdjusted, precision, minExponent] at *
    omega
  rw [fit, if_neg hc]
  dsimp only
  rw [if_neg (by simp only [maxLast, maxAdjusted, precision] at *; omega), hlast]
  -- digits past the 28th are zeros, and these are taken off
  by_cases hlong : e < digitCount c + e - 28
  · obtain ⟨m, hcm, hm⟩ := h.digits_dvd hc (by omega)
    have hround : divNearestEven c (10 ^ (digitCount c - 28).toNat) = m := by
      generalize (digitCount c - 28).toNat = k at hcm
      rw [hcm, divNearestEven_mul_right m (by positivity)]
    have hvalue : (signed s c : ℚ) * 10 ^ e = signed s m * 10 ^ (digitCount c + e - 28) := by
      have hat := magnitude_at hlong.le m
      rw [show digitCount c + e - 28 - e = digitCount c - 28 by omega, ← hcm] at hat
      cases s <;> simp [signed, hat]
    rw [if_pos hlong, show digitCount c + e - 28 - e = digitCount c - 28 by omega,
      if_neg (show ¬ digitCount c < digitCount c - 28 by omega), hround, if_neg hm.ne]
    dsimp only
    rw [if_neg (by simp only [maxLast, maxAdjusted] at *; omega), hvalue]
    exact gives_finite s m _
  · rw [if_neg hlong]
    exact gives_finite s c e

/-! ### Sums -/

lemma digitCount_pos (c : Nat) : 0 < digitCount c :=
  Int.natCast_pos.2 (Binary64.digitCount_pos c)

lemma abs_signed_mul (s : Bool) (c : Nat) (e : Int) :
    |(signed s c : ℚ) * 10 ^ e| = c * 10 ^ e :=
  Binary64.abs_signed_mul s c (by positivity)

lemma signed_at {g e : Int} (h : g ≤ e) (s : Bool) (c : Nat) :
    (signed s c : ℚ) * 10 ^ e = signed s (c * 10 ^ (e - g).toNat) * 10 ^ g := by
  have hat := magnitude_at h c
  push_cast at hat
  cases s <;> simp [signed, hat]

/-- A summand counts as one unit only where the sum has more than 28 digits. -/
lemma not_tiny {s t : Bool} {a b : Nat} {e f : Int} (ha : a ≠ 0) (hb : b ≠ 0)
    (h : Kept (signed s a * 10 ^ e + signed t b * 10 ^ f)) :
    ¬ digitCount b + f - 1 < e + min (-1) (digitCount a - precision - 2) := by
  intro hlt
  generalize hlow : e + min (-1) (digitCount a - precision - 2) = low at hlt
  have hdigits := digitCount_pos a
  have hten : (1 : ℚ) ≤ 10 := by norm_num
  have hb₀ := magnitude_pos hb f
  have hb₁ : (b : ℚ) * 10 ^ f < 10 ^ low :=
    (lt_zpow_digitCount b f).trans_le (zpow_le_zpow_right₀ hten (by omega))
  -- the sum has its first digit where the greater summand has it, or one place further right
  have hsum : 10 ^ (low + 27) ≤ |(signed s a : ℚ) * 10 ^ e + signed t b * 10 ^ f| := by
    have hstep : (10 : ℚ) ^ (e + digitCount a - 1) = 10 ^ (e + digitCount a - 2) * 10 := by
      rw [← zpow_add_one₀ (by norm_num)]
      congr 1
      omega
    have ha₁ := zpow_digitCount_le ha e
    have hb₂ : (10 : ℚ) ^ low ≤ 10 ^ (e + digitCount a - 2) :=
      zpow_le_zpow_right₀ hten (by omega)
    have hle : (10 : ℚ) ^ (low + 27) ≤ 10 ^ (e + digitCount a - 2) :=
      zpow_le_zpow_right₀ hten (by simp only [precision] at hlow; omega)
    have hsub := abs_sub_abs_le_abs_sub ((signed s a : ℚ) * 10 ^ e) (-(signed t b * 10 ^ f))
    rw [abs_neg, sub_neg_eq_add, abs_signed_mul, abs_signed_mul] at hsub
    linarith
  -- then all of it is a multiple of a place that the lesser summand does not reach
  obtain ⟨m, hm⟩ := h.multiple hsum
  rw [signed_at (show low ≤ e by omega)] at hm
  have hrest : (signed t b : ℚ) * 10 ^ f =
      ((m - signed s (a * 10 ^ (e - low).toNat) : ℤ) : ℚ) * 10 ^ low := by
    push_cast
    linarith
  have hone := abs_signed_mul t b f
  rw [hrest, abs_mul, abs_of_pos (show (0 : ℚ) < 10 ^ low by positivity)] at hone
  generalize m - signed s (a * 10 ^ (e - low).toNat) = j at hone
  have hj : |(j : ℚ)| < 1 := by
    refine lt_of_mul_lt_mul_right ?_ (show (0 : ℚ) ≤ 10 ^ low by positivity)
    rwa [hone, one_mul]
  have hj₀ : j = 0 := by
    have : |j| < 1 := by exact_mod_cast hj
    exact Int.abs_lt_one_iff.1 this
  rw [hj₀, Int.cast_zero, abs_zero, zero_mul] at hone
  linarith

lemma align_eq {s t : Bool} {a b : Nat} {e f : Int} (ha : a ≠ 0) (hb : b ≠ 0)
    (h : Kept (signed s a * 10 ^ e + signed t b * 10 ^ f)) :
    align a e b f = (a * 10 ^ (e - f).toNat, b, f) := by
  rw [align]
  dsimp only
  rw [if_neg (not_tiny ha hb h)]

lemma gives_fit_sum {s t : Bool} {x y : Nat} {f g : Int}
    (h : Kept (signed s x * 10 ^ g + signed t y * 10 ^ g)) :
    Gives (if signed s x + signed t y = 0 then fit false 0 f
        else fit (signed s x + signed t y < 0) (signed s x + signed t y).natAbs g)
      (signed s x * 10 ^ g + signed t y * 10 ^ g) := by
  rw [← add_mul, ← Int.cast_add] at h ⊢
  generalize signed s x + signed t y = n at h ⊢
  split_ifs with hn
  · have hzero := gives_fit (s := false) (c := 0) (e := f) (by simpa [signed] using kept_zero)
    simpa [hn, signed] using hzero
  · have hfit := gives_fit (s := decide (n < 0)) (c := n.natAbs) (e := g)
    rw [Binary64.signed_natAbs] at hfit
    exact hfit h

lemma gives_addFinite {s t : Bool} {a b : Nat} {e f : Int}
    (h : Kept (signed s a * 10 ^ e + signed t b * 10 ^ f)) :
    Gives (addFinite s a e t b f) (signed s a * 10 ^ e + signed t b * 10 ^ f) := by
  have hzero : ∀ u, ((signed u 0 : Int) : ℚ) = 0 := fun u => by cases u <;> simp [signed]
  unfold addFinite
  by_cases hab : a = 0 ∧ b = 0
  · rw [if_pos hab]
    obtain ⟨rfl, rfl⟩ := hab
    have hfit := gives_fit (s := s && t) (c := 0) (e := min e f)
    simp only [hzero, zero_mul, add_zero] at hfit ⊢
    exact hfit kept_zero
  rw [if_neg hab]
  by_cases ha : a = 0
  · rw [if_pos ha]
    dsimp only
    rw [ha, hzero, zero_mul, zero_add,
      signed_at (show max (min e f) (f - precision - 1) ≤ f by simp only [precision]; omega)] at h ⊢
    exact gives_fit h
  rw [if_neg ha]
  by_cases hb : b = 0
  · rw [if_pos hb]
    dsimp only
    rw [hb, hzero, zero_mul, add_zero,
      signed_at (show max (min e f) (e - precision - 1) ≤ e by simp only [precision]; omega)] at h ⊢
    exact gives_fit h
  rw [if_neg hb]
  -- the summand with the greater exponent is written in units of the other
  by_cases hef : e < f
  · rw [if_pos hef, align_eq hb ha (by rwa [add_comm])]
    dsimp only
    rw [signed_at hef.le t b] at h ⊢
    exact gives_fit_sum h
  · rw [if_neg hef, align_eq ha hb h]
    dsimp only
    rw [signed_at (not_lt.1 hef) s a] at h ⊢
    exact gives_fit_sum h

/-! ### Operations -/

variable {x y : Decimal}

/-- **A sum that can be held is exact.** -/
theorem gives_add (hx : x.isFinite) (hy : y.isFinite) (h : Kept (x.toRat + y.toRat)) :
    Gives (x.add y) (x.toRat + y.toRat) := by
  obtain ⟨s, a, e, rfl⟩ := isFinite_iff.1 hx
  obtain ⟨t, b, f, rfl⟩ := isFinite_iff.1 hy
  exact gives_addFinite h

lemma toRat_flip (hx : x.isFinite) : x.flip.toRat = -x.toRat := by
  obtain ⟨s, a, e, rfl⟩ := isFinite_iff.1 hx
  cases s <;> simp [flip, toRat, signed]

/-- **A difference that can be held is exact.** -/
theorem gives_sub (hx : x.isFinite) (hy : y.isFinite) (h : Kept (x.toRat - y.toRat)) :
    Gives (x.sub y) (x.toRat - y.toRat) := by
  rw [sub_eq_add_neg, ← toRat_flip hy] at h ⊢
  exact gives_add hx (isFinite_flip.trans hy) h

/-- **A product that can be held is exact.** -/
theorem gives_mul (hx : x.isFinite) (hy : y.isFinite) (h : Kept (x.toRat * y.toRat)) :
    Gives (x.mul y) (x.toRat * y.toRat) := by
  obtain ⟨s, a, e, rfl⟩ := isFinite_iff.1 hx
  obtain ⟨t, b, f, rfl⟩ := isFinite_iff.1 hy
  have hproduct : (finite s a e).toRat * (finite t b f).toRat =
      signed (s != t) (a * b) * 10 ^ (e + f) := by
    rw [zpow_add₀ (by norm_num)]
    cases s <;> cases t <;> simp [toRat, signed] <;> ring
  rw [hproduct] at h ⊢
  exact gives_fit h

lemma signed_unsigned (s : Bool) (c : Nat) : signed (s && c != 0) c = signed s c := by
  rcases eq_or_ne c 0 with rfl | hc
  · cases s <;> rfl
  · rw [bne_iff_ne.2 hc, Bool.and_true]

/-- **A number that can be held** is not rounded by a sign in front of it. -/
theorem gives_plus (hx : x.isFinite) (h : Kept x.toRat) : Gives x.plus x.toRat := by
  obtain ⟨s, c, e, rfl⟩ := isFinite_iff.1 hx
  rw [toRat, ← signed_unsigned] at h ⊢
  exact gives_fit h

theorem gives_minus (hx : x.isFinite) (h : Kept (-x.toRat)) : Gives x.minus (-x.toRat) := by
  obtain ⟨s, c, e, rfl⟩ := isFinite_iff.1 hx
  rw [← toRat_flip hx, flip, toRat, ← signed_unsigned] at h ⊢
  exact gives_fit h

end Decimal

end Crosswalk
