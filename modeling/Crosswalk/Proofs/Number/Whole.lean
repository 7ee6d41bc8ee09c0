import Crosswalk.Proofs.Number.Exact
import Crosswalk.Value.Number

/-!
Whole numbers in the binary64 format.

A quotient that is a whole number of fewer than 53 bits is not rounded, and neither are quotients of such
numbers that are whole again.
-/

namespace Crosswalk

namespace Binary64

/-- The number is `± q` for a natural number `q`, which is its mantissa up to zeros at the end. -/
def IsWhole (x : Binary64) (neg : Bool) (q : Nat) : Prop :=
  ∃ k : Nat, x = .finite neg (q * 2 ^ k) (-k)

variable {s t : Bool} {q r n d : Nat} {x y : Binary64}

lemma ratioLog_lt (hq : q ≠ 0) (hlt : q < 2 ^ 53) (hd : d ≠ 0) : ratioLog (q * d) d < 53 := by
  have hd' : (d : ℚ) ≠ 0 := by exact_mod_cast hd
  have hlow := (ratioLog_spec (n := q * d) (Nat.mul_ne_zero hq hd) hd).1
  have hquot : ((q * d : Nat) / d : ℚ) = q := by
    push_cast
    field_simp
  rw [hquot] at hlow
  have hbound : (2 : ℚ) ^ ratioLog (q * d) d < 2 ^ (53 : Int) :=
    hlow.trans_lt (by exact_mod_cast hlt)
  exact (zpow_lt_zpow_iff_right₀ one_lt_two).1 hbound

/-- **A whole quotient of fewer than 53 bits is not rounded.** -/
theorem isWhole_ofRatio (s : Bool) (hlt : q < 2 ^ 53) (hd : d ≠ 0) :
    (ofRatio s (q * d) d).IsWhole s q := by
  by_cases hq : q = 0
  · subst hq
    refine ⟨(-minExponent).toNat, ?_⟩
    rw [Nat.zero_mul, Nat.zero_mul, ofRatio, if_pos (.inl rfl)]
    rfl
  -- with fewer than 53 bits the mantissa has room for the whole quotient
  have hlog := ratioLog_lt hq hlt hd
  obtain ⟨k, hk⟩ : ∃ k : Nat, max (ratioLog (q * d) d - 52) minExponent = -(k : Int) :=
    ⟨(-(max (ratioLog (q * d) d - 52) minExponent)).toNat, by
      have : minExponent = -1074 := rfl
      omega⟩
  have hbits : q * d * 2 ^ (-(-(k : Int))).toNat / (d * 2 ^ (-(k : Int)).toNat) < 2 ^ 53 :=
    mantissa_lt (Nat.mul_ne_zero hq hd) hd (hk ▸ le_max_left _ _)
  have hneg : (-(k : Int)).toNat = 0 ∧ (-(-(k : Int))).toNat = k := by omega
  have hmantissa : divNearestEven (q * d * 2 ^ k) (d * 2 ^ 0) = q * 2 ^ k := by
    rw [pow_zero, mul_one, mul_right_comm]
    exact divNearestEven_mul_right _ (Nat.pos_of_ne_zero hd)
  have hsmall : q * 2 ^ k ≠ 2 ^ 53 := by
    rw [hneg.1, hneg.2, pow_zero, mul_one, mul_right_comm, Nat.mul_div_cancel _ (Nat.pos_of_ne_zero hd)]
      at hbits
    exact hbits.ne
  refine ⟨k, ?_⟩
  rw [ofRatio, if_neg (not_or.2 ⟨Nat.mul_ne_zero hq hd, hd⟩)]
  simp only [hk, hneg, hmantissa, hsmall, if_false]
  rw [if_neg]
  have : maxExponent = 971 := rfl
  omega

lemma isWhole_ofInt {n : Int} (h : n.natAbs < 2 ^ 53) : (ofInt n).IsWhole (n < 0) n.natAbs := by
  have hwhole := isWhole_ofRatio (decide (n < 0)) h one_ne_zero
  rwa [Nat.mul_one] at hwhole

lemma IsWhole.div (hx : x.IsWhole s (q * r)) (hy : y.IsWhole t r) (hlt : q < 2 ^ 53) (hr : r ≠ 0) :
    (x.div y).IsWhole (s != t) q := by
  obtain ⟨j, rfl⟩ := hx
  obtain ⟨k, rfl⟩ := hy
  have hdenominator : r * 2 ^ k * 2 ^ (-(-(j : Int) - -(k : Int))).toNat ≠ 0 := by positivity
  have hnumerator : q * r * 2 ^ j * 2 ^ (-(j : Int) - -(k : Int)).toNat =
      q * (r * 2 ^ k * 2 ^ (-(-(j : Int) - -(k : Int))).toNat) := by
    have hplaces : j + (-(j : Int) - -(k : Int)).toNat = k + (-(-(j : Int) - -(k : Int))).toNat := by
      omega
    rw [Nat.mul_assoc r, ← Nat.pow_add, Nat.mul_assoc (q * r), ← Nat.pow_add, hplaces]
    ring
  have hn : r * 2 ^ k ≠ 0 := by positivity
  rw [Binary64.div, if_neg hn]
  dsimp only
  rw [hnumerator]
  exact isWhole_ofRatio (s != t) hlt hdenominator

lemma IsWhole.floor? (h : x.IsWhole s q) : x.floor? = some (signed s q) := by
  obtain ⟨k, rfl⟩ := h
  have hneg : (-(k : Int)).toNat = 0 ∧ (-(-(k : Int))).toNat = k := by omega
  have hsigned : signed s (q * 2 ^ k) = signed s q * 2 ^ k := by
    cases s <;> simp [signed]
  rw [Binary64.floor?, hneg.1, hneg.2, hsigned, pow_zero, mul_one]
  rw [Int.mul_fdiv_cancel _ (by positivity)]

lemma IsWhole.isInfinite (h : x.IsWhole s q) : x.isInfinite = false := by
  obtain ⟨k, rfl⟩ := h
  rfl

end Binary64

namespace Number

lemma floatOfInt_ok {n : Int} (h : n.natAbs < 2 ^ 53) : floatOfInt n = .ok (.ofInt n) := by
  rw [floatOfInt]
  simp [(Binary64.isWhole_ofInt h).isInfinite]

end Number

end Crosswalk
