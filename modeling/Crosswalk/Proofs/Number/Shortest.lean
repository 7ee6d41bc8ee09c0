import Mathlib.Tactic.Ring
import Crosswalk.Number.Shortest
import Crosswalk.Proofs.Number.Binary64
import Crosswalk.Proofs.Number.Order

/-!
How far the digits of a binary number go.

The numbers of the format lie between `2^(-1074)` and `2^1024`, so their decimal points do not stand
far from their digits, and the digits that are written are no more than those of the exact number.
-/

namespace Crosswalk.Binary64

/-! ### Points -/

lemma digitCount_le {c k : Nat} (hk : 0 < k) (hc : c ≤ 2 ^ k) : digitCount c ≤ k := by
  rw [digitCount_le_iff hk]
  exact hc.trans_lt (Nat.pow_lt_pow_left (by norm_num) hk.ne')

lemma pointOfRatio_le {n d k : Nat} (hk : 0 < k) (hn : n ≤ 2 ^ k) : pointOfRatio n d ≤ k := by
  unfold pointOfRatio
  split_ifs
  · exact_mod_cast digitCount_le hk ((Nat.div_le_self n d).trans hn)
  · omega

lemma le_pointOfRatio {n d k : Nat} (hk : 0 < k) (hn : 0 < n) (hd : d ≤ 2 ^ k) :
    1 - (k : Int) ≤ pointOfRatio n d := by
  unfold pointOfRatio
  split_ifs
  · omega
  · have hceil : (d + n - 1) / n ≤ d + 1 := by
      rw [Nat.div_le_iff_le_mul_add_pred hn, Nat.mul_succ]
      have := Nat.le_mul_of_pos_left d hn
      omega
    have := digitCount_le hk ((Nat.sub_le_of_le_add hceil).trans hd)
    omega

/-! ### Digits -/

lemma divNearestEven_le_succ (n d : Nat) : divNearestEven n d ≤ n + 1 :=
  (divNearestEven_le n d).trans (Nat.succ_le_succ (Nat.div_le_self n d))

lemma candidate_bounds {m n : Nat} {e p : Int} {ck : Nat × Int} (h : candidate m e p n = some ck) :
    ck.2 = p - n ∧ ck.1 ≤ m * 2 ^ e.toNat * 10 ^ (-ck.2).toNat + 2 := by
  unfold candidate at h
  dsimp only at h
  have hnear := divNearestEven_le_succ (m * 2 ^ e.toNat * 10 ^ (-(p - n)).toNat)
    (2 ^ (-e).toNat * 10 ^ (p - n : Int).toNat)
  split_ifs at h <;> cases h <;> exact ⟨rfl, by dsimp only; omega⟩

lemma shortest_bounds (m : Nat) (e : Int) :
    (∃ n : Nat, n ≤ 17 ∧
      (shortest m e).2 = pointOfRatio (m * 2 ^ e.toNat) (2 ^ (-e).toNat) - n) ∧
    (shortest m e).1 ≤ m * 2 ^ e.toNat * 10 ^ (-(shortest m e).2).toNat + 2 := by
  unfold shortest
  dsimp only
  generalize pointOfRatio (m * 2 ^ e.toNat) (2 ^ (-e).toNat) = p
  rcases hfound : (List.range 17).findSome? fun n => candidate m e p (n + 1) with _ | ck
  · refine ⟨⟨17, le_rfl, rfl⟩, ?_⟩
    have hle := divNearestEven_le_succ (m * 2 ^ e.toNat * 10 ^ (17 - p).toNat)
      (2 ^ (-e).toNat * 10 ^ (p - 17).toNat)
    rw [Option.getD_none, neg_sub]
    dsimp only
    omega
  · obtain ⟨n, hn, hck⟩ := List.exists_of_findSome?_eq_some hfound
    obtain ⟨hk, hc⟩ := candidate_bounds hck
    exact ⟨⟨n + 1, List.mem_range.1 hn, hk⟩, hc⟩

lemma stripZeros_bounds (fuel c : Nat) (k : Int) :
    (stripZeros fuel c k).1 ≤ c ∧ k ≤ (stripZeros fuel c k).2 ∧ (stripZeros fuel c k).2 ≤ k + fuel := by
  induction fuel generalizing c k with
  | zero => simp [stripZeros]
  | succ fuel ih =>
    rw [stripZeros]
    split
    · obtain ⟨hc, hk, hk'⟩ := ih (c / 10) (k + 1)
      exact ⟨hc.trans (Nat.div_le_self c 10), by omega, by push_cast; omega⟩
    · exact ⟨le_rfl, le_rfl, by omega⟩

lemma stripZeros_value (fuel c : Nat) (k : Int) :
    ((stripZeros fuel c k).1 : ℚ) * 10 ^ (stripZeros fuel c k).2 = c * 10 ^ k := by
  induction fuel generalizing c k with
  | zero => rfl
  | succ fuel ih =>
    rw [stripZeros]
    split
    case isTrue h =>
      rw [ih, zpow_add₀ (by norm_num), zpow_one]
      have hc : (c : ℚ) = (c / 10 : Nat) * 10 := by exact_mod_cast (Nat.div_mul_cancel
        (Nat.dvd_of_mod_eq_zero h.1)).symm
      rw [hc]
      ring
    case isFalse => rfl

/-- The digits that are written for `m · 2^e`, and the place of the last. -/
def writtenDigits (m : Nat) (e : Int) : Nat × Int :=
  stripZeros 400 (shortest m e).1 (shortest m e).2

/-- **What is written for a number of the format is of its size.** -/
theorem writtenDigits_bounds {s : Bool} {m : Nat} {e : Int} (hx : (finite s m e).Canonical)
    (hm : m ≠ 0) : -1090 ≤ (writtenDigits m e).2 ∧ (writtenDigits m e).2 ≤ 1424 ∧
      digitCount (writtenDigits m e).1 ≤ 2115 := by
  obtain ⟨hm53, hle, hge, -⟩ := hx
  simp only [minExponent, maxExponent] at hle hge
  obtain ⟨⟨n, hn, hk⟩, hc⟩ := shortest_bounds m e
  obtain ⟨hstrip, hk₁, hk₂⟩ := stripZeros_bounds 400 (shortest m e).1 (shortest m e).2
  -- numerator and denominator of the number are powers of two at most
  have hnum : m * 2 ^ e.toNat ≤ 2 ^ (53 + 971) :=
    calc m * 2 ^ e.toNat ≤ 2 ^ 53 * 2 ^ 971 :=
          Nat.mul_le_mul hm53.le (Nat.pow_le_pow_right two_pos (by omega))
      _ = 2 ^ (53 + 971) := (Nat.pow_add 2 53 971).symm
  have hden (k : Nat) (h : (-e).toNat ≤ k) : 2 ^ (-e).toNat ≤ 2 ^ k :=
    Nat.pow_le_pow_right two_pos h
  have hp₁ := le_pointOfRatio (n := m * 2 ^ e.toNat) (by norm_num)
    (Nat.mul_pos (Nat.pos_of_ne_zero hm) (by positivity)) (hden 1074 (by omega))
  have hp₂ := pointOfRatio_le (d := 2 ^ (-e).toNat) (by norm_num) hnum
  refine ⟨by rw [writtenDigits]; omega, by rw [writtenDigits]; omega, ?_⟩
  rw [digitCount_le_iff (by norm_num)]
  calc (writtenDigits m e).1 ≤ m * 2 ^ e.toNat * 10 ^ (-(shortest m e).2).toNat + 2 :=
        hstrip.trans hc
    _ ≤ 2 ^ (53 + 971) * 10 ^ 1090 + 2 :=
        Nat.add_le_add_right
          (Nat.mul_le_mul hnum (Nat.pow_le_pow_right (by norm_num) (by omega))) 2
    _ < 10 ^ 2115 := by decide +kernel

end Crosswalk.Binary64
