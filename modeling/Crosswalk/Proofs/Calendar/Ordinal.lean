import Mathlib.Tactic.Linarith
import Crosswalk.Calendar.Moment

/-!
The ordinal of a date leads back to it.

A year is a number of cycles of 400, 100, 4 and 1 years, and the days before it are those of the cycles.
Inside a year the search for the month stops where the days of the months before it end.
-/

namespace Crosswalk

namespace Date

/-! ### Months of a year -/

lemma daysInMonth_pos (y m : Nat) : 0 < daysInMonth y m := by
  unfold daysInMonth
  split <;> first | omega | (split <;> omega)

lemma daysBeforeMonth_succ {y m : Nat} (hm : 0 < m) :
    daysBeforeMonth y (m + 1) = daysBeforeMonth y m + daysInMonth y m := by
  rw [daysBeforeMonth, if_neg (by omega)]

lemma daysBeforeMonth_le {y k m : Nat} (hk : 0 < k) (hkm : k ≤ m) :
    daysBeforeMonth y k ≤ daysBeforeMonth y m := by
  induction m, hkm using Nat.le_induction with
  | base => exact le_rfl
  | succ m hkm ih =>
    rw [daysBeforeMonth_succ (by omega)]
    exact ih.trans (Nat.le_add_right _ _)

def daysInYear (y : Nat) : Nat := if isLeap y then 366 else 365

lemma daysBeforeMonth_end (y : Nat) : daysBeforeMonth y 13 = daysInYear y := by
  unfold daysInYear
  cases h : isLeap y <;> simp [daysBeforeMonth, daysInMonth, h]

lemma monthDay_eq {y fuel k m n : Nat} (hk : 0 < k) (hkm : k ≤ m) (hfuel : m < k + fuel)
    (hn : n < daysInMonth y m) :
    monthDay y fuel k (daysBeforeMonth y m - daysBeforeMonth y k + n) = (m, n + 1) := by
  induction fuel generalizing k with
  | zero => omega
  | succ fuel ih =>
    rw [monthDay]
    obtain rfl | hlt := hkm.eq_or_lt
    · rw [Nat.sub_self, Nat.zero_add, if_pos hn]
    · -- the days of month `k` are taken off, and the search goes on behind it
      have hnext := daysBeforeMonth_succ (y := y) hk
      have hle : daysBeforeMonth y (k + 1) ≤ daysBeforeMonth y m :=
        daysBeforeMonth_le (Nat.succ_pos k) hlt
      rw [if_neg (by omega)]
      have hrest : daysBeforeMonth y m - daysBeforeMonth y k + n - daysInMonth y k =
          daysBeforeMonth y m - daysBeforeMonth y (k + 1) + n := by omega
      rw [hrest]
      exact ih (by omega) hlt (by omega)

/-! ### Cycles of years -/

/-- A year by its place in the cycles of 400, 100 and 4 years. -/
def ofCycles (a b c e : Nat) : Nat := a * 400 + b * 100 + c * 4 + e + 1

lemma exists_cycles {y : Nat} (hy : 0 < y) :
    ∃ a b c e, b ≤ 3 ∧ c ≤ 24 ∧ e ≤ 3 ∧ y = ofCycles a b c e := by
  refine ⟨(y - 1) / 400, (y - 1) / 100 % 4, (y - 1) / 4 % 25, (y - 1) % 4, ?_, ?_, ?_, ?_⟩
  · omega
  · omega
  · omega
  · unfold ofCycles
    omega

variable {a b c e : Nat}

lemma daysBeforeYear_ofCycles (hb : b ≤ 3) (hc : c ≤ 24) (he : e ≤ 3) :
    daysBeforeYear (ofCycles a b c e) = a * 146097 + (b * 36524 + (c * 1461 + e * 365)) := by
  simp only [daysBeforeYear, ofCycles]
  omega

lemma daysInYear_ofCycles (hb : b ≤ 3) (hc : c ≤ 24) (he : e ≤ 3) :
    daysInYear (ofCycles a b c e) = if e = 3 ∧ (c = 24 → b = 3) then 366 else 365 := by
  have h4 : ofCycles a b c e % 4 = 0 ↔ e = 3 := by unfold ofCycles; omega
  have h100 : ofCycles a b c e % 100 = 0 ↔ c = 24 ∧ e = 3 := by unfold ofCycles; omega
  have h400 : ofCycles a b c e % 400 = 0 ↔ b = 3 ∧ c = 24 ∧ e = 3 := by unfold ofCycles; omega
  have hleap : isLeap (ofCycles a b c e) = true ↔ e = 3 ∧ (c = 24 → b = 3) := by
    simp only [isLeap, Bool.and_eq_true, Bool.or_eq_true, bne_iff_ne, beq_iff_eq, ne_eq, h4, h100,
      h400]
    omega
  unfold daysInYear
  simp only [hleap]

/-! ### Days of a cycle -/

lemma div_mod_of_lt {q k s : Nat} (h : s < k) : (q * k + s) / k = q ∧ (q * k + s) % k = s := by
  rw [Nat.mul_comm]
  exact ⟨by rw [Nat.mul_add_div (by omega), Nat.div_eq_of_lt h, Nat.add_zero],
    by rw [Nat.mul_add_mod, Nat.mod_eq_of_lt h]⟩

lemma clipped_div {q k s : Nat} (hk : 0 < k) (hq : q ≤ 3) (h : s < k ∨ q = 3) :
    min ((q * k + s) / k) 3 = q := by
  rw [Nat.mul_comm, Nat.mul_add_div hk]
  obtain h | rfl := h
  · rw [Nat.div_eq_of_lt h, Nat.add_zero, min_eq_left hq]
  · exact min_eq_right (Nat.le_add_right 3 _)

/-! ### Ordinals -/

variable {d : Date} {n : Int}

lemma Valid.day_of_year (h : d.Valid) :
    daysBeforeMonth d.year d.month + d.day ≤ daysInYear d.year := by
  obtain ⟨-, -, hm, hm', -, hd⟩ := h
  have hnext := daysBeforeMonth_succ (y := d.year) hm
  have hle : daysBeforeMonth d.year (d.month + 1) ≤ daysBeforeMonth d.year 13 :=
    daysBeforeMonth_le (Nat.succ_pos _) (Nat.succ_le_succ hm')
  rw [daysBeforeMonth_end] at hle
  omega

lemma days_left {r : Nat} (hb : b ≤ 3) (hc : c ≤ 24) (he : e ≤ 3)
    (hr : r < if e = 3 ∧ (c = 24 → b = 3) then 366 else 365) :
    (r < 365 ∨ e = 3) ∧ e * 365 + r < 1461 ∧ (c * 1461 + (e * 365 + r) < 36524 ∨ b = 3) ∧
      b * 36524 + (c * 1461 + (e * 365 + r)) < 146097 := by
  split at hr <;> omega

lemma days_le_iff {r : Nat} (hb : b ≤ 3) (hc : c ≤ 24) (he : e ≤ 3)
    (hr : r < if e = 3 ∧ (c = 24 → b = 3) then 366 else 365) :
    a * 400 + b * 100 + c * 4 + e + 1 ≤ 9999 ↔
      a * 146097 + (b * 36524 + (c * 1461 + (e * 365 + r))) + 1 ≤ 3652059 := by
  split at hr <;> omega

lemma ofOrdinal?_succ {n : Nat} (h : n + 1 ≤ maxOrdinal) (ha : n / 146097 = a) {x s t r : Nat}
    (hx : n % 146097 = x) (hb : min (x / 36524) 3 = b) (hs : x - b * 36524 = s)
    (hc : s / 1461 = c) (ht : s % 1461 = t) (he : min (t / 365) 3 = e) (hr : t - e * 365 = r) :
    ofOrdinal? (n + 1 : Nat) = some ⟨ofCycles a b c e, (monthDay (ofCycles a b c e) 12 1 r).1,
      (monthDay (ofCycles a b c e) 12 1 r).2⟩ := by
  subst ha hx hb hs hc ht he hr
  have hrange : ¬ (((n + 1 : Nat) : Int) < 1 ∨ (maxOrdinal : Int) < (n + 1 : Nat)) :=
    not_or.2 ⟨not_lt.2 (Int.ofNat_le.2 (Nat.succ_pos n)), not_lt.2 (Int.ofNat_le.2 h)⟩
  rw [ofOrdinal?, if_neg hrange]
  rfl

lemma ofOrdinal?_ofCycles {r : Nat} (hb : b ≤ 3) (hc : c ≤ 24) (he : e ≤ 3)
    (hyear : ofCycles a b c e ≤ maxYear) (hr : r < daysInYear (ofCycles a b c e)) :
    ofOrdinal? (daysBeforeYear (ofCycles a b c e) + r + 1 : Nat) =
      some ⟨ofCycles a b c e, (monthDay (ofCycles a b c e) 12 1 r).1,
        (monthDay (ofCycles a b c e) 12 1 r).2⟩ := by
  rw [daysInYear_ofCycles hb hc he] at hr
  obtain ⟨hr1, hr4, hr100, hr400⟩ := days_left hb hc he hr
  have hday : daysBeforeYear (ofCycles a b c e) + r =
      a * 146097 + (b * 36524 + (c * 1461 + (e * 365 + r))) := by
    rw [daysBeforeYear_ofCycles hb hc he]
    simp only [Nat.add_assoc]
  rw [hday]
  exact ofOrdinal?_succ ((days_le_iff hb hc he hr).1 hyear) (div_mod_of_lt hr400).1
    (div_mod_of_lt hr400).2 (clipped_div (by omega) hb hr100) (Nat.add_sub_cancel_left ..)
    (div_mod_of_lt hr4).1 (div_mod_of_lt hr4).2 (clipped_div (by omega) he hr1)
    (Nat.add_sub_cancel_left ..)

/-- **The ordinal of a date leads back to it.** -/
theorem ofOrdinal?_ordinal (h : d.Valid) : ofOrdinal? d.ordinal = some d := by
  obtain ⟨y, m, day⟩ := d
  obtain ⟨hy, hy', hm, hm', hd, hd'⟩ := id h
  have hyear := h.day_of_year
  dsimp only at hy hy' hm hm' hd hd' hyear
  have hsearch : monthDay y 12 1 (daysBeforeMonth y m + (day - 1)) = (m, day) := by
    have heq : monthDay y 12 1 (daysBeforeMonth y m - daysBeforeMonth y 1 + (day - 1)) =
        (m, day - 1 + 1) := monthDay_eq one_pos hm (by omega) (by omega)
    rwa [Nat.sub_add_cancel hd] at heq
  have hordinal : ordinal ⟨y, m, day⟩ =
      daysBeforeYear y + (daysBeforeMonth y m + (day - 1)) + 1 := by
    rw [ordinal]
    dsimp only
    omega
  rw [hordinal]
  -- the year is taken apart by cycles, and the rest is searched in its months
  obtain ⟨a, b, c, e, hb, hc, he, rfl⟩ := exists_cycles hy
  rw [ofOrdinal?_ofCycles hb hc he hy' (by omega), hsearch]

lemma Valid.ordinal_bounds (h : d.Valid) : 0 < d.ordinal ∧ d.ordinal ≤ maxOrdinal := by
  have hsome := ofOrdinal?_ordinal h
  unfold ofOrdinal? at hsome
  split at hsome
  · cases hsome
  · omega

end Date

end Crosswalk
