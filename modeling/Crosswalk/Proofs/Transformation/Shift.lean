import Crosswalk.Proofs.Number.Whole
import Crosswalk.Proofs.Transformation.DateText

/-!
Distances between dates.

The days between two dates are the difference of their ordinals: the quotients of the seconds are whole, so
the binary numbers in between hold them exactly. Days that are added count ordinals on, and months count
the months since year 0.
-/

namespace Crosswalk

open Date (daysInMonth daysInMonth_pos)

variable {contacts : Contact.Directory} {d e r : Date} {n : Int} {v w : Value} {t : Moment}
  {clock : Clock}

namespace Date

lemma addMonths?_eq (hd : d.Valid) {y m : Nat} (hy : 1 ≤ y) (hy' : y ≤ maxYear) (hm : 1 ≤ m)
    (hm' : m ≤ 12) (h : (y * 12 + (m - 1 : Nat) : Int) = d.monthIndex + n) :
    (⟨y, m, min d.day (daysInMonth y m)⟩ : Date).Valid ∧
      d.addMonths? n = some ⟨y, m, min d.day (daysInMonth y m)⟩ := by
  have hday : 1 ≤ min d.day (daysInMonth y m) := le_min hd.2.2.2.2.1 (daysInMonth_pos y m)
  have hvalid : (⟨y, m, min d.day (daysInMonth y m)⟩ : Date).Valid :=
    ⟨hy, hy', hm, hm', hday, min_le_right _ _⟩
  have hindex : (d.monthIndex + n).toNat = y * 12 + (m - 1) := by omega
  have hyear : (y * 12 + (m - 1)) / 12 = y := by omega
  have hmonth : (y * 12 + (m - 1)) % 12 + 1 = m := by omega
  refine ⟨hvalid, ?_⟩
  rw [addMonths?, if_neg (by omega), hindex]
  dsimp only
  rw [hyear, hmonth]
  exact if_pos hvalid

end Date

namespace Transformation

/-! ### Days -/

lemma ticks_midnight (h : d.Valid) :
    (Moment.midnight d).ticks = ((d.ordinal : Int) - 1) * Moment.perDay := by
  have hpos := h.ordinal_bounds.1
  have hcast : ((d.ordinal - 1 : Nat) : Int) = (d.ordinal : Int) - 1 := by omega
  simp [Moment.ticks, Moment.midnight, Moment.timeOfDay, hcast]

/-- **The days between two dates** are counted exactly. -/
lemma wholeUnits_days (hd : d.Valid) (he : e.Valid) :
    wholeUnits (.midnight d) (.midnight e) 86400 = .ok (.int ((e.ordinal : Int) - d.ordinal)) := by
  obtain ⟨hd0, hd1⟩ := hd.ordinal_bounds
  obtain ⟨he0, he1⟩ := he.ordinal_bounds
  generalize hk : (e.ordinal : Int) - d.ordinal = k
  have hlast : Date.maxOrdinal < 2 ^ 22 := by decide
  have hsmall : k.natAbs < 2 ^ 22 := by omega
  have hmicros : (Moment.midnight e).ticks - (Moment.midnight d).ticks =
      k * (86400 * Moment.perSecond : Nat) := by
    rw [ticks_midnight hd, ticks_midnight he, ← hk]
    simp only [Moment.perDay]
    ring
  have hsign : decide (k * (86400 * Moment.perSecond : Nat) < 0) = decide (k < 0) := by
    simp only [Moment.perSecond]
    exact decide_eq_decide.2 (by omega)
  -- the quotients are whole and short, so no binary number in between is rounded
  have hseconds : (secondsBetween (.midnight d) (.midnight e)).IsWhole (k < 0) (k.natAbs * 86400) := by
    rw [secondsBetween, hmicros, hsign, Int.natAbs_mul, Int.natAbs_natCast, ← Nat.mul_assoc]
    exact Binary64.isWhole_ofRatio _ (by omega) (by decide)
  have hday : (Binary64.ofInt 86400).IsWhole false 86400 := Binary64.isWhole_ofInt (by decide)
  have hdays := hseconds.div hday (by omega) (by decide)
  have hfloor := hdays.floor?
  rw [Bool.bne_false, Binary64.signed_natAbs] at hfloor
  rw [wholeUnits, Number.floor, Number.whole, hfloor]
  rfl

lemma shiftDays_eq (ht : t.date.Valid) (hr : r.Valid) (h : (r.ordinal : Int) = t.date.ordinal + n) :
    shiftDays t n = .ok (.text r.iso) := by
  obtain ⟨ht0, ht1⟩ := ht.ordinal_bounds
  obtain ⟨hr0, hr1⟩ := hr.ordinal_bounds
  have hlast : Date.maxOrdinal < 2 ^ 22 := by decide
  have hfloat := Number.floatOfInt_ok (n := n) (by omega)
  have hdate : t.date.addDays? n = some r := by
    rw [Date.addDays?, ← h]
    exact Date.ofOrdinal?_ordinal hr
  rw [shiftDays, checkDistance, hfloat, hdate]
  rfl

lemma shiftMonths_eq (ht : t.date.Valid) {y m : Nat} (hy : 1 ≤ y) (hy' : y ≤ Date.maxYear)
    (hm : 1 ≤ m) (hm' : m ≤ 12) (h : (y * 12 + (m - 1 : Nat) : Int) = t.date.monthIndex + n) :
    shiftMonths t n = .ok (.text (⟨y, m, min t.date.day (daysInMonth y m)⟩ : Date).iso) := by
  obtain ⟨-, hdate⟩ := Date.addMonths?_eq ht hy hy' hm hm' h
  have hmax : Date.maxYear = 9999 := rfl
  have hindex : 0 ≤ t.date.monthIndex ∧ t.date.monthIndex < 120000 := by
    have hyear := ht.2.1
    have hmonth := ht.2.2.2.1
    rw [Date.monthIndex]
    omega
  have hquot : (Int.tdiv n 12).natAbs = n.natAbs / 12 := Int.natAbs_tdiv n 12
  have hfloat := Number.floatOfInt_ok (n := Int.tdiv n 12) (by omega)
  rw [shiftMonths, checkDistance, hfloat, hdate]
  rfl

/-! ### Parameters -/

lemma not_isNull {present : Nat} (hw : w.moment? present = .ok (some t)) : w.isNull = false := by
  cases w <;> first | rfl | cases hw

/-- The difference to a date, in days. -/
lemma transform_difference (hd : d.Valid) (he : e.Valid)
    (hv : v.moment? clock.year = .ok (some (.midnight d)))
    (hw : w.moment? clock.year = .ok (some (.midnight e))) :
    (builtIn contacts).transform clock "date_diff" v [("end_date", w), ("unit", .text "days")] =
      .ok (.int ((e.ordinal : Int) - d.ordinal)) := by
  have hgiven : Parameters.normalize [("end_date", w), ("unit", .text "days")] =
      [("end_date", w), ("unit", .text "days")] := by
    have hdate : Text.snakeCase "end_date" = "end_date" := by decide +kernel
    have hunit : Text.snakeCase "unit" = "unit" := by decide +kernel
    rw [Parameters.normalize, List.map_cons, List.map_cons, List.map_nil, hdate, hunit]
    rfl
  have hend : Parameters.value [("end_date", w), ("unit", .text "days")] "end_date" = w := rfl
  have hunit : Parameters.getD [("end_date", w), ("unit", .text "days")] "unit" (.text "days") =
      .text "days" := rfl
  -- the date is given, so neither another parameter nor the clock is asked
  have hasOf : asOf? clock [("end_date", w), ("unit", .text "days")] ["end_date", "other_date"] =
      .ok (some (.midnight e)) := by
    rw [asOf?, hend, not_isNull hw, if_neg Bool.false_ne_true, hw]
  have hcall : (builtIn contacts).transform clock "date_diff" v
      [("end_date", w), ("unit", .text "days")] =
      difference clock (.midnight d) (Parameters.normalize [("end_date", w), ("unit", .text "days")]) :=
    transform_onMoment (f := difference) rfl hv
  rw [hcall, hgiven, difference, hasOf, Fallible.ok_bind]
  dsimp only
  rw [hunit]
  exact wholeUnits_days hd he

lemma transform_distance {name key description : String} {category : Category}
    {f : Moment → Parameters → Except Fault Value}
    (hentry : Table.get? (builtIn contacts) name = some ⟨category, description, onMoment f⟩)
    (hkey : Text.snakeCase key = key) (hv : v.moment? clock.year = .ok (some t)) :
    (builtIn contacts).transform clock name v [(key, .int n)] = f t [(key, .int n)] := by
  have hgiven : Parameters.normalize [(key, .int n)] = [(key, .int n)] := by
    rw [Parameters.normalize, List.map_singleton, hkey]
    rfl
  rw [transform_onMoment (f := fun _ => f) hentry hv, hgiven]

lemma transform_addDays (hv : v.moment? clock.year = .ok (some t)) :
    (builtIn contacts).transform clock "add_days" v [("days", .int n)] = shiftDays t n :=
  transform_distance (f := addDays) rfl (by decide +kernel) hv

lemma transform_subtractDays (hv : v.moment? clock.year = .ok (some t)) :
    (builtIn contacts).transform clock "subtract_days" v [("days", .int n)] = shiftDays t (-n) :=
  transform_distance (f := subtractDays) rfl (by decide +kernel) hv

lemma transform_addMonths (hv : v.moment? clock.year = .ok (some t)) :
    (builtIn contacts).transform clock "add_months" v [("months", .int n)] = shiftMonths t n :=
  transform_distance (f := addMonths) rfl (by decide +kernel) hv

lemma transform_addYears (hv : v.moment? clock.year = .ok (some t)) :
    (builtIn contacts).transform clock "add_years" v [("years", .int n)] = shiftMonths t (12 * n) :=
  transform_distance (f := addYears) rfl (by decide +kernel) hv

lemma transform_endOfMonth (hv : v.moment? clock.year = .ok (some (.midnight d))) :
    (builtIn contacts).transform clock "end_of_month" v [] = .ok (endOfMonth d) :=
  transform_onDate (f := endOfMonth) rfl hv

/-- **Distances between dates agree.** The days between two dates lead from one to the other. Days that
are added lead to the date whose ordinal is that much larger, and taken off again lead back. Months that
are added lead to the month whose index is that much larger, where a day past its end becomes the last
one, which is the end of the month. Years are twelve months each. -/
theorem distances_agree (hd : d.Valid) (contacts : Contact.Directory) (clock : Clock)
    (hv : v.moment? clock.year = .ok (some (.midnight d))) :
    (∀ (e : Date) (w : Value), e.Valid → w.moment? clock.year = .ok (some (.midnight e)) →
      ∃ k, (builtIn contacts).transform clock "date_diff" v [("end_date", w), ("unit", .text "days")] =
          .ok (.int k) ∧
        (builtIn contacts).transform clock "add_days" v [("days", .int k)] = .ok (.text e.iso)) ∧
    (∀ (r : Date) (n : Int), r.Valid → (r.ordinal : Int) = d.ordinal + n →
      (builtIn contacts).transform clock "add_days" v [("days", .int n)] = .ok (.text r.iso) ∧
      (builtIn contacts).transform clock "subtract_days" (.text r.iso) [("days", .int n)] =
        .ok (.text d.iso)) ∧
    (∀ (y m : Nat) (n : Int), 1 ≤ y → y ≤ Date.maxYear → 1 ≤ m → m ≤ 12 →
      (y * 12 + (m - 1 : Nat) : Int) = d.monthIndex + n →
      ∃ last : Nat, (builtIn contacts).transform clock "add_months" v [("months", .int n)] =
          .ok (.text (⟨y, m, min d.day last⟩ : Date).iso) ∧
        (builtIn contacts).transform clock "end_of_month"
            (.text (⟨y, m, min d.day last⟩ : Date).iso) [] =
          .ok (.text (⟨y, m, last⟩ : Date).iso) ∧
        ∀ day, (⟨y, m, day⟩ : Date).Valid ↔ 1 ≤ day ∧ day ≤ last) ∧
    ∀ n, (builtIn contacts).transform clock "add_years" v [("years", .int n)] =
      (builtIn contacts).transform clock "add_months" v [("months", .int (12 * n))] := by
  have hiso : ∀ {r : Date}, r.Valid → (Value.text r.iso).moment? clock.year = .ok (some (.midnight r)) :=
    fun hr => moment?_texts hr List.mem_cons_self
  -- ordinals for days, indices for months
  refine ⟨fun e w he hw => ?_, fun r n hr h => ?_, fun y m n hy hy' hm hm' h => ?_, fun n => ?_⟩
  · refine ⟨_, transform_difference hd he hv hw, ?_⟩
    rw [transform_addDays hv]
    exact shiftDays_eq hd he (by simp [Moment.midnight])
  · rw [transform_addDays hv, transform_subtractDays (hiso hr)]
    exact ⟨shiftDays_eq hd hr h, shiftDays_eq hr hd (by simp only [Moment.midnight]; omega)⟩
  · obtain ⟨hvalid, -⟩ := Date.addMonths?_eq hd hy hy' hm hm' h
    refine ⟨daysInMonth y m, ?_, ?_, fun day => ?_⟩
    · rw [transform_addMonths hv]
      exact shiftMonths_eq hd hy hy' hm hm' h
    · rw [transform_endOfMonth (hiso hvalid), endOfMonth]
    · simp only [Date.Valid, Date.minYear, hy, hy', hm, hm', true_and]
  · rw [transform_addYears hv, transform_addMonths hv]

/-- A year back from a leap day is the last day of its month. -/
theorem year_before_leap_day :
    (builtIn .listed).transform (.ofDate ⟨2024, 1, 1⟩) "add_years" (.date ⟨2024, 2, 29⟩)
        [("years", .int (-1))] =
      .ok (.text "2023-02-28") := by
  have hagree := distances_agree (d := ⟨2024, 2, 29⟩) (v := .date ⟨2024, 2, 29⟩) (by decide)
    .listed (.ofDate ⟨2024, 1, 1⟩) rfl
  obtain ⟨-, -, hmonths, hyears⟩ := hagree
  obtain ⟨last, hadded, -, hlast⟩ := hmonths 2023 2 (-12) (by decide) (by decide) (by decide) (by decide)
    (by decide)
  have h28 : 1 ≤ 28 ∧ 28 ≤ last := (hlast 28).1 (by decide)
  have h29 : ¬ (1 ≤ 29 ∧ 29 ≤ last) := fun h => absurd ((hlast 29).2 h) (by decide)
  obtain rfl : last = 28 := by omega
  have hiso : (⟨2023, 2, 28⟩ : Date).iso = "2023-02-28" := by decide
  rw [hyears, show (12 * -1 : Int) = -12 from rfl, hadded, ← hiso]
  rfl

end Transformation

end Crosswalk
