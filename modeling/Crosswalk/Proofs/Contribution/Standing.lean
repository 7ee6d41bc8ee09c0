import Crosswalk.Proofs.Contribution.Batch
import Crosswalk.Proofs.Contribution.Ledger

/-!
What a contribution is judged by in a batch.

The totals before a record are those of its own employee and plan year. So the verdicts on the
records of one employee and year are those on these records alone, whatever else the batch holds.
-/

namespace Crosswalk.Contribution

open Fallible

variable {s : Setting} {employee : String} {year : Nat}

/-! ### Verdicts in order -/

/-- The verdict on a record is the one its totals give: those of the records before it. -/
def JudgedAt (s : Setting) (earlier : List Record) (record : Record) (v : Verdict) : Prop :=
  ∃ year employee, planYear s.clock record = .ok year ∧ employee? record = .ok employee ∧
    verdict s.clock record year (totalsBefore s earlier employee year) s.plan s.ratio = .ok v

lemma judge_eq_ok {earlier : List Record} {record : Record} {v : Verdict} :
    judge s earlier record = .ok v ↔ JudgedAt s earlier record v := by
  simp only [judge, JudgedAt, bind_eq_ok]
  constructor
  · rintro ⟨year, hyear, employee, hemployee, hv⟩
    exact ⟨year, employee, hyear, hemployee, hv⟩
  · rintro ⟨year, employee, hyear, hemployee, hv⟩
    exact ⟨year, hyear, employee, hemployee, hv⟩

lemma judged_of_judgeAll {earlier : List Record} {records before after : List (Int × Record)}
    {p : Int × Record} {vs : List (Int × Verdict)} (hvs : judgeAll s earlier records = .ok vs)
    (h : records = before ++ p :: after) :
    ∃ v, (p.1, v) ∈ vs ∧ JudgedAt s (earlier ++ before.map (·.2)) p.2 v := by
  -- on what stands in front, which are the records it is judged after
  induction before generalizing earlier records vs with
  | nil =>
    subst h
    obtain ⟨v, hv, hvs⟩ := bind_eq_ok.1 hvs
    obtain ⟨ws, -, hvs⟩ := bind_eq_ok.1 hvs
    cases hvs
    exact ⟨v, by simp, by simpa using judge_eq_ok.1 hv⟩
  | cons q before ih =>
    subst h
    obtain ⟨w, -, hvs⟩ := bind_eq_ok.1 hvs
    obtain ⟨ws, hws, hvs⟩ := bind_eq_ok.1 hvs
    cases hvs
    obtain ⟨v, hmem, hv⟩ := ih hws rfl
    exact ⟨v, by simp [hmem], by simpa using hv⟩

/-! ### One employee and year alone -/

/-- The verdicts on records of one employee and year after earlier ones of theirs. -/
def ownVerdicts (s : Setting) (employee : String) (year : Nat) (earlier : List Record) :
    List Record → List (Option Verdict)
  | [] => []
  | record :: rest =>
    (verdict s.clock record year (totalsAfter s earlier employee year) s.plan s.ratio).toOption ::
      ownVerdicts s employee year (earlier ++ [record]) rest

lemma totalsAfter_filter (earlier : List Record) :
    totalsAfter s (earlier.filter (isOf s employee year)) employee year =
      totalsAfter s earlier employee year := by
  simp only [totalsAfter, List.filter_filter, Bool.and_self]

lemma JudgedAt.own {earlier : List Record} {record : Record} {v : Verdict}
    (h : JudgedAt s earlier record v) (hof : isOf s employee year record = true) :
    verdict s.clock record year (totalsAfter s (earlier.filter (isOf s employee year)) employee year)
      s.plan s.ratio = .ok v := by
  obtain ⟨he, hy⟩ := isOf_iff.1 hof
  obtain ⟨year', employee', hy', he', hv⟩ := h
  obtain rfl := Except.ok.inj (hy.symm.trans hy')
  obtain rfl := Except.ok.inj (he.symm.trans he')
  rwa [totalsAfter_filter]

def ownOf (s : Setting) (employee : String) (year : Nat) (records : List (Int × Record)) :
    List (Int × Record) :=
  records.filter fun p => isOf s employee year p.2

lemma ownOf_cons_of {p : Int × Record} (h : isOf s employee year p.2 = true)
    (records : List (Int × Record)) :
    ownOf s employee year (p :: records) = p :: ownOf s employee year records :=
  List.filter_cons_of_pos h

lemma ownOf_cons_of_not {p : Int × Record} (h : ¬ isOf s employee year p.2 = true)
    (records : List (Int × Record)) :
    ownOf s employee year (p :: records) = ownOf s employee year records :=
  List.filter_cons_of_neg h

/-- Every record of the batch has the verdict that its totals give, after the earlier records. -/
def EachJudged (s : Setting) (earlier : List Record) (records : List (Int × Record))
    (vs : List (Int × Verdict)) : Prop :=
  ∀ before p after, records = before ++ p :: after →
    ∃ v, vs.lookup p.1 = some v ∧ JudgedAt s (earlier ++ before.map (·.2)) p.2 v

lemma EachJudged.tail {earlier : List Record} {p : Int × Record} {records : List (Int × Record)}
    {vs : List (Int × Verdict)} (h : EachJudged s earlier (p :: records) vs) :
    EachJudged s (earlier ++ [p.2]) records vs := by
  rintro before q after rfl
  obtain ⟨v, hv, hjudged⟩ := h (p :: before) q after rfl
  exact ⟨v, hv, by simpa using hjudged⟩

lemma EachJudged.own {earlier : List Record} {records : List (Int × Record)}
    {vs : List (Int × Verdict)} (h : EachJudged s earlier records vs) :
    (ownOf s employee year records).map (fun p => vs.lookup p.1) =
      ownVerdicts s employee year (earlier.filter (isOf s employee year))
        ((ownOf s employee year records).map (·.2)) := by
  induction records generalizing earlier with
  | nil => rfl
  | cons p records ih =>
    have htail := ih h.tail
    rw [List.filter_append] at htail
    -- a record of others moves no total of this employee and year
    by_cases hof : isOf s employee year p.2 = true
    · obtain ⟨v, hv, hjudged⟩ := h [] p records rfl
      rw [List.map_nil, List.append_nil] at hjudged
      rw [List.filter_cons_of_pos hof, List.filter_nil] at htail
      rw [ownOf_cons_of hof, List.map_cons, List.map_cons, ownVerdicts, htail, hv, hjudged.own hof]
      rfl
    · rw [List.filter_cons_of_neg hof, List.filter_nil, List.append_nil] at htail
      rwa [ownOf_cons_of_not hof]

/-! ### A batch -/

/-- What the verdicts on a batch are by. -/
structure JudgedInOrder (s : Setting) (records : List (Int × Record))
    (vs : List (Int × Verdict)) : Prop where
  positions : vs.map (·.1) = records.map (·.1)
  judged : EachJudged s [] records vs
  alone : ∀ employee year records' vs', (records'.map (·.1)).Pairwise (· ≠ ·) →
    checkBatch s records' = .ok vs' →
    (ownOf s employee year records').map (·.2) = (ownOf s employee year records).map (·.2) →
    (ownOf s employee year records').map (fun p => vs'.lookup p.1) =
      (ownOf s employee year records).map (fun p => vs.lookup p.1)
  inPlace : ∀ cells addresses, Holds cells addresses s.baselines →
    ∃ l, checkAllIn s.clock s.plan s.ratio addresses ⟨cells, []⟩ records = .ok (vs, l) ∧
      cells <+: l.cells ∧ Holds l.cells addresses s.baselines

variable {records : List (Int × Record)} {vs : List (Int × Verdict)}

lemma eachJudged_of_checkBatch (hpos : (records.map (·.1)).Pairwise (· ≠ ·))
    (h : checkBatch s records = .ok vs) : EachJudged s [] records vs := by
  rw [checkBatch_eq hpos] at h
  rw [← positions_checkAll h] at hpos
  rw [checkAll_eq (tracks_nil s)] at h
  intro before p after hp
  obtain ⟨v, hv, hjudged⟩ := judged_of_judgeAll h hp
  exact ⟨v, lookup_of_mem hpos hv, hjudged⟩

/-- **A record is judged by its employee's baseline with the earlier records of the same employee
and year.** So whatever else a batch holds leaves the verdicts on these records as they are, and
totals that are changed in place leave the baselines as they were. -/
theorem checkBatch_judgedInOrder (hpos : (records.map (·.1)).Pairwise (· ≠ ·))
    (h : checkBatch s records = .ok vs) : JudgedInOrder s records vs where
  positions := positions_checkAll (checkBatch_eq hpos ▸ h)
  judged := eachJudged_of_checkBatch hpos h
  alone employee year records' vs' hpos' h' hown := by
    rw [(eachJudged_of_checkBatch hpos h).own, (eachJudged_of_checkBatch hpos' h').own, hown]
  inPlace cells addresses hholds := by
    have hstart := follows_start hholds
    have hverdicts := (hstart.verdicts hholds records).trans (checkBatch_eq hpos ▸ h)
    obtain ⟨⟨ws, l⟩, hl, rfl⟩ := map_eq_ok.1 hverdicts
    have hkept := hstart.keeps hholds hl
    exact ⟨l, hl, hkept, hholds.mono hkept⟩

def contribution (employee : Value) (date : String) (cents : Int) : Record :=
  [("employeeId", employee), ("payrollDate", .text date), ("employeePreTax", .int cents)]

/-- One employee has nearly reached the limit of 2025 before the batch. -/
def lateIn2025 : Setting where
  clock := .ofDate ⟨2025, 7, 1⟩
  baselines := [("a", ⟨2300000, 0⟩)]
  plan := ⟨none, none⟩
  ratio := .int 1

def interleaved : List (Int × Record) :=
  [(0, contribution (.text "a") "2025-01-31" 30000),
    (1, contribution (.text "b") "2025-01-31" 30000),
    (2, contribution (.text "a") "2024-12-31" 30000),
    (3, contribution .null "2025-01-31" 30000),
    (4, contribution (.text "a") "2025-02-28" 30000)]

/-- The baseline stands for every year, and the last record is judged with the first one. -/
def interleavedVerdicts : List (Int × Verdict) :=
  [(0, .empty), (1, .empty),
    (2, ⟨false, [⟨"employeePreTax", "EXCEEDS_EMPLOYEE_ELECTIVE_LIMIT", "Contribution would exceed " ++
      "annual employee elective deferral limit of 2300000 (year to date 2300000, proposed 30000)",
      .int 30000, .error⟩], []⟩),
    (3, .empty),
    (4, ⟨false, [⟨"employeePreTax", "EXCEEDS_EMPLOYEE_ELECTIVE_LIMIT", "Contribution would exceed " ++
      "annual employee elective deferral limit of 2350000 (year to date 2330000, proposed 30000)",
      .int 30000, .error⟩], []⟩)]

theorem interleaved_judgedInOrder :
    (interleaved.map (·.1)).Pairwise (· ≠ ·) ∧
      checkBatch lateIn2025 interleaved = .ok interleavedVerdicts ∧
      JudgedInOrder lateIn2025 interleaved interleavedVerdicts :=
  ⟨by decide, rfl, checkBatch_judgedInOrder (by decide) rfl⟩

end Crosswalk.Contribution
