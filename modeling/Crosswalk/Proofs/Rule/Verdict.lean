import Mathlib.Data.List.ReduceOption
import Crosswalk.Proofs.ByPosition
import Crosswalk.Rule.Validation

/-!
What a verdict says: the findings of the rules that a record does not satisfy, in the order of the
rules.

Errors and warnings are the findings of the two severities, so each is what the unsatisfied rules of
its severity find.
-/

namespace Crosswalk

open Fallible ByPosition

namespace Verdict

lemma foldl_add (fs : List Finding) (v : Verdict) : fs.foldl add v =
    ⟨v.valid && fs.all (·.severity ≠ .error), v.errors ++ fs.filter (·.severity = .error),
      v.warnings ++ fs.filter (·.severity = .warning)⟩ := by
  induction fs generalizing v with
  | nil => simp
  | cons f fs ih =>
    rw [List.foldl_cons, ih]
    rcases h : f.severity <;> simp [add, h]

@[simp] lemma errors_ofFindings (fs : List Finding) :
    (ofFindings fs).errors = fs.filter (·.severity = .error) := by
  simp [ofFindings, foldl_add, empty]

@[simp] lemma warnings_ofFindings (fs : List Finding) :
    (ofFindings fs).warnings = fs.filter (·.severity = .warning) := by
  simp [ofFindings, foldl_add, empty]

def ofSeverity (v : Verdict) : Severity → List Finding
  | .error => v.errors
  | .warning => v.warnings

@[simp] lemma ofSeverity_ofFindings (fs : List Finding) (severity : Severity) :
    (ofFindings fs).ofSeverity severity = fs.filter (·.severity = severity) := by
  cases severity <;> simp [ofSeverity]

@[simp] lemma valid_ofFindings (fs : List Finding) :
    (ofFindings fs).valid = (ofFindings fs).errors.isEmpty := by
  rw [errors_ofFindings, ofFindings, foldl_add, Bool.eq_iff_iff]
  simp [empty]

end Verdict

namespace Rule

def finding (r : Rule) (record : Record) : Except Fault Finding :=
  return ⟨r.target, r.category.name, ← Message.render r.message r (record.value r.target),
    record.value r.target, r.severity⟩

def broken (severity : Severity) (rules : List Rule) (record : Record) : List Rule :=
  rules.filter fun r => !r.satisfiedBy record && r.severity = severity

variable {rules : List Rule} {record : Record}

lemma finding?_eq (r : Rule) (record : Record) : r.finding? record =
    if r.satisfiedBy record then .ok none else some <$> r.finding record := by
  simp only [finding?, finding, map_bind]
  rfl

lemma findings_eq (rules : List Rule) (record : Record) : Verdict.findings rules record =
    (rules.filter fun r => !r.satisfiedBy record).mapM fun r => r.finding record := by
  induction rules with
  | nil => rfl
  | cons r rules ih =>
    rw [Verdict.findings] at ih ⊢
    rw [List.mapM_cons, finding?_eq]
    by_cases h : r.satisfiedBy record
    · rw [List.filter_cons_of_neg (by simp [h]), ← ih, if_pos h]
      simp [List.reduceOption_cons_of_none]
    · rw [List.filter_cons_of_pos (by simp [h]), List.mapM_cons, ← ih, if_neg h]
      rcases r.finding record with f | x
      · rfl
      · simp [List.reduceOption_cons_of_some]

lemma severity_of_finding {r : Rule} {f : Finding} (h : r.finding record = .ok f) :
    f.severity = r.severity := by
  obtain ⟨s, -, h⟩ := bind_eq_ok.1 h
  rw [← Except.ok.inj h]

/-- **The findings of a severity** are those of the broken rules of that severity, in order. -/
theorem broken_findings {v : Verdict} (h : Verdict.ofRules rules record = .ok v)
    (severity : Severity) :
    (broken severity rules record).mapM (fun r => r.finding record) =
      .ok (v.ofSeverity severity) := by
  obtain ⟨fs, hfs, h⟩ := bind_eq_ok.1 h
  obtain rfl := Except.ok.inj h
  rw [findings_eq] at hfs
  have hfs := mapM_filter (p := fun r => r.severity = severity) (q := (·.severity = severity))
    (fun r f hf => by rw [severity_of_finding hf]) hfs
  rw [List.filter_filter] at hfs
  rw [Verdict.ofSeverity_ofFindings, ← hfs, broken]
  simp only [Bool.and_comm]

end Rule

end Crosswalk
