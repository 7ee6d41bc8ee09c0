import Crosswalk.Proofs.Contribution.Failure
import Crosswalk.Proofs.Number.Order
import Crosswalk.Proofs.Rule.Verdict
import Crosswalk.Proofs.Value.Amount

/-!
What a verdict on a contribution reports.

Each check finds an error with its own code, on a field of its own, exactly if its limit is passed.
So the codes and fields of the errors of a verdict can be told from the record and the totals before
it, and the verdict is valid if there are none.

A plan limit of zero is not among the limits in force: it is taken for one that is not set. A
verdict reports what the limits of the plan ask for as long as no such zero is passed.
-/

namespace Crosswalk.Contribution

open Fallible

def amountFields : List String := electiveFields ++ employerFields

/-- The elective limit of the year, with what the employee of a record may catch up. -/
def yearLimit (clock : Clock) (record : Record) (year : Nat) : Int :=
  let limits := limitsOf year
  if catchesUp clock record year then limits.elective + limits.catchUp else limits.elective

/-- A limit, or the cap on it if that is lower. -/
def capped (limit : Int) (cap : Option Int) : Int := (cap.map (min limit)).getD limit

def Negative (v : Value) : Prop := ∃ q < 0, v.HasAmount q

def Reported (v : Verdict) (code : String) : Prop := ∃ f ∈ v.errors, f.code = code

def errorCodes : List String :=
  ["EXCEEDS_EMPLOYEE_ELECTIVE_LIMIT", "EXCEEDS_415_LIMIT", "EXCEEDS_PLAN_MATCH_LIMIT",
    "NEGATIVE_AMOUNT"]

/-- A verdict reports of a contribution which limits it passes, after given totals, and which of its
amounts are negative. -/
structure Reports (clock : Clock) (record : Record) (year : Nat) (soFar : Totals)
    (plan : PlanLimits) (v : Verdict) : Prop where
  elective : Reported v "EXCEEDS_EMPLOYEE_ELECTIVE_LIMIT" ↔
    capped (yearLimit clock record year) plan.employee < soFar.elective + centsIn record electiveFields
  additions : Reported v "EXCEEDS_415_LIMIT" ↔ (limitsOf year).additions <
    soFar.additions + (centsIn record electiveFields + centsIn record employerFields)
  matching : Reported v "EXCEEDS_PLAN_MATCH_LIMIT" ↔
    ∃ limit ∈ plan.matching, limit < wholeCents (record.value "employerMatch")
  negative : ∀ field, (∃ f ∈ v.errors, f.code = "NEGATIVE_AMOUNT" ∧ f.field = field) ↔
    field ∈ amountFields ∧ Negative (record.value field)
  negativeOnce : ((v.errors.filter (·.code = "NEGATIVE_AMOUNT")).map (·.field)).Nodup
  valid : v.valid ↔ ∀ code ∈ errorCodes, ¬ Reported v code
  warned : (∃ f ∈ v.warnings, f.code = "APPROACHING_EMPLOYEE_LIMIT") →
    ¬ Reported v "EXCEEDS_EMPLOYEE_ELECTIVE_LIMIT"

variable {clock : Clock} {record : Record} {year : Nat} {soFar : Totals} {plan : PlanLimits} {ratio : Number}
  {v : Verdict} {found : Option Finding} {fs : List Finding}

/-! ### What one check finds -/

/-- The code and the field of a finding. -/
def mark (f : Finding) : String × String := (f.code, f.field)

/-- The marks of what a check has found, if it is of a severity. -/
def marks (severity : Severity) (found : Option Finding) : List (String × String) :=
  (found.toList.filter (·.severity = severity)).map mark

/-- A check finds an error exactly if something holds, and nothing else. -/
inductive Finds (code field : String) (p : Prop) : Option Finding → Prop where
  | error (h : p) (message : String) (value : Value) :
      Finds code field p (some ⟨field, code, message, value, .error⟩)
  | nothing (h : ¬ p) : Finds code field p none

lemma Finds.errors {code field : String} {p : Prop} [Decidable p] (h : Finds code field p found) :
    marks .error found = if p then [(code, field)] else [] := by
  cases h with
  | error h message value => rw [if_pos h]; rfl
  | nothing h => rw [if_neg h]; rfl

lemma Finds.warnings {code field : String} {p : Prop} (h : Finds code field p found) :
    marks .warning found = [] := by
  cases h <;> rfl

end Crosswalk.Contribution
