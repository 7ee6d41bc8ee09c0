import Crosswalk.Calendar.Date
import Crosswalk.Contribution.Totals
import Crosswalk.Rule.Finding
import Crosswalk.Value.Dated
import Crosswalk.Value.Number

/-!
Limits on contributions, in cents, and the check of one contribution against them.
-/

namespace Crosswalk.Contribution

/-- The limits of a plan year. -/
structure YearLimits where
  elective : Int
  catchUp : Int
  additions : Int
  highlyCompensated : Int
deriving DecidableEq

/-- The years whose limits are known, the latest last. -/
def knownYears : List (Int × YearLimits) :=
  [(2024, ⟨2300000, 750000, 6900000, 15500000⟩), (2025, ⟨2350000, 750000, 7000000, 16000000⟩),
    (2026, ⟨2350000, 750000, 7000000, 16000000⟩)]

/-- The limits of the latest known year. -/
def latestLimits : YearLimits := ⟨2350000, 750000, 7000000, 16000000⟩

/-- The limits of a year, or of the latest known one. -/
def limitsOf (year : Int) : YearLimits := (knownYears.lookup year).getD latestLimits

/-- The age from which employees may catch up. -/
def catchUpAge : Int := 50

def electiveFields : List String := ["employeePreTax", "employeeRoth"]

def employerFields : List String := ["employerMatch", "employerNonMatch"]

/-- The limits that a plan sets. -/
structure PlanLimits where
  employee : Option Int
  matching : Option Int

/-- The whole cents of a value, zero for what is no amount. -/
def cents (v : Value) : Except Fault Int := do
  match ← v.amount? with
  | some d => return d.trunc?.getD 0
  | none => return 0

/-- Amounts of cents together. -/
def total (amounts : List Int) : Int := amounts.foldl (· + ·) 0

/-- The cents of some fields together. -/
def centsOf (record : Record) (fields : List String) : Except Fault Int :=
  return total (← fields.mapM fun f => cents (record.value f))

/-- Whether a limit is set; zero sets none. -/
def limitSet (limit : Option Int) : Option Int := limit.filter (· ≠ 0)

/-- Whether the employee of a record may catch up in a year. -/
def mayCatchUp (clock : Clock) (record : Record) (year : Nat) : Except Fault Bool := do
  match ← (record.value "dateOfBirth").moment? clock.year with
  | some t => return catchUpAge ≤ t.date.ageOn ⟨year, 12, 31⟩
  | none => return false

/-- The elective limit of a record: the year's, what may be caught up, and the plan's. -/
def electiveLimit (clock : Clock) (record : Record) (year : Nat) (plan : PlanLimits) :
    Except Fault Int := do
  let limits := limitsOf year
  let limit :=
    if ← mayCatchUp clock record year then limits.elective + limits.catchUp else limits.elective
  return ((limitSet plan.employee).map (min limit)).getD limit

def electiveFinding? (limit soFar proposed : Int) (ratio : Number) :
    Except Fault (Option Finding) := do
  if limit < soFar + proposed then
    let message := "Contribution would exceed annual employee elective deferral limit of " ++
      (← Value.integerText limit) ++ " (year to date " ++ (← Value.integerText soFar) ++
      ", proposed " ++ (← Value.integerText proposed) ++ ")"
    return some ⟨"employeePreTax", "EXCEEDS_EMPLOYEE_ELECTIVE_LIMIT", message, .int proposed, .error⟩
  else if ← Order.greater.numbers (.int (soFar + proposed)) (← Number.mul (.int limit) ratio) then
    let message := "Employee is approaching annual elective deferral limit of " ++
      (← Value.integerText limit) ++ " (year to date " ++
      (← Value.integerText (soFar + proposed)) ++ ")"
    return some ⟨"employeePreTax", "APPROACHING_EMPLOYEE_LIMIT", message, .int proposed, .warning⟩
  else return none

def additionsFinding? (limit soFar proposed : Int) : Except Fault (Option Finding) := do
  if limit < soFar + proposed then
    let message := "Contribution would exceed IRC Section 415 annual additions limit of " ++
      (← Value.integerText limit) ++ " (year to date " ++ (← Value.integerText soFar) ++ ")"
    return some ⟨"total", "EXCEEDS_415_LIMIT", message, .int proposed, .error⟩
  else return none

def matchFinding? (plan : PlanLimits) (matching : Int) : Except Fault (Option Finding) :=
  match limitSet plan.matching with
  | none => .ok none
  | some limit => do
    if limit < matching then
      let message := "Employer match exceeds plan limit of " ++ (← Value.integerText limit)
      return some ⟨"employerMatch", "EXCEEDS_PLAN_MATCH_LIMIT", message, .int matching, .error⟩
    else return none

def negativeFinding? (record : Record) (field : String) : Except Fault (Option Finding) := do
  let v := record.value field
  match ← v.amount? with
  | none => return none
  | some d =>
    if Decimal.compare? d .zero = some .lt then
      return some ⟨field, "NEGATIVE_AMOUNT", field ++ " cannot be negative", v, .error⟩
    else return none

/-- The findings about a contribution, given the totals before it. -/
def findings (clock : Clock) (record : Record) (year : Nat) (soFar : Totals) (plan : PlanLimits)
    (ratio : Number) : Except Fault (List Finding) := do
  let elective ← centsOf record electiveFields
  let employer ← centsOf record employerFields
  let limit ← electiveLimit clock record year plan
  let first ← electiveFinding? limit soFar.elective elective ratio
  let second ←
    additionsFinding? (limitsOf year).additions soFar.additions (elective + employer)
  let third ← matchFinding? plan (← cents (record.value "employerMatch"))
  let negatives ← (electiveFields ++ employerFields).mapM (negativeFinding? record)
  return ([first, second, third] ++ negatives).reduceOption

/-- The verdict on a contribution, given the totals before it. -/
def verdict (clock : Clock) (record : Record) (year : Nat) (soFar : Totals) (plan : PlanLimits)
    (ratio : Number) : Except Fault Verdict :=
  return .ofFindings (← findings clock record year soFar plan ratio)

end Crosswalk.Contribution
