import Crosswalk.Contribution.Limits

/-!
Checking the contributions of a batch in order.

The totals of each employee and plan year run along, from the employee's baseline. A record without an
employee starts from zero and leaves nothing behind.
-/

namespace Crosswalk.Contribution

/-- The fields that may name the employee, the first one present counts. -/
def employeeFields : List String := ["employeeId", "employeeNumber", "employee_id", "employee_number"]

def isNamed : Value → Bool
  | .null => false
  | .text s => s ≠ ""
  | _ => true

/-- The key of a record's employee. -/
def employee? (record : Record) : Except Fault (Option String) :=
  match (employeeFields.map record.value).find? isNamed with
  | some v => return some (← v.toText)
  | none => .ok none

/-- The plan year of a record, the present one without a payroll date. -/
def planYear (clock : Clock) (record : Record) : Except Fault Nat := do
  match ← (record.value "payrollDate").moment? clock.year with
  | some t => return t.date.year
  | none => return clock.now.date.year

/-- Totals by employee and plan year. -/
abbrev Running := List ((String × Nat) × Totals)

/-- The totals of an employee and year so far. -/
def Running.soFar (r : Running) (baselines : Table Totals) (employee : String) (year : Nat) : Totals :=
  match r.lookup (employee, year) with
  | some t => t
  | none => (Table.get? baselines employee).getD .zero

/-- The totals with the contribution of a record. -/
def addTo (soFar : Totals) (record : Record) : Except Fault Totals :=
  return ⟨soFar.elective + (← centsOf record electiveFields),
    soFar.employer + (← centsOf record employerFields)⟩

structure Setting where
  clock : Clock
  baselines : Table Totals
  plan : PlanLimits
  ratio : Number

/-- The verdict on the next record, and the totals after it. -/
def checkNext (s : Setting) (running : Running) (record : Record) : Except Fault (Verdict × Running) := do
  let year ← planYear s.clock record
  match ← employee? record with
  | none =>
    let v ← verdict s.clock record year .zero s.plan s.ratio
    let _ ← addTo .zero record
    return (v, running)
  | some employee =>
    let soFar := running.soFar s.baselines employee year
    let v ← verdict s.clock record year soFar s.plan s.ratio
    return (v, ((employee, year), ← addTo soFar record) :: running)

/-- The verdicts on records with their positions, in order. -/
def checkAll (s : Setting) (running : Running) :
    List (Int × Record) → Except Fault (List (Int × Verdict))
  | [] => .ok []
  | (index, record) :: rest => do
    let (v, running) ← checkNext s running record
    return (index, v) :: (← checkAll s running rest)

/-- Entries in the order in which their positions first occur, each with its last value. -/
def lastOfEach {α : Type} (entries : List (Int × α)) : List (Int × α) :=
  entries.foldl
    (fun es e =>
      if es.any fun f => f.1 = e.1 then es.map fun f => if f.1 = e.1 then e else f else es ++ [e])
    []

/-- The verdicts on a batch: for a position that occurs again, the last one. -/
def checkBatch (s : Setting) (records : List (Int × Record)) : Except Fault (List (Int × Verdict)) :=
  return lastOfEach (← checkAll s [] records)

end Crosswalk.Contribution
