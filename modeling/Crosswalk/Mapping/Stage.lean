import Crosswalk.Formula.Evaluate
import Crosswalk.Mapping.Rules
import Crosswalk.Readers
import Crosswalk.Transformation.Catalogue

/-!
The five stages of mapping one record.

Each of the first four stages makes a list of writes, which are put into the destination in order. A
transformation that fails keeps the raw value, a condition that does not read is false, and a formula that
fails writes nothing; `Tally` counts these. Only faults of other kinds end the record.
-/

namespace Crosswalk.Mapping

/-- What mapping depends on besides rules and records. -/
structure Engine where
  catalogue : Catalogue
  readers : Readers
  clock : Clock

structure Tally where
  records : Nat
  transformations : Nat
  transformationErrors : Nat
  conditionErrors : Nat
  formulaErrors : Nat
deriving DecidableEq

def Tally.zero : Tally := ⟨0, 0, 0, 0, 0⟩

/-- A computation that counts, and may fail. -/
abbrev Run (α : Type) := ExceptT Fault (StateM Tally) α

def Run.count (f : Tally → Tally) : Run Unit := modifyThe Tally f

abbrev Write := String × Value

/-- The writes of some rules in order. -/
def writesOf {α : Type} (f : α → Run (List Write)) (rules : List α) : Run (List Write) :=
  return (← rules.mapM f).flatten

variable (e : Engine) (source : Record)

/-- The value that a transfer writes. -/
def transferred (t : Transfer) : Run Value :=
  let v := source.value t.source
  if v.isMissing then return .null
  else
    match t.transformation with
    | none => return v
    | some "" => return v
    | some name =>
      match e.catalogue.transform e.clock name v t.parameters with
      | .ok w => do
        Run.count fun s => { s with transformations := s.transformations + 1 }
        return w
      | .error _ => do
        Run.count fun s => { s with transformationErrors := s.transformationErrors + 1 }
        return v

def transferWrites (t : Transfer) : Run (List Write) :=
  return [(t.destination, ← transferred e source t)]

/-- Whether a condition reads and holds. -/
def conditionHolds (text : String) : Run Bool :=
  match e.readers.condition text >>= fun c => c.holds source with
  | .ok b => return b
  | .error f => do
    if f.kind.isExpression then
      Run.count fun s => { s with conditionErrors := s.conditionErrors + 1 }
      return false
    else throw f

def conditionalWrites (c : Conditional) : Run (List Write) := do
  if ← conditionHolds e source c.condition then
    return c.assignments.map fun a => (a.destination, a.value)
  else return []

/-- What a field of a formula stands for: a field of the source, else of what has been mapped. -/
def operand (mapped : Record) (r : FieldRef) : Value :=
  match Table.get? source r.name with
  | some v => v
  | none => if r.sourceOnly then .null else mapped.value r.name

/-- The amount of a field of a formula; what is no amount counts as zero. -/
def amountOf (mapped : Record) : Formula.Resolver := fun r =>
  return (← (operand source mapped r).amount?).getD .zero

/-- The value of a calculation. -/
def calculated (mapped : Record) (c : Calculation) : Except Fault Value := do
  let f ← e.readers.formula c.formula
  let x ← f.evaluate (amountOf source mapped)
  Value.ofAmount (← Fault.ofDecimal (c.rounding.apply x))

def calculationWrites (mapped : Record) (c : Calculation) : Run (List Write) :=
  match calculated e source mapped c with
  | .ok v => return [(c.destination, v)]
  | .error f => do
    if f.kind.isExpression || f.kind.isArithmetic then
      Run.count fun s => { s with formulaErrors := s.formulaErrors + 1 }
      return []
    else throw f

/-- The value that a translation writes. A table that is only named passes the value through. -/
def translated (t : Translation) : Except Fault Value :=
  let v := source.value t.source
  if v.isMissing then .ok t.default
  else
    match t.entries with
    | none => .ok v
    | some entries => do
      match Record.value entries (← v.key) with
      | .null => return t.default
      | found => return found

def translationWrites (t : Translation) : Run (List Write) := do
  let v ← translated source t
  return [(t.destination, v)]

/-- Whether a default is written over a value. -/
def DefaultPolicy.fires (p : DefaultPolicy) (current : Value) : Bool :=
  match p with
  | .always => true
  | .ifNull => current.isMissing
  | .ifEmpty => current.isEmpty

/-- Writes the defaults that fire, one after the other. -/
def withDefaults (defaults : List Default) (destination : Record) : Record :=
  defaults.foldl
    (fun d x => if x.policy.fires (d.value x.destination) then d.put x.destination x.value else d)
    destination

/-- The destination after a stage that makes writes. -/
def afterWrites (destination : Record) (writes : Run (List Write)) : Run Record :=
  return Table.putAll destination (← writes)

def afterTransfers (rules : Rules) : Run Record :=
  afterWrites [] (writesOf (transferWrites e source) rules.transfers)

def afterConditionals (rules : Rules) (destination : Record) : Run Record :=
  afterWrites destination (writesOf (conditionalWrites e source) rules.conditionals)

def afterCalculations (rules : Rules) (destination : Record) : Run Record :=
  afterWrites destination (writesOf (calculationWrites e source destination) rules.calculations)

def afterTranslations (rules : Rules) (destination : Record) : Run Record :=
  afterWrites destination (writesOf (translationWrites source) rules.translations)

/-- The destination before defaults are written. -/
def beforeDefaults (rules : Rules) : Run Record := do
  let d ← afterTransfers e source rules
  let d ← afterConditionals e source rules d
  let d ← afterCalculations e source rules d
  afterTranslations source rules d

/-- The destination record of a source record. -/
def mapFields (rules : Rules) : Run Record :=
  return withDefaults rules.defaults (← beforeDefaults e source rules)

/-- The text of a record's position. -/
def indexText : Option Int → String
  | none => "None"
  | some i => toString i

/-- Maps a value that must be a record. -/
def mapRecord (rules : Rules) (index : Option Int) (input : Value) : Run Record :=
  match input with
  | .object source => mapFields e source rules
  | v => throw ⟨.mapping, "Record " ++ indexText index ++ " is not a field/value mapping (got " ++
      v.typeName ++ ")"⟩

end Crosswalk.Mapping
