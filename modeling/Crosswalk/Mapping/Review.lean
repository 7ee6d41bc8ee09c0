import Crosswalk.Mapping.Stage

/-!
Checking mapping rules before they are kept.

Transformations must exist, conditions and formulas must read, and where the known fields are given every
source field must be one of them; a formula may also name what transfers and assignments produce.
-/

namespace Crosswalk.Mapping

structure Review where
  errors : List String
  warnings : List String

namespace Review

def empty : Review := ⟨[], []⟩

def isValid (r : Review) : Bool := r.errors.isEmpty

def append (r s : Review) : Review := ⟨r.errors ++ s.errors, r.warnings ++ s.warnings⟩

end Review

/-- The place of a rule in its list. -/
def place (list : String) (i : Nat) : String := list ++ "[" ++ toString i ++ "]"

/-- The error of a source field that is not known. -/
def fieldErrors (known : Option (List String)) (place field : String) (produced : List String) :
    List String :=
  if known.all fun fields => field ∈ fields ∨ field ∈ produced then []
  else [place ++ ": unknown source field '" ++ field ++ "'"]

def transferErrors (c : Catalogue) (known : Option (List String)) (i : Nat) (t : Transfer) :
    List String :=
  let place := place "field_mappings" i
  fieldErrors known place t.source [] ++
    match t.transformation with
    | none => []
    | some "" => []
    | some name => if c.has name then [] else [place ++ ": unknown transformation '" ++ name ++ "'"]

/-- The errors of a text that has been read or refused; other faults go on. -/
def readErrors {α : Type} (place : String) (reading : Except Fault α) (errors : α → List String) :
    Except Fault (List String) :=
  match reading with
  | .ok x => .ok (errors x)
  | .error f => if f.kind.isExpression then .ok [place ++ ": " ++ f.message] else .error f

def conditionErrors (r : Readers) (known : Option (List String)) (i : Nat) (c : Conditional) :
    Except Fault (List String) :=
  let place := place "conditional_mappings" i
  readErrors place (r.condition c.condition) fun c => fieldErrors known place c.field []

def formulaErrors (r : Readers) (known : Option (List String)) (produced : List String) (i : Nat)
    (c : Calculation) : Except Fault (List String) :=
  let place := place "calculated_fields" i
  readErrors place (r.formula c.formula) fun f =>
    f.fieldNames.flatMap fun name => fieldErrors known place name produced

def translationReview (known : Option (List String)) (i : Nat) (t : Translation) : Review :=
  let place := place "lookup_mappings" i
  ⟨fieldErrors known place t.source [],
    if t.entries.isSome then []
    else [place ++ ": external lookup table '" ++ t.tableName.getD "None" ++
      "' is not resolved; source values pass through unchanged"]⟩

/-- The destination fields of transfers and assignments. -/
def produced (rules : Rules) : List String :=
  rules.transfers.map (·.destination) ++
    rules.conditionals.flatMap fun c => c.assignments.map (·.destination)

/-- The results of a function on items with their positions, one after the other. -/
def collect {α : Type} (f : Nat → α → Except Fault (List String)) (i : Nat) :
    List α → Except Fault (List String)
  | [] => .ok []
  | x :: xs => return (← f i x) ++ (← collect f (i + 1) xs)

/-- Checks rules. -/
def review (c : Catalogue) (r : Readers) (known : Option (List String)) (rules : Rules) :
    Except Fault Review := do
  let transfers := (rules.transfers.zipIdx.map fun (t, i) => transferErrors c known i t).flatten
  let conditions ← collect (conditionErrors r known) 0 rules.conditionals
  let formulas ← collect (formulaErrors r known (produced rules)) 0 rules.calculations
  let translations :=
    (rules.translations.zipIdx.map fun (t, i) => translationReview known i t).foldl Review.append .empty
  return ⟨transfers ++ conditions ++ formulas ++ translations.errors, translations.warnings⟩

end Crosswalk.Mapping
