import Crosswalk.Text.LetterCase
import Crosswalk.Transformation.Text

/-!
Transformations that choose among given values: tables, defaults and comparisons.
-/

namespace Crosswalk.Transformation

open Text

/-- The first of the values that is not null. -/
def firstPresent : List Value → Value
  | [] => .null
  | v :: vs => if v.isNull then firstPresent vs else v

def fieldOf (fields : Table Value) (key : String) : Value := Value.ofOption (Table.get? fields key)

/-- Looks the value up in a table by its key. -/
def lookupValue (v : Value) (p : Parameters) : Except Fault Value := do
  let default := p.value "default_value"
  if v.isMissing then return default
  match p.value "lookup_table" with
  | .object table => return firstPresent [fieldOf table (← v.key), default]
  | _ => return default

def upperText (v : Value) : Except Fault String := return String.ofList (upper (← v.toChars))

/-- Maps an upper-case code through a table. -/
def mapCode (v : Value) (p : Parameters) : Except Fault Value := do
  let default := p.value "default_value"
  if v.isMissing then return default
  let mapping := p.value "mapping"
  match (if mapping.isTruthy then mapping else p.value "code_map") with
  | .object table => return firstPresent [fieldOf table (← upperText v), default, v]
  | _ => return firstPresent [default, v]

def defaultIfNull (v : Value) (p : Parameters) : Value :=
  if v.isMissing then p.value "default_value" else v

def isEmptyList : Value → Bool
  | .list [] => true
  | _ => false

def defaultIfEmpty (v : Value) (p : Parameters) : Value :=
  if v.isBlank || isEmptyList v then p.value "default_value" else v

/-- The items that a loop over a value takes. -/
def itemsOf : Value → Except Fault (List Value)
  | .list vs => .ok vs
  | .tuple vs => .ok vs
  | .text s => .ok (s.toList.map fun c => .text (String.singleton c))
  | .object fs => .ok (fs.map fun e => .text e.1)
  | v => .error ⟨.wrongType, "'" ++ v.fullTypeName ++ "' object is not iterable"⟩

/-- The first value that is neither missing nor blank, of a list or of the parameter `values`. -/
def coalesce (v : Value) (p : Parameters) : Except Fault Value := do
  let candidates ←
    match v with
    | .list vs => pure vs
    | .tuple vs => pure vs
    | _ => itemsOf (p.getD "values" (.list [v]))
  return Value.ofOption (candidates.find? fun c => !c.isBlank)

def firstNonNull (v : Value) : Value :=
  let candidates :=
    match v with
    | .list vs => vs
    | .tuple vs => vs
    | _ => [v]
  Value.ofOption (candidates.find? fun c => !c.isMissing)

/-- Compares the numbers that two values stand for; false if one of them is none. -/
def compareNumbers (o : Order) (a b : Value) : Except Fault Bool :=
  match a.number?, b.number? with
  | some x, some y => o.numbers x y
  | _, _ => .ok false

def compareTexts (f : List Char → List Char → Bool) (a b : Value) : Except Fault Bool := do
  let y ← b.toChars
  return f (← a.toChars) y

/-- Missing, an empty text or an empty list. -/
def hasNothing (v : Value) : Bool := v.isMissing || v.equals (.text "") || isEmptyList v

/-- The comparison of a name, if there is one. -/
def comparison? : String → Option (Value → Value → Except Fault Bool)
  | "equals" => some fun a b => .ok (a.strictEquals b)
  | "not_equals" => some fun a b => .ok (!a.strictEquals b)
  | "greater_than" => some (compareNumbers .greater)
  | "less_than" => some (compareNumbers .less)
  | "greater_than_or_equals" => some (compareNumbers .greaterOrEqual)
  | "less_than_or_equals" => some (compareNumbers .lessOrEqual)
  | "contains" => some (compareTexts contains)
  | "starts_with" => some (compareTexts startsWith)
  | "ends_with" => some (compareTexts endsWith)
  | "is_null" => some fun a _ => .ok a.isMissing
  | "is_not_null" => some fun a _ => .ok (!a.isMissing)
  | "is_empty" => some fun a _ => .ok (hasNothing a)
  | "is_not_empty" => some fun a _ => .ok (!hasNothing a)
  | _ => none

/-- Chooses between two parameters by a comparison, where a condition is asked for. -/
def ifThenElse (v : Value) (p : Parameters) : Except Fault Value := do
  if !(p.value "condition").isTruthy then return v
  let operator := p.value "operator"
  let operator := if operator.isTruthy then operator else .text "equals"
  let compare ←
    match operator with
    | .text name =>
      match comparison? name with
      | some c => pure c
      | none => throw ⟨.transformation, "Unknown comparison operator: " ++ name⟩
    | other =>
      match other.unhashable? with
      | some f => throw f
      | none => throw ⟨.transformation, "Unknown comparison operator: " ++ (← other.toText)⟩
  return if ← compare v (p.value "compare_value") then p.value "then" else p.value "else"

/-- Maps the value through a table of cases. -/
def switchCase (v : Value) (p : Parameters) : Except Fault Value := do
  match p.value "cases" with
  | .object cases => return firstPresent [fieldOf cases (← v.key), p.value "default_value", v]
  | _ => return firstPresent [p.value "default_value", v]

def nvl (v : Value) (p : Parameters) : Value := if v.isMissing then p.value "replacement" else v

def nvl2 (v : Value) (p : Parameters) : Value :=
  if v.isMissing then p.value "if_null" else firstPresent [p.value "if_not_null", v]

/-- The two items of a pair. -/
def pairOf (v : Value) : Except Fault (Value × Value) := do
  let items ←
    match itemsOf v with
    | .ok items => pure items
    | .error _ => throw ⟨.wrongType, "cannot unpack non-iterable " ++ v.fullTypeName ++ " object"⟩
  match items with
  | [a, b] => return (a, b)
  | _ =>
    if 2 < items.length then throw ⟨.badValue, "too many values to unpack (expected 2)"⟩
    else throw ⟨.badValue, s!"not enough values to unpack (expected 2, got {items.length})"⟩

/-- The result of the first pair whose search value equals the value. -/
def decodePairs (v : Value) : List Value → Except Fault (Option Value)
  | [] => .ok none
  | pair :: more => do
    let (search, result) ← pairOf pair
    if v.strictEquals search then return some result else decodePairs v more

def decode (v : Value) (p : Parameters) : Except Fault Value := do
  let pairs := p.value "pairs"
  let pairs ← if pairs.isTruthy then itemsOf pairs else pure []
  match ← decodePairs v pairs with
  | some result => return result
  | none => return firstPresent [p.value "default_value", v]

def contributionTypeCodes : Table String :=
  [("PRE_TAX", "1"), ("PRETAX", "1"), ("TRADITIONAL", "1"), ("ROTH", "2"), ("ROTH_401K", "2"),
    ("AFTER_TAX", "3"), ("AFTERTAX", "3"), ("CATCH_UP", "4"), ("CATCHUP", "4"),
    ("EMPLOYER_MATCH", "5"), ("MATCH", "5"), ("EMPLOYER_NON_MATCH", "6"), ("PROFIT_SHARING", "6"),
    ("LOAN_REPAYMENT", "7"), ("LOAN", "7")]

def employeeStatusCodes : Table String :=
  [("ACTIVE", "A"), ("A", "A"), ("TERMINATED", "T"), ("T", "T"), ("LEAVE", "L"),
    ("ON_LEAVE", "L"), ("L", "L"), ("DECEASED", "D"), ("D", "D"), ("RETIRED", "R"), ("R", "R"),
    ("SUSPENDED", "S"), ("S", "S")]

def payFrequencyCodes : Table String :=
  [("WEEKLY", "W"), ("W", "W"), ("BI_WEEKLY", "B"), ("BIWEEKLY", "B"), ("B", "B"),
    ("SEMI_MONTHLY", "S"), ("SEMIMONTHLY", "S"), ("S", "S"), ("MONTHLY", "M"), ("M", "M"),
    ("QUARTERLY", "Q"), ("Q", "Q"), ("ANNUAL", "A"), ("ANNUALLY", "A"), ("A", "A")]

/-- Maps a name of a code, in any case and with blanks or hyphens, through a table of codes. -/
def mapStandard (codes : Table String) (v : Value) (p : Parameters) : Except Fault Value := do
  let given := p.value "mapping"
  let cs := (upper (← v.toChars)).map fun c => if isBlank c || c = '-' then '_' else c
  let key := String.ofList cs
  let found ←
    if given.isTruthy then
      match given with
      | .object table => pure (fieldOf table key)
      | other => throw (lacks other "get")
    else pure (Value.ofOption ((Table.get? codes key).map Value.text))
  return firstPresent [found, p.value "default_value", v]

end Crosswalk.Transformation
