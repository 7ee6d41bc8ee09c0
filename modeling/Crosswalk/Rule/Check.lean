import Crosswalk.Pattern
import Crosswalk.Rule.Basic
import Crosswalk.Value.Convert
import Crosswalk.Value.Equality

/-!
Whether a value satisfies the logic of a rule, and what is wrong with a logic itself.

Equality is without coercion, order is between amounts, and a pattern is searched in the text under which
the value stands in tables. A check that fails counts as not satisfied.
-/

namespace Crosswalk.Rule

namespace Logic

def equals (l : Logic) (v : Value) : Bool :=
  if v.isMissing then l.value.isNull else v.strictEquals l.value

/-- Whether a value stands in the given order to the threshold. -/
def inOrder (l : Logic) (o : Ordering) (v : Value) : Except Fault Bool := do
  let x ← v.amount?
  let y ← l.value.amount?
  match x, y with
  | some x, some y => return Decimal.compare? x y = some o
  | _, _ => return false

/-- A bound that is infinite or not a number cannot be compared with. -/
def incomparable (left right : String) : Fault :=
  ⟨.wrongType, "'<=' not supported between instances of '" ++ left ++ "' and '" ++ right ++ "'"⟩

def atMost (x y : Decimal) : Bool := Decimal.compare? x y ≠ some .gt

/-- Whether a value lies between the bounds, themselves included. -/
def isBetween (l : Logic) (v : Value) : Except Fault Bool := do
  match ← v.amount?, l.low, l.high with
  | some x, some low, some high =>
    match ← (Value.float low).amount? with
    | none => throw (incomparable "NoneType" "decimal.Decimal")
    | some low =>
      if !atMost low x then return false
      else
        match ← (Value.float high).amount? with
        | none => throw (incomparable "decimal.Decimal" "NoneType")
        | some high => return atMost x high
  | _, _, _ => return false

def lists (l : Logic) (v : Value) : Bool := l.values.any fun vs => Value.containsStrict vs v

/-- Whether the pattern is found in the text of a value. -/
def isFound (l : Logic) (v : Value) : Except Fault Bool :=
  match v.isMissing, named? l.pattern with
  | false, some pattern => do
    let text ← v.key
    match Pattern.read pattern with
    | .ok p => return p.search text
    | .error (.malformed _) => return false
    | .error (.fault f) => throw f
  | _, _ => .ok false

def check (l : Logic) (v : Value) : Except Fault Bool :=
  match l.operator with
  | .equals => .ok (l.equals v)
  | .notEquals => .ok (!l.equals v)
  | .greaterThan => l.inOrder .gt v
  | .lessThan => l.inOrder .lt v
  | .between => l.isBetween v
  | .isIn => .ok (l.lists v)
  | .notIn => .ok (!l.lists v)
  | .matchesPattern => l.isFound v
  | .notEmpty => .ok (!v.isBlank)

/-- Problems with a pattern. -/
def patternProblems (l : Logic) : Except Fault (List String) :=
  match named? l.pattern with
  | none => .ok ["matches requires a pattern"]
  | some pattern =>
    match Pattern.read pattern with
    | .ok _ => .ok []
    | .error (.malformed message) => .ok ["invalid pattern: " ++ message]
    | .error (.fault f) => .error f

/-- Problems with a logic that show before any value is checked. -/
def problems (l : Logic) : Except Fault (List String) :=
  match l.operator with
  | .matchesPattern => l.patternProblems
  | .between =>
    .ok (if l.low.isNone ∨ l.high.isNone then ["between requires min and max"] else [])
  | .isIn | .notIn =>
    .ok (if l.values.isNone then [l.operator.name ++ " requires values"] else [])
  | .greaterThan | .lessThan => do
    let threshold ← l.value.amount?
    return if threshold.isNone then [l.operator.name ++ " requires a numeric value"] else []
  | _ => .ok []

end Logic

/-- Whether a record satisfies a rule. -/
def satisfiedBy (r : Rule) (record : Record) : Bool :=
  match r.logic.check (record.value r.target) with
  | .ok b => b
  | .error _ => false

end Crosswalk.Rule
