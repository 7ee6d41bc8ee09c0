import Crosswalk.Text.Piece
import Crosswalk.Value.Amount
import Crosswalk.Value.Convert

/-!
Conditions: one field of the source record compared with a literal.

Two numbers are equal by value. Every other pair is compared by the texts under which the values stand in
tables. Order is between numbers only: a value that is no number is neither above nor below.
-/

namespace Crosswalk

/-- What a field is compared with. -/
inductive Literal where
  | null
  | bool (b : Bool)
  | int (n : Int)
  | float (x : Binary64)
  | text (s : String)
deriving DecidableEq

namespace Literal

def value : Literal → Value
  | .null => .null
  | .bool b => .bool b
  | .int n => .int n
  | .float x => .float x
  | .text s => .text s

def isNumber : Literal → Bool
  | .int _ | .float _ => true
  | _ => false

end Literal

inductive Comparison where
  | equal
  | notEqual
  | above
  | below
deriving DecidableEq

namespace Comparison

def symbol : Comparison → String
  | .equal => "=="
  | .notEqual => "!="
  | .above => ">"
  | .below => "<"

/-- Whether a comparison is one of order. -/
def isOrder : Comparison → Bool
  | .above | .below => true
  | _ => false

end Comparison

structure Condition where
  field : String
  comparison : Comparison
  literal : Literal
deriving DecidableEq

namespace Condition

/-- Whether two values have the same text as table keys. -/
def sameKey (v w : Value) : Except Fault Bool := return (← v.key) = (← w.key)

/-- Whether a value equals the literal. -/
def equals (l : Literal) (v : Value) : Except Fault Bool :=
  match l, v with
  | .null, v => .ok v.isNull
  | _, .null => .ok false
  | l, v =>
    if l.isNumber then do
      match ← v.amount? with
      | some x =>
        match ← l.value.amount? with
        | some y => return Decimal.compare? x y = some .eq
        | none => return false
      | none => sameKey v l.value
    else sameKey v l.value

def incomparable (c : Comparison) : Fault :=
  ⟨.wrongType, "'" ++ c.symbol ++ "' not supported between instances of " ++
    "'decimal.Decimal' and 'NoneType'"⟩

/-- Whether a value stands in the given order to the literal. -/
def inOrder (c : Comparison) (o : Ordering) (l : Literal) (v : Value) : Except Fault Bool := do
  match ← v.amount? with
  | none => return false
  | some x =>
    match ← l.value.amount? with
    | none => throw (incomparable c)
    | some y => return Decimal.compare? x y = some o

/-- Whether a record fulfils a condition. -/
def holds (c : Condition) (r : Record) : Except Fault Bool :=
  let v := r.value c.field
  match c.comparison with
  | .equal => equals c.literal v
  | .notEqual => return !(← equals c.literal v)
  | .above => inOrder .above .gt c.literal v
  | .below => inOrder .below .lt c.literal v

/-- The text of a literal; a text stands in double quotes. -/
def literalText : Literal → Except Fault String
  | .null => .ok "null"
  | .text s => .ok ("\"" ++ s ++ "\"")
  | l => l.value.key

/-- The text of a condition. -/
def text (c : Condition) : Except Fault String :=
  return "source." ++ c.field ++ " " ++ c.comparison.symbol ++ " " ++ (← literalText c.literal)

end Condition

end Crosswalk
