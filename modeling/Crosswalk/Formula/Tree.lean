import Crosswalk.Number.Decimal

/-!
Trees of formulas: arithmetic over decimal numbers and fields of a record.

A field is read from the source record, or, unless it is written `source.name`, from what the mapping
has produced.
-/

namespace Crosswalk

structure FieldRef where
  name : String
  sourceOnly : Bool
deriving DecidableEq

namespace Formula

inductive Sign where
  | plus
  | minus
deriving DecidableEq

inductive Operator where
  | add
  | sub
  | mul
  | div
deriving DecidableEq

def Sign.symbol : Sign → String
  | .plus => "+"
  | .minus => "-"

def Operator.symbol : Operator → String
  | .add => "+"
  | .sub => "-"
  | .mul => "*"
  | .div => "/"

def Sign.apply (s : Sign) (x : Decimal) : Except Decimal.Signal Decimal :=
  match s with
  | .plus => x.plus
  | .minus => x.minus

def Operator.apply (o : Operator) (x y : Decimal) : Except Decimal.Signal Decimal :=
  match o with
  | .add => x.add y
  | .sub => x.sub y
  | .mul => x.mul y
  | .div => x.div y

end Formula

inductive Formula where
  | number (d : Decimal)
  | field (r : FieldRef)
  | signed (s : Formula.Sign) (operand : Formula)
  | binary (o : Formula.Operator) (left right : Formula)
deriving DecidableEq

namespace Formula

/-- The number of nodes. -/
def size : Formula → Nat
  | .number _ => 1
  | .field _ => 1
  | .signed _ operand => operand.size + 1
  | .binary _ left right => left.size + right.size + 1

/-- The fields of a formula from left to right, each as often as it occurs. -/
def refs : Formula → List FieldRef
  | .number _ => []
  | .field r => [r]
  | .signed _ operand => operand.refs
  | .binary _ left right => left.refs ++ right.refs

/-- Adds a name behind the others, unless it is among them. -/
def addName (names : List String) (name : String) : List String :=
  if name ∈ names then names else names ++ [name]

/-- The names of the fields that have not been visited, behind those that have been found. The formulas
to visit stand on a stack, and a node with operands gives way to them, the left one on top. -/
def namesFrom (fuel : Nat) (todo : List Formula) (names : List String) : List String :=
  match fuel, todo with
  | fuel + 1, f :: todo =>
    match f with
    | .number _ => namesFrom fuel todo names
    | .field r => namesFrom fuel todo (addName names r.name)
    | .signed _ operand => namesFrom fuel (operand :: todo) names
    | .binary _ left right => namesFrom fuel (left :: right :: todo) names
  | _, _ => names

/-- The names of the fields in the order in which they first appear. Every node is visited once, so the
size is fuel enough. -/
def fieldNames (f : Formula) : List String := namesFrom f.size [f] []

end Formula

end Crosswalk
