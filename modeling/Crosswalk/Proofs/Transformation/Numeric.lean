import Crosswalk.Proofs.Value.Demand
import Crosswalk.Proofs.Value.Numeric
import Crosswalk.Transformation.Catalogue

/-!
Which numbers the transformations of numbers have a result for.

A value that stands for no number gives null. For the others each transformation asks something of the
number: it fails for exactly those that are not so, and gives a number otherwise.
-/

namespace Crosswalk

open Fallible Demand

namespace Transformation

variable {k : Nat}

/-! ### Rounding halves upwards -/

/-- Two places and thousands groups. -/
def grouped : Number → Except Fault String
  | .int m => return (← Number.floatOfInt m).grouped
  | .float x => .ok x.grouped
  | .decimal d => .ok d.grouped

variable {contacts : Contact.Directory} {v : Value} {clock : Clock} {n : Number}

/-- What a transformation of numbers asks and gives. -/
structure Contract where
  name : String
  /-- What it asks of the number. -/
  demand : Demand
  /-- The number that it takes a value for. -/
  reads : Value → Option Number := Value.number?
  /-- Which values it cannot take for anything. -/
  Refuses : Value → Prop := fun _ => False
  /-- What its results are. -/
  Gives : Value → Prop := Value.IsNumeric

/-- Without parameters the transformation fails where no number can be read or it is not as it must be, and
otherwise gives null or what it is to give. -/
structure Contract.Kept (contacts : Contact.Directory) (c : Contract) (clock : Clock) (v : Value) :
    Prop where
  fails_iff : Fails ((builtIn contacts).transform clock c.name v []) ↔
    c.Refuses v ∨ ∃ n, c.reads v = some n ∧ ¬ c.demand.Met n
  result : ∀ r, (builtIn contacts).transform clock c.name v [] = .ok r →
    c.reads v = none ∧ r = .null ∨ (∃ n, c.reads v = some n) ∧ c.Gives r

end Transformation

end Crosswalk
