import Crosswalk.Proofs.Number.Quantity
import Crosswalk.Proofs.Value.Dated
import Crosswalk.Proofs.Value.NotANumber

/-!
Which values stand for a number.

A value is a truth value, missing, a number, or something that is read from its text. The number is
never not-a-number, so it can be put in order.
-/

namespace Crosswalk

open Fallible

variable {v : Value} {n m : Number} {o : Order}

namespace Number

end Number

namespace Value

def IsNumeric (v : Value) : Prop := ∃ n, v.number? = some n

end Value

end Crosswalk
