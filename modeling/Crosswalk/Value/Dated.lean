import Crosswalk.Calendar.Reading
import Crosswalk.Value.Absence
import Crosswalk.Value.Text

/-!
The moment that a value stands for: its own, midnight of a date, or what its text reads as.

The moment is one of UTC and has no zone.
-/

namespace Crosswalk.Value

/-- The moment itself, on whatever clock it was given. -/
def givenMoment? (v : Value) (present : Nat) : Except Fault (Option Moment) :=
  match v with
  | .moment t => .ok (some t)
  | .date d => .ok (some (.midnight d))
  | _ => if v.isMissing then .ok none else return Calendar.read? present (← v.toText)

def moment? (v : Value) (present : Nat) : Except Fault (Option Moment) := do
  match ← v.givenMoment? present with
  | none => return none
  | some t =>
    if t.offset.isNone then return some t
    else
      match t.toUtc? with
      | some u => return some u
      | none => throw ⟨.overflow, "date value out of range"⟩

end Crosswalk.Value
