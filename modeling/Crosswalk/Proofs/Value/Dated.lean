import Crosswalk.Proofs.Value.LongInteger
import Crosswalk.Value.Dated

/-!
Which values have no moment to be dated by.

A text that is no date is just not dated. What fails is the conversion to UTC, when it goes past the
first or the last day of the calendar, and the text of an integer that is too long.
-/

namespace Crosswalk

open Fallible

namespace Moment

/-- On the clock of UTC the moment lies before year 1 or after year 9999. -/
def LeavesCalendar (t : Moment) : Prop :=
  t.offset.isSome ∧ (t.utcTicks < 0 ∨ Date.maxOrdinal * perDay ≤ t.utcTicks)

end Moment

namespace Value

open Moment (LeavesCalendar)

/-- The value has no moment: it has no text, or its moment leaves the calendar. -/
def Undatable (v : Value) (present : Nat) : Prop :=
  v.holdsLong ∨ ∃ t, v.givenMoment? present = .ok (some t) ∧ t.LeavesCalendar

def outOfRange : Fault := ⟨.overflow, "date value out of range"⟩

lemma raises_givenMoment (v : Value) (present : Nat) :
    Raises (· = .integerTooLong) (v.givenMoment? present) := by
  unfold givenMoment?
  split
  · simp
  · simp
  · split
    · simp
    · exact raises_bind (raises_toText v) fun _ _ => by simp

lemma raises_moment (v : Value) (present : Nat) :
    Raises (fun f => f = .integerTooLong ∨ f = outOfRange) (v.moment? present) := by
  refine raises_bind (raises_mono (fun _ => .inl) (raises_givenMoment v present)) fun t _ => ?_
  split
  · simp
  · split
    · simp
    · split
      · simp
      · simp [outOfRange]

end Value

end Crosswalk
