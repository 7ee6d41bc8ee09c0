import Crosswalk.Value.Absence
import Crosswalk.Value.Number

/-!
Tables of columns as lists of records.

A column of numbers has one type: integers, or binary64 numbers if some are, or if one is absent. Every
other column keeps its values, and missing ones become null.
-/

namespace Crosswalk.Frame

/-- What a column holds so far, read from the top. -/
structure Contents where
  absent : Bool := false
  notANumber : Bool := false
  ints : Bool := false
  floats : Bool := false
  /-- An integer of 64 bits that needs all of them. -/
  unsigned : Bool := false
  negative : Bool := false
  /-- A value of another type, or integers without a common type. -/
  other : Bool := false

/-- The range of unsigned integers of 64 bits ends in front of this. -/
def unsignedEnd : Int := 2 ^ 64

def signedEnd : Int := 2 ^ 63

/-- An integer behind an absent value is one of a column of binary64 numbers, whatever its size. -/
def Contents.addInt (c : Contents) (n : Int) : Except Fault Contents := do
  let _ ← Number.floatOfInt n
  let c := { c with ints := true }
  if c.absent then return c
  else
    let c := { c with
      unsigned := c.unsigned || (decide (signedEnd ≤ n ∧ n < unsignedEnd))
      negative := c.negative || (decide (-signedEnd ≤ n ∧ n < 0)) }
    return { c with
      other := (c.unsigned && c.negative) || decide (unsignedEnd ≤ n ∨ n < -signedEnd) }

/-- The contents with one more value; once a column is mixed it stays so. -/
def Contents.add (c : Contents) (v : Value) : Except Fault Contents :=
  if c.other then .ok c
  else
    match v with
    | .null => .ok { c with absent := true }
    | .float x =>
      .ok (if x.isNaN then { c with notANumber := true } else { c with floats := true })
    | .int n => c.addInt n
    | _ => .ok { c with other := true }

/-- Whether the numbers of a column become binary64 numbers. -/
def Contents.areFloats (c : Contents) : Bool :=
  !c.other && (c.floats || (c.ints && (c.absent || c.notANumber)))

def asFloat : Value → Value
  | .int n => .float (.ofInt n)
  | v => v

def present (v : Value) : Value := if v.isMissing then .null else v

/-- The values of a column as record values. -/
def column (vs : List Value) : Except Fault (List Value) := do
  let contents ← vs.foldlM Contents.add ({} : Contents)
  return vs.map fun v => present (if contents.areFloats then asFloat v else v)

/-- The record of a row. -/
def row (columns : Table (List Value)) (i : Nat) : Record :=
  columns.map fun c => (c.1, Value.ofOption c.2[i]?)

/-- The records of a table, whose columns must have the same length. -/
def records (columns : Table (List Value)) : Except Fault (List Record) := do
  let columns ← columns.mapM fun c => return (c.1, ← column c.2)
  match columns with
  | [] => return []
  | (_, first) :: _ =>
    if columns.all fun c => c.2.length = first.length then
      return (List.range first.length).map (row columns)
    else throw ⟨.badValue, "All arrays must be of the same length"⟩

end Crosswalk.Frame
