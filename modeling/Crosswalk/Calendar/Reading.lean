import Crosswalk.Calendar.FreeForm
import Crosswalk.Calendar.Iso

/-!
Reading a date from a text of any known shape.

Eight digits are `YYYYMMDD`, and three numbers with slashes or hyphens, the last of four digits, are
`MM/DD/YYYY`; a text of such a shape whose date does not exist is no date. Any other text is read as
ISO 8601, with `Z` for UTC, and failing that freely.
-/

namespace Crosswalk.Calendar

open Text
open FreeForm (natural?)

/-- The parts of a text that has `YYYYMMDD` form. -/
def compactParts? (cs : List Char) : Option (Nat × Nat × Nat) := do
  if cs.length ≠ 8 then none
  else return (← natural? (cs.take 4), ← natural? ((cs.drop 4).take 2), ← natural? (cs.drop 6))

/-- The parts, as year, month and day, of a text of the form `MM/DD/YYYY` or `MM-DD-YYYY`. -/
def slashedParts? (cs : List Char) : Option (Nat × Nat × Nat) := do
  let isBar (c : Char) : Bool := c = '/' || c = '-'
  let m := cs.takeWhile isDigit
  let rest := cs.drop m.length
  let d := (rest.drop 1).takeWhile isDigit
  let y := rest.drop (1 + d.length)
  if 2 < m.length ∨ 2 < d.length ∨ !rest.head?.any isBar ∨ !y.head?.any isBar ∨ y.length ≠ 5 then none
  else return (← natural? (y.drop 1), ← natural? m, ← natural? d)

def withZuluOffset (cs : List Char) : List Char :=
  cs.flatMap fun c => if c = 'Z' then "+00:00".toList else [c]

/-- Reads a text without blanks around it. -/
def readTrimmed? (present : Nat) (cs : List Char) : Option Moment :=
  if cs.isEmpty then none
  else
    match compactParts? cs <|> slashedParts? cs with
    | some (y, m, d) => (Date.of? y m d).map Moment.midnight
    | none =>
      match Iso.moment? (withZuluOffset cs) with
      | some t => some t
      | none => FreeForm.moment? present cs

/-- Reads a text in the year `present`. -/
def read? (present : Nat) (s : String) : Option Moment := readTrimmed? present (strip s.toList)

end Crosswalk.Calendar
