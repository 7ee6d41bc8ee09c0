import Crosswalk.Calendar.Moment
import Crosswalk.Number.Width
import Crosswalk.Text.Blank

/-!
Reading dates that start with a year and whose parts may be short: `2024/1/5`, `2024.1.5 9:05`.

The date may stop after the year or the month; with a separator, months, days and minutes may have
one digit. White space may stand before the offset.
-/

namespace Crosswalk.Calendar.Separated

open Text

/-- One or two leading digits as a number, and whether there were two. -/
def upToTwo? : List Char → Option (Nat × Bool × List Char)
  | c :: d :: rest =>
    if !c.isDigit then none
    else if d.isDigit then some ((c.toNat - 48) * 10 + (d.toNat - 48), true, rest)
    else some (c.toNat - 48, false, d :: rest)
  | [c] => if c.isDigit then some (c.toNat - 48, false, []) else none
  | [] => none

def number (ds : List Char) : Nat := ds.foldl (fun n c => n * 10 + (c.toNat - 48)) 0

def isSeparator (c : Char) : Bool := c ∈ ['-', '.', '/', Char.ofNat 92, ' ']

/-- The offset in minutes at the end of a text. -/
def offset? (cs : List Char) : Option (Option Int) := do
  match trimWhile isSpace cs with
  | [] => return none
  | 'Z' :: rest => if rest.isEmpty then return some 0 else none
  | c :: rest =>
    if c ≠ '+' ∧ c ≠ '-' then none
    else
      let (h, _, rest) ← upToTwo? rest
      let (m, rest) ←
        match rest with
        | [] => some (0, [])
        | d :: more => (upToTwo? (if d = ':' then more else rest)).map fun (m, _, r) => (m, r)
      if !rest.isEmpty ∨ 24 ≤ h ∨ 60 ≤ m then none
      else
        let minutes : Int := h * 60 + m
        return some (if c = '-' then -minutes else minutes)

/-- Up to six digits of a fraction of a second, as microseconds, and the rest without digits. -/
def fraction (cs : List Char) : Nat × List Char :=
  let ds := cs.takeWhile Char.isDigit
  let kept := ds.take 6
  (number kept * 10 ^ (6 - kept.length), cs.dropWhile Char.isDigit)

/-- Minutes or seconds: with colons one digit will do. -/
def sixtieth? (colons : Bool) (cs : List Char) : Option (Nat × List Char) := do
  let (v, two, rest) ← upToTwo? cs
  if 60 ≤ v ∨ (!two ∧ !colons) then none else return (v, rest)

/-- The clock and the offset behind a date. -/
def clock? (cs : List Char) : Option (Nat × Nat × Nat × Nat × Option Int) := do
  let (h, two, rest) ← upToTwo? cs
  let ends (m s f : Nat) (rest : List Char) : Option (Nat × Nat × Nat × Nat × Option Int) :=
    (offset? rest).map fun o => (h, m, s, f, o)
  let colons := rest.head? = some ':'
  let rest := if colons then rest.drop 1 else rest
  if !colons ∧ !rest.head?.any Char.isDigit then
    if two then ends 0 0 0 rest else none
  else
    let (m, rest) ← sixtieth? colons rest
    let more := if colons then rest.head? = some ':' else rest.head?.any Char.isDigit
    if !more then ends m 0 0 rest
    else
      let (s, rest) ← sixtieth? colons (if colons then rest.drop 1 else rest)
      match rest with
      | '.' :: rest =>
        let (f, rest) := fraction rest
        ends m s f rest
      | rest => ends m s 0 rest

/-- Month and day behind a year; a missing one is the first. -/
def monthDay? (cs : List Char) : Option (Nat × Nat × List Char) := do
  match cs with
  | [] => return (1, 1, [])
  | c :: rest =>
    let separator := if c.isDigit then none else some c
    if separator.any fun c => !isSeparator c then none
    else
      let (m, two, rest) ← upToTwo? (if c.isDigit then cs else rest)
      if !two ∧ separator.isNone then none
      else
        match rest, separator with
        | [], none => none
        | [], some _ => return (m, 1, [])
        | d :: rest', some s =>
          if d ≠ s then none
          else (upToTwo? rest').map fun (day, _, rest) => (m, day, rest)
        | rest, none =>
          (upToTwo? rest).bind fun (day, two, rest) => if two then some (m, day, rest) else none

def moment? (cs : List Char) : Option Moment := do
  let cs := cs.dropWhile isSpace
  if !((cs.take 4).length = 4 ∧ (cs.take 4).all Char.isDigit) then none
  else
    let y := number (cs.take 4)
    let (m, d, rest) ← monthDay? (cs.drop 4)
    match rest with
    | [] => Moment.of? y m d 0 0 0 0 none
    | c :: rest =>
      if c ≠ 'T' ∧ c ≠ ' ' then none
      else
        let (h, min, s, f, offset) ← clock? rest
        Moment.of? y m d h min s f (offset.map (· * 60 * Moment.perSecond))

end Crosswalk.Calendar.Separated
