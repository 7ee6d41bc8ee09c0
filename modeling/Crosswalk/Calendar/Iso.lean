import Crosswalk.Calendar.Moment
import Crosswalk.Number.Width

/-!
Reading ISO 8601 texts.

A text is a date (`YYYY-MM-DD`, `YYYYMMDD`, or a week `YYYY-Www-D` with or without hyphens and day), any
one character, and a time with an optional offset. The place of the separator follows from the
first characters (`separatorAt?`). A time is up to three pairs of digits, with or without colons, and a
fraction of which six digits count.
-/

namespace Crosswalk.Calendar.Iso

/-- The number that exactly `n` leading digits write, and the rest. -/
def digits? (n : Nat) (cs : List Char) : Option (Nat × List Char) :=
  let ds := cs.take n
  if ds.length = n ∧ ds.all Char.isDigit then
    some (ds.foldl (fun v c => v * 10 + (c.toNat - 48)) 0, cs.drop n)
  else none

def charAt (cs : List Char) (i : Nat) : Option Char := cs[i]?

def digitAt (cs : List Char) (i : Nat) : Bool := (charAt cs i).any Char.isDigit

/-- The length of the date part of a text of at least seven characters. -/
def separatorAt? (cs : List Char) : Option Nat :=
  let len := cs.length
  if len = 7 then some 7
  else if charAt cs 4 = some '-' then
    if charAt cs 5 = some 'W' then
      if 8 < len ∧ charAt cs 8 = some '-' then
        if len = 9 then none
        else if 10 < len ∧ digitAt cs 10 then some 8
        else some 10
      else some 8
    else some 10
  else if charAt cs 4 = some 'W' then
    let end_ := 7 + ((cs.drop 7).takeWhile Char.isDigit).length
    if end_ < 9 then some end_ else if end_ % 2 = 0 then some 7 else some 8
  else some 8

/-- Takes a hyphen if the date is written with hyphens. -/
def hyphen? (hyphens : Bool) (cs : List Char) : Option (List Char) :=
  if hyphens then
    match cs with
    | '-' :: rest => some rest
    | _ => none
  else some cs

/-- Reads a date from the start of a text; `len` is the length of its date part. -/
def date? (cs : List Char) (len : Nat) : Option (Nat × Nat × Nat) := do
  let (y, rest) ← digits? 4 cs
  let hyphens := rest.head? = some '-'
  let rest ← hyphen? hyphens rest
  if rest.head? = some 'W' then
    let (week, rest) ← digits? 2 (rest.drop 1)
    let day ←
      if cs.length - rest.length < len then do
        let rest ← hyphen? hyphens rest
        (digits? 1 rest).map (·.1)
      else pure 1
    let d ← Date.ofIsoWeek? y week day
    return (d.year, d.month, d.day)
  else
    let (m, rest) ← digits? 2 rest
    let rest ← hyphen? hyphens rest
    let (d, _) ← digits? 2 rest
    return (y, m, d)

/-- A clock reading and whether characters are left over. -/
structure Reading where
  hour : Nat := 0
  minute : Nat := 0
  second : Nat := 0
  micro : Nat := 0
  extra : Bool := false

/-- The digits after the point: six count, and fewer are filled up. -/
def fraction? (cs : List Char) (after : Bool) : Option (Nat × Bool) := do
  let n := min 6 cs.length
  let (v, rest) ← digits? n cs
  if n = 0 then none
  else
    let left := rest.dropWhile Char.isDigit
    return (v * 10 ^ (6 - n), !left.isEmpty || after)

/-- Reads pairs of digits into `parts` until three are there or the text ends. `after` says that
the whole text goes on behind this part. -/
def pairs? (after : Bool) (fuel : Nat) (colons : Option Bool) (parts : List Nat) (cs : List Char) :
    Option (List Nat × Nat × Bool) :=
  match fuel with
  | 0 => (fraction? cs after).map fun (f, extra) => (parts, f, extra)
  | fuel + 1 => do
    let (v, rest) ← digits? 2 cs
    let parts := parts ++ [v]
    match rest with
    | [] => return (parts, 0, after)
    | [_] => return (parts, 0, true)
    | c :: rest' =>
      let colons := colons.getD (c = ':')
      if colons ∧ c = ':' then
        (if fuel = 0 then (fraction? rest' after).map fun (f, extra) => (parts, f, extra)
         else pairs? after fuel (some colons) parts rest')
      else if c = '.' ∨ c = ',' then
        (fraction? rest' after).map fun (f, extra) => (parts, f, extra)
      else if !colons then
        (if fuel = 0 then (fraction? rest after).map fun (f, extra) => (parts, f, extra)
         else pairs? after fuel (some colons) parts rest)
      else none

def reading? (after : Bool) (cs : List Char) : Option Reading :=
  (pairs? after 3 none [] cs).map fun (parts, micro, extra) =>
    { hour := parts.getD 0 0, minute := parts.getD 1 0, second := parts.getD 2 0, micro, extra }

def Reading.seconds (r : Reading) : Nat := r.hour * 3600 + r.minute * 60 + r.second

def isZoneMark (c : Char) : Bool := c = '+' || c = '-' || c = 'Z'

/-- Reads a time and its offset in microseconds. -/
def time? (cs : List Char) : Option (Reading × Option Int) := do
  let clock := cs.takeWhile fun c => !isZoneMark c
  let zone := cs.drop clock.length
  -- a mark at the very start still belongs to the clock, which it spoils
  if clock.isEmpty then none
  else
    let r ← reading? (!zone.isEmpty) clock
    match zone with
    | [] => if r.extra then none else return (r, none)
    | 'Z' :: rest => if rest.isEmpty then return (r, some 0) else none
    | mark :: rest =>
      let z ← reading? false rest
      if z.extra then none
      else
        let sign : Int := if mark = '-' then -1 else 1
        let offset := if z.seconds = 0 then 0
          else sign * (z.seconds * (Moment.perSecond : Int) + z.micro)
        return (r, some offset)

/-- Reads a text as a moment. -/
def moment? (cs : List Char) : Option Moment := do
  if cs.length < 7 then none
  else
    let len ← separatorAt? cs
    let (y, m, d) ← date? cs len
    if len < cs.length then
      let (r, offset) ← time? (cs.drop (len + 1))
      Moment.of? y m d r.hour r.minute r.second r.micro offset
    else Moment.of? y m d 0 0 0 0 none

end Crosswalk.Calendar.Iso
