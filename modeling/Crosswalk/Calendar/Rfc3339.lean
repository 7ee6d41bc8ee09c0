import Crosswalk.Calendar.Iso
import Crosswalk.Number.Numeral

/-!
Moments of stored rows: RFC 3339 texts, dates, and time stamps.

A text is `YYYY-MM-DD`, a separator, a time to the minute, second or fraction, and an optional offset of
hours and minutes; digits past the microsecond are cut off. A time stamp counts seconds since 1970, or
milliseconds past the watershed, and gives a moment of UTC.
-/

namespace Crosswalk.Calendar.Rfc3339

open Iso (digits? hyphen?)

/-- A date at the start of a text, and the rest. -/
def date? (cs : List Char) : Option (Date × List Char) := do
  let (y, rest) ← digits? 4 cs
  let (m, rest) ← digits? 2 (← hyphen? true rest)
  let (d, rest) ← digits? 2 (← hyphen? true rest)
  return (← Date.of? y m d, rest)

/-- A text that is a date and nothing else. -/
def wholeDate? (cs : List Char) : Option Date :=
  (date? cs).bind fun (d, rest) => if rest.isEmpty then some d else none

/-- The microseconds that the digits of a fraction write. -/
def microseconds (ds : List Char) : Nat :=
  let ds := ds.take 6
  Numeral.value ds * 10 ^ (6 - ds.length)

def isSeparator (c : Char) : Bool := c = 'T' || c = 't' || c = ' ' || c = '_'

/-- Seconds with an optional fraction, or none at all, and the rest. -/
def seconds? : List Char → Option (Nat × Nat × List Char)
  | ':' :: rest => do
    let (s, rest) ← digits? 2 rest
    match rest with
    | c :: more =>
      if c = '.' ∨ c = ',' then
        let (ds, rest) := Numeral.digits more
        if ds.isEmpty then none else return (s, microseconds ds, rest)
      else return (s, 0, rest)
    | [] => return (s, 0, [])
  | rest => some (0, 0, rest)

/-- The sign of an offset, by a hyphen, a plus or a minus sign. -/
def sign? (c : Char) : Option Int :=
  if c = '+' then some 1 else if c = '-' ∨ c = '−' then some (-1) else none

/-- An offset at the end of a text, in microseconds. -/
def offset? : List Char → Option (Option Int)
  | [] => some none
  | ['Z'] => some (some 0)
  | ['z'] => some (some 0)
  | c :: rest => do
    let sign ← sign? c
    let (h, rest) ← digits? 2 rest
    let rest :=
      match rest with
      | ':' :: rest => rest
      | rest => rest
    let (m, rest) ← digits? 2 rest
    if rest.isEmpty ∧ m < 60 then return some (sign * ((h * 3600 + m * 60) * Moment.perSecond : Nat)) else none

def moment? (cs : List Char) : Option Moment := do
  let (d, rest) ← date? cs
  match rest with
  | c :: rest =>
    if !isSeparator c then none
    else
      let (hour, rest) ← digits? 2 rest
      match rest with
      | ':' :: rest =>
        let (minute, rest) ← digits? 2 rest
        let (second, micro, rest) ← seconds? rest
        Moment.of? d.year d.month d.day hour minute second micro (← offset? rest)
      | _ => none
  | [] => none

/-- The largest count of seconds; a larger one is of milliseconds. -/
def watershed : Nat := 20000000000

/-- The moment of a time stamp with some microseconds added. -/
def ofStamp? (n : Int) (micro : Nat) : Option Moment :=
  let ticks : Int :=
    if n.natAbs ≤ watershed then n * (Moment.perSecond : Int)
    else n * 1000
  Moment.ofTicks? (Moment.epochTicks + ticks + micro) (some 0)

/-- The natural number nearest to the magnitude of a finite number, a tie to the larger one. -/
def nearestNat : Binary64 → Nat
  | .finite _ m e => (2 * m * 2 ^ e.toNat + 2 ^ (-e).toNat) / (2 * 2 ^ (-e).toNat)
  | _ => 0

def million : Binary64 := .ofInt 1000000

/-- The moment of a time stamp with a fraction. -/
def ofFloatStamp? (x : Binary64) : Option Moment := do
  ofStamp? (← x.floor?) (nearestNat (x.fraction.mul million))

/-- A time stamp in a text: a sign, digits, and an optional fraction. -/
def stamp? (cs : List Char) : Option Moment := do
  let (neg, rest) := Numeral.sign cs
  let (whole, rest) := Numeral.digits rest
  if whole.isEmpty then none
  else
    match rest with
    | [] => ofStamp? (Binary64.signed neg (Numeral.value whole)) 0
    | '.' :: rest =>
      let (frac, rest) := Numeral.digits rest
      if !rest.isEmpty then none
      else
        let x := Binary64.ofDigits neg (Numeral.value (whole ++ frac)) (-(frac.length : Int))
        let isMilli := watershed < (← x.trunc?).natAbs
        let x := if isMilli then x.div (.ofInt 1000) else x
        let seconds ← x.floor?
        ofStamp? seconds (nearestNat ((x.sub (.ofInt seconds)).mul million))
    | _ => none

/-- The moment that a text writes: a moment, a time stamp, or a date for its midnight. -/
def read? (cs : List Char) : Option Moment :=
  ((moment? cs).or (stamp? cs)).or ((wholeDate? cs).map Moment.midnight)

end Crosswalk.Calendar.Rfc3339
