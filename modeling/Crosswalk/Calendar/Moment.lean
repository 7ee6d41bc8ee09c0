import Crosswalk.Calendar.Date

/-!
Moments: a date and a time of day to the microsecond, with or without an offset from UTC.

`ticks` counts microseconds since the start of year 1 on the moment's own clock; `ofTicks?` is its
inverse on the years that exist.
-/

namespace Crosswalk

structure Moment where
  date : Date
  hour : Nat
  minute : Nat
  second : Nat
  micro : Nat
  /-- Microseconds that the clock is ahead of UTC; none for a moment without a zone. -/
  offset : Option Int
deriving DecidableEq

namespace Moment

/-- Microseconds in a second. -/
def perSecond : Nat := 1000000

/-- Microseconds in a day. -/
def perDay : Nat := 86400 * perSecond

def midnight (d : Date) : Moment := ⟨d, 0, 0, 0, 0, none⟩

/-- Microseconds since midnight. -/
def timeOfDay (t : Moment) : Nat :=
  ((t.hour * 60 + t.minute) * 60 + t.second) * perSecond + t.micro

/-- Microseconds since the start of year 1 on the moment's own clock. -/
def ticks (t : Moment) : Int := (t.date.ordinal - 1 : Nat) * (perDay : Int) + t.timeOfDay

def ofTicks? (n : Int) (offset : Option Int) : Option Moment :=
  (Date.ofOrdinal? (n / perDay + 1)).map fun date =>
    let r := (n % perDay).toNat
    let s := r / perSecond
    ⟨date, s / 3600, s / 60 % 60, s % 60, r % perSecond, offset⟩

/-- Ticks on the clock of UTC; a moment without a zone counts as it stands. -/
def utcTicks (t : Moment) : Int := t.ticks - t.offset.getD 0

/-- The same instant on the clock of UTC and without a zone, if its year exists. -/
def toUtc? (t : Moment) : Option Moment := ofTicks? t.utcTicks none

/-- The moment whose zone is UTC. -/
def atUtc (t : Moment) : Moment := { t with offset := some 0 }

def addSeconds? (t : Moment) (s : Int) : Option Moment := ofTicks? (t.ticks + s * perSecond) t.offset

/-- The ticks at the start of 1970. -/
def epochTicks : Int := 719162 * (perDay : Int)

/-- A moment of a date and time whose parts may be out of range. -/
def of? (y m d hour minute second micro : Nat) (offset : Option Int) : Option Moment :=
  if hour < 24 ∧ minute < 60 ∧ second < 60 ∧ micro < perSecond ∧
      ∀ o ∈ offset, o.natAbs < perDay then
    (Date.of? y m d).map fun date => ⟨date, hour, minute, second, micro, offset⟩
  else none

open Date (padded)

def timeText (t : Moment) : String :=
  padded 2 t.hour ++ ":" ++ padded 2 t.minute ++ ":" ++ padded 2 t.second

/-- The microseconds as a fraction, nothing for none. -/
def fractionText (micro : Nat) : String :=
  if micro = 0 then "" else "." ++ padded 6 micro

/-- An offset as `+HH:MM`, with seconds and a fraction where they are not zero. -/
def offsetText (o : Int) : String :=
  let n := o.natAbs
  let s := n / perSecond
  (if o < 0 then "-" else "+") ++ padded 2 (s / 3600) ++ ":" ++ padded 2 (s / 60 % 60) ++
    (if s % 60 = 0 ∧ n % perSecond = 0 then ""
     else ":" ++ padded 2 (s % 60) ++ fractionText (n % perSecond))

/-- The ISO text with `separator` between date and time. -/
def isoWith (separator : String) (t : Moment) : String :=
  t.date.iso ++ separator ++ t.timeText ++ fractionText t.micro ++
    (t.offset.map offsetText).getD ""

def iso (t : Moment) : String := t.isoWith "T"

/-- The form of rows and audit values: UTC is `Z`, another offset has hours and minutes only. -/
def rowText (t : Moment) : String :=
  t.date.iso ++ "T" ++ t.timeText ++ fractionText t.micro ++
    match t.offset with
    | none => ""
    | some o =>
      if o = 0 then "Z"
      else
        let minutes := o.natAbs / perSecond / 60
        (if o < 0 then "-" else "+") ++ padded 2 (minutes / 60) ++ ":" ++ padded 2 (minutes % 60)

/-- A time stamp of milliseconds; the year is written without leading zeros. -/
def stamp (t : Moment) : String :=
  toString t.date.year ++ "-" ++ padded 2 t.date.month ++ "-" ++ padded 2 t.date.day ++ "T" ++
    t.timeText ++ "." ++ padded 3 (t.micro / 1000) ++ "Z"

end Moment

/-- What the clock tells of the present. -/
structure Clock where
  now : Moment
  /-- The year in which dates began to be read; years of two digits are sought around it. -/
  year : Nat

namespace Clock

/-- The clock at the start of a day. -/
def ofDate (d : Date) : Clock := ⟨.midnight d, d.year⟩

end Clock

end Crosswalk
