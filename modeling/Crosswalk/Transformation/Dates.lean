import Crosswalk.Number.Width
import Crosswalk.Text.Piece
import Crosswalk.Transformation.Parameters
import Crosswalk.Value.Dated

/-!
Transformations of dates.

A value that stands for no date gives null. The clock tells the present, and in which century years of
two digits are read.
-/

namespace Crosswalk.Transformation

open Text
open Date (padded)

/-- A transformation of the moment that a value stands for. -/
def onMoment (f : Moment → Parameters → Except Fault Value) (clock : Clock) (v : Value)
    (p : Parameters) : Except Fault Value := do
  match ← v.moment? clock.year with
  | none => return .null
  | some t => f t p

def onDate (f : Date → Value) (clock : Clock) (v : Value) (p : Parameters) : Except Fault Value :=
  onMoment (fun t _ => .ok (f t.date)) clock v p

def yearText (n : Nat) : String := padded 4 n

/-- `MM/DD/YYYY` -/
def usDate (d : Date) : Value :=
  .text (padded 2 d.month ++ "/" ++ padded 2 d.day ++ "/" ++ toString d.year)

/-- The marks of a date format, longer ones before their beginnings. -/
def formatMarks (t : Moment) : List (List Char × String) :=
  [("YYYY", yearText t.date.year), ("YY", padded 2 (t.date.year % 100)),
    ("MM", padded 2 t.date.month), ("M", toString t.date.month),
    ("DD", padded 2 t.date.day), ("D", toString t.date.day),
    ("HH", padded 2 t.hour), ("H", toString t.hour),
    ("mm", padded 2 t.minute), ("m", toString t.minute),
    ("ss", padded 2 t.second), ("s", toString t.second)].map fun e => (e.1.toList, e.2)

/-- Replaces the marks of a format from left to right; `skip` characters belong to the last one. -/
def fillFormat (marks : List (List Char × String)) (skip : Nat) : List Char → List Char
  | [] => []
  | c :: cs =>
    match skip with
    | k + 1 => fillFormat marks k cs
    | 0 =>
      match marks.find? fun m => startsWith (c :: cs) m.1 with
      | some m => m.2.toList ++ fillFormat marks (m.1.length - 1) cs
      | none => c :: fillFormat marks 0 cs

def formatCustom (t : Moment) (p : Parameters) : Except Fault Value :=
  match p.getD "format" (.text "YYYY-MM-DD") with
  | .text f => .ok (.text (String.ofList (fillFormat (formatMarks t) 0 f.toList)))
  | v => .error ⟨.wrongType, "expected string or bytes-like object, got '" ++ v.fullTypeName ++ "'"⟩

def ofDate? (d : Option Date) (otherwise : Fault) : Except Fault Value :=
  match d with
  | some d => .ok (.text d.iso)
  | none => .error otherwise

/-- Why a date has none at a distance of days. Distances have nine digits. -/
def daysOutOfRange (n : Int) : Fault :=
  let message :=
    if !fitsSigned 32 n then "Python int too large to convert to C int"
    else if 999999999 < n.natAbs then s!"days={n}; must have magnitude <= 999999999"
    else "date value out of range"
  ⟨.overflow, message⟩

/-- Why a month, counted from that of year 0, lies in no year of the calendar. -/
def yearOutOfRange (index : Int) : Fault :=
  let year := Int.fdiv index 12
  if fitsSigned 32 year then ⟨.badValue, s!"year {year} is out of range"⟩
  else if !fitsSigned 64 year then ⟨.overflow, "Python int too large to convert to C long"⟩
  else if year < 0 then ⟨.overflow, "signed integer is less than minimum"⟩
  else ⟨.overflow, "signed integer is greater than maximum"⟩

/-- Refuses distances that are larger than every binary64 number. -/
def checkDistance (n : Int) : Except Fault Unit := do
  let _ ← Number.floatOfInt n

def shiftDays (t : Moment) (n : Int) : Except Fault Value := do
  checkDistance n
  ofDate? (t.date.addDays? n) (daysOutOfRange n)

def shiftMonths (t : Moment) (n : Int) : Except Fault Value := do
  checkDistance (Int.tdiv n 12)
  ofDate? (t.date.addMonths? n) (yearOutOfRange (t.date.monthIndex + n))

def addDays (t : Moment) (p : Parameters) : Except Fault Value := do
  shiftDays t (← p.integer "days" 0)

def subtractDays (t : Moment) (p : Parameters) : Except Fault Value := do
  shiftDays t (-(← p.integer "days" 0))

def addMonths (t : Moment) (p : Parameters) : Except Fault Value := do
  shiftMonths t (← p.integer "months" 0)

def addYears (t : Moment) (p : Parameters) : Except Fault Value := do
  shiftMonths t (12 * (← p.integer "years" 0))

def startOfMonth (d : Date) : Value := .text { d with day := 1 : Date }.iso

def endOfMonth (d : Date) : Value :=
  .text { d with day := Date.daysInMonth d.year d.month : Date }.iso

def startOfYear (d : Date) : Value := .text (yearText d.year ++ "-01-01")

def endOfYear (d : Date) : Value := .text (yearText d.year ++ "-12-31")

/-- The day of the week, Sunday as 0. -/
def dayOfWeek (d : Date) : Nat := (d.weekday + 1) % 7

def quarter (d : Date) : Nat := (d.month - 1) / 3 + 1

/-- The moment of the first of the parameters that is not null, or the present. -/
def asOf? (clock : Clock) (p : Parameters) (keys : List String) : Except Fault (Option Moment) :=
  match keys with
  | [] => .ok (some clock.now)
  | key :: more =>
    if (p.value key).isNull then asOf? clock p more else (p.value key).moment? clock.year

/-- The age as of a date; none if that date cannot be read. -/
def age? (clock : Clock) (t : Moment) (p : Parameters) : Except Fault (Option Int) :=
  return (← asOf? clock p ["as_of_date"]).map fun asOf => Date.ageOn t.date asOf.date

def calculateAge (clock : Clock) (t : Moment) (p : Parameters) : Except Fault Value :=
  return Value.ofOption ((← age? clock t p).map Value.int)

/-- Whether the age has reached the threshold of catch-up contributions. -/
def isCatchUpEligible (clock : Clock) (t : Moment) (p : Parameters) : Except Fault Value := do
  match ← age? clock t p with
  | none => return .null
  | some age => return .bool (← Order.greaterOrEqual.values (.int age) (p.getD "threshold" (.int 50)))

/-- Seconds from one moment to another, as the nearest binary64 number. -/
def secondsBetween (t u : Moment) : Binary64 :=
  let micros := u.ticks - t.ticks
  .ofRatio (micros < 0) micros.natAbs Moment.perSecond

/-- Whole units of `n` seconds between two moments, rounded down. -/
def wholeUnits (t u : Moment) (n : Int) : Except Fault Value :=
  return .int (← (Number.float ((secondsBetween t u).div (.ofInt n))).floor)

def difference (clock : Clock) (t : Moment) (p : Parameters) : Except Fault Value := do
  match ← asOf? clock p ["end_date", "other_date"] with
  | none => return .null
  | some u =>
    match p.getD "unit" (.text "days") with
    | .text "days" => wholeUnits t u 86400
    | .text "weeks" => wholeUnits t u (86400 * 7)
    | .text "months" => return .int (u.date.monthIndex - t.date.monthIndex)
    | .text "years" => return .int (u.date.year - t.date.year)
    | _ => return .null

/-- Milliseconds since the start of 1970. -/
def toTimestamp (t : Moment) (_ : Parameters) : Except Fault Value := do
  let micros := t.ticks - Moment.epochTicks
  let seconds := Binary64.ofRatio (micros < 0) micros.natAbs Moment.perSecond
  return .int (← (Number.float (seconds.mul (.ofInt 1000))).trunc)

/-- A number of seconds needs more than 64 bits. -/
def stampOutOfRange : Fault := ⟨.overflow, "timestamp out of range for platform time_t"⟩

/-- The year of a moment that may lie outside the calendar, by the cycle of 400 years. -/
def yearOfTicks (ticks : Int) : Int :=
  let days := Int.fdiv ticks Moment.perDay
  let inCycle := ((Date.ofOrdinal? (days % 146097 + 1)).map Date.year).getD 0
  (inCycle : Int) + 400 * Int.fdiv days 146097

/-- Why ticks are no moment of the calendar. Seconds have 64 bits, and years since 1900 have 32. -/
def outsideCalendar (ticks : Int) : Fault :=
  let seconds := Int.fdiv (ticks - Moment.epochTicks) Moment.perSecond
  let year := yearOfTicks ticks
  if !fitsSigned 64 seconds then stampOutOfRange
  else if !fitsSigned 32 (year - 1900) then ⟨.system, "[Errno 75] Value too large for defined data type"⟩
  else ⟨.badValue, s!"year {Int.bmod year (2 ^ 32)} is out of range"⟩

/-- Microseconds since the start of 1970 of a number of seconds. The fraction is scaled by itself, so
only it is rounded. -/
def epochMicros : Number → Except Fault Int
  | .int n => .ok (n * Moment.perSecond)
  | .float x =>
    match x.trunc? with
    | some whole => .ok (whole * Moment.perSecond + (x.fraction.mul (.ofInt Moment.perSecond)).nearest)
    | none =>
      if x.isNaN then .error ⟨.badValue, "Invalid value NaN (not a number)"⟩
      else .error stampOutOfRange
  | .decimal _ =>
    .error ⟨.wrongType, "'decimal.Decimal' object cannot be interpreted as an integer"⟩

def fromTimestamp (v : Value) : Except Fault Value := do
  match v.number? with
  | none => return .null
  | some n =>
    let ticks := (← epochMicros (← n.div (.int 1000))) + Moment.epochTicks
    match Moment.ofTicks? ticks none with
    | some t => return .text t.stamp
    | none => throw (outsideCalendar ticks)

/-- Whether a date lies before or after the present. -/
def isOnSide (side : Order) (clock : Clock) (v : Value) : Except Fault Bool := do
  match ← v.moment? clock.year with
  | none => return false
  | some t => return side.holds (compare t.ticks clock.now.ticks)

end Crosswalk.Transformation
