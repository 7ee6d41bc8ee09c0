/-!
Dates of the Gregorian calendar, years 1 to 9999.

`ordinal` counts days with 1 for the first of January of year 1, and `ofOrdinal?` is its inverse.
Months are added by the count of months since year 0, the day clamped to the month's end.
-/

namespace Crosswalk

structure Date where
  year : Nat
  month : Nat
  day : Nat
deriving DecidableEq

namespace Date

def minYear : Nat := 1
def maxYear : Nat := 9999

def isLeap (y : Nat) : Bool := y % 4 == 0 && (y % 100 != 0 || y % 400 == 0)

def daysInMonth (y m : Nat) : Nat :=
  match m with
  | 2 => if isLeap y then 29 else 28
  | 4 | 6 | 9 | 11 => 30
  | _ => 31

def Valid (d : Date) : Prop :=
  minYear ≤ d.year ∧ d.year ≤ maxYear ∧ 1 ≤ d.month ∧ d.month ≤ 12 ∧
    1 ≤ d.day ∧ d.day ≤ daysInMonth d.year d.month

instance (d : Date) : Decidable d.Valid := by unfold Valid; infer_instance

/-- The date of three numbers, if there is one. -/
def of? (y m d : Nat) : Option Date :=
  if Valid ⟨y, m, d⟩ then some ⟨y, m, d⟩ else none

/-- Days before the first of January of year `y`, counted from year 1. -/
def daysBeforeYear (y : Nat) : Nat :=
  let p := y - 1
  p * 365 + p / 4 - p / 100 + p / 400

/-- Days of year `y` before month `m`. -/
def daysBeforeMonth (y : Nat) : Nat → Nat
  | 0 => 0
  | m + 1 => if m = 0 then 0 else daysBeforeMonth y m + daysInMonth y m

def ordinal (d : Date) : Nat := daysBeforeYear d.year + daysBeforeMonth d.year d.month + d.day

/-- The ordinal of the last day of year 9999. -/
def maxOrdinal : Nat := 3652059

/-- The month and day of the `n`-th day of year `y`, from 0, searching from month `m` on. -/
def monthDay (y : Nat) (fuel m n : Nat) : Nat × Nat :=
  match fuel with
  | 0 => (m, n + 1)
  | fuel + 1 =>
    if n < daysInMonth y m then (m, n + 1) else monthDay y fuel (m + 1) (n - daysInMonth y m)

/-- The date of an ordinal within the years that exist. -/
def ofOrdinal? (n : Int) : Option Date :=
  if n < 1 ∨ (maxOrdinal : Int) < n then none
  else
    let n := n.toNat - 1
    let (c400, n) := (n / 146097, n % 146097)
    let (c100, n) := (min (n / 36524) 3, n - min (n / 36524) 3 * 36524)
    let (c4, n) := (n / 1461, n % 1461)
    let (c1, n) := (min (n / 365) 3, n - min (n / 365) 3 * 365)
    let y := c400 * 400 + c100 * 100 + c4 * 4 + c1 + 1
    let (m, d) := monthDay y 12 1 n
    some ⟨y, m, d⟩

/-- The day of the week, Monday as 0. -/
def weekday (d : Date) : Nat := (d.ordinal + 6) % 7

def addDays? (d : Date) (n : Int) : Option Date := ofOrdinal? (d.ordinal + n)

/-- Months since year 0. -/
def monthIndex (d : Date) : Int := d.year * 12 + (d.month - 1 : Nat)

/-- `n` months later, on the same day or the last one of a shorter month. -/
def addMonths? (d : Date) (n : Int) : Option Date :=
  let index := d.monthIndex + n
  if index < 12 then none
  else
    let y := index.toNat / 12
    let m := index.toNat % 12 + 1
    of? y m (min d.day (daysInMonth y m))

/-- Whole years from a birth to a later date. -/
def ageOn (birth asOf : Date) : Int :=
  let years : Int := asOf.year - birth.year
  if asOf.month < birth.month ∨ (asOf.month = birth.month ∧ asOf.day < birth.day) then years - 1
  else years

/-- The ordinal of the Monday that opens the first ISO week of year `y`. -/
def isoYearStart (y : Nat) : Int :=
  let first := ordinal ⟨y, 1, 1⟩
  let weekday := (first + 6) % 7
  (first : Int) - weekday + (if 3 < weekday then 7 else 0)

/-- The date of a day in an ISO week. -/
def ofIsoWeek? (y week day : Nat) : Option Date :=
  let weeks := (isoYearStart (y + 1) - isoYearStart y) / 7
  if y < minYear ∨ maxYear < y ∨ week < 1 ∨ weeks < week ∨ day < 1 ∨ 7 < day then none
  else ofOrdinal? (isoYearStart y + (week - 1) * 7 + (day - 1))

/-- `n` in at least `width` digits. -/
def padded (width n : Nat) : String :=
  let digits := toString n
  String.ofList (List.replicate (width - digits.length) '0') ++ digits

/-- `YYYY-MM-DD`. -/
def iso (d : Date) : String :=
  padded 4 d.year ++ "-" ++ padded 2 d.month ++ "-" ++ padded 2 d.day

end Date

end Crosswalk
