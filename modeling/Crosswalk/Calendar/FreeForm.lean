import Crosswalk.Calendar.Lexeme
import Crosswalk.Calendar.Separated
import Crosswalk.Number.Decimal
import Crosswalk.Number.Numeral

/-!
Reading dates written freely: `Jan 5, 2024 3:30 PM`, `15.01.2024`, `5 January 2024`, `2Q2024`.

The lexemes are read from left to right into `Found`: numbers of a date in the order met, the parts
of the clock, and the zone. Which number is the year, the month or the day is settled at the end
(`Numbers.resolve?`). Parts that are not given are those of the first day of year 1.
-/

namespace Crosswalk.Calendar.FreeForm

open Text

abbrev Lexeme := List Char

def lowerWord (l : Lexeme) : String := String.ofList (l.map Char.toLower)

def weekdayNames : List (List String) :=
  [["mon", "monday"], ["tue", "tuesday"], ["wed", "wednesday"], ["thu", "thursday"],
    ["fri", "friday"], ["sat", "saturday"], ["sun", "sunday"]]

def monthNames : List (List String) :=
  [["jan", "january"], ["feb", "february"], ["mar", "march"], ["apr", "april"], ["may"],
    ["jun", "june"], ["jul", "july"], ["aug", "august"], ["sep", "sept", "september"],
    ["oct", "october"], ["nov", "november"], ["dec", "december"]]

def clockNames : List (List String) :=
  [["h", "hour", "hours"], ["m", "minute", "minutes"], ["s", "second", "seconds"]]

def halfNames : List (List String) := [["am", "a"], ["pm", "p"]]

/-- Words and marks that say nothing. -/
def fillers : List String :=
  [" ", ".", ",", ";", "-", "/", String.singleton (Char.ofNat 39), "at", "on", "and", "ad", "m",
    "t", "of", "st", "nd", "rd", "th"]

def indexIn (names : List (List String)) (l : Lexeme) : Option Nat :=
  names.findIdx? fun ws => ws.contains (lowerWord l)

def weekday? (l : Lexeme) : Option Nat := indexIn weekdayNames l
def month? (l : Lexeme) : Option Nat := (indexIn monthNames l).map (· + 1)
def clockPart? (l : Lexeme) : Option Nat := indexIn clockNames l
def half? (l : Lexeme) : Option Nat := indexIn halfNames l
def isFiller (l : Lexeme) : Bool := fillers.contains (lowerWord l)
def isUtcName (l : Lexeme) : Bool := ["utc", "gmt", "z"].contains (lowerWord l)

/-- The number that a lexeme of digits alone writes. -/
def natural? (l : Lexeme) : Option Nat :=
  if l.isEmpty then none
  else l.foldl (fun n c => return (← n) * 10 + (← digitValue? c)) (some 0)

/-- A lexeme that is a number: its whole part and the digits behind its point. -/
def numeral? (l : Lexeme) : Option (Nat × List Char) :=
  let whole := l.takeWhile (· != '.')
  match natural? whole, l.drop whole.length with
  | some n, [] => some (n, [])
  | some n, _ :: frac => if frac.all isDigit then some (n, frac) else none
  | none, _ => none

/-- The sixtieths in the digits behind a point, none if they are all zero. -/
def sixtieths (frac : List Char) : Option Nat :=
  match natural? frac with
  | none => none
  | some 0 => none
  | some n => some (60 * n / 10 ^ frac.length)

/-- A year of two digits in the century that brings it nearest to the present one. -/
def fullYear (present : Nat) (century : Bool) (y : Nat) : Nat :=
  if 100 ≤ y ∨ century then y
  else
    let y := y + present / 100 * 100
    if present + 50 ≤ y then y - 100 else if y + 50 < present then y + 100 else y

/-- The numbers of a date in the order met, and the places of those that are already known. -/
structure Numbers where
  values : List Nat := []
  yearAt : Option Nat := none
  monthAt : Option Nat := none
  dayAt : Option Nat := none
  century : Bool := false

namespace Numbers

/-- Puts a year behind the numbers; there is at most one. -/
def addYear? (n : Numbers) (v : Nat) : Option Numbers :=
  if n.yearAt.isSome then none
  else some { n with values := n.values ++ [v], yearAt := some n.values.length, century := true }

def addMonth? (n : Numbers) (v : Nat) : Option Numbers :=
  if n.monthAt.isSome then none
  else some { n with values := n.values ++ [v], monthAt := some n.values.length }

/-- Puts a number behind the others; past 100 it is a year. -/
def addValue? (n : Numbers) (v : Nat) (fraction : Bool) : Option Numbers :=
  if 100 < v ∨ (v = 100 ∧ fraction) then n.addYear? v
  else some { n with values := n.values ++ [v] }

/-- Puts digits behind the others; more than two are a year. -/
def addDigits? (n : Numbers) (l : Lexeme) : Option Numbers :=
  (natural? l).bind fun v =>
    if 2 < l.length then n.addYear? v else some { n with values := n.values ++ [v] }

/-- Whether a number can still be the day of the month. -/
def couldBeDay (n : Numbers) (v : Nat) (fraction : Bool) : Bool :=
  n.dayAt.isNone && 1 ≤ v &&
    match n.monthAt.bind (n.values[·]?) with
    | none => v < 31 || (v == 31 && !fraction)
    | some m =>
      let y := (n.yearAt.bind (n.values[·]?)).getD 2000
      let last := Date.daysInMonth y m
      v < last || (v == last && !fraction)

/-- Year, month and day by their known places. -/
def known (n : Numbers) : Option Nat × Option Nat × Option Nat :=
  (n.yearAt.bind (n.values[·]?), n.monthAt.bind (n.values[·]?), n.dayAt.bind (n.values[·]?))

/-- With two of three places known, the third follows. -/
def fillPlace (n : Numbers) : Numbers :=
  match n.yearAt, n.monthAt, n.dayAt with
  | some y, some m, none => { n with dayAt := some (3 - y - m) }
  | some y, none, some d => { n with monthAt := some (3 - y - d) }
  | none, some m, some d => { n with yearAt := some (3 - m - d) }
  | _, _, _ => n

def knownCount (n : Numbers) : Nat := [n.yearAt, n.monthAt, n.dayAt].countP Option.isSome

/-- Year, month and day of the numbers; more than three are refused. -/
def resolve? (n : Numbers) : Option (Option Nat × Option Nat × Option Nat) :=
  if 0 < n.knownCount ∧ n.values.length = n.knownCount then some n.known
  else if n.values.length = 3 ∧ n.knownCount = 2 then some n.fillPlace.known
  else
    match n.values, n.monthAt with
    | [], _ => some (none, none, none)
    | [a], none => some (if 31 < a then (some a, none, none) else (none, none, some a))
    | [a], some _ => some (none, some a, none)
    | [a, b], some 0 => some (if 31 < b then (some b, some a, none) else (none, some a, some b))
    | [a, b], some _ => some (if 31 < a then (some a, some b, none) else (none, some b, some a))
    | [a, b], none =>
      some (if 31 < a then (some a, some b, none)
        else if 31 < b then (some b, some a, none)
        else (none, some a, some b))
    | [a, b, c], some 0 =>
      some (if 31 < b then (some b, some a, some c) else (some c, some a, some b))
    | [a, b, c], some 1 =>
      some (if 31 < a then (some a, some b, some c) else (some c, some b, some a))
    | [a, b, c], some _ =>
      some (if 31 < b then (some b, some c, some a) else (some a, some c, some b))
    | [a, b, c], none =>
      some (if 31 < a ∨ n.yearAt = some 0 then (some a, some b, some c)
        else if 12 < a then (some c, some b, some a)
        else (some c, some a, some b))
    | _, _ => none

end Numbers

/-- What has been read so far. -/
structure Found where
  numbers : Numbers := {}
  hour : Option Nat := none
  minute : Option Nat := none
  second : Option Nat := none
  micro : Option Nat := none
  weekday : Option Nat := none
  zoneName : Option Lexeme := none
  /-- The offset in seconds. -/
  zoneOffset : Option Int := none

/-- The hour on the clock of 24 hours; half 0 is the morning. -/
def hourOfHalf (h half : Nat) : Nat :=
  if h < 12 ∧ half = 1 then h + 12 else if h = 12 ∧ half = 0 then 0 else h

/-- Seconds and microseconds of a lexeme such as `45.123`. -/
def seconds? (l : Lexeme) : Option (Nat × Nat) :=
  let whole := l.takeWhile (· != '.')
  (natural? whole).bind fun s =>
    match l.drop whole.length with
    | [] => some (s, 0)
    | _ :: frac =>
      let six := frac.take 6
      (natural? (six ++ List.replicate (6 - six.length) '0')).map fun f => (s, f)

/-- The place of the word `h`, `m` or `s` that belongs to the number at `i`. -/
def clockWordAt? (ls : List Lexeme) (i : Nat) : Option Nat :=
  let word (k : Nat) : Bool := (ls[k]?.bind clockPart?).isSome
  if word (i + 1) then some (i + 1)
  else if ls[i + 1]? = some [' '] ∧ word (i + 2) then some (i + 2)
  else if 0 < i ∧ word (i - 1) then some (i - 1)
  else if 1 < i ∧ i + 1 = ls.length ∧ ls[i - 1]? = some [' '] ∧ word (i - 2) then some (i - 2)
  else none

/-- Puts a number into the part of the clock that its word names. -/
def setClock? (f : Found) (l : Lexeme) (part : Nat) : Option Found := do
  let (v, frac) ← numeral? l
  match part with
  | 0 =>
    match sixtieths frac with
    | none => return { f with hour := some v }
    | some m => return { f with hour := some v, minute := some m }
  | 1 => return { f with minute := some v, second := sixtieths frac }
  | 2 =>
    let (s, u) ← seconds? l
    return { f with second := some s, micro := some u }
  | _ => return f

/-- Reads the number at `i`. The result is the place of the last lexeme used. -/
def number? (ls : List Lexeme) (i : Nat) (f : Found) : Option (Nat × Found) := do
  let l ← ls[i]?
  let (v, frac) ← numeral? l
  let len := l.length
  let next := ls[i + 1]?
  let last := ls.length ≤ i + 1
  if f.numbers.values.length = 3 ∧ (len = 2 ∨ len = 4) ∧ f.hour.isNone ∧
      (last ∨ next = some [' '] ∨ (next.bind clockPart?).isSome) then
    let hour ← natural? (l.take 2)
    if len = 4 then return (i, { f with hour := some hour, minute := some (← natural? (l.drop 2)) })
    else return (i, { f with hour := some hour })
  else if len = 6 ∨ (6 < len ∧ l.findIdx? (· = '.') = some 6) then
    if f.numbers.values.isEmpty ∧ '.' ∉ l then
      let n ← f.numbers.addDigits? (l.take 2)
      let n ← n.addDigits? ((l.drop 2).take 2)
      let n ← n.addDigits? (l.drop 4)
      return (i, { f with numbers := n })
    else
      let hour ← natural? (l.take 2)
      let minute ← natural? ((l.drop 2).take 2)
      let (s, u) ← seconds? (l.drop 4)
      return (i, { f with
        hour := some hour, minute := some minute, second := some s, micro := some u })
  else if len = 8 ∨ len = 12 ∨ len = 14 then
    let n ← f.numbers.addYear? (← natural? (l.take 4))
    let n ← n.addDigits? ((l.drop 4).take 2)
    let n ← n.addDigits? ((l.drop 6).take 2)
    let f := { f with numbers := n }
    if len = 8 then return (i, f)
    let hour ← natural? ((l.drop 8).take 2)
    let minute ← natural? ((l.drop 10).take 2)
    let f := { f with hour := some hour, minute := some minute }
    if len = 12 then return (i, f)
    return (i, { f with second := some (← natural? (l.drop 12)) })
  else if let some k := clockWordAt? ls i then
    let part ← ls[k]?.bind clockPart?
    let (j, part) := if i < k then (k, part) else (i, part + 1)
    return (j, ← setClock? f l part)
  else if i + 2 < ls.length ∧ next = some [':'] then
    let (m, mfrac) ← ls[i + 2]?.bind numeral?
    let f := { f with hour := some v, minute := some m, second := sixtieths mfrac }
    if i + 4 < ls.length ∧ ls[i + 3]? = some [':'] then
      let (s, u) ← ls[i + 4]?.bind seconds?
      return (i + 4, { f with second := some s, micro := some u })
    else return (i + 2, f)
  else if next = some ['-'] ∨ next = some ['/'] ∨ next = some ['.'] then
    let n ← f.numbers.addDigits? l
    match ls[i + 2]? with
    | none => return (i + 1, { f with numbers := n })
    | some second =>
      if isFiller second then return (i + 1, { f with numbers := n })
      else
        let n ←
          if second.all isDigit then n.addDigits? second
          else (month? second).bind n.addMonth?
        if i + 3 < ls.length ∧ ls[i + 3]? = next then
          let third ← ls[i + 4]?
          let n ←
            match month? third with
            | some m => n.addMonth? m
            | none => n.addDigits? third
          return (i + 4, { f with numbers := n })
        else return (i + 2, { f with numbers := n })
  else if last ∨ next.any isFiller then
    match ls[i + 2]?.bind half? with
    | some half => return (i + 2, { f with hour := some (hourOfHalf v half) })
    | none =>
      let n ← f.numbers.addValue? v (frac.any (· != '0'))
      return (i + 1, { f with numbers := n })
  else
    match next.bind half? with
    | some half =>
      if v < 24 then return (i + 1, { f with hour := some (hourOfHalf v half) })
      else if f.numbers.couldBeDay v (frac.any (· != '0')) then
        return (i, { f with numbers := ← f.numbers.addValue? v false })
      else none
    | none =>
      if f.numbers.couldBeDay v (frac.any (· != '0')) then
        return (i, { f with numbers := ← f.numbers.addValue? v false })
      else none

/-- A date number behind a name of a month; it may be digits only. -/
def afterMonth? (present : Nat) (ls : List Lexeme) (i : Nat) (n : Numbers) :
    Option (Nat × Numbers) := do
  match ls[i + 1]? with
  | none => return (i, n)
  | some sep =>
    if sep = ['-'] ∨ sep = ['/'] then
      let n ← n.addDigits? (← ls[i + 2]?)
      if ls[i + 3]? = some sep then
        return (i + 4, ← n.addDigits? (← ls[i + 4]?))
      else return (i + 2, n)
    else if i + 4 < ls.length ∧ sep = [' '] ∧ ls[i + 3]? = some [' '] ∧
        ls[i + 2]?.any (fun l => lowerWord l = "of") then
      let l ← ls[i + 4]?
      match natural? l with
      | some v => return (i + 4, ← n.addYear? (fullYear present false v))
      | none => return (i + 4, n)
    else return (i, n)

/-- Whether a lexeme can name a zone: behind an hour, up to five capital letters. -/
def couldBeZone (f : Found) (l : Lexeme) (offset : Option Int) : Bool :=
  f.hour.isSome && f.zoneName.isNone && offset.isNone && l.length ≤ 5 &&
    (l.all Char.isUpper || ["UTC", "GMT", "Z", "z"].contains (String.ofList l))

/-- Reads an offset such as `+0300`, `-03:00` or `+3` at `i`. -/
def offset? (ls : List Lexeme) (i : Nat) (f : Found) : Option (Nat × Found) := do
  let sign : Int := if ls[i]? = some ['+'] then 1 else -1
  let l ← ls[i + 1]?
  let (h, m, i) ←
    if l.length = 4 then do pure (← natural? (l.take 2), ← natural? (l.drop 2), i)
    else if ls[i + 2]? = some [':'] then do
      pure (← natural? l, ← ls[i + 3]?.bind natural?, i + 2)
    else if l.length ≤ 2 then do pure (← natural? l, 0, i)
    else none
  let f := { f with zoneOffset := some (sign * (h * 3600 + m * 60)) }
  let name := ls[i + 4]?
  if i + 5 < ls.length ∧ ls[i + 2]?.any isFiller ∧ ls[i + 3]? = some ['('] ∧
      ls[i + 5]? = some [')'] ∧ name.any (fun l => 3 ≤ l.length) ∧
      name.any (couldBeZone f · none) then
    return (i + 5, { f with zoneName := name })
  else return (i + 1, f)

/-- Reads the lexemes from `i` on. -/
def read? (present fuel : Nat) (ls : List Lexeme) (i : Nat) (f : Found) : Option Found :=
  match fuel, ls[i]? with
  | _, none => some f
  | 0, _ => none
  | fuel + 1, some l =>
    if (numeral? l).isSome then
      (number? ls i f).bind fun (j, f) => read? present fuel ls (j + 1) f
    else if let some d := weekday? l then
      read? present fuel ls (i + 1) { f with weekday := some d }
    else if let some m := month? l then
      (f.numbers.addMonth? m).bind fun n =>
        (afterMonth? present ls i n).bind fun (j, n) =>
          read? present fuel ls (j + 1) { f with numbers := n }
    else if let some half := half? l then
      match f.hour with
      | some h =>
        if 12 < h then none
        else read? present fuel ls (i + 1) { f with hour := some (hourOfHalf h half) }
      | none => none
    else if couldBeZone f l f.zoneOffset then
      let f := { f with zoneName := some l, zoneOffset := if l = ['z'] then some 0 else none }
      match ls[i + 1]? with
      | some [c] =>
        if c = '+' ∨ c = '-' then
          -- behind a name the sign tells how far the name's zone lies from UTC, not this one
          let ls := ls.set (i + 1) [if c = '+' then '-' else '+']
          read? present fuel ls (i + 1)
            { f with zoneOffset := none, zoneName := if isUtcName l then none else some l }
        else read? present fuel ls (i + 1) f
      | _ => read? present fuel ls (i + 1) f
    else if f.hour.isSome ∧ (l = ['+'] ∨ l = ['-']) then
      (offset? ls i f).bind fun (j, f) => read? present fuel ls (j + 1) f
    else if isFiller l then read? present fuel ls (i + 1) f
    else none

/-- The offset in microseconds; a zone that is known by its name only is refused. -/
def Found.zone? (f : Found) : Option (Option Int) :=
  let utc := f.zoneName.any isUtcName
  match f.zoneOffset with
  | some o =>
    if o = 0 ∨ utc then some (some 0)
    else if 86400 ≤ o.natAbs then none
    else some (some (o * Moment.perSecond))
  | none => if utc then some (some 0) else if f.zoneName.isSome then none else some none

/-- The next day that is `weekday`, the date itself included. -/
def onWeekday? (d : Date) (weekday : Nat) : Option Date :=
  d.addDays? ((weekday + 7 - d.weekday) % 7 : Nat)

def Found.moment? (present : Nat) (f : Found) : Option Moment := do
  let (y, m, d) ← f.numbers.resolve?
  let zone ← f.zone?
  if [y, m, d, f.hour, f.minute, f.second, f.micro].all Option.isNone then none
  else
    let y := (y.map (fullYear present f.numbers.century)).getD 1
    let t ← Moment.of? y (m.getD 1) (d.getD 1) (f.hour.getD 0) (f.minute.getD 0) (f.second.getD 0)
      (f.micro.getD 0) zone
    match f.weekday, d with
    | some w, none => return { t with date := ← onWeekday? t.date w }
    | some w, some 0 => return { t with date := ← onWeekday? t.date w }
    | _, _ => return t

/-- Reads the lexemes of a text. -/
def lexical? (present : Nat) (cs : List Char) : Option Moment :=
  let ls := lexemes cs
  (read? present (ls.length + 1) ls 0 {}).bind (Found.moment? present)

/-- A quarter of a year: `2Q2024`, `2Q24`, `24Q2`, `2024-Q2`. The outer option tells whether the text
is one. -/
def quarter? (cs : List Char) : Option (Option Moment) := do
  let cs := cs.map Char.toUpper
  let len := cs.length
  let at_ ← cs.findIdx? (· = 'Q')
  let before := cs.take at_
  let behind := cs.drop (at_ + 1)
  let trimmed (l : List Char) : List Char := l.filter (· != '-')
  if len < 4 ∨ 7 < len ∨ at_ = 0 ∨ 6 ≤ at_ then none
  else
    let (q, y) ←
      if at_ = 1 then
        let y := if behind.head? = some '-' then behind.drop 1 else behind
        if y.length = 2 then do pure (← natural? before, 2000 + (← natural? y))
        else if y.length = 4 then do pure (← natural? before, ← natural? y)
        else none
      else
        let y := if before.getLast? = some '-' then before.dropLast else before
        if behind.length ≠ 1 then none
        else if y.length = 2 then do pure (← natural? behind, 2000 + (← natural? (trimmed y)))
        else if y.length = 4 then do pure (← natural? behind, ← natural? (trimmed y))
        else none
    if q < 1 ∨ 4 < q then return none
    else return (Moment.of? y (3 * q - 2) 1 0 0 0 0 none)

def isDelimiter (c : Char) : Bool := c ∈ [' ', '-', '.', '/', Char.ofNat 92]

/-- A date of month, day and year in one piece: the year has four digits, and month and day change
places if only that makes a month. The outer option tells whether the text has this shape. -/
def delimited? (cs : List Char) : Option (Option Moment) := do
  let first := cs.takeWhile Char.isDigit
  let rest := cs.drop first.length
  let delimiter ← rest.head?
  let second := (rest.drop 1).takeWhile Char.isDigit
  let tail := rest.drop (1 + second.length)
  if !isDelimiter delimiter ∨ 2 < first.length then none
  else
    let m ← natural? first
    let build (m d y : Nat) : Option Moment := Moment.of? y m d 0 0 0 0 none
    if tail.isEmpty then
      if first.length ≠ 2 ∨ second.length ≠ 4 ∨ delimiter = '.' then none
      else
        let y ← natural? second
        if y < 1000 then none else return build m 1 y
    else
      let d ← natural? second
      let y ← natural? (tail.drop 1)
      if 2 < second.length ∨ !tail.head?.any isDelimiter ∨ tail.length ≠ 5 ∨ y < 1000 then none
      else return (if 12 < m then build d m y else build m d y)

/-- Whether a text may be a date: a number by itself is one only from 1000 on, or with a leading zero. -/
def isDateLike (cs : List Char) : Bool :=
  if cs.head? = some '0' then true
  else if ["a", "A", "m", "M", "p", "P", "t", "T"].contains (String.ofList cs) then false
  else
    match (if cs.all fun c => c.toNat < 128 then Numeral.binary64? cs else none) with
    | some x => !(Decimal.compare? (.ofBinary64 x) (.ofNat 1000) = some .lt)
    | none => true

def notTimes : List String := ["NaT", "nat", "NAT", "nan", "NaN", "NAN"]

/-- Reads a date that is written in none of the fixed shapes. -/
def moment? (present : Nat) (cs : List Char) : Option Moment :=
  if notTimes.contains (String.ofList cs) then none
  else
    match Separated.moment? cs with
    | some t => some t
    | none =>
      if !isDateLike cs then none
      else
        match delimited? cs with
        | some t => t
        | none =>
          match quarter? cs with
          | some t => t
          | none => lexical? present cs

end Crosswalk.Calendar.FreeForm
