import Crosswalk.Number.Binary64
import Crosswalk.Text.Blank
import Crosswalk.Text.Digit

/-!
Numerals in texts.

A decimal numeral is a sign, digits with an optional point, and an optional exponent; it denotes
`± coefficient · 10^exponent`. `binary64?` reads numbers of any script with single underscores
between digits, and the words for infinity and not-a-number. `integer` reads whole numbers the same way,
up to `maxIntegerDigits` digits.
-/

namespace Crosswalk

open Text

structure Numeral where
  neg : Bool
  coefficient : Nat
  exponent : Int
deriving DecidableEq

namespace Numeral

/-- The number that ASCII digits write. -/
def value (ds : List Char) : Nat := ds.foldl (fun n c => n * 10 + (c.toNat - 48)) 0

/-- An optional sign and the rest. -/
def sign : List Char → Bool × List Char
  | '-' :: rest => (true, rest)
  | '+' :: rest => (false, rest)
  | rest => (false, rest)

/-- The leading ASCII digits and the rest. -/
def digits (cs : List Char) : List Char × List Char :=
  (cs.takeWhile Char.isDigit, cs.dropWhile Char.isDigit)

/-- An optional exponent at the end of a numeral. -/
def exponent? : List Char → Option Int
  | [] => some 0
  | c :: rest =>
    if c = 'e' ∨ c = 'E' then
      let (neg, rest) := sign rest
      let (ds, rest) := digits rest
      if ds.isEmpty ∨ !rest.isEmpty then none
      else some (Binary64.signed neg (value ds))
    else none

/-- Reads a whole text as a decimal numeral: `12`, `12.`, `1.5e-3`, `.5`. -/
def ofChars? (cs : List Char) : Option Numeral :=
  let (neg, rest) := sign cs
  let (whole, rest) := digits rest
  let (frac, rest) :=
    match rest with
    | '.' :: rest => digits rest
    | rest => ([], rest)
  if whole.isEmpty ∧ frac.isEmpty then none
  else (exponent? rest).map fun e =>
    { neg, coefficient := value (whole ++ frac), exponent := e - frac.length }

/-- Digits of any script as ASCII digits, blanks as spaces. A text of ASCII alone stays as it is: a
control separator in it is not a blank. -/
def toAscii (cs : List Char) : List Char :=
  if cs.all fun c => c.toNat < 128 then cs
  else cs.map fun c =>
    match digitValue? c with
    | some v => Char.ofNat (48 + v)
    | none => if isBlank c then ' ' else c

/-- The text in ASCII without the white space around it. -/
def normalize (cs : List Char) : List Char := trimWhile isSpace (toAscii cs)

/-- Takes out underscores that stand between two digits; any other underscore refuses the text. -/
def joinDigits? : List Char → Option (List Char)
  | [] => some []
  | '_' :: _ => none
  | c :: '_' :: d :: rest =>
    if c.isDigit ∧ d.isDigit then (joinDigits? (d :: rest)).map (c :: ·) else none
  | c :: rest => (joinDigits? rest).map (c :: ·)

/-- Whether a word in small letters means infinity. -/
def isInfinity (word : List Char) : Bool := word = "inf".toList || word = "infinity".toList

/-- Reads a binary64 number: a numeral, an infinity or not-a-number, blanks around it. -/
def binary64? (cs : List Char) : Option Binary64 := do
  let cs ← joinDigits? (normalize cs)
  let (neg, word) := sign cs
  let word := word.map Char.toLower
  if isInfinity word then return .infinite neg
  if word = "nan".toList then return .nan
  let n ← ofChars? cs
  return .ofDigits n.neg n.coefficient n.exponent

/-- The most digits an integer may have in a text that is read or written. -/
def maxIntegerDigits : Nat := 4300

inductive IntegerFault where
  | malformed
  | tooLong (digits : Nat)

/-- Reads a whole number: a sign and digits of any script, blanks around it. -/
def integer (cs : List Char) : Except IntegerFault Int := do
  let some cs := joinDigits? (normalize cs) | throw .malformed
  let (neg, rest) := sign cs
  let (ds, rest) := digits rest
  if ds.isEmpty ∨ !rest.isEmpty then throw .malformed
  if maxIntegerDigits < ds.length then throw (.tooLong ds.length)
  return Binary64.signed neg (value ds)

end Numeral

end Crosswalk
