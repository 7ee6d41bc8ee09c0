import Crosswalk.Calendar.Rfc3339
import Crosswalk.Number.DecimalText
import Crosswalk.Number.Width
import Crosswalk.Schema.Codec
import Crosswalk.Text.Piece

/-!
Codecs of texts, truth values, numbers and moments.

A text is taken as it is; the others also read texts, and numbers where nothing is lost. Integers
come from digits with single underscores between them and a fraction of zeros at most.
-/

namespace Crosswalk.Codec

open Text

/-- A text of at least `low` characters, and of at most `high` if there is such a bound. -/
def boundedText (low : Nat) (high : Option Nat) : Codec String :=
  leaf
    (fun
      | .text s =>
        if high.any (· < s.length) then Reading.refuse .textTooLong
        else if s.length < low then Reading.refuse .textTooShort
        else .ok s
      | _ => Reading.refuse .textType)
    fun _ s => .text s

def text : Codec String := boundedText 0 none

/-- A text that is not empty. -/
def name : Codec String := boundedText 1 none

def trueWords : List String := ["1", "on", "t", "true", "y", "yes"]

def falseWords : List String := ["0", "off", "f", "false", "n", "no"]

/-- A truth value for 0 and 1. -/
def boolOfInt (n : Int) : Reading Bool :=
  if n = 0 then .ok false else if n = 1 then .ok true else Reading.refuse .boolReading

/-- Whether an integer lies strictly inside the range of 64 bits. -/
def inside64 (n : Int) : Bool := decide (-2 ^ 63 < n ∧ n < 2 ^ 63)

/-- A truth value for a whole number. -/
def boolOfFloat (x : Binary64) : Reading Bool :=
  match x.toInt? with
  | some n => if inside64 n then boolOfInt n else Reading.refuse .boolType
  | none => Reading.refuse .boolType

def readBool : Value → Reading Bool
  | .bool b => .ok b
  | .int n => if fitsSigned 64 n then boolOfInt n else Reading.refuse .boolType
  | .float x => boolOfFloat x
  | .decimal d => boolOfFloat d.toBinary64
  | .text s =>
    let word := String.ofList (s.toList.map Char.toLower)
    if word ∈ trueWords then .ok true
    else if word ∈ falseWords then .ok false
    else Reading.refuse .boolReading
  | _ => Reading.refuse .boolType

def bool : Codec Bool := leaf readBool fun _ b => .bool b

/-- The text without underscores, unless one stands at an end or next to another. -/
def withoutUnderscores? (cs : List Char) : Option (List Char) :=
  let doubled := contains cs ['_', '_']
  if cs.head? = some '_' ∨ cs.getLast? = some '_' ∨ doubled then none
  else some (cs.filter (· ≠ '_'))

/-- The digits of an integer in front of a fraction of zeros. -/
def wholeDigits (cs : List Char) : List Char :=
  let whole := cs.takeWhile (· ≠ '.')
  let rest := cs.drop whole.length
  if rest.drop 1 |>.all (· = '0') then whole else cs

/-- The longest text of an integer that is read. -/
def maxIntegerText : Nat := 4300

def integerOfText (s : String) : Reading Int :=
  let cs := wholeDigits (trimWhile isSpace s.toList)
  if maxIntegerText < cs.length then Reading.refuse .integerTooLong
  else
    let cs := (withoutUnderscores? cs).getD cs
    let (neg, ds) := Numeral.sign cs
    if ds.isEmpty ∨ !ds.all Char.isDigit then Reading.refuse .integerReading
    else .ok (Binary64.signed neg (Numeral.value ds))

def integerOfFloat (x : Binary64) : Reading Int :=
  match x with
  | .finite .. =>
    match x.toInt? with
    | some n => if inside64 n then .ok n else Reading.refuse .integerTooLong
    | none => Reading.refuse .integerFraction
  | _ => Reading.refuse .notFinite

def readInteger : Value → Reading Int
  | .bool b => .ok (if b then 1 else 0)
  | .int n => .ok n
  | .float x => integerOfFloat x
  | .decimal d =>
    match d.trunc? with
    | some n => if d.isIntegral then .ok n else Reading.refuse .integerFraction
    | none => Reading.refuse .notFinite
  | .text s => integerOfText s
  | _ => Reading.refuse .integerType

def integer : Codec Int := leaf readInteger fun _ n => .int n

/-- An integer of at least `low`. -/
def integerFrom (low : Int) : Codec Int :=
  leaf
    (fun v =>
      match readInteger v with
      | .ok n => if low ≤ n then .ok n else Reading.refuse .belowMinimum
      | .error is => .error is)
    fun _ n => .int n

/-- The number that a text writes, an infinity or not-a-number included. -/
def floatOfWord? (cs : List Char) : Option Binary64 :=
  let (neg, word) := Numeral.sign cs
  let word := word.map Char.toLower
  if Numeral.isInfinity word then some (.infinite neg)
  else if word = "nan".toList then some .nan
  else (Numeral.ofChars? cs).map fun n => .ofDigits n.neg n.coefficient n.exponent

def floatOfText? (s : String) : Option Binary64 :=
  (floatOfWord? (trimWhile isSpace s.toList)).or
    ((withoutUnderscores? s.toList).bind floatOfWord?)

def readFloat : Value → Reading Binary64
  | .bool b => .ok (.ofInt (if b then 1 else 0))
  | .int n =>
    let x := Binary64.ofInt n
    if x.isInfinite then Reading.refuse .floatType else .ok x
  | .float x => .ok x
  | .decimal d => .ok d.toBinary64
  | .text s =>
    match floatOfText? s with
    | some x => .ok x
    | none => Reading.refuse .floatReading
  | _ => Reading.refuse .floatType

def float : Codec Binary64 := leaf readFloat fun _ x => .float x

def ofMoment? (k : IssueKind) : Option Moment → Reading Moment
  | some t => .ok t
  | none => Reading.refuse k

open Calendar in
def readMoment : Value → Reading Moment
  | .moment t => .ok t
  | .date d => .ok (.midnight d)
  | .text s => ofMoment? .momentOfDate (Rfc3339.read? s.toList)
  | .int n =>
    if fitsSigned 64 n then ofMoment? .momentReading (Rfc3339.ofStamp? n 0)
    else if (Binary64.ofInt n).isInfinite then Reading.refuse .momentType
    else Reading.refuse .momentReading
  | .float x => ofMoment? .momentReading (Rfc3339.ofFloatStamp? x)
  | .decimal d => ofMoment? .momentReading (Rfc3339.ofFloatStamp? d.toBinary64)
  | _ => Reading.refuse .momentType

def moment : Codec Moment :=
  leaf readMoment fun style t => if style.json then .text t.rowText else .moment t

end Crosswalk.Codec
