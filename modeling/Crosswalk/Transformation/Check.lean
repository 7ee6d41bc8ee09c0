import Crosswalk.Contact.Directory
import Crosswalk.Transformation.Dates
import Crosswalk.Transformation.Lookup

/-!
Transformations that check a value. They give a truth value, and a missing value passes no check.
-/

namespace Crosswalk.Transformation

open Text

/-- The number that digits write. -/
def numberOfDigits (ds : List Char) : Nat :=
  ds.foldl (fun n c => n * 10 + (digitValue? c).getD 0) 0

/-- A tax number of nine digits whose area, group and serial are assigned. -/
def isSsn (ds : List Char) : Bool :=
  let area := numberOfDigits (ds.take 3)
  ds.length = 9 && area != 0 && area != 666 && area < 900 &&
    numberOfDigits ((ds.drop 3).take 2) != 0 && numberOfDigits (ds.drop 5) != 0

/-- The prefixes that employer numbers are issued with. -/
def einPrefixes : List Nat :=
  [1, 2, 3, 4, 5, 6, 10, 11, 12, 13, 14, 15, 16, 20, 21, 22, 23, 24, 25, 26, 27, 30, 31, 32, 33, 34,
    35, 36, 37, 38, 39, 40, 41, 42, 43, 44, 45, 46, 47, 48, 50, 51, 52, 53, 54, 55, 56, 57, 58, 59,
    60, 61, 62, 63, 64, 65, 66, 67, 68, 71, 72, 73, 74, 75, 76, 77, 80, 81, 82, 83, 84, 85, 86, 87,
    88, 90, 91, 92, 93, 94, 95, 98, 99]

/-- Nine digits that start with a prefix in ASCII digits. -/
def isEin (ds : List Char) : Bool :=
  let front := ds.take 2
  ds.length = 9 && front.all Char.isDigit && einPrefixes.contains (numberOfDigits front)

/-- The weighted sum of nine digits is a multiple of ten. -/
def isRoutingNumber (ds : List Char) : Bool :=
  match ds.map fun c => (digitValue? c).getD 0 with
  | [a, b, c, d, e, f, g, h, i] =>
    (3 * (a + d + g) + 7 * (b + e + h) + (c + f + i)) % 10 == 0
  | _ => false

/-- Five digits, or nine with a hyphen behind the fifth. -/
def isZipCode (cs : List Char) : Bool :=
  let tail := cs.drop 5
  (cs.take 5).length = 5 && (cs.take 5).all isDigit &&
    (tail.isEmpty || (tail.length = 5 && tail.head? = some '-' && (tail.drop 1).all isDigit))

def onDigits (f : List Char → Bool) (v : Value) (_ : Parameters) : Except Fault Bool :=
  return f (← digitsOfValue v)

def checkEmail (contacts : Contact.Directory) (v : Value) (_ : Parameters) : Except Fault Bool :=
  return contacts.email (← v.toChars)

/-- A telephone number, of the United States unless it or a parameter says otherwise. -/
def checkPhone (contacts : Contact.Directory) (v : Value) (p : Parameters) : Except Fault Bool := do
  contacts.phone (← v.toChars) (p.getD "region" (.text "US"))

def checkPositive (v : Value) (_ : Parameters) : Except Fault Bool := do
  match v.number? with
  | none => return false
  | some n => Order.greater.numbers n (.int 0)

def checkNonNegative (v : Value) (_ : Parameters) : Except Fault Bool := do
  match v.number? with
  | none => return false
  | some n => Order.greaterOrEqual.numbers n (.int 0)

/-- Whether `v` lies within the bounds that are given. -/
def withinBounds (v : Value) (p : Parameters) : Except Fault Bool := do
  let low := p.value "min"
  if !low.isNull then
    if ← Order.less.values v low then return false
  let high := p.value "max"
  if high.isNull then return true
  return !(← Order.greater.values v high)

def checkRange (v : Value) (p : Parameters) : Except Fault Bool := do
  match v.number? with
  | none => return false
  | some n => withinBounds n.value p

def checkNotEmpty (v : Value) (_ : Parameters) : Except Fault Bool :=
  .ok (!(v.isBlankText || v.isEmpty))

/-- The length of a value's text: exactly as given, or within bounds. -/
def checkLength (v : Value) (p : Parameters) : Except Fault Bool := do
  let length := Value.int (← v.toChars).length
  let exactly := p.value "exact"
  if exactly.isNull then withinBounds length p else return length.equals exactly

/-- A text that a pattern matches in part; what is no pattern matches nothing. The text comes first, so
a value without one fails whatever the pattern is. -/
def checkPattern (v : Value) (p : Parameters) : Except Fault Bool := do
  let given := p.value "pattern"
  if !given.isTruthy then return false
  let text ← v.toText
  match given with
  | .text s =>
    match Pattern.read s with
    | .ok pattern => return pattern.search text
    | .error (.malformed _) => return false
    | .error (.fault f) => throw f
  | other =>
    match other.unhashable? with
    | some f => throw f
    | none => throw ⟨.wrongType, "first argument must be string or compiled pattern"⟩

/-- Whether one of the items that the parameter `values` holds equals the value. -/
def isListed (v : Value) (p : Parameters) : Except Fault Bool := do
  let values := p.value "values"
  if !values.isTruthy then return false
  return Value.containsStrict (← itemsOf values) v

def checkDate (clock : Clock) (v : Value) (_ : Parameters) : Except Fault Bool :=
  return (← v.moment? clock.year).isSome

def checkZipCode (v : Value) (_ : Parameters) : Except Fault Bool :=
  return isZipCode ((← v.toChars).filter fun c => !isBlank c)

/-- A check that a missing value does not pass. -/
def onPresent (f : Value → Parameters → Except Fault Bool) (v : Value) (p : Parameters) :
    Except Fault Value :=
  if v.isMissing then .ok (.bool false) else return .bool (← f v p)

end Crosswalk.Transformation
