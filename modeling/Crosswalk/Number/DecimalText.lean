import Crosswalk.Number.Decimal
import Crosswalk.Number.Numeral

/-!
Texts of decimal numbers.

`text` writes a decimal with all its digits: positionally unless the exponent is positive or the
number starts more than six places after the point. `ofNumeral?` refuses numerals whose first or last
digit lies outside the exponents that a decimal can hold.
-/

namespace Crosswalk.Decimal

/-- The largest exponent of a first digit that a text may have. -/
def maxTextAdjusted : Int := 999999999999999999

/-- The least exponent of a last digit that a text may have. -/
def minTextExponent : Int := -1999999999999999997

def ofNumeral? (n : Numeral) : Option Decimal :=
  if n.exponent < minTextExponent ∨ maxTextAdjusted < n.exponent + digitCount n.coefficient - 1 then
    none
  else some (.finite n.neg n.coefficient n.exponent)

/-- Reads a numeral, or a word for infinity or not-a-number. -/
def ofText? (s : String) : Option Decimal :=
  let cs := s.toList
  let (neg, word) := Numeral.sign cs
  let word := word.map Char.toLower
  if Numeral.isInfinity word then some (.infinite neg)
  else if word = "nan".toList then some .nan
  else (Numeral.ofChars? cs).bind ofNumeral?

def zerosText (n : Nat) : String := String.ofList (List.replicate n '0')

/-- The text of digits whose point stands `point` places to the right of their left side. -/
def pointed (digits : String) (point : Int) : String :=
  let n : Int := digits.length
  if point ≤ 0 then "0." ++ zerosText (-point).toNat ++ digits
  else if n ≤ point then digits ++ zerosText (point - n).toNat
  else (digits.take point.toNat).toString ++ "." ++ (digits.drop point.toNat).toString

def signedText (x : Int) : String :=
  (if x < 0 then "-" else "+") ++ toString x.natAbs

def text : Decimal → String
  | .nan => "NaN"
  | .infinite s => if s then "-Infinity" else "Infinity"
  | .finite s c e =>
    let digits := toString c
    let left : Int := e + digits.length
    (if s then "-" else "") ++
      (if e ≤ 0 ∧ -6 < left then pointed digits left
       else pointed digits 1 ++ "E" ++ signedText (left - 1))

/-- The magnitude with two places, a tie to the even digit, and thousands groups. -/
def grouped : Decimal → String
  | .nan => "NaN"
  | .infinite _ => "Infinity"
  | .finite _ c e =>
    Binary64.hundredthsText <|
      if -2 ≤ e then c * 10 ^ (e + 2).toNat
      else if digitCount c < -2 - e then 0
      else divNearestEven c (10 ^ (-2 - e).toNat)

end Crosswalk.Decimal
