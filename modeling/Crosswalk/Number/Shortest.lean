import Crosswalk.Number.Binary64

/-!
Decimal texts of binary64 numbers.

`shortest` finds the fewest digits that read back to the same number, and of those the nearest;
`text` writes them positionally for decimal points from 3 places left of the first digit to 16
places right of it, else with an exponent. `grouped` writes two places and thousands groups.
-/

namespace Crosswalk.Binary64

/-- Twice the distance, in quarters of the last place, to the neighbours of `m · 2^e` below and above. -/
def margins (m : Nat) (e : Int) : Nat × Nat :=
  if m = 2 ^ 52 ∧ minExponent < e then (1, 2) else (2, 2)

/-- Whether `c · 10^k` rounds to `m · 2^e`: it lies within half a step, the ends for an even mantissa. -/
def roundsTo (m : Nat) (e : Int) (c : Nat) (k : Int) : Bool :=
  let (below, above) := margins m e
  let x := c * 10 ^ k.toNat * 2 ^ (2 - e).toNat
  let unit := 10 ^ (-k).toNat * 2 ^ (e - 2).toNat
  let low := (4 * m - below) * unit
  let high := (4 * m + above) * unit
  if m % 2 = 0 then low ≤ x && x ≤ high else low < x && x < high

/-- The number of decimal digits of `n`, one for zero. -/
def digitCount (n : Nat) : Nat := (Nat.toDigits 10 n).length

/-- The exponent `k` with `10^(k-1) ≤ n / d < 10^k`, for positive `n` and `d`. -/
def pointOfRatio (n d : Nat) : Int :=
  if d ≤ n then digitCount (n / d) else 1 - (digitCount ((d + n - 1) / n - 1) : Int)

/-- The candidate of `n` digits for `m · 2^e` whose decimal point is `p`, if one rounds to it. -/
def candidate (m : Nat) (e p : Int) (n : Nat) : Option (Nat × Int) :=
  let k := p - n
  let num := m * 2 ^ e.toNat * 10 ^ (-k).toNat
  let den := 2 ^ (-e).toNat * 10 ^ k.toNat
  let near := divNearestEven num den
  let far := if near * den ≤ num then near + 1 else near - 1
  if roundsTo m e near k then some (near, k)
  else if roundsTo m e far k then some (far, k)
  else none

/-- The fewest digits `c` and their exponent `k` with `c · 10^k` read as `m · 2^e`. -/
def shortest (m : Nat) (e : Int) : Nat × Int :=
  let p := pointOfRatio (m * 2 ^ e.toNat) (2 ^ (-e).toNat)
  (((List.range 17).findSome? fun n => candidate m e p (n + 1)).getD
    (divNearestEven (m * 2 ^ e.toNat * 10 ^ (17 - p).toNat)
      (2 ^ (-e).toNat * 10 ^ (p - 17).toNat), p - 17))

/-- `c` without trailing zeros, and the exponent that makes up for them. -/
def stripZeros (fuel : Nat) (c : Nat) (k : Int) : Nat × Int :=
  match fuel with
  | 0 => (c, k)
  | fuel + 1 => if c % 10 = 0 ∧ c ≠ 0 then stripZeros fuel (c / 10) (k + 1) else (c, k)

/-- A signed exponent of at least two digits. -/
def exponentText (x : Int) : String :=
  let digits := toString x.natAbs
  (if x < 0 then "-" else "+") ++ (if digits.length < 2 then "0" ++ digits else digits)

/-- The text of digits whose point stands `point` places after the first digit's left side. -/
def layout (digits : String) (point : Int) : String :=
  let n : Int := digits.length
  if point ≤ -4 ∨ 16 < point then
    let tail := (digits.drop 1).toString
    (digits.take 1).toString ++ (if tail.isEmpty then "" else "." ++ tail) ++ "e" ++
      exponentText (point - 1)
  else if point ≤ 0 then "0." ++ String.ofList (List.replicate (-point).toNat '0') ++ digits
  else if n ≤ point then digits ++ String.ofList (List.replicate (point - n).toNat '0') ++ ".0"
  else (digits.take point.toNat).toString ++ "." ++ (digits.drop point.toNat).toString

/-- The shortest text that reads back as the number. -/
def text : Binary64 → String
  | .nan => "nan"
  | .infinite s => if s then "-inf" else "inf"
  | .finite s m e =>
    let sign := if s then "-" else ""
    if m = 0 then sign ++ "0.0"
    else
      let (c, k) := shortest m e
      let (c, k) := stripZeros 400 c k
      let digits := toString c
      sign ++ layout digits (k + digits.length)

/-- The digits of `n` in groups of three. -/
def groupThousands (n : Nat) : String :=
  let rec go : List Char → List Char
    | a :: b :: c :: d :: rest => a :: b :: c :: ',' :: go (d :: rest)
    | short => short
  String.ofList (go (toString n).toList.reverse).reverse

/-- `c` hundredths with two places and thousands groups. -/
def hundredthsText (c : Nat) : String :=
  let places := toString (c % 100)
  groupThousands (c / 100) ++ "." ++ (if c % 100 < 10 then "0" ++ places else places)

/-- The magnitude with two places, a tie in the exact value to the even digit, and thousands groups. -/
def grouped : Binary64 → String
  | .nan => "nan"
  | .infinite _ => "inf"
  | .finite _ m e => hundredthsText (divNearestEven (m * 2 ^ e.toNat * 100) (2 ^ (-e).toNat))

end Crosswalk.Binary64
