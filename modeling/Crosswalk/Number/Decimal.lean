import Crosswalk.Number.Binary64
import Crosswalk.Number.Shortest

/-!
Decimal numbers of floating exponent.

`finite neg c e` denotes `± c · 10^e`; trailing zeros of `c` are part of the number. Arithmetic keeps
28 digits, rounds a tie to the even digit, and bounds the exponent of the first digit by 999999 on
either side (`fit`). `quantize` puts a number on a given exponent, a tie away from zero.
-/

namespace Crosswalk

inductive Decimal where
  | finite (neg : Bool) (coefficient : Nat) (exponent : Int)
  | infinite (neg : Bool)
  | nan
deriving DecidableEq

namespace Decimal

/-- Why an operation on decimals has no result. -/
inductive Signal where
  | invalidOperation
  | divisionByZero
  | overflow
deriving DecidableEq

/-- The digits kept by arithmetic. -/
def precision : Nat := 28

/-- The largest exponent of a first digit. -/
def maxAdjusted : Int := 999999

/-- The least exponent of a last digit. -/
def minExponent : Int := -1000026

/-- The largest exponent of the last of 28 digits. -/
def maxLast : Int := 999972

def digitCount (c : Nat) : Int := Binary64.digitCount c

def ofInt (n : Int) : Decimal := .finite (n < 0) n.natAbs 0

def ofNat (n : Nat) : Decimal := .finite false n 0

def zero : Decimal := .finite false 0 0

/-- The exact decimal value of a binary64 number. -/
def ofBinary64 : Binary64 → Decimal
  | .nan => .nan
  | .infinite s => .infinite s
  | .finite s m e =>
    if 0 ≤ e then .finite s (m * 2 ^ e.toNat) 0 else .finite s (m * 5 ^ (-e).toNat) e

def isFinite : Decimal → Bool
  | .finite .. => true
  | _ => false

def isNaN : Decimal → Bool
  | .nan => true
  | _ => false

/-- The decimal nearest to `± c · 10^e` among those with 28 digits and exponents in range. -/
def fit (neg : Bool) (c : Nat) (e : Int) : Except Signal Decimal :=
  if c = 0 then .ok (.finite neg 0 (max minExponent (min e maxAdjusted)))
  else
    let last := digitCount c + e - precision
    if maxLast < last then .error .overflow
    else
      let last := max last minExponent
      if e < last then
        let shift := last - e
        let r := if digitCount c < shift then 0 else divNearestEven c (10 ^ shift.toNat)
        let (r, last) := if r = 10 ^ precision then (10 ^ (precision - 1), last + 1) else (r, last)
        if maxLast < last then .error .overflow else .ok (.finite neg r last)
      else .ok (.finite neg c e)

/-- Two nonzero summands at one exponent: `(a, e)` has the larger exponent. A second summand below
every digit that can be kept counts as one unit there. -/
def align (a : Nat) (e : Int) (b : Nat) (f : Int) : Nat × Nat × Int :=
  let low := e + min (-1) (digitCount a - precision - 2)
  let (b, f) := if digitCount b + f - 1 < low then (1, low) else (b, f)
  (a * 10 ^ (e - f).toNat, b, f)

def addFinite (s : Bool) (a : Nat) (e : Int) (t : Bool) (b : Nat) (f : Int) :
    Except Signal Decimal :=
  if a = 0 ∧ b = 0 then fit (s && t) 0 (min e f)
  else if a = 0 then
    let g := max (min e f) (f - precision - 1)
    fit t (b * 10 ^ (f - g).toNat) g
  else if b = 0 then
    let g := max (min e f) (e - precision - 1)
    fit s (a * 10 ^ (e - g).toNat) g
  else
    let (x, y, g) :=
      if e < f then let (b, a, g) := align b f a e; (a, b, g) else align a e b f
    let sum := Binary64.signed s x + Binary64.signed t y
    if sum = 0 then fit false 0 (min e f) else fit (sum < 0) sum.natAbs g

def add : Decimal → Decimal → Except Signal Decimal
  | .nan, _ => .ok .nan
  | _, .nan => .ok .nan
  | .infinite s, .infinite t => if s = t then .ok (.infinite s) else .error .invalidOperation
  | .infinite s, .finite .. => .ok (.infinite s)
  | .finite .., .infinite t => .ok (.infinite t)
  | .finite s a e, .finite t b f => addFinite s a e t b f

/-- The sign turned over, without rounding. -/
def flip : Decimal → Decimal
  | .finite s c e => .finite (!s) c e
  | .infinite s => .infinite (!s)
  | .nan => .nan

def sub (x y : Decimal) : Except Signal Decimal := add x (flip y)

def mul : Decimal → Decimal → Except Signal Decimal
  | .nan, _ => .ok .nan
  | _, .nan => .ok .nan
  | .infinite s, .infinite t => .ok (.infinite (s != t))
  | .infinite s, .finite t b _ => if b = 0 then .error .invalidOperation else .ok (.infinite (s != t))
  | .finite s a _, .infinite t => if a = 0 then .error .invalidOperation else .ok (.infinite (s != t))
  | .finite s a e, .finite t b f => fit (s != t) (a * b) (e + f)

/-- Takes trailing zeros off an exact quotient until its exponent reaches `ideal`. -/
def trimQuotient (fuel c : Nat) (e ideal : Int) : Nat × Int :=
  match fuel with
  | 0 => (c, e)
  | fuel + 1 => if e < ideal ∧ c % 10 = 0 then trimQuotient fuel (c / 10) (e + 1) ideal else (c, e)

/-- The quotient of nonzero numbers, with a last digit that keeps the direction of rounding. -/
def divFinite (s : Bool) (a : Nat) (e : Int) (b : Nat) (f : Int) : Except Signal Decimal :=
  let shift := digitCount b - digitCount a + precision + 1
  let n := a * 10 ^ shift.toNat
  let d := b * 10 ^ (-shift).toNat
  let q := n / d
  let g := e - f - shift
  if n % d = 0 then
    let (q, g) := trimQuotient (digitCount q).toNat q g (e - f)
    fit s q g
  else fit s (if q % 5 = 0 then q + 1 else q) g

def div : Decimal → Decimal → Except Signal Decimal
  | .nan, _ => .ok .nan
  | _, .nan => .ok .nan
  | .infinite _, .infinite _ => .error .invalidOperation
  | .infinite s, .finite t .. => .ok (.infinite (s != t))
  | .finite s .., .infinite t => .ok (.finite (s != t) 0 minExponent)
  | .finite s a e, .finite t b f =>
    if b = 0 then (if a = 0 then .error .invalidOperation else .error .divisionByZero)
    else if a = 0 then fit (s != t) 0 (e - f)
    else divFinite (s != t) a e b f

/-- The number itself, rounded; a zero loses its sign. -/
def plus : Decimal → Except Signal Decimal
  | .finite s c e => fit (s && c != 0) c e
  | x => .ok x

/-- The negated number, rounded; a zero has no sign. -/
def minus : Decimal → Except Signal Decimal
  | .finite s c e => fit (!s && c != 0) c e
  | x => .ok (flip x)

def magnitude : Decimal → Except Signal Decimal
  | .finite _ c e => fit false c e
  | .infinite _ => .ok (.infinite false)
  | .nan => .ok .nan

/-- The order of `a · 10^e` and `b · 10^f`. -/
def compareMagnitude (a : Nat) (e : Int) (b : Nat) (f : Int) : Ordering :=
  if a = 0 then (if b = 0 then .eq else .lt)
  else if b = 0 then .gt
  else
    let x := e + digitCount a
    let y := f + digitCount b
    if x < y then .lt
    else if y < x then .gt
    else
      let g := min e f
      compare (a * 10 ^ (e - g).toNat) (b * 10 ^ (f - g).toNat)

/-- The order of two decimals, none with not-a-number. -/
def compare? : Decimal → Decimal → Option Ordering
  | .nan, _ => none
  | _, .nan => none
  | .infinite s, .infinite t => some (if s = t then .eq else if s then .lt else .gt)
  | .infinite s, .finite .. => some (if s then .lt else .gt)
  | .finite .., .infinite t => some (if t then .gt else .lt)
  | .finite s a e, .finite t b f =>
    let s := s && a != 0
    let t := t && b != 0
    some <|
      if s = t then (if s then compareMagnitude b f a e else compareMagnitude a e b f)
      else if s then .lt else .gt

/-- The whole part of `c · 10^e` and whether anything is left. -/
def wholePart (c : Nat) (e : Int) : Nat × Bool :=
  if 0 ≤ e then (c * 10 ^ e.toNat, false)
  else if digitCount c ≤ -e then (0, c != 0)
  else (c / 10 ^ (-e).toNat, c % 10 ^ (-e).toNat != 0)

/-- The integer next to a finite decimal in the direction of zero. -/
def trunc? : Decimal → Option Int
  | .finite s c e => some (Binary64.signed s (wholePart c e).1)
  | _ => none

def floor? : Decimal → Option Int
  | .finite s c e =>
    let (n, rest) := wholePart c e
    some (Binary64.signed s n - (if s && rest then 1 else 0))
  | _ => none

def ceil? (x : Decimal) : Option Int := x.flip.floor?.map (- ·)

/-- Whether a finite decimal equals an integer. -/
def isIntegral : Decimal → Bool
  | .finite _ c e => !(wholePart c e).2
  | _ => false

/-- `c · 10^e` in units of `10^g`, a tie rounded up. -/
def inUnits (c : Nat) (e g : Int) : Nat :=
  if g ≤ e then c * 10 ^ (e - g).toNat
  else if digitCount c < g - e then 0
  else
    let d := 10 ^ (g - e).toNat
    (2 * c + d) / (2 * d)

/-- The nearest number whose last digit stands at `10^g`, a tie away from zero. It must have at most
28 digits. -/
def quantize (g : Int) : Decimal → Except Signal Decimal
  | .nan => .ok .nan
  | .infinite _ => .error .invalidOperation
  | .finite s c e =>
    if c = 0 then .ok (.finite s 0 g)
    else if (precision : Int) < digitCount c + e - g then .error .invalidOperation
    else
      let r := inUnits c e g
      if (precision : Int) < digitCount r then .error .invalidOperation else .ok (.finite s r g)

def toBinary64 : Decimal → Binary64
  | .nan => .nan
  | .infinite s => .infinite s
  | .finite s c e => .ofDigits s c e

end Decimal

end Crosswalk
