import Crosswalk.Number.Width

/-!
Numbers of the binary64 format, with their exact meaning.

`finite neg m e` denotes `± m · 2^e`. Every operation is computed exactly and rounded once, to
nearest with a tie to the even mantissa (`ofRatio`), so each result is a definition on natural
numbers and needs no machine arithmetic.
-/

namespace Crosswalk

inductive Binary64 where
  | nan
  | infinite (neg : Bool)
  | finite (neg : Bool) (mantissa : Nat) (exponent : Int)
deriving DecidableEq

/-- The quotient rounded to the nearest natural number, a tie to the even one. -/
def divNearestEven (n d : Nat) : Nat :=
  let q := n / d
  let r := n % d
  if 2 * r < d then q
  else if d < 2 * r then q + 1
  else if q % 2 = 0 then q else q + 1

namespace Binary64

/-- The exponent of the smallest positive number. -/
def minExponent : Int := -1074

/-- The exponent of the largest finite numbers. -/
def maxExponent : Int := 971

def zero (neg : Bool) : Binary64 := .finite neg 0 minExponent

/-- Mantissa and exponent are the ones the format stores. -/
def Canonical : Binary64 → Prop
  | .finite _ m e =>
    m < 2 ^ 53 ∧ minExponent ≤ e ∧ e ≤ maxExponent ∧ (2 ^ 52 ≤ m ∨ e = minExponent)
  | _ => True

/-- `⌊log₂ (n / d)⌋` for positive `n` and `d`. -/
def ratioLog (n d : Nat) : Int :=
  let k : Int := (n.log2 : Int) - (d.log2 : Int)
  if d * 2 ^ k.toNat ≤ n * 2 ^ (-k).toNat then k else k - 1

/-- The number nearest to `± n / d`; past the largest finite number, an infinity. -/
def ofRatio (neg : Bool) (n d : Nat) : Binary64 :=
  if n = 0 ∨ d = 0 then zero neg
  else
    let e := max (ratioLog n d - 52) minExponent
    let m := divNearestEven (n * 2 ^ (-e).toNat) (d * 2 ^ e.toNat)
    let (m, e) := if m = 2 ^ 53 then (2 ^ 52, e + 1) else (m, e)
    if maxExponent < e then .infinite neg else .finite neg m e

/-- The number nearest to `± m · 2^e`. -/
def ofScaled (neg : Bool) (m : Nat) (e : Int) : Binary64 :=
  ofRatio neg (m * 2 ^ e.toNat) (2 ^ (-e).toNat)

/-- The number nearest to `± c · 10^e`; exponents far outside the range are settled by their size. -/
def ofDigits (neg : Bool) (c : Nat) (e : Int) : Binary64 :=
  let size : Int := (c.log2 : Int) * 3 / 10 + e
  if c = 0 then zero neg
  else if 400 < size then .infinite neg
  else if size < -400 then zero neg
  else ofRatio neg (c * 10 ^ e.toNat) (10 ^ (-e).toNat)

def ofInt (n : Int) : Binary64 := ofRatio (n < 0) n.natAbs 1

def isNaN : Binary64 → Bool
  | .nan => true
  | _ => false

def isInfinite : Binary64 → Bool
  | .infinite _ => true
  | _ => false

def isZero : Binary64 → Bool
  | .finite _ 0 _ => true
  | _ => false

def neg : Binary64 → Binary64
  | .nan => .nan
  | .infinite s => .infinite (!s)
  | .finite s m e => .finite (!s) m e

def abs : Binary64 → Binary64
  | .nan => .nan
  | .infinite _ => .infinite false
  | .finite _ m e => .finite false m e

/-- `± m` as an integer. -/
def signed (neg : Bool) (m : Nat) : Int := if neg then -(m : Int) else m

def add : Binary64 → Binary64 → Binary64
  | .nan, _ => .nan
  | _, .nan => .nan
  | .infinite s, .infinite t => if s = t then .infinite s else .nan
  | .infinite s, .finite .. => .infinite s
  | .finite .., .infinite t => .infinite t
  | .finite s m e, .finite t n f =>
    let g := min e f
    let sum := signed s m * 2 ^ (e - g).toNat + signed t n * 2 ^ (f - g).toNat
    if sum = 0 then zero (s && t) else ofScaled (sum < 0) sum.natAbs g

def sub (x y : Binary64) : Binary64 := add x (neg y)

def mul : Binary64 → Binary64 → Binary64
  | .nan, _ => .nan
  | _, .nan => .nan
  | .infinite s, .infinite t => .infinite (s != t)
  | .infinite s, .finite t n _ => if n = 0 then .nan else .infinite (s != t)
  | .finite s m _, .infinite t => if m = 0 then .nan else .infinite (s != t)
  | .finite s m e, .finite t n f => ofScaled (s != t) (m * n) (e + f)

/-- Division; a finite number over zero is an infinity, and zero over zero is not a number. -/
def div : Binary64 → Binary64 → Binary64
  | .nan, _ => .nan
  | _, .nan => .nan
  | .infinite _, .infinite _ => .nan
  | .infinite s, .finite t .. => .infinite (s != t)
  | .finite s .., .infinite t => zero (s != t)
  | .finite s m e, .finite t n f =>
    if n = 0 then (if m = 0 then .nan else .infinite (s != t))
    else
      let g := e - f
      ofRatio (s != t) (m * 2 ^ g.toNat) (n * 2 ^ (-g).toNat)

/-- The largest integer at most `x`, for finite `x`. -/
def floor? : Binary64 → Option Int
  | .finite s m e => some (Int.fdiv (signed s m * 2 ^ e.toNat) (2 ^ (-e).toNat))
  | _ => none

/-- The smallest integer at least `x`, for finite `x`. -/
def ceil? (x : Binary64) : Option Int := x.neg.floor?.map (- ·)

/-- The integer next to `x` in the direction of zero, for finite `x`. -/
def trunc? : Binary64 → Option Int
  | .finite s m e => some (Int.tdiv (signed s m * 2 ^ e.toNat) (2 ^ (-e).toNat))
  | _ => none

/-- What is left of a finite number without its whole part, with the same sign. -/
def fraction : Binary64 → Binary64
  | .finite s m e => ofScaled s (m * 2 ^ e.toNat % 2 ^ (-e).toNat) (min e 0)
  | x => x

/-- The integer nearest to a finite number, a tie to the even one. -/
def nearest : Binary64 → Int
  | .finite s m e => signed s (divNearestEven (m * 2 ^ e.toNat) (2 ^ (-e).toNat))
  | _ => 0

/-- The integer that `x` equals, if it equals one. -/
def toInt? : Binary64 → Option Int
  | .finite s m e =>
    if m * 2 ^ e.toNat % 2 ^ (-e).toNat = 0 then
      some (signed s (m * 2 ^ e.toNat / 2 ^ (-e).toNat))
    else none
  | _ => none

/-- `x` rounded to `places` decimals, a tie in its exact value to the even digit. -/
def roundPlaces (places : Nat) : Binary64 → Binary64
  | .finite s m e =>
    ofRatio s (divNearestEven (m * 2 ^ e.toNat * 10 ^ places) (2 ^ (-e).toNat)) (10 ^ places)
  | x => x

end Binary64

end Crosswalk
