import Crosswalk.Value.Text
import Crosswalk.Value.Equality

/-!
Arithmetic on numbers of three types: integers, binary64 numbers and decimals.

An integer meets a number of either other type as a number of that type; a binary64 number and a decimal
do not mix. An integer that no binary64 number can hold overflows.
-/

namespace Crosswalk

inductive Number where
  | int (n : Int)
  | float (x : Binary64)
  | decimal (d : Decimal)
deriving DecidableEq

namespace Number

def value : Number → Value
  | .int n => .int n
  | .float x => .float x
  | .decimal d => .decimal d

/-- A number as an operand: truth values count as 0 and 1. -/
def ofValue? : Value → Option Number
  | .bool b => some (.int (if b then 1 else 0))
  | .int n => some (.int n)
  | .float x => some (.float x)
  | .decimal d => some (.decimal d)
  | _ => none

def exact : Number → Decimal
  | .int n => .ofInt n
  | .float x => .ofBinary64 x
  | .decimal d => d

/-- The binary64 number nearest to an integer. -/
def floatOfInt (n : Int) : Except Fault Binary64 :=
  let x := Binary64.ofInt n
  if x.isInfinite then .error .integerTooLargeForFloat else .ok x

/-- An operator cannot take operands of these types. -/
def mismatch (op : String) (a b : Value) : Fault :=
  ⟨.wrongType, "unsupported operand type(s) for " ++ op ++ ": '" ++ a.fullTypeName ++ "' and '" ++
    b.fullTypeName ++ "'"⟩

/-- Applies the operation of the type that two numbers have in common. -/
def combine (op : String) (ints : Int → Int → Except Fault Number)
    (floats : Binary64 → Binary64 → Except Fault Binary64)
    (decimals : Decimal → Decimal → Except Decimal.Signal Decimal) :
    Number → Number → Except Fault Number
  | .int m, .int n => ints m n
  | .int m, .float y => return .float (← floats (← floatOfInt m) y)
  | .float x, .int n => return .float (← floats x (← floatOfInt n))
  | .float x, .float y => return .float (← floats x y)
  | .int m, .decimal e => return .decimal (← Fault.ofDecimal (decimals (.ofInt m) e))
  | .decimal d, .int n => return .decimal (← Fault.ofDecimal (decimals d (.ofInt n)))
  | .decimal d, .decimal e => return .decimal (← Fault.ofDecimal (decimals d e))
  | a, b => .error (mismatch op a.value b.value)

def add : Number → Number → Except Fault Number :=
  combine "+" (fun m n => .ok (.int (m + n))) (fun x y => .ok (x.add y)) Decimal.add

def sub : Number → Number → Except Fault Number :=
  combine "-" (fun m n => .ok (.int (m - n))) (fun x y => .ok (x.sub y)) Decimal.sub

def mul : Number → Number → Except Fault Number :=
  combine "*" (fun m n => .ok (.int (m * n))) (fun x y => .ok (x.mul y)) Decimal.mul

/-- The binary64 number nearest to a quotient of integers. -/
def divInts (m n : Int) : Except Fault Binary64 :=
  if n = 0 then .error ⟨.zeroDivision, "division by zero"⟩
  else
    let x := Binary64.ofRatio (decide (m < 0) != decide (n < 0)) m.natAbs n.natAbs
    if x.isInfinite then
      .error ⟨.overflow, "integer division result too large for a float"⟩
    else .ok x

def divFloats (x y : Binary64) : Except Fault Binary64 :=
  if y.isZero then .error ⟨.zeroDivision, "float division by zero"⟩ else .ok (x.div y)

def div : Number → Number → Except Fault Number :=
  combine "/" (fun m n => return .float (← divInts m n)) divFloats Decimal.div

def abs : Number → Except Fault Number
  | .int n => .ok (.int n.natAbs)
  | .float x => .ok (.float x.abs)
  | .decimal d => return .decimal (← Fault.ofDecimal d.magnitude)

/-- The integer that a rounding of finite numbers gives. -/
def whole (float : Binary64 → Option Int) (decimal : Decimal → Option Int) :
    Number → Except Fault Int
  | .int n => .ok n
  | .float x =>
    match float x with
    | some n => .ok n
    | none =>
      if x.isNaN then .error ⟨.badValue, "cannot convert float NaN to integer"⟩
      else .error ⟨.overflow, "cannot convert float infinity to integer"⟩
  | .decimal d =>
    match decimal d with
    | some n => .ok n
    | none =>
      if d.isNaN then .error ⟨.badValue, "cannot convert NaN to integer"⟩
      else .error ⟨.overflow, "cannot convert Infinity to integer"⟩

def floor : Number → Except Fault Int := whole Binary64.floor? Decimal.floor?
def ceil : Number → Except Fault Int := whole Binary64.ceil? Decimal.ceil?
def trunc : Number → Except Fault Int := whole Binary64.trunc? Decimal.trunc?

/-- The power of ten: an integer, and for a negative exponent the nearest binary64 number. -/
def tenTo (n : Int) : Number :=
  if 0 ≤ n then .int (10 ^ n.toNat) else .float (.ofDigits false 1 n)

end Number

/-- The ways in which two numbers are put in order. -/
inductive Order where
  | less
  | lessOrEqual
  | greater
  | greaterOrEqual
deriving DecidableEq

namespace Order

def sign : Order → String
  | .less => "<"
  | .lessOrEqual => "<="
  | .greater => ">"
  | .greaterOrEqual => ">="

def holds (o : Order) : Ordering → Bool
  | .lt => o = .less || o = .lessOrEqual
  | .eq => o = .lessOrEqual || o = .greaterOrEqual
  | .gt => o = .greater || o = .greaterOrEqual

/-- Compares what two numbers denote. Nothing is in order with not-a-number, and a decimal signals it. -/
def numbers (o : Order) (a b : Number) : Except Fault Bool :=
  match Decimal.compare? a.exact b.exact with
  | some r => .ok (o.holds r)
  | none =>
    match a, b with
    | .decimal _, _ => .error (.ofSignal .invalidOperation)
    | _, .decimal _ => .error (.ofSignal .invalidOperation)
    | _, _ => .ok false

/-- Compares two values of which at least one is a number. -/
def values (o : Order) (a b : Value) : Except Fault Bool :=
  match Number.ofValue? a, Number.ofValue? b with
  | some x, some y => o.numbers x y
  | _, _ => .error ⟨.wrongType, "'" ++ o.sign ++ "' not supported between instances of '" ++
      a.fullTypeName ++ "' and '" ++ b.fullTypeName ++ "'"⟩

end Order

end Crosswalk
