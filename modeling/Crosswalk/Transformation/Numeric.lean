import Crosswalk.Number.Width
import Crosswalk.Transformation.Parameters

/-!
Transformations of numbers.

A value that stands for no number gives null. Rounding takes a tie upwards: `⌊x + 1/2⌋` with the sum
rounded as the type of `x` has it.
-/

namespace Crosswalk.Transformation

open Text

/-- A transformation of the number that a value stands for. -/
def onNumber (f : Number → Parameters → Except Fault Value) (v : Value) (p : Parameters) :
    Except Fault Value := do
  match v.number? with
  | none => return .null
  | some n => f n p

def half : Number := .float (.finite false (2 ^ 52) (-53))

def hundred : Number := .int 100

def roundHalfUp (n : Number) : Except Fault Int := do (← n.add half).floor

/-- The number of hundredths, rounded. -/
def hundredths (n : Number) : Except Fault Int := do roundHalfUp (← n.mul hundred)

def toCents (n : Number) : Except Fault Value := return .int (← hundredths n)

def overHundred (n : Number) : Except Fault Value := return (← n.div hundred).value

def timesHundred (n : Number) : Except Fault Value := return (← n.mul hundred).value

def roundToCents (n : Number) : Except Fault Value :=
  return (← (Number.int (← hundredths n)).div hundred).value

/-- Rounds to the given number of decimals. -/
def round (n : Number) (p : Parameters) : Except Fault Value := do
  let factor := Number.tenTo (← p.integer "decimals" 0)
  return (← (Number.int (← roundHalfUp (← n.mul factor))).div factor).value

def repeatCount (n : Int) : Except Fault Nat :=
  if !fitsSigned 64 n then
    .error ⟨.overflow, "cannot fit 'int' into an index-sized integer"⟩
  else .ok n.toNat

/-- A number times a parameter. An integer times a text or a list repeats it. -/
def multiply (n : Number) (p : Parameters) : Except Fault Value :=
  let factor := p.getD "factor" (.int 1)
  let sequence (repeated : Nat → Value) : Except Fault Value :=
    match n with
    | .int k => return repeated (← repeatCount k)
    | _ => .error ⟨.wrongType, "can't multiply sequence by non-int of type '" ++
        n.value.fullTypeName ++ "'"⟩
  match factor with
  | .text s => sequence fun k => .text (String.ofList (List.replicate k s.toList).flatten)
  | .list vs => sequence fun k => .list (List.replicate k vs).flatten
  | .tuple vs => sequence fun k => .tuple (List.replicate k vs).flatten
  | other =>
    match Number.ofValue? other with
    | some m => return (← n.mul m).value
    | none => .error (Number.mismatch "*" n.value other)

/-- A number combined with a parameter that must be a number too. -/
def withOperand (op : String) (f : Number → Number → Except Fault Number) (n : Number)
    (operand : Value) : Except Fault Value :=
  match Number.ofValue? operand with
  | some m => return (← f n m).value
  | none => .error (Number.mismatch op n.value operand)

/-- Division; null for a divisor of zero. -/
def divide (n : Number) (p : Parameters) : Except Fault Value :=
  let divisor := p.getD "divisor" (.int 1)
  if divisor.equals (.int 0) then .ok .null else withOperand "/" Number.div n divisor

def addConstant (n : Number) (p : Parameters) : Except Fault Value :=
  withOperand "+" Number.add n (p.getD "value" (.int 0))

def subtractConstant (n : Number) (p : Parameters) : Except Fault Value :=
  withOperand "-" Number.sub n (p.getD "value" (.int 0))

/-- The number, or the bound that it passes. -/
def clamp (n : Number) (p : Parameters) : Except Fault Value := do
  let low := p.getD "min" (.float (.infinite true))
  let high := p.getD "max" (.float (.infinite false))
  let x := if ← Order.greater.values low n.value then low else n.value
  return if ← Order.less.values high x then high else x

/-- A number, or a text that is one without dollar signs, commas and blanks. -/
def parseNumber (v : Value) : Except Fault Value := do
  let ofText (v : Value) : Except Fault Value := do
    let cs := (← v.toChars).filter fun c => !(c = '$' || c = ',' || isBlank c)
    return Value.ofOption ((Value.text (String.ofList cs)).number?.map Number.value)
  match v with
  | .bool _ => ofText v
  | _ => if (Number.ofValue? v).isSome then return v else ofText v

/-- Two places, thousands groups, and a sign before the symbol. -/
def formatCurrency (n : Number) (p : Parameters) : Except Fault Value := do
  let sign := if ← Order.less.numbers n (.int 0) then "-" else ""
  let symbol ← (p.getD "symbol" (.text "$")).toText
  let amount ←
    match ← n.abs with
    | .int k => pure (← Number.floatOfInt k).grouped
    | .float x => pure x.grouped
    | .decimal d => pure d.grouped
  return .text (sign ++ symbol ++ amount)

end Crosswalk.Transformation
