import Crosswalk.Value.Text

/-!
Amounts: the finite decimals that calculation and rules work with.

`amount?` reads a value as one; truth values and texts that are not plain decimal numerals are none.
Results are rounded by a policy and given back as an integer where they are whole.
-/

namespace Crosswalk

open Text

/-- How the result of a formula is rounded. -/
inductive Rounding where
  | none
  | cents
  | dollars
deriving DecidableEq

namespace Rounding

def name : Rounding → String
  | .none => "none"
  | .cents => "cents"
  | .dollars => "dollars"

def all : List Rounding := [.none, .cents, .dollars]

/-- Rounds an amount, a tie away from zero. -/
def apply (r : Rounding) (d : Decimal) : Except Decimal.Signal Decimal :=
  match r with
  | .none => .ok d
  | .cents => d.quantize (-2)
  | .dollars => d.quantize 0

end Rounding

namespace Value

/-- The decimal that a text of a plain numeral writes, blanks around it. -/
def amountOfText? (s : String) : Option Decimal :=
  (Numeral.ofChars? (strip s.toList)).bind Decimal.ofNumeral?

/-- A finite decimal, or none. -/
def finite? (d : Decimal) : Option Decimal := if d.isFinite then some d else none

/-- The amount of a record value. -/
def amount? : Value → Except Fault (Option Decimal)
  | .decimal d => .ok (finite? d)
  | .int n => do
    let _ ← integerText n
    return some (.ofInt n)
  | .float x => .ok ((Decimal.ofText? x.text).bind finite?)
  | .text s => .ok (amountOfText? s)
  | _ => .ok none

/-- A decimal as a value: an integer if it is whole. -/
def ofAmount (d : Decimal) : Except Fault Value :=
  match d.trunc? with
  | some n => .ok (if d.isIntegral then .int n else .float d.toBinary64)
  | none =>
    if d.isNaN then .ok (.float .nan)
    else .error ⟨.overflow, "cannot convert Infinity to integer"⟩

end Value

end Crosswalk
