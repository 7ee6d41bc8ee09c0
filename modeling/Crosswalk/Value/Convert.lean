import Crosswalk.Value.Absence
import Crosswalk.Value.Number

/-!
Values taken as numbers or integers.

`number?` is the number a value stands for: numbers themselves, and texts that read as one. Truth
values, missing values, not-a-number and values that cannot be written stand for none. `toInteger`
takes a parameter as an integer.
-/

namespace Crosswalk.Value

open Text

/-- The number that a value stands for. -/
def number? (v : Value) : Option Number :=
  match v with
  | .bool _ => none
  | _ =>
    if v.isMissing then none
    else
      match Number.ofValue? v with
      | some n => some n
      | none =>
        match v.toChars with
        | .error _ => none
        | .ok cs =>
          match Numeral.binary64? (strip cs) with
          | some x => if x.isNaN then none else some (.float x)
          | none => none

/-- The integer of a parameter: a number without its fraction, or a text of digits. -/
def toInteger : Value → Except Fault Int
  | .text s =>
    match Numeral.integer s.toList with
    | .ok n => .ok n
    | .error .malformed =>
      .error ⟨.badValue, "invalid literal for int() with base 10: " ++ quoted s⟩
    | .error (.tooLong n) => .error (.integerTextTooLong n)
  | v =>
    match Number.ofValue? v with
    | some n => n.trunc
    | none =>
      .error ⟨.wrongType, "int() argument must be a string, a bytes-like object or a real number, " ++
        "not '" ++ v.fullTypeName ++ "'"⟩

/-- The text under which a value stands in a table: `true`, `false`, whole numbers without a point. -/
def key (v : Value) : Except Fault String :=
  match v with
  | .bool b => .ok (if b then "true" else "false")
  | .float x =>
    match x.toInt? with
    | some n => integerText n
    | none => v.toText
  | _ => v.toText

mutual

/-- Why a value can be no key of a table, if it cannot. -/
def unhashable? : Value → Option Fault
  | .list _ => some ⟨.wrongType, "unhashable type: 'list'"⟩
  | .object _ => some ⟨.wrongType, "unhashable type: 'dict'"⟩
  | .tuple vs => unhashableAmong? vs
  | _ => none

def unhashableAmong? : List Value → Option Fault
  | [] => none
  | v :: vs => (unhashable? v).or (unhashableAmong? vs)

end

end Crosswalk.Value
