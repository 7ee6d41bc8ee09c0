import Crosswalk.Condition
import Crosswalk.Formula.Parse

/-!
Reading conditions: a field, an operator and a literal, blanks around each.

The field may be written behind `source.`. A literal is a text in quotes without backslashes, a number
of digits with an optional fraction, or a name; the names `true`, `false` and `null` stand for their
values and any other for its own text.
-/

namespace Crosswalk.Condition

open Text

def skipBlanks (cs : List Char) : List Char := cs.dropWhile isBlank

/-- A name at the start of a text, and the rest. -/
def name? (cs : List Char) : Option (List Char × List Char) :=
  match cs with
  | c :: _ => if Formula.isNameStart c then some (Formula.run Formula.isNameChar cs) else none
  | [] => none

/-- A field at the start of a text, with `source.` in front or not, and the rest. -/
def field? (cs : List Char) : Option (List Char × List Char) :=
  match (behind? (Formula.sourceName ++ ['.']) cs).bind name? with
  | some found => some found
  | none => name? cs

/-- The operators as they are written, longer ones first. -/
def operators : List (String × Comparison) :=
  [("===", .equal), ("==", .equal), ("!==", .notEqual), ("!=", .notEqual), (">", .above), ("<", .below)]

/-- An operator at the start of a text: how it is written, its meaning and the rest. -/
def operator? (cs : List Char) : Option (String × Comparison × List Char) :=
  operators.findSome? fun (w, c) => (behind? w.toList cs).map fun rest => (w, c, rest)

/-- The characters up to the closing quote, and the rest. -/
def quotedBody? (quote : Char) (cs : List Char) : Option (List Char × List Char) :=
  let body := cs.takeWhile fun c => c ≠ quote ∧ c ≠ backslash
  match cs.drop body.length with
  | [] => none
  | c :: rest => if c = quote then some (body, rest) else none

/-- The number that digits with an optional fraction write, and the rest. -/
def unsigned? (negative : Bool) (cs : List Char) : Option (Except Fault Literal × List Char) :=
  let (whole, rest) := Formula.run Char.isDigit cs
  if whole.isEmpty then none
  else
    match Formula.fraction? rest with
    | some (frac, rest) =>
      let digits := whole ++ frac.drop 1
      let x := Binary64.ofDigits negative (Numeral.value digits) (1 - (frac.length : Int))
      some (.ok (.float x), rest)
    | none =>
      if Numeral.maxIntegerDigits < whole.length then some (.error (.integerTextTooLong whole.length), rest)
      else some (.ok (.int (Binary64.signed negative (Numeral.value whole))), rest)

/-- A number at the start of a text, with a sign or without, and the rest. -/
def number? : List Char → Option (Except Fault Literal × List Char)
  | '-' :: rest => unsigned? true rest
  | cs => unsigned? false cs

/-- The literal that a name stands for. -/
def ofName (name : List Char) : Literal :=
  match String.ofList name with
  | "true" => .bool true
  | "false" => .bool false
  | "null" => .null
  | s => .text s

/-- A literal at the start of a text, and the rest. -/
def literal? (cs : List Char) : Option (Except Fault Literal × List Char) :=
  match cs with
  | [] => none
  | c :: rest =>
    if c = doubleQuote ∨ c = singleQuote then
      (quotedBody? c rest).map fun (body, rest) => (.ok (.text (String.ofList body)), rest)
    else
      match number? cs with
      | some found => some found
      | none => (name? cs).map fun (name, rest) => (.ok (ofName name), rest)

/-- The parts of a condition: field, operator as written, its meaning, and literal. -/
def parts? (cs : List Char) : Option (List Char × String × Comparison × Except Fault Literal) := do
  let (field, rest) ← field? (skipBlanks cs)
  let (written, comparison, rest) ← operator? (skipBlanks rest)
  let (literal, rest) ← literal? (skipBlanks rest)
  if (skipBlanks rest).isEmpty then return (field, written, comparison, literal) else none

def refuse {α : Type} (message : String) : Except Fault α := .error ⟨.conditionForm, message⟩

/-- Reads a condition. -/
def parse (l : Limits) (text : String) : Except Fault Condition := do
  l.check .conditionForm "Condition" text
  match parts? text.toList with
  | none => refuse ("Unsupported condition: " ++ quoted text)
  | some (field, written, comparison, literal) =>
    let literal ← literal
    if comparison.isOrder && !literal.isNumber then
      refuse ("Operator '" ++ written ++ "' requires a numeric literal: " ++ quoted text)
    else return ⟨String.ofList field, comparison, literal⟩

end Crosswalk.Condition
