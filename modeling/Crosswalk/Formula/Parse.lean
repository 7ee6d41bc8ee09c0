import Crosswalk.Formula.Token
import Crosswalk.Formula.Tree
import Crosswalk.Number.Numeral

/-!
Reading formulas.

A sum is of terms, a term of factors, and a factor is a number, a field, a signed factor or a sum in
parentheses. Operators of one rank group to the left. The depth counts the parentheses and signs around a
factor, and is bounded like the length of the text.
-/

namespace Crosswalk

/-- How long a formula or a condition may be, and how deep a formula. -/
structure Limits where
  length : Int
  depth : Int
deriving DecidableEq

namespace Limits

def standard : Limits := ⟨1000, 50⟩

/-- Refuses a text that is too long. -/
def check (l : Limits) (kind : FaultKind) (what text : String) : Except Fault Unit :=
  if l.length < text.length then
    .error ⟨kind, what ++ " exceeds maximum length of " ++ toString l.length ++ " characters"⟩
  else .ok ()

end Limits

namespace Formula

def placed (t : Token) : String := s!"'" ++ String.ofList t.text ++ s!"' at position {t.pos}"

def unexpected {α : Type} (t : Token) : Except Fault α := refuse ("Unexpected token " ++ placed t)

/-- The sign that an operator is in front of a factor. -/
def sign? (t : Token) : Option Sign :=
  if t.text = ['+'] then some .plus else if t.text = ['-'] then some .minus else none

def sumOperator? (t : Token) : Option Operator :=
  if t.text = ['+'] then some .add else if t.text = ['-'] then some .sub else none

def termOperator? (t : Token) : Option Operator :=
  if t.text = ['*'] then some .mul else if t.text = ['/'] then some .div else none

/-- The name of the source record in front of a field. -/
def sourceName : List Char := "source".toList

/-- The field that a token writes. -/
def fieldRef (t : Token) : Except Fault FieldRef :=
  let first := t.text.takeWhile (· != '.')
  match t.text.drop first.length with
  | [] => .ok ⟨String.ofList first, false⟩
  | _ :: name =>
    if first = sourceName then .ok ⟨String.ofList name, true⟩
    else
      refuse ("Unknown field namespace '" ++ String.ofList first ++ s!"' at position {t.pos}")

/-- The number that a token writes. -/
def literal (t : Token) : Decimal :=
  match Numeral.ofChars? t.text with
  | some n => .finite n.neg n.coefficient n.exponent
  | none => .zero

abbrev Parsed := Except Fault (Formula × List Token)

mutual

/-- A factor at the start of the tokens. -/
def factor (maxDepth : Int) (fuel depth : Nat) (ts : List Token) : Parsed :=
  match fuel with
  | 0 => refuse "Unexpected end of formula"
  | fuel + 1 =>
    if maxDepth < depth then
      refuse ("Formula nesting exceeds maximum depth of " ++ toString maxDepth)
    else
      match ts with
      | [] => refuse "Unexpected end of formula"
      | t :: rest =>
        match t.kind with
        | .number => .ok (.number (literal t), rest)
        | .field => return (.field (← fieldRef t), rest)
        | .operator =>
          match sign? t with
          | none => unexpected t
          | some s => do
            let (operand, rest) ← factor maxDepth fuel (depth + 1) rest
            return (.signed s operand, rest)
        | .opening => do
          let (inner, rest) ← sum maxDepth fuel (depth + 1) rest
          match rest with
          | u :: rest =>
            if u.kind = .closing then return (inner, rest)
            else refuse s!"Missing closing parenthesis for '(' at position {t.pos}"
          | [] => refuse s!"Missing closing parenthesis for '(' at position {t.pos}"
        | .closing => unexpected t

/-- A term at the start of the tokens. -/
def term (maxDepth : Int) (fuel depth : Nat) (ts : List Token) : Parsed :=
  match fuel with
  | 0 => refuse "Unexpected end of formula"
  | fuel + 1 => do
    let (left, rest) ← factor maxDepth fuel depth ts
    termRest maxDepth fuel depth left rest

/-- The factors that `left` is multiplied with or divided by. -/
def termRest (maxDepth : Int) (fuel depth : Nat) (left : Formula) (ts : List Token) : Parsed :=
  match fuel, ts with
  | fuel + 1, t :: rest =>
    match termOperator? t with
    | none => .ok (left, t :: rest)
    | some o => do
      let (right, rest) ← factor maxDepth fuel depth rest
      termRest maxDepth fuel depth (.binary o left right) rest
  | _, ts => .ok (left, ts)

/-- A sum at the start of the tokens. -/
def sum (maxDepth : Int) (fuel depth : Nat) (ts : List Token) : Parsed :=
  match fuel with
  | 0 => refuse "Unexpected end of formula"
  | fuel + 1 => do
    let (left, rest) ← term maxDepth fuel depth ts
    sumRest maxDepth fuel depth left rest

/-- The terms that `left` is added to, or that are subtracted from it. -/
def sumRest (maxDepth : Int) (fuel depth : Nat) (left : Formula) (ts : List Token) : Parsed :=
  match fuel, ts with
  | fuel + 1, t :: rest =>
    match sumOperator? t with
    | none => .ok (left, t :: rest)
    | some o => do
      let (right, rest) ← term maxDepth fuel depth rest
      sumRest maxDepth fuel depth (.binary o left right) rest
  | _, ts => .ok (left, ts)

end

/-- The formula that tokens write. -/
def ofTokens (maxDepth : Int) (ts : List Token) : Except Fault Formula := do
  if ts.isEmpty then refuse "Formula is empty"
  else
    let (f, rest) ← sum maxDepth (4 * ts.length + 4) 0 ts
    match rest with
    | [] => return f
    | t :: _ => unexpected t

/-- Reads a formula. -/
def parse (l : Limits) (text : String) : Except Fault Formula := do
  l.check .expression "Formula" text
  ofTokens l.depth (← tokens text.toList)

end Formula

end Crosswalk
