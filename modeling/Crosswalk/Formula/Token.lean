import Crosswalk.Fault
import Crosswalk.Text.Blank
import Crosswalk.Text.Quoted

/-!
The tokens of a formula.

A number has digits with an optional fraction, or a fraction alone; a field is a name, or two names with
a point between them. White space stands between tokens and is none itself.
-/

namespace Crosswalk.Formula

open Text

inductive TokenKind where
  | number
  | field
  | operator
  | opening
  | closing
deriving DecidableEq

structure Token where
  kind : TokenKind
  text : List Char
  pos : Nat
deriving DecidableEq

def isNameStart (c : Char) : Bool := c.isAlpha || c = '_'

def isNameChar (c : Char) : Bool := c.isAlphanum || c = '_'

def isOperator (c : Char) : Bool := c = '+' || c = '-' || c = '*' || c = '/'

/-- The characters that a formula may have. -/
def isFormulaChar (c : Char) : Bool :=
  isNameChar c || isOperator c || c = '.' || c = '(' || c = ')' || isBlank c

/-- The leading characters of a kind and the rest. -/
def run (p : Char → Bool) (cs : List Char) : List Char × List Char := (cs.takeWhile p, cs.dropWhile p)

/-- A point with digits behind it, and the rest. -/
def fraction? : List Char → Option (List Char × List Char)
  | '.' :: rest =>
    match run Char.isDigit rest with
    | ([], _) => none
    | (ds, rest) => some ('.' :: ds, rest)
  | _ => none

/-- A point with a name behind it, and the rest. -/
def qualified? : List Char → Option (List Char × List Char)
  | '.' :: c :: rest =>
    if isNameStart c then
      let (name, rest) := run isNameChar rest
      some ('.' :: c :: name, rest)
    else none
  | _ => none

/-- The longest token at the start of a text that has no white space there, and the rest. -/
def nextToken? (cs : List Char) : Option (TokenKind × List Char × List Char) :=
  match cs with
  | [] => none
  | c :: rest =>
    if c.isDigit then
      let (whole, rest) := run Char.isDigit cs
      match fraction? rest with
      | some (frac, rest) => some (.number, whole ++ frac, rest)
      | none => some (.number, whole, rest)
    else if c = '.' then (fraction? cs).map fun (frac, rest) => (.number, frac, rest)
    else if isNameStart c then
      let (name, rest) := run isNameChar cs
      match qualified? rest with
      | some (more, rest) => some (.field, name ++ more, rest)
      | none => some (.field, name, rest)
    else if isOperator c then some (.operator, [c], rest)
    else if c = '(' then some (.opening, [c], rest)
    else if c = ')' then some (.closing, [c], rest)
    else none

def refuse {α : Type} (message : String) : Except Fault α := .error ⟨.expression, message⟩

/-- The tokens of a text whose first character stands at `pos`. Every token takes a character, so the
length of the text is fuel enough. -/
def tokensFrom (fuel pos : Nat) (cs : List Char) : Except Fault (List Token) :=
  match fuel, cs with
  | _, [] => .ok []
  | 0, _ => .ok []
  | fuel + 1, c :: rest =>
    if isBlank c then tokensFrom fuel (pos + 1) rest
    else
      match nextToken? (c :: rest) with
      | none =>
        refuse <| s!"Unrecognised token in formula at position {pos}: '" ++
          String.ofList ((c :: rest).take 10) ++ "'"
      | some (kind, text, rest) => return ⟨kind, text, pos⟩ :: (← tokensFrom fuel (pos + text.length) rest)

/-- The tokens of a formula. -/
def tokens (cs : List Char) : Except Fault (List Token) :=
  match cs.find? fun c => !isFormulaChar c with
  | some c => refuse ("Formula contains disallowed character " ++ quoted (String.singleton c))
  | none => tokensFrom cs.length 0 cs

end Crosswalk.Formula
