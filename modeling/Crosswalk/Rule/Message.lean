import Crosswalk.Rule.Basic
import Crosswalk.Text.Word
import Crosswalk.Value.Text

/-!
Messages of rules: templates with placeholders, words in braces.

A placeholder of a known name is replaced by its text, once and from left to right; every other part
stays as it is.
-/

namespace Crosswalk.Rule.Message

open Text

inductive Piece where
  | literal (c : Char)
  | placeholder (name : List Char)
deriving DecidableEq

def openBrace : Char := Char.ofNat 123
def closeBrace : Char := Char.ofNat 125

/-- The name of a placeholder whose opening brace has been passed, and the rest. -/
def placeholder? (cs : List Char) : Option (List Char × List Char) :=
  let name := cs.takeWhile isWord
  match cs.drop name.length with
  | c :: rest => if c = closeBrace ∧ !name.isEmpty then some (name, rest) else none
  | [] => none

/-- The pieces of a template. Every piece takes a character, so the length is fuel enough. -/
def piecesFrom (fuel : Nat) (cs : List Char) : List Piece :=
  match fuel, cs with
  | fuel + 1, c :: rest =>
    match (if c = openBrace then placeholder? rest else none) with
    | some (name, rest) => .placeholder name :: piecesFrom fuel rest
    | none => .literal c :: piecesFrom fuel rest
  | _, _ => []

def pieces (cs : List Char) : List Piece := piecesFrom cs.length cs

/-- What the known names stand for. -/
def context (r : Rule) (v : Value) : Table Value :=
  let textOrNull (s : Option String) := Value.ofOption (s.map .text)
  let floatOrNull (x : Option Binary64) := Value.ofOption (x.map .float)
  [("field", .text r.target), ("value", v), ("min", floatOrNull r.logic.low),
    ("max", floatOrNull r.logic.high), ("pattern", textOrNull r.logic.pattern),
    ("values", Value.ofOption (r.logic.values.map .list)), ("expected", r.logic.value),
    ("rule", .text r.name)]

def pieceText (ctx : Table Value) : Piece → Except Fault (List Char)
  | .literal c => .ok [c]
  | .placeholder name =>
    match Table.get? ctx (String.ofList name) with
    | some v => v.toChars
    | none => .ok (openBrace :: name ++ [closeBrace])

/-- The message of a template for a rule and the value it was checked on. -/
def render (template : String) (r : Rule) (v : Value) : Except Fault String := do
  let parts ← (pieces template.toList).mapM (pieceText (context r v))
  return String.ofList parts.flatten

end Crosswalk.Rule.Message
