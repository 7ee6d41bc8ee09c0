import Crosswalk.Pattern.Source
import Crosswalk.Text.Word

/-!
Escapes: what a backslash and the characters behind it stand for.
-/

namespace Crosswalk.Pattern

open Text

/-- What an escape stands for. -/
inductive Escape where
  | char (c : Nat)
  | kind (k : CharKind) (negated : Bool)
  | anchor (a : Anchor)
  | backref (group : Nat)
deriving DecidableEq

def isOctal (c : Char) : Bool := '0' ≤ c && c ≤ '7'

def hexValue (c : Char) : Nat :=
  if c.isDigit then c.toNat - 48 else c.toLower.toNat - 87

def isHex (c : Char) : Bool := c.isDigit || ('a' ≤ c.toLower && c.toLower ≤ 'f')

def numberIn (base : Nat) (cs : List Char) : Nat := cs.foldl (fun n c => n * base + hexValue c) 0

/-- The characters that have a letter of their own. -/
def namedChar? : Char → Option Nat
  | 'a' => some 7
  | 'b' => some 8
  | 'f' => some 12
  | 'n' => some 10
  | 'r' => some 13
  | 't' => some 9
  | 'v' => some 11
  | c => if c = backslash then some 92 else none

def kind? : Char → Option Escape
  | 'd' => some (.kind .digit false)
  | 'D' => some (.kind .digit true)
  | 's' => some (.kind .space false)
  | 'S' => some (.kind .space true)
  | 'w' => some (.kind .word false)
  | 'W' => some (.kind .word true)
  | _ => none

def anchor? : Char → Option Escape
  | 'A' => some (.anchor .textStart)
  | 'b' => some (.anchor .wordEdge)
  | 'B' => some (.anchor .noWordEdge)
  | 'Z' => some (.anchor .textEnd)
  | _ => none

def complainEscape {α : Type} (what : String) (written : List Char) : Reading α :=
  complain (what ++ String.ofList written) written.length

/-- A character by `n` hexadecimal digits behind the letter `c`. -/
def hexEscape (c : Char) (n : Nat) : Reading Escape := do
  let ds ← takeWhile isHex n
  let written := backslash :: c :: ds
  if ds.length ≠ n then complainEscape "incomplete escape " written
  else
    let v := numberIn 16 ds
    if 0x10ffff < v then complainEscape "bad escape " written else return .char v

/-- A character by its name, none of which is known. -/
def nameEscape : Reading Escape := do
  if !(← accept '\x7b') then complain "missing \x7b" 0
  else
    let r ← get
    let name ← takeName '\x7d' "character name" (r.text.size + 1) []
    complain ("undefined character name " ++ quoted (String.ofList name)) (name.length + 4)

def octalChecked (ds : List Char) : Reading Escape := do
  let v := numberIn 8 ds
  if 0o377 < v then
    let written := backslash :: ds
    complain ("octal escape value " ++ String.ofList written ++ " outside of range 0-0o377")
      written.length
  else return .char v

/-- An escape of a character by its code or as itself. -/
def charEscape (c : Char) : Reading Escape := do
  if c = 'x' then hexEscape c 2
  else if c = 'u' then hexEscape c 4
  else if c = 'U' then hexEscape c 8
  else if c = 'N' then nameEscape
  else if c.isAlpha then complainEscape "bad escape " [backslash, c]
  else return .char c.toNat

/-- The escape of `c` inside a set. -/
def setEscape (c : Char) : Reading Escape := do
  match namedChar? c with
  | some n => return .char n
  | none =>
    match kind? c with
    | some k => return k
    | none =>
      if isOctal c then
        let ds ← takeWhile isOctal 2
        octalChecked (c :: ds)
      else if c.isDigit then complainEscape "bad escape " [backslash, c]
      else charEscape c

/-- A reference to a group that is closed, and outside the look-behind that is being read. -/
def checkLookBehind (g : Nat) : Reading Unit := do
  let r ← get
  match r.lookBehind with
  | none => return ()
  | some limit =>
    if (r.closed? g).isNone then complain "cannot refer to an open group" 0
    else if limit ≤ g then
      complain "cannot refer to group defined in the same lookbehind subpattern" 0

/-- A reference to a group by number, or a character by three octal digits. -/
def digitEscape (c : Char) : Reading Escape := do
  let second ← takeWhile Char.isDigit 1
  let third ←
    if isOctal c ∧ second.any isOctal then takeWhile isOctal 1 else pure []
  if !third.isEmpty then octalChecked (c :: second ++ third)
  else
    let written := c :: second
    let g := numberIn 10 written
    let r ← get
    if g < r.groupCount then
      if (r.closed? g).isNone then complain "cannot refer to an open group" (written.length + 1)
      else
        checkLookBehind g
        return .backref g
    else complain ("invalid group reference " ++ toString g) written.length

/-- The escape of `c` outside of sets. -/
def escape (c : Char) : Reading Escape := do
  match anchor? c <|> kind? c with
  | some e => return e
  | none =>
    match namedChar? c with
    | some n => return .char n
    | none =>
      if c = '0' then
        let ds ← takeWhile isOctal 2
        return .char (numberIn 8 ds)
      else if c.isDigit then digitEscape c
      else charEscape c

end Crosswalk.Pattern
