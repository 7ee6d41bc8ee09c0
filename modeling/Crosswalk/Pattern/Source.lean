import Crosswalk.Fault
import Crosswalk.Pattern.Tree
import Crosswalk.Text.Quoted

/-!
The text of a pattern, read symbol by symbol.

A symbol is one character, or a backslash with the character behind it. One symbol is read ahead, so a
backslash at the very end is found as soon as the symbol before it is taken. A complaint names the
place of the fault, and also line and column if the pattern has several lines.
-/

namespace Crosswalk.Pattern

open Text

abbrev Symbol := List Char

inductive Complaint where
  /-- The text is no pattern. -/
  | malformed (message : String)
  /-- A number in the text is out of range. -/
  | fault (f : Fault)

structure Reader where
  text : Array Char
  index : Nat := 0
  ahead : Option Symbol := none
  options : Options := {}
  groupNames : List (String × Nat) := []
  /-- The lengths of each group, none while it is open. -/
  groups : List (Option Width) := []
  /-- The number of groups at the start of the outermost look-behind that is being read. -/
  lookBehind : Option Nat := none
  /-- Groups that conditions refer to by number, with the places. -/
  conditions : List (Nat × Nat) := []

abbrev Reading := StateT Reader (Except Complaint)

/-- A message about a place of a text. -/
def placed (text : Array Char) (message : String) (pos : Nat) : Complaint :=
  let before := text.toList.take pos
  let lines := before.countP (· = '\n') + 1
  let column := pos + 1 - (before.length - (before.reverse.takeWhile (· != '\n')).length)
  .malformed <| message ++ s!" at position {pos}" ++
    (if text.contains '\n' then s!" (line {lines}, column {column})" else "")

namespace Reader

/-- The place of the symbol ahead. -/
def place (r : Reader) : Nat := r.index - (r.ahead.map List.length).getD 0

def groupCount (r : Reader) : Nat := r.groups.length + 1

/-- The lengths of a closed group. -/
def closed? (r : Reader) (g : Nat) : Option Width := (r.groups[g - 1]?).join

def widths (r : Reader) (g : Nat) : Width := (r.closed? g).getD ⟨0, 0⟩

end Reader

/-- Complains about the place `offset` characters before the symbol ahead. -/
def complain {α : Type} (message : String) (offset : Nat) : Reading α := do
  let r ← get
  throw (placed r.text message (r.place - offset))

/-- Reads the next symbol ahead. -/
def readAhead : Reading Unit := do
  let r ← get
  match r.text[r.index]? with
  | none => set { r with ahead := none }
  | some c =>
    if c = backslash then
      match r.text[r.index + 1]? with
      | none => throw (placed r.text "bad escape (end of pattern)" (r.text.size - 1))
      | some d => set { r with ahead := some [c, d], index := r.index + 2 }
    else set { r with ahead := some [c], index := r.index + 1 }

/-- Takes the symbol ahead. -/
def take : Reading (Option Symbol) := do
  let r ← get
  readAhead
  return r.ahead

/-- Takes the symbol ahead if it is the character `c`. -/
def accept (c : Char) : Reading Bool := do
  if (← get).ahead = some [c] then
    readAhead
    return true
  else return false

/-- Goes back to a place. -/
def returnTo (place : Nat) : Reading Unit := do
  modify fun r => { r with index := place }
  readAhead

/-- Takes up to `n` characters of a kind. -/
def takeWhile (p : Char → Bool) (n : Nat) : Reading (List Char) :=
  match n with
  | 0 => return []
  | n + 1 => do
    match (← get).ahead with
    | some [c] =>
      if p c then
        readAhead
        return c :: (← takeWhile p n)
      else return []
    | _ => return []

/-- Takes a name up to its end mark. -/
def takeName (mark : Char) (what : String) (fuel : Nat) (name : List Char) : Reading (List Char) :=
  match fuel with
  | 0 => return name
  | fuel + 1 => do
    match ← take with
    | none =>
      if name.isEmpty then complain ("missing " ++ what) 0
      else complain ("missing " ++ String.singleton mark ++ ", unterminated name") name.length
    | some s =>
      if s = [mark] then
        if name.isEmpty then complain ("missing " ++ what) 1 else return name
      else takeName mark what fuel (name ++ s)

end Crosswalk.Pattern
