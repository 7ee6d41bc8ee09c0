import Crosswalk.Text.Digit
import Crosswalk.Text.Word
import Crosswalk.Text.Blank

/-!
The lexemes of a date text written freely.

A run of letters is one lexeme and so is a run of digits; a blank or any other character stands alone. A
point belongs to a number such as `12.5`, and otherwise parts what it stands between, as in `15.01.2024`
or `Jan.5`: `extend` takes a whole dotted run first, and `parts` decides afterwards.
-/

namespace Crosswalk.Calendar

open Text

/-- What a run of characters is so far. -/
inductive Run where
  | word
  | number
  | dottedWord
  | dottedNumber
deriving DecidableEq

namespace Run

def isLetter (c : Char) : Bool := isWord c && !isDigit c && c != '_'

/-- The run that `token` becomes with `c` behind it, if `c` belongs to it. -/
def next? (token : List Char) (c : Char) : Run → Option Run
  | .word => if isLetter c then some .word else if c = '.' then some .dottedWord else none
  | .number =>
    if isDigit c then some .number
    else if c = '.' ∨ (c = ',' ∧ 2 ≤ token.length) then some .dottedNumber
    else none
  | .dottedWord =>
    if c = '.' ∨ isLetter c then some .dottedWord
    else if isDigit c ∧ token.getLast? = some '.' then some .dottedNumber
    else none
  | .dottedNumber =>
    if c = '.' ∨ isDigit c then some .dottedNumber
    else if isLetter c ∧ token.getLast? = some '.' then some .dottedWord
    else none

def hasLetters (r : Run) : Bool := r = .word || r = .dottedWord

def isDotted (r : Run) : Bool := r = .dottedWord || r = .dottedNumber

end Run

/-- Extends a run as far as it goes. The second component tells whether letters were passed on the way. -/
def extend (r : Run) (letters : Bool) (token : List Char) :
    List Char → Run × Bool × List Char × List Char
  | [] => (r, letters, token, [])
  | c :: rest =>
    match r.next? token c with
    | some r' => extend r' (letters || r.hasLetters) (token ++ [c]) rest
    | none => (r, letters || r.hasLetters, token, c :: rest)

/-- The pieces between points and commas, with the points and commas. -/
def splitPoints (cur : List Char) : List Char → List (List Char)
  | [] => [cur]
  | c :: rest =>
    if c = '.' ∨ c = ',' then cur :: [c] :: splitPoints [] rest else splitPoints (cur ++ [c]) rest

/-- The lexemes of one run. -/
def parts (r : Run) (letters : Bool) (token : List Char) : List (List Char) :=
  if r.isDotted ∧ (letters ∨ 1 < token.count '.' ∨ token.getLast?.any fun c => c = '.' || c = ',') then
    (splitPoints [] token).filter fun p => !p.isEmpty
  else if r = .dottedNumber ∧ '.' ∉ token then [token.map fun c => if c = ',' then '.' else c]
  else [token]

def lexemesFrom (fuel : Nat) (cs : List Char) : List (List Char) :=
  match fuel, cs with
  | fuel + 1, c :: rest =>
    let start : Option Run :=
      if Run.isLetter c then some .word else if isDigit c then some .number else none
    match start with
    | some r =>
      let (r, letters, token, rest) := extend r false [c] rest
      parts r letters token ++ lexemesFrom fuel rest
    | none => [if isBlank c then ' ' else c] :: lexemesFrom fuel rest
  | _, _ => []

def lexemes (cs : List Char) : List (List Char) := lexemesFrom cs.length cs

end Crosswalk.Calendar
