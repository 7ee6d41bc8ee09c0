import Crosswalk.Contact.NumberingPlan
import Crosswalk.Pattern
import Crosswalk.Text.Piece

/-!
Telephone numbers.

A number is found in a text, freed from its extension, and split into a country code and a national
number: the code follows a plus sign or the prefix of calls abroad, or it is that of the region. It is
valid if a plan of that code has a service with the national number.
-/

namespace Crosswalk.Contact

open Text

/-- A pattern of this module, which always reads. -/
def pattern (s : String) : Option Pattern := (Pattern.read s).toOption

def punctuation : String :=
  "-x\\u2010-\\u2015\\u2212\\u30FC\\uFF0D-\\uFF0F \\u00A0\\u00AD\\u200B\\u2060\\u3000" ++
    "()\\uFF08\\uFF09\\uFF3B\\uFF3D.\\[\\]/~\\u2053\\u223C\\uFF5E"

/-- Up to `n` digits of an extension. -/
def extensionDigits (n : Nat) : String := "(\\d\x7b1," ++ toString n ++ "\x7d)"

/-- The ways to write an extension. -/
def extension : String :=
  let separators := "[ \\u00A0\\t,]*"
  let behindLabel := "[:\\.\\uFF0E]?[ \\u00A0\\t,-]*"
  let clear := "(?:e?xt(?:ensi(?:o\\u0301?|\\u00F3))?n?|" ++
    "\\uFF45?\\uFF58\\uFF54\\uFF4E?|\\u0434\\u043E\\u0431|anexo)"
  let unclear := "(?:[x\\uFF58#\\uFF03~\\uFF5E]|int|\\uFF49\\uFF4E\\uFF54)"
  "|".intercalate [
    ";ext=" ++ extensionDigits 20,
    separators ++ clear ++ behindLabel ++ extensionDigits 20 ++ "#?",
    separators ++ unclear ++ behindLabel ++ extensionDigits 9 ++ "#?",
    "[- ]+" ++ extensionDigits 6 ++ "#",
    "[ \\u00A0\\t]*(?:,\x7b2\x7d|;)" ++ behindLabel ++ extensionDigits 15 ++ "#?",
    "[ \\u00A0\\t]*(?:,)+" ++ behindLabel ++ extensionDigits 9 ++ "#?"]

def viable : Option Pattern := pattern <|
  "(?i)\\d\x7b2\x7d|[+\\uFF0B]*(?:[" ++ punctuation ++ "*]*\\d)\x7b3,\x7d[" ++ punctuation ++
    "*A-Za-z\\d]*(?:" ++ extension ++ ")?"

def extensionAtEnd : Option Pattern := pattern ("(?i)(?:" ++ extension ++ ")$")

def fullMatches (p : Option Pattern) (cs : List Char) : Bool :=
  p.any fun p => p.fullMatch (String.ofList cs)

def isViable (cs : List Char) : Bool := 2 ≤ cs.length && fullMatches viable cs

def isPlus (c : Char) : Bool := c = '+' || c.toNat = 0xff0b

/-- The part in front of a slash, blanks and an `x`. -/
def beforeSecondNumber : List Char → List Char
  | [] => []
  | c :: cs =>
    if (c = '/' ∨ c.toNat = 92) ∧ (cs.dropWhile (· = ' ')).head? = some 'x' then []
    else c :: beforeSecondNumber cs

/-- The part of a text that can be a number: from the first plus or digit on, without marks at the end. -/
def possibleNumber (cs : List Char) : List Char :=
  let cs := cs.dropWhile fun c => !(isPlus c || isDigit c)
  let isWanted (c : Char) : Bool := isDigit c || c.isAlpha || c = '#'
  beforeSecondNumber ((cs.reverse.dropWhile fun c => !isWanted c).reverse)

/-- The index at which `part` begins in `cs`. -/
def indexOf? (part : List Char) : List Char → Option Nat
  | [] => if part.isEmpty then some 0 else none
  | c :: cs => if startsWith (c :: cs) part then some 0 else (indexOf? part cs).map (· + 1)

/-- The national part of a text, with a plus and a country code if its context gives one. -/
def nationalPart? (cs : List Char) : Option (List Char) := do
  let isSub := ";isub=".toList
  let cs ←
    match indexOf? ";phone-context=".toList cs with
    | none => pure (possibleNumber cs)
    | some i =>
      let context := (cs.drop (i + ";phone-context=".length)).takeWhile (· != ';')
      let start := ((indexOf? "tel:".toList cs).map (· + 4)).getD 0
      let national := (cs.take i).drop start
      match context with
      | [] => none
      | '+' :: ds => if ds.any isDigit then pure (context ++ national) else none
      | d :: _ => if d.isAlphanum then pure national else none
  match indexOf? isSub cs with
  | some (i + 1) => return cs.take (i + 1)
  | _ => return cs

/-- The digit of a letter on a keypad. -/
def keypad? (c : Char) : Option Char :=
  let table := ["ABC", "DEF", "GHI", "JKL", "MNO", "PQRS", "TUV", "WXYZ"]
  (table.findIdx? fun s => s.toList.contains c.toUpper).map fun i => Char.ofNat (50 + i)

/-- The digits of a number in ASCII. With three letters or more, letters stand for digits. -/
def digitsOfNumber (cs : List Char) : List Char :=
  let vanity := 3 ≤ cs.countP Char.isAlpha
  cs.filterMap fun c =>
    match digitValue? c with
    | some v => some (Char.ofNat (48 + v))
    | none => if vanity then keypad? c else none

namespace NumberingPlan

def hasMatch (p : String) (ds : List Char) : Bool := fullMatches (pattern p) ds

def isGeneral (plan : NumberingPlan) (ds : List Char) : Bool := hasMatch plan.general ds

/-- A national number that some service has. -/
def hasNumber (plan : NumberingPlan) (ds : List Char) : Bool :=
  plan.lengths.contains ds.length && plan.isGeneral ds && plan.services.any (hasMatch · ds)

def find? (region : String) : Option NumberingPlan := all.find? (·.region = region)

def withCode (code : Nat) : List NumberingPlan := all.filter (·.code = code)

/-- The number without the trunk prefix, unless only the number with it is one of the plan. -/
def withoutTrunk (plan : NumberingPlan) (ds : List Char) : List Char :=
  let trunk := plan.trunk.toList
  if trunk.isEmpty ∨ !startsWith ds trunk then ds
  else
    let rest := ds.drop trunk.length
    if plan.isGeneral ds && !plan.isGeneral rest then ds else rest

/-- Whether a number is longer than any of the plan. -/
def isTooLong (plan : NumberingPlan) (ds : List Char) : Bool :=
  !plan.localLengths.contains ds.length && plan.lengths.all (· < ds.length)

/-- Whether a number has a length of the plan, or is too long. -/
def isPossible (plan : NumberingPlan) (ds : List Char) : Bool :=
  !plan.localLengths.contains ds.length && (plan.lengths.contains ds.length || plan.isTooLong ds)

end NumberingPlan

/-- The country code at the start of digits, and the rest. -/
def leadingCode? (ds : List Char) : Option (Nat × List Char) :=
  if ds.head? = some '0' then none
  else
    [1, 2, 3].findSome? fun n =>
      let code := (ds.take n).foldl (fun v c => v * 10 + (c.toNat - 48)) 0
      if n ≤ ds.length ∧ !(NumberingPlan.withCode code).isEmpty then some (code, ds.drop n) else none

/-- The digits behind the prefix of calls abroad. -/
def behindAbroad? (plan : NumberingPlan) (ds : List Char) : Option (List Char) :=
  match behind? plan.abroad.toList ds with
  | some rest => if rest.head? = some '0' then none else some rest
  | none => none

/-- The country code and the national number of a number without extension. -/
def split? (cs : List Char) (region : Option NumberingPlan) : Option (Nat × List Char) :=
  let coded (ds : List Char) : Option (Nat × List Char) :=
    if ds.length ≤ 2 then none else leadingCode? ds
  if cs.head?.any isPlus then coded (digitsOfNumber (cs.dropWhile isPlus))
  else
    match region with
    | none => none
    | some plan =>
      let ds := digitsOfNumber cs
      match behindAbroad? plan ds with
      | some rest => coded rest
      | none =>
        let stripped := (behind? (toString plan.code).toList ds).map plan.withoutTrunk
        match stripped with
        | some rest =>
          if (!plan.isGeneral ds && plan.isGeneral rest) || plan.isTooLong ds then
            some (plan.code, rest)
          else some (plan.code, ds)
        | none => some (plan.code, ds)

/-- Whether a text is a valid number, read in a region. -/
def isPhone (cs : List Char) (region : Option String) : Bool :=
  let plan := region.bind NumberingPlan.find?
  match (if 250 < cs.length then none else nationalPart? cs) with
  | none => false
  | some number =>
    if !isViable number ∨ (plan.isNone ∧ !number.head?.any isPlus) then false
    else
      let number :=
        match extensionAtEnd.bind fun p => p.find? number with
        | some (start, _) => if isViable (number.take start) then number.take start else number
        | none => number
      match split? number plan with
      | none => false
      | some (code, ds) =>
        let plans := NumberingPlan.withCode code
        let ds :=
          match plans with
          | [] => ds
          | main :: _ =>
            let rest := main.withoutTrunk ds
            if main.isPossible rest then rest else ds
        2 ≤ ds.length && ds.length ≤ 17 && plans.any (·.hasNumber ds)

end Crosswalk.Contact
