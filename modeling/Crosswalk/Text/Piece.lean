import Crosswalk.Text.Blank

/-!
Pieces of texts: slices, parts between separators, replaced and padded texts.
-/

namespace Crosswalk.Text

/-- The text behind `front`, if it starts with that. -/
def behind? : List Char → List Char → Option (List Char)
  | [], cs => some cs
  | _ :: _, [] => none
  | f :: front, c :: cs => if f = c then behind? front cs else none

def startsWith (cs front : List Char) : Bool := (behind? front cs).isSome

def endsWith (cs back : List Char) : Bool := startsWith cs.reverse back.reverse

def contains (cs part : List Char) : Bool :=
  startsWith cs part ||
    match cs with
    | [] => false
    | _ :: rest => contains rest part

/-- The parts between the occurrences of a separator, found from left to right. `cur` is the part that
is being read, `skip` the number of characters of the separator still to pass. -/
def splitFrom (sep cur : List Char) (skip : Nat) : List Char → List (List Char)
  | [] => [cur]
  | c :: cs =>
    match skip with
    | k + 1 => splitFrom sep cur k cs
    | 0 =>
      if startsWith (c :: cs) sep then cur :: splitFrom sep [] (sep.length - 1) cs
      else splitFrom sep (cur ++ [c]) 0 cs

/-- The parts between the occurrences of a separator that is not empty. -/
def splitOn (sep cs : List Char) : List (List Char) := splitFrom sep [] 0 cs

/-- The parts put together again with `sep` between them. -/
def joinWith (sep : List Char) (parts : List (List Char)) : List Char := sep.intercalate parts

/-- Replaces the first `limit` occurrences of a text that is not empty, or all of them. -/
def replace (search replacement : List Char) (limit : Option Nat) (cs : List Char) : List Char :=
  let parts := splitOn search cs
  match limit with
  | none => joinWith replacement parts
  | some n =>
    if parts.length ≤ n then joinWith replacement parts
    else joinWith replacement (parts.take n ++ [joinWith search (parts.drop n)])

/-- A position counted from the end if it is negative, within the text. -/
def clampIndex (len : Nat) (i : Int) : Nat :=
  if i < 0 then (i + len).toNat else min i.toNat len

/-- The characters from `start` up to `stop`. -/
def slice (cs : List Char) (start : Int) (stop : Option Int) : List Char :=
  let from_ := clampIndex cs.length start
  let last := (stop.map (clampIndex cs.length)).getD cs.length
  (cs.drop from_).take (last - from_)

def padLeft (width : Nat) (fill : Char) (cs : List Char) : List Char :=
  List.replicate (width - cs.length) fill ++ cs

def padRight (width : Nat) (fill : Char) (cs : List Char) : List Char :=
  cs ++ List.replicate (width - cs.length) fill

end Crosswalk.Text
