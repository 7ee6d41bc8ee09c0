import Crosswalk.Text.LetterCase

/-!
Keys in snake case and in camel case.
-/

namespace Crosswalk.Text

/-- Whether a new word starts at `c` behind `b`; `next` is the character behind `c`. -/
def startsWord (b c : Char) (next : Option Char) : Bool :=
  (b.isUpper && c.isUpper && next.any Char.isLower) ||
    (c.isUpper && (b.isLower || b.isDigit)) || (b.isLower && c.isDigit)

/-- The characters with an underscore in front of every word but the first. -/
def separateWords : List Char → List Char
  | b :: c :: rest =>
    if startsWord b c rest.head? then b :: '_' :: separateWords (c :: rest)
    else b :: separateWords (c :: rest)
  | short => short

/-- A key in snake case. -/
def snakeCase (s : String) : String :=
  String.ofList (lower ((separateWords s.toList).map fun c => if c = '-' then '_' else c))

/-- A snake case key in camel case. -/
def camelCase (s : String) : String :=
  let rec go : List Char → List Char
    | '_' :: c :: rest => c.toUpper :: go rest
    | c :: rest => c :: go rest
    | [] => []
  String.ofList (go s.toList)

end Crosswalk.Text
