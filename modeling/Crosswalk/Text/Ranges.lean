/-!
Sets of characters as lists of ranges, written compactly.

A table text holds numbers in base 36. `rangesOf` reads them as gaps and lengths that alternate
from character 128 on: the tables describe what lies outside ASCII, whose part each predicate
states on its own.
-/

namespace Crosswalk.Text

def digit36 (c : Char) : Nat :=
  if c.isDigit then c.toNat - 48 else c.toNat - 87

/-- The numbers of a table text. -/
def tableNumbers (s : String) : List Nat :=
  (s.toList.foldr
    (fun c (acc : List Nat × Nat × Nat) =>
      let (done, value, weight) := acc
      if c = ' ' then (value :: done, 0, 1) else (done, value + digit36 c * weight, weight * 36))
    ([], 0, 1)) |> fun (done, value, _) => value :: done

/-- Alternating gaps and lengths as ranges of first and last member. -/
def rangesFrom (pos : Nat) : List Nat → List (Nat × Nat)
  | gap :: len :: rest => (pos + gap, pos + gap + len - 1) :: rangesFrom (pos + gap + len) rest
  | _ => []

def rangesOf (s : String) : List (Nat × Nat) := rangesFrom 128 (tableNumbers s)

def inRanges (rs : List (Nat × Nat)) (c : Char) : Bool :=
  rs.any fun r => r.1 ≤ c.toNat && c.toNat ≤ r.2

end Crosswalk.Text
