import Crosswalk.Pattern.Tree
import Crosswalk.Text.Blank
import Crosswalk.Text.Digit
import Crosswalk.Text.LetterCase
import Crosswalk.Text.Word

/-!
Which characters a node of one character matches.

Where case is ignored, two letters are the same if their small letters are, or if these share one capital
letter (`kin`).
-/

namespace Crosswalk.Pattern

open Text

/-- Small letters that share their capital letter. -/
def kinTable : List (List Nat) :=
  [[105, 305], [115, 383], [181, 956], [837, 953, 8126], [912, 8147], [944, 8163], [946, 976],
    [949, 1013], [952, 977], [954, 1008], [960, 982], [961, 1009], [962, 963], [966, 981],
    [1074, 7296], [1076, 7297], [1086, 7298], [1089, 7299], [1090, 7300, 7301], [1098, 7302],
    [1123, 7303], [7304, 42571], [7777, 7835], [64261, 64262]]

/-- A small letter and those that share its capital letter. -/
def kin (c : Nat) : List Nat := (kinTable.find? (·.contains c)).getD [c]

/-- The small letter of a character. -/
def small (ascii : Bool) (c : Nat) : Nat :=
  if c < 128 then (if 65 ≤ c ∧ c ≤ 90 then c + 32 else c)
  else if ascii then c
  else if c = 0x130 then 0x69
  else ((lowerRuns.findSome? fun r => r.apply? c).getD c)

/-- The characters whose small letter is `c`. -/
def preimages (ascii : Bool) (c : Nat) : List Nat :=
  (if small ascii c = c then [c] else []) ++
    (if 97 ≤ c ∧ c ≤ 122 then [c - 32] else []) ++
    (if ascii then []
     else
      (if c = 0x69 then [0x130] else []) ++
      lowerRuns.filterMap fun r =>
        if r.target ≤ c ∧ c - r.target ≤ r.last - r.first ∧ (c - r.target) % r.step = 0 then
          some (c - r.target + r.first)
        else none)

/-- The characters that are the same letter as `c` but for its case. -/
def sameLetters (ascii : Bool) (c : Nat) : List Nat :=
  let s := small ascii c
  (if ascii then [s] else kin s).flatMap (preimages ascii)

def isAsciiWord (c : Char) : Bool := c.isAlphanum || c = '_'

def CharKind.holds (k : CharKind) (ascii : Bool) (c : Char) : Bool :=
  match k with
  | .digit => if ascii then c.isDigit else isDigit c
  | .space => if ascii then c = ' ' || (9 ≤ c.toNat && c.toNat ≤ 13) else isBlank c
  | .word => if ascii then isAsciiWord c else isWord c

/-- Whether a member of a set holds `c`. -/
def SetItem.holds (o : Options) (c : Char) : SetItem → Bool
  | .kind k negated => k.holds o.ascii c != negated
  | .char x => if o.ignoreCase then (sameLetters o.ascii c.toNat).contains x else c.toNat = x
  | .range low high =>
    if o.ignoreCase then (sameLetters o.ascii c.toNat).any fun x => low ≤ x && x ≤ high
    else low ≤ c.toNat && c.toNat ≤ high

/-- Whether a node of one character matches `c`; none for the other nodes. -/
def Node.holds? (o : Options) (c : Char) : Node → Option Bool
  | .char x => some ((SetItem.char x).holds o c)
  | .any => some (o.dotAll || c != '\n')
  | .set negated items => some (items.any (·.holds o c) != negated)
  | _ => none

end Crosswalk.Pattern
