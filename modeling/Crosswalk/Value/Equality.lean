import Crosswalk.Value

/-!
When two values are equal.

Numbers are equal by what they denote, whatever their type, and truth values count as 0 and 1. A moment
with a zone equals another by the instant, and never one without. Lists are equal item by item, and
objects key by key. `strictEquals` keeps truth values apart from numbers at the outermost level.
-/

namespace Crosswalk.Value

/-- The exact number that a value denotes. -/
def denoted? : Value → Option Decimal
  | .bool b => some (.ofInt (if b then 1 else 0))
  | .int n => some (.ofInt n)
  | .float x => some (.ofBinary64 x)
  | .decimal d => some d
  | _ => none

def sameMoment (s t : Moment) : Bool :=
  match s.offset, t.offset with
  | none, none => s = t
  | some _, some _ => s.utcTicks = t.utcTicks
  | _, _ => false

mutual

def equals : Value → Value → Bool
  | .null, .null => true
  | .text s, .text t => s = t
  | .list vs, .list ws => equalsAll vs ws
  | .tuple vs, .tuple ws => equalsAll vs ws
  | .object fs, .object gs => fs.length = gs.length && equalsFields fs gs
  | .moment s, .moment t => sameMoment s t
  | .date d, .date e => d = e
  | v, w =>
    match v.denoted?, w.denoted? with
    | some x, some y => Decimal.compare? x y = some .eq
    | _, _ => false

def equalsAll : List Value → List Value → Bool
  | [], [] => true
  | v :: vs, w :: ws => equals v w && equalsAll vs ws
  | _, _ => false

/-- Whether every field has an equal one among `gs`. -/
def equalsFields : List (String × Value) → List (String × Value) → Bool
  | [], _ => true
  | (k, v) :: fs, gs =>
    (match List.lookup k gs with
     | some w => equals v w
     | none => false) && equalsFields fs gs

end

/-- Equality that takes a truth value for no number and a text for nothing but a text. -/
def strictEquals : Value → Value → Bool
  | .bool a, .bool b => a = b
  | .bool _, _ => false
  | _, .bool _ => false
  | v, w => equals v w

def containsStrict (vs : List Value) (v : Value) : Bool := vs.any (strictEquals · v)

end Crosswalk.Value
