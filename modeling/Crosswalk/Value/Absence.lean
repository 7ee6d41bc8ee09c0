import Crosswalk.Value
import Crosswalk.Text.Blank

/-!
Degrees of absence: a missing value, an empty one, and one that is missing or blank.
-/

namespace Crosswalk.Value

open Text

/-- Null or not a number. -/
def isMissing : Value → Bool
  | .null => true
  | .float x => x.isNaN
  | .decimal d => d.isNaN
  | _ => false

/-- Missing, an empty text, or a collection without items. -/
def isEmpty : Value → Bool
  | .text s => s = ""
  | .list vs => vs.isEmpty
  | .tuple vs => vs.isEmpty
  | .object fs => fs.isEmpty
  | v => v.isMissing

/-- A text of blanks only, or an empty one. -/
def isBlankText : Value → Bool
  | .text s => (strip s.toList).isEmpty
  | _ => false

/-- Missing or a blank text. -/
def isBlank (v : Value) : Bool := v.isMissing || v.isBlankText

end Crosswalk.Value
