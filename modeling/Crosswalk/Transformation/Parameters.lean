import Crosswalk.Text.KeyStyle
import Crosswalk.Value.Convert

/-!
Parameters of transformations.

Keys may be written in camel case; `normalize` brings them to snake case, and of two keys that meet
the later one counts. A parameter that is given as null is given: a default stands in only for one
that is not there at all.
-/

namespace Crosswalk

/-- Parameters by their snake case keys. -/
abbrev Parameters := Table Value

namespace Parameters

def normalize (given : Table Value) : Parameters :=
  Table.ofEntries (given.map fun e => (Text.snakeCase e.1, e.2))

/-- The parameter at `key`, or the default if there is none. -/
def getD (p : Parameters) (key : String) (default : Value) : Value := (Table.get? p key).getD default

/-- The parameter at `key`, null if there is none. -/
def value (p : Parameters) (key : String) : Value := p.getD key .null

/-- The parameter at the first of two keys that is there, or the default. -/
def getEither (p : Parameters) (key other : String) (default : Value) : Value :=
  p.getD key (p.getD other default)

/-- The parameter at `key` as an integer. -/
def integer (p : Parameters) (key : String) (default : Int) : Except Fault Int :=
  (p.getD key (.int default)).toInteger

end Parameters

end Crosswalk
