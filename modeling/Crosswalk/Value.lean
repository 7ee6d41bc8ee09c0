import Crosswalk.Calendar.Moment
import Crosswalk.Number.Decimal
import Crosswalk.Table

/-!
Values of records: what a field of a source or destination record holds.
-/

namespace Crosswalk

inductive Value where
  | null
  | bool (b : Bool)
  | int (n : Int)
  | float (x : Binary64)
  | decimal (d : Decimal)
  | text (s : String)
  | list (vs : List Value)
  | tuple (vs : List Value)
  | object (fields : List (String × Value))
  | moment (t : Moment)
  | date (d : Date)
deriving Inhabited

/-- A record: field names with their values. -/
abbrev Record := Table Value

namespace Value

/-- The name of a value's type. -/
def typeName : Value → String
  | .null => "NoneType"
  | .bool _ => "bool"
  | .int _ => "int"
  | .float _ => "float"
  | .decimal _ => "Decimal"
  | .text _ => "str"
  | .list _ => "list"
  | .tuple _ => "tuple"
  | .object _ => "dict"
  | .moment _ => "datetime"
  | .date _ => "date"

/-- The name of a value's type with the place it comes from. -/
def fullTypeName : Value → String
  | .decimal _ => "decimal.Decimal"
  | .moment _ => "datetime.datetime"
  | .date _ => "datetime.date"
  | v => v.typeName

def isNull : Value → Bool
  | .null => true
  | _ => false

/-- The value behind an option, null for none. -/
def ofOption : Option Value → Value
  | some v => v
  | none => .null

/-- Whether a value counts as true: zero, null and what is empty do not. -/
def isTruthy : Value → Bool
  | .null => false
  | .bool b => b
  | .int n => n != 0
  | .float x => !x.isZero
  | .decimal (.finite _ c _) => c != 0
  | .decimal _ => true
  | .text s => !s.isEmpty
  | .list vs => !vs.isEmpty
  | .tuple vs => !vs.isEmpty
  | .object fs => !fs.isEmpty
  | .moment _ => true
  | .date _ => true

end Value

/-- The value of a field, null if the record has none. -/
def Record.value (r : Record) (name : String) : Value := Value.ofOption (Table.get? r name)

end Crosswalk
