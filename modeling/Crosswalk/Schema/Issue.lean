/-!
Why a value is refused by a schema: a kind, and the place inside the value.

A value with several faults is refused with all of them, in the order of the fields.
-/

namespace Crosswalk

inductive IssueKind where
  | missing
  | textType
  | textTooShort
  | textTooLong
  | boolType
  | boolReading
  | integerType
  | integerReading
  | integerTooLong
  | integerFraction
  | notFinite
  | belowMinimum
  | floatType
  | floatReading
  | choice
  | listType
  | tableType
  | recordType
  | momentType
  | momentReading
  | momentOfDate
  | rejected
deriving DecidableEq

/-- The name under which a kind is reported. -/
def IssueKind.name : IssueKind → String
  | .missing => "missing"
  | .textType => "string_type"
  | .textTooShort => "string_too_short"
  | .textTooLong => "string_too_long"
  | .boolType => "bool_type"
  | .boolReading => "bool_parsing"
  | .integerType => "int_type"
  | .integerReading => "int_parsing"
  | .integerTooLong => "int_parsing_size"
  | .integerFraction => "int_from_float"
  | .notFinite => "finite_number"
  | .belowMinimum => "greater_than_equal"
  | .floatType => "float_type"
  | .floatReading => "float_parsing"
  | .choice => "enum"
  | .listType => "list_type"
  | .tableType => "dict_type"
  | .recordType => "model_type"
  | .momentType => "datetime_type"
  | .momentReading => "datetime_parsing"
  | .momentOfDate => "datetime_from_date_parsing"
  | .rejected => "value_error"

structure Issue where
  kind : IssueKind
  /-- Keys and positions from the outside in. -/
  place : List String
deriving DecidableEq

/-- A value that has been read, or all issues with it. -/
abbrev Reading (α : Type) := Except (List Issue) α

namespace Reading

variable {α β γ : Type}

/-- An issue with the value as a whole. -/
def refuse (k : IssueKind) : Reading α := .error [⟨k, []⟩]

/-- The reading of what stands at a key. -/
def under (key : String) : Reading α → Reading α
  | .ok x => .ok x
  | .error issues => .error (issues.map fun i => { i with place := key :: i.place })

/-- Two readings together, with the issues of both. -/
def both (f : α → β → γ) : Reading α → Reading β → Reading γ
  | .ok x, .ok y => .ok (f x y)
  | .ok _, .error js => .error js
  | .error is, .ok _ => .error is
  | .error is, .error js => .error (is ++ js)

end Reading

end Crosswalk
