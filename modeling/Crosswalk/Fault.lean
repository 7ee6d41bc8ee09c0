import Crosswalk.Number.Decimal

/-!
Why a computation on values has no result: a kind and a message for people.
-/

namespace Crosswalk

inductive FaultKind where
  | transformation
  | expression
  | conditionForm
  | mapping
  | repository
  | mappingConfiguration
  | mappingNotFound
  | mappingInactive
  | batchTooLarge
  | ruleNotFound
  | invalidMappingRules
  | wrongType
  | noAttribute
  | badValue
  | runtime
  | system
  | overflow
  | zeroDivision
  | invalidOperation
  | divisionByZero
  | decimalOverflow
deriving DecidableEq

namespace FaultKind

/-- The name under which a kind is reported. -/
def name : FaultKind → String
  | .transformation => "TransformationError"
  | .expression => "ExpressionError"
  | .conditionForm => "ConditionSyntaxError"
  | .mapping => "MappingError"
  | .repository => "RepositoryError"
  | .mappingConfiguration => "MappingConfigurationError"
  | .mappingNotFound => "MappingNotFoundError"
  | .mappingInactive => "MappingInactiveError"
  | .batchTooLarge => "BatchTooLargeError"
  | .ruleNotFound => "ValidationRuleNotFoundError"
  | .invalidMappingRules => "InvalidMappingRulesError"
  | .wrongType => "TypeError"
  | .noAttribute => "AttributeError"
  | .badValue => "ValueError"
  | .runtime => "RuntimeError"
  | .system => "OSError"
  | .overflow => "OverflowError"
  | .zeroDivision => "ZeroDivisionError"
  | .invalidOperation => "InvalidOperation"
  | .divisionByZero => "DivisionByZero"
  | .decimalOverflow => "Overflow"

/-- Whether a computation failed on the numbers it was given. -/
def isArithmetic : FaultKind → Bool
  | .overflow | .zeroDivision | .invalidOperation | .divisionByZero | .decimalOverflow => true
  | _ => false

/-- Whether a formula or a condition was refused or could not be evaluated. -/
def isExpression : FaultKind → Bool
  | .expression | .conditionForm => true
  | _ => false

/-- Whether a kind belongs to this library, so that its message is part of what callers see. -/
def isOwn : FaultKind → Bool
  | .transformation | .expression | .conditionForm | .mapping | .repository
  | .mappingConfiguration | .mappingNotFound | .mappingInactive | .batchTooLarge
  | .ruleNotFound | .invalidMappingRules => true
  | _ => false

end FaultKind

structure Fault where
  kind : FaultKind
  message : String
deriving DecidableEq

namespace Fault

def ofSignal : Decimal.Signal → Fault
  | .invalidOperation => ⟨.invalidOperation, "[<class 'decimal.InvalidOperation'>]"⟩
  | .divisionByZero => ⟨.divisionByZero, "[<class 'decimal.DivisionByZero'>]"⟩
  | .overflow => ⟨.decimalOverflow, "[<class 'decimal.Overflow'>]"⟩

/-- A failed decimal operation as a fault. -/
def ofDecimal {α : Type} : Except Decimal.Signal α → Except Fault α
  | .ok x => .ok x
  | .error s => .error (ofSignal s)

/-- An integer has more digits than its text may have. -/
def integerTooLong : Fault :=
  ⟨.badValue, "Exceeds the limit (4300 digits) for integer string conversion; " ++
    "use sys.set_int_max_str_digits() to increase the limit"⟩

/-- A text of an integer has more digits than are read. -/
def integerTextTooLong (digits : Nat) : Fault :=
  ⟨.badValue, s!"Exceeds the limit (4300 digits) for integer string conversion: value has {digits} " ++
    "digits; use sys.set_int_max_str_digits() to increase the limit"⟩

def integerTooLargeForFloat : Fault := ⟨.overflow, "int too large to convert to float"⟩

/-- A value goes too deep to be written in a row. -/
def tooDeep : Fault := ⟨.badValue, "Circular reference detected (depth exceeded)"⟩

def integerTooLarge : Fault := ⟨.overflow, "Python int too large to convert to C ssize_t"⟩

/-- Something is to be repeated more often than there are places. -/
def tooManyTimes : Fault := ⟨.overflow, "cannot fit 'int' into an index-sized integer"⟩

end Fault

end Crosswalk
