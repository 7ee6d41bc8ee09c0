import Crosswalk.Transformation.Check
import Crosswalk.Transformation.Numeric

/-!
The catalogue of transformations: each has a name, a category, a description and a function of the
clock, the value and the parameters.
-/

namespace Crosswalk

open Text

namespace Transformation

inductive Category where
  | string
  | numeric
  | date
  | lookup
  | validation
deriving DecidableEq

namespace Category

def name : Category → String
  | .string => "string"
  | .numeric => "numeric"
  | .date => "date"
  | .lookup => "lookup"
  | .validation => "validation"

def all : List Category := [.string, .numeric, .date, .lookup, .validation]

def ofName? (s : String) : Option Category := all.find? (·.name = s)

end Category

/-- A transformation without its name. -/
structure Entry where
  category : Category
  description : String
  apply : Clock → Value → Parameters → Except Fault Value

end Transformation

abbrev Catalogue := Table Transformation.Entry

namespace Transformation

/-- A function that does not depend on the clock. -/
def always (f : Value → Parameters → Except Fault Value) (_ : Clock) :
    Value → Parameters → Except Fault Value := f

/-- A function that gives null for a missing value. -/
def nullSafe (f : Value → Parameters → Except Fault Value) (v : Value) (p : Parameters) :
    Except Fault Value :=
  if v.isMissing then .ok .null else f v p

/-- A function without parameters. -/
def plain (f : Value → Except Fault Value) (v : Value) (_ : Parameters) : Except Fault Value := f v

/-- A function that always has a result. -/
def total (f : Value → Parameters → Value) (v : Value) (p : Parameters) : Except Fault Value :=
  .ok (f v p)

/-- A function of the characters of a value that is not missing. -/
def chars (f : List Char → List Char) : Value → Parameters → Except Fault Value :=
  nullSafe (plain (onChars f))

/-- A function of the number that a value stands for, without parameters. -/
def number (f : Number → Except Fault Value) : Value → Parameters → Except Fault Value :=
  onNumber fun n _ => f n

/-- Passes what is missing or not listed. -/
def unlisted (v : Value) (p : Parameters) : Except Fault Value :=
  if v.isMissing then .ok (.bool true) else return .bool (!(← isListed v p))

def entries (category : Category)
    (es : List (String × String × (Clock → Value → Parameters → Except Fault Value))) :
    Catalogue :=
  es.map fun (name, description, apply) => (name, { category, description, apply })

/-- Transformations of texts. -/
def texts : Catalogue := entries .string [
  ("format_ssn", "Format a 9-digit SSN as XXX-XX-XXXX",
    always (nullSafe (plain formatSsn))),
  ("remove_dashes", "Remove all dashes",
    always (chars fun cs => cs.filter (· != '-'))),
  ("trim_whitespace", "Remove leading and trailing whitespace",
    always (chars strip)),
  ("uppercase", "Convert text to uppercase",
    always (chars upper)),
  ("lowercase", "Convert text to lowercase",
    always (chars lower)),
  ("title_case", "Convert text to title case",
    always (chars titleCase)),
  ("concatenate", "Join a list of values with a separator",
    always concatenate),
  ("split", "Split text by a delimiter, optionally picking one part",
    always (nullSafe split)),
  ("substring", "Extract part of a string",
    always (nullSafe substring)),
  ("pad_left", "Pad on the left to a target length",
    always (nullSafe padLeft)),
  ("pad_right", "Pad on the right to a target length",
    always (nullSafe padRight)),
  ("replace", "Replace occurrences of a substring",
    always (nullSafe replaceText)),
  ("mask", "Mask all but the visible characters",
    always (nullSafe mask)),
  ("extract_digits", "Keep only digits",
    always (nullSafe (plain extractDigits))),
  ("extract_letters", "Keep only letters",
    always (nullSafe (plain extractLetters))),
  ("format_phone_number", "Format a US phone number",
    always (nullSafe (plain formatPhoneNumber))),
  ("format_ein", "Format a 9-digit EIN as XX-XXXXXXX",
    always (nullSafe (plain formatEin)))]

/-- Transformations of numbers. -/
def numbers : Catalogue := entries .numeric [
  ("convert_to_cents", "Convert dollars to integer cents",
    always (number toCents)),
  ("convert_to_dollars", "Convert cents to dollars",
    always (number overHundred)),
  ("round_to_cents", "Round to two decimal places",
    always (number roundToCents)),
  ("convert_to_decimal", "Convert a percentage to a decimal",
    always (number overHundred)),
  ("convert_from_decimal", "Convert a decimal to a percentage",
    always (number timesHundred)),
  ("convert_to_basis_points", "Convert a percentage to basis points",
    always (number toCents)),
  ("convert_from_basis_points", "Convert basis points to a percentage",
    always (number overHundred)),
  ("abs", "Absolute value",
    always (number fun n => return (← n.abs).value)),
  ("round", "Round to the given number of decimals",
    always (onNumber round)),
  ("floor", "Round down",
    always (number fun n => return .int (← n.floor))),
  ("ceil", "Round up",
    always (number fun n => return .int (← n.ceil))),
  ("multiply", "Multiply by a factor",
    always (onNumber multiply)),
  ("divide", "Divide by a divisor (null when dividing by zero)",
    always (onNumber divide)),
  ("add", "Add a constant",
    always (onNumber addConstant)),
  ("subtract", "Subtract a constant",
    always (onNumber subtractConstant)),
  ("clamp", "Constrain to a min/max range",
    always (onNumber clamp)),
  ("parse_number", "Parse a number, ignoring $ , and whitespace",
    always (nullSafe (plain parseNumber))),
  ("format_currency", "Format as currency with two decimal places",
    always (onNumber formatCurrency)),
  ("to_integer", "Truncate to an integer",
    always (number fun n => return .int (← n.trunc)))]

/-- Transformations of dates. -/
def dates : Catalogue := entries .date [
  ("format_date_iso", "Format as YYYY-MM-DD",
    onDate fun d => .text d.iso),
  ("format_date_us", "Format as MM/DD/YYYY",
    onDate usDate),
  ("format_date_custom", "Format with YYYY/YY/MM/M/DD/D/HH/mm/ss tokens",
    onMoment formatCustom),
  ("parse_date", "Parse to an ISO 8601 timestamp",
    onMoment fun t _ => .ok (.text t.stamp)),
  ("add_days", "Add days",
    onMoment addDays),
  ("subtract_days", "Subtract days",
    onMoment subtractDays),
  ("add_months", "Add months, clamping to month end",
    onMoment addMonths),
  ("add_years", "Add years",
    onMoment addYears),
  ("start_of_month", "First day of the month",
    onDate startOfMonth),
  ("end_of_month", "Last day of the month",
    onDate endOfMonth),
  ("start_of_year", "First day of the year",
    onDate startOfYear),
  ("end_of_year", "Last day of the year",
    onDate endOfYear),
  ("get_year", "Year component",
    onDate fun d => .int d.year),
  ("get_month", "Month component (1-12)",
    onDate fun d => .int d.month),
  ("get_day", "Day of month",
    onDate fun d => .int d.day),
  ("get_day_of_week", "Day of week (0 = Sunday)",
    onDate fun d => .int (dayOfWeek d)),
  ("get_quarter", "Calendar quarter",
    onDate fun d => .int (quarter d)),
  ("calculate_age", "Age in whole years as of a date (default today)",
    fun clock => onMoment (calculateAge clock) clock),
  ("is_catch_up_eligible", "Age at or above the catch-up threshold (default 50)",
    fun clock => onMoment (isCatchUpEligible clock) clock),
  ("date_diff", "Difference to another date in days/weeks/months/years",
    fun clock => onMoment (difference clock) clock),
  ("to_timestamp", "Milliseconds since the epoch",
    onMoment toTimestamp),
  ("from_timestamp", "ISO timestamp from milliseconds since the epoch",
    always (plain fromTimestamp))]

/-- Choices among given values. -/
def lookups : Catalogue := entries .lookup [
  ("lookup_value", "Look the value up in an inline table",
    always lookupValue),
  ("map_code", "Map an upper-cased code through a table",
    always mapCode),
  ("default_if_null", "Default when null",
    always (total defaultIfNull)),
  ("default_if_empty", "Default when null or blank",
    always (total defaultIfEmpty)),
  ("coalesce", "First non-null, non-blank value",
    always coalesce),
  ("if_then_else", "Choose between two values by comparison",
    always ifThenElse),
  ("switch_case", "Map the value through a case table",
    always switchCase),
  ("first_non_null", "First non-null value",
    always (plain fun v => .ok (firstNonNull v))),
  ("nvl", "Replacement when null",
    always (total nvl)),
  ("nvl2", "One value when present, another when null",
    always (total nvl2)),
  ("decode", "Map through search/result pairs",
    always decode),
  ("map_contribution_type", "Standard contribution type code",
    always (nullSafe (mapStandard contributionTypeCodes))),
  ("map_employee_status", "Standard employee status code",
    always (nullSafe (mapStandard employeeStatusCodes))),
  ("map_pay_frequency", "Standard pay frequency code",
    always (nullSafe (mapStandard payFrequencyCodes)))]

/-- Checks. -/
def checks (contacts : Contact.Directory) : Catalogue := entries .validation [
  ("validate_ssn", "Valid SSN structure",
    always (onPresent (onDigits isSsn))),
  ("validate_ein", "Valid EIN with an IRS prefix",
    always (onPresent (onDigits isEin))),
  ("validate_email", "Valid email address",
    always (onPresent (checkEmail contacts))),
  ("validate_phone", "Valid phone number",
    always (onPresent (checkPhone contacts))),
  ("validate_positive", "Greater than zero",
    always (onPresent checkPositive)),
  ("validate_non_negative", "Zero or more",
    always (onPresent checkNonNegative)),
  ("validate_range", "Within min/max",
    always (onPresent checkRange)),
  ("validate_not_empty", "Not blank",
    always (onPresent checkNotEmpty)),
  ("validate_length", "Length within bounds",
    always (onPresent checkLength)),
  ("validate_pattern", "Matches a regular expression",
    always (onPresent checkPattern)),
  ("validate_in", "One of the allowed values",
    always (onPresent isListed)),
  ("validate_not_in", "None of the listed values",
    always unlisted),
  ("validate_date", "Parseable date",
    fun clock => onPresent (checkDate clock)),
  ("validate_future_date", "Date in the future",
    fun clock => onPresent fun v _ => isOnSide .greater clock v),
  ("validate_past_date", "Date in the past",
    fun clock => onPresent fun v _ => isOnSide .less clock v),
  ("validate_zip_code", "US ZIP or ZIP+4",
    always (onPresent checkZipCode)),
  ("validate_routing_number", "ABA routing number checksum",
    always (onPresent (onDigits isRoutingNumber))),
  ("validate_account_number", "4 to 17 digit account number",
    always (onPresent (onDigits fun ds => 4 ≤ ds.length && ds.length ≤ 17)))]

/-- All transformations that come with the catalogue. -/
def builtIn (contacts : Contact.Directory) : Catalogue :=
  texts ++ numbers ++ dates ++ lookups ++ checks contacts

end Transformation

namespace Catalogue

open Transformation

/-- An unknown name of a transformation. -/
def unknown (name : String) : Fault := ⟨.transformation, "Unknown transformation: " ++ name⟩

/-- Applies the transformation of a name. Keys of parameters may be in camel case. -/
def transform (c : Catalogue) (clock : Clock) (name : String) (v : Value) (given : Table Value) :
    Except Fault Value :=
  match Table.get? c name with
  | none => .error (unknown name)
  | some e => e.apply clock v (Parameters.normalize given)

/-- Applies several transformations in order. -/
def chain (c : Catalogue) (clock : Clock) (v : Value) :
    List (String × Table Value) → Except Fault Value
  | [] => .ok v
  | (name, given) :: steps => do chain c clock (← c.transform clock name v given) steps

/-- The transformations of a category, or all. -/
def ofCategory (c : Catalogue) (category : Option Category) : Catalogue :=
  c.filter fun e => category.isNone || category = some e.2.category

end Catalogue

end Crosswalk
