import Crosswalk.Mapping.Configuration

/-!
Validation rules: what a field of a destination record must be.

A rule belongs to a tenant or to all, and applies to some kinds of records or to all. It names the field it
checks itself or in its logic.
-/

namespace Crosswalk

inductive Severity where
  | error
  | warning
deriving DecidableEq

namespace Severity

def name : Severity → String
  | .error => "ERROR"
  | .warning => "WARNING"

def codec : Codec Severity := .choice [.error, .warning] name

end Severity

namespace Rule

inductive Operator where
  | equals
  | notEquals
  | greaterThan
  | lessThan
  | between
  | isIn
  | notIn
  | matchesPattern
  | notEmpty
deriving DecidableEq

namespace Operator

def name : Operator → String
  | .equals => "equals"
  | .notEquals => "not_equals"
  | .greaterThan => "greater_than"
  | .lessThan => "less_than"
  | .between => "between"
  | .isIn => "in"
  | .notIn => "not_in"
  | .matchesPattern => "matches"
  | .notEmpty => "not_empty"

def codec : Codec Operator :=
  .choice [.equals, .notEquals, .greaterThan, .lessThan, .between, .isIn, .notIn, .matchesPattern,
    .notEmpty] name

end Operator

/-- What a rule is for; it is also the code of its findings. -/
inductive Category where
  | irsLimit
  | format
  | businessLogic
  | requiredField
  | range
  | pattern
deriving DecidableEq

namespace Category

def name : Category → String
  | .irsLimit => "IRS_LIMIT"
  | .format => "FORMAT"
  | .businessLogic => "BUSINESS_LOGIC"
  | .requiredField => "REQUIRED_FIELD"
  | .range => "RANGE"
  | .pattern => "PATTERN"

def codec : Codec Category :=
  .choice [.irsLimit, .format, .businessLogic, .requiredField, .range, .pattern] name

end Category

structure Logic where
  operator : Operator
  field : Option String
  value : Value
  low : Option Binary64
  high : Option Binary64
  pattern : Option String
  values : Option (List Value)

def Logic.codec : Codec Logic :=
  Schema.codec
    (.field (.required "operator" Operator.codec) <|
      .field (.optional "field" .text) <|
      .field (Mapping.anyOrNull "value") <|
      .field (.optional "min" .float) <|
      .field (.optional "max" .float) <|
      .field (.optional "pattern" .text) <|
      .field (.optional "values" (.list .any)) .done)
    (fun (o, f, v, l, h, p, vs, ()) => ⟨o, f, v, l, h, p, vs⟩)
    (fun l => (l.operator, l.field, l.value, l.low, l.high, l.pattern, l.values, ()))

end Rule

structure Rule where
  id : String
  /-- The owner; a rule without one is global. -/
  tenant : Option String
  name : String
  description : Option String
  category : Rule.Category
  appliesTo : List String
  field : Option String
  logic : Rule.Logic
  message : String
  severity : Severity
  isActive : Bool
  createdAt : Moment
  updatedAt : Moment

namespace Rule

structure Draft where
  name : String
  description : Option String
  category : Category
  appliesTo : List String
  field : Option String
  logic : Logic
  message : String
  severity : Severity
  isActive : Bool

structure Changes where
  name : Change String
  description : Change String
  appliesTo : Change (List String)
  field : Change String
  logic : Change Logic
  message : Change String
  severity : Change Severity
  isActive : Change Bool

/-- The word for all kinds of records. -/
def everyKind : String := "ALL"

/-- A text that is not empty. -/
def named? : Option String → Option String
  | some "" => none
  | s => s

/-- The field that is checked: the rule's own, or the one of its logic. -/
def target? (field : Option String) (l : Logic) : Option String := (named? field).or (named? l.field)

def target (r : Rule) : String := (target? r.field r.logic).getD ""

def hasTarget (r : Rule) : Bool := (target? r.field r.logic).isSome

def isGlobal (r : Rule) : Bool := r.tenant.isNone

def appliesToKind (r : Rule) (kind : String) : Bool := r.appliesTo.any fun k => k = everyKind || k = kind

/-- One kind alone may stand for a list. -/
def listOfOne : Value → Value
  | .text s => .list [.text s]
  | v => v

/-- One kind alone or null may stand for a list. -/
def listOfOneOrAll : Value → Value
  | .null => .list [.text everyKind]
  | v => listOfOne v

def kindsCodec : Codec (List String) := .list .text

def kindsField (prepare : Value → Value) : Field (List String) :=
  .defaulted "applies_to" (.prepared prepare kindsCodec) [everyKind]

def codec (fresh : Fresh) : Codec Rule :=
  .checked hasTarget <| Schema.codec
    (.field (.defaulted "id" .text fresh.id) <|
      .field (.optional "tenant_id" .text) <|
      .field (.required "name" .name) <|
      .field (.optional "description" .text) <|
      .field (.required "rule_type" Category.codec) <|
      .field (kindsField listOfOneOrAll) <|
      .field (.optional "field" .text) <|
      .field (.required "rule_logic" Logic.codec) <|
      .field (.required "error_message" .text) <|
      .field (.defaulted "severity" Severity.codec .error) <|
      .field (.defaulted "is_active" .bool true) <|
      .field (.defaulted "created_at" .moment fresh.now) <|
      .field (.defaulted "updated_at" .moment fresh.now) .done)
    (fun (i, t, n, d, k, a, f, l, m, s, act, ca, ua, ()) => ⟨i, t, n, d, k, a, f, l, m, s, act, ca, ua⟩)
    (fun r => (r.id, r.tenant, r.name, r.description, r.category, r.appliesTo, r.field, r.logic,
      r.message, r.severity, r.isActive, r.createdAt, r.updatedAt, ()))

def Draft.codec : Codec Draft :=
  Schema.codec
    (.field (.required "name" .name) <|
      .field (.optional "description" .text) <|
      .field (.required "rule_type" Category.codec) <|
      .field (kindsField listOfOne) <|
      .field (.optional "field" .text) <|
      .field (.required "rule_logic" Logic.codec) <|
      .field (.required "error_message" .text) <|
      .field (.defaulted "severity" Severity.codec .error) <|
      .field (.defaulted "is_active" .bool true) .done)
    (fun (n, d, k, a, f, l, m, s, act, ()) => ⟨n, d, k, a, f, l, m, s, act⟩)
    (fun r => (r.name, r.description, r.category, r.appliesTo, r.field, r.logic, r.message, r.severity,
      r.isActive, ()))

def Changes.codec : Codec Changes :=
  Schema.codec
    (.field (.changing "name" .text) <|
      .field (.changing "description" .text) <|
      .field (.changing "applies_to" kindsCodec) <|
      .field (.changing "field" .text) <|
      .field (.changing "rule_logic" Logic.codec) <|
      .field (.changing "error_message" .text) <|
      .field (.changing "severity" Severity.codec) <|
      .field (.changing "is_active" .bool) .done)
    (fun (n, d, a, f, l, m, s, act, ()) => ⟨n, d, a, f, l, m, s, act⟩)
    (fun c => (c.name, c.description, c.appliesTo, c.field, c.logic, c.message, c.severity, c.isActive,
      ()))

/-- Refuses a rule that names no field. -/
def withTarget (r : Rule) : Reading Rule :=
  if r.hasTarget then .ok r else Reading.refuse .rejected

/-- The rule of a draft, global without a tenant. -/
def Draft.build (d : Draft) (fresh : Fresh) (tenant : Option String) : Reading Rule :=
  withTarget {
    id := fresh.id, tenant, name := d.name, description := d.description, category := d.category,
    appliesTo := d.appliesTo, field := d.field, logic := d.logic, message := d.message,
    severity := d.severity, isActive := d.isActive, createdAt := fresh.now, updatedAt := fresh.now }

/-- The changed name of a rule, which must not be empty. -/
def changedName (old : String) : Change String → Reading String
  | .keep => .ok old
  | .clear => (Reading.refuse .textType).under "name"
  | .set s => (Codec.name.read (.text s)).under "name"

/-- A rule read again with the changes that were read from `data`. -/
def merge (r : Rule) (data : Value) (changes : Changes) (fresh : Fresh) : Reading Rule :=
  (codec fresh).merge Changes.codec r data changes [("updated_at", .moment fresh.now)]

/-- A rule with changes, field by field. Clearing the kinds makes it apply to all. -/
def update (r : Rule) (changes : Changes) (now : Moment) : Reading Rule :=
  let name := changedName r.name changes.name
  let logic := changes.logic.onRequired "rule_logic" .recordType r.logic
  let message := changes.message.onRequired "error_message" .textType r.message
  let severity := changes.severity.onRequired "severity" .choice r.severity
  let isActive := changes.isActive.onRequired "is_active" .boolType r.isActive
  let content := Reading.both Prod.mk logic message
  let state := Reading.both Prod.mk severity isActive
  let changed := Reading.both
    (fun name ((logic, message), (severity, isActive)) =>
      { r with
        name, description := changes.description.onOptional r.description,
        appliesTo := (changes.appliesTo.onOptional (some r.appliesTo)).getD [everyKind],
        field := changes.field.onOptional r.field, logic, message, severity, isActive,
        updatedAt := now })
    name (Reading.both Prod.mk content state)
  match changed with
  | .ok r => withTarget r
  | .error is => .error is

end Rule

end Crosswalk
