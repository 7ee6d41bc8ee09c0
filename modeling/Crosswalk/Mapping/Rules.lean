import Crosswalk.Schema.Leaf
import Crosswalk.Schema.Record
import Crosswalk.Value.Amount

/-!
Mapping rules: how a source record becomes a destination record, in five lists.

Fields are carried over, literals are assigned under conditions, amounts are calculated, values are
translated by tables, and what is still absent gets a default.
-/

namespace Crosswalk

namespace Mapping

/-- A source field carried over to a destination field. -/
structure Transfer where
  source : String
  destination : String
  transformation : Option String
  parameters : Table Value
  required : Bool

/-- A literal written to a destination field. -/
structure Assignment where
  destination : String
  value : Value

/-- Assignments that are made where a condition over the source record holds. -/
structure Conditional where
  condition : String
  assignments : List Assignment

/-- A destination field calculated by a formula. -/
structure Calculation where
  destination : String
  formula : String
  rounding : Rounding

/-- A source field translated by a table of its own, or by one that is only named. -/
structure Translation where
  source : String
  destination : String
  entries : Option (Table Value)
  tableName : Option String
  default : Value

/-- When a default is written. -/
inductive DefaultPolicy where
  | always
  | ifNull
  | ifEmpty
deriving DecidableEq

def DefaultPolicy.name : DefaultPolicy → String
  | .always => "always"
  | .ifNull => "if_null"
  | .ifEmpty => "if_empty"

structure Default where
  destination : String
  value : Value
  policy : DefaultPolicy

structure Rules where
  transfers : List Transfer
  conditionals : List Conditional
  calculations : List Calculation
  translations : List Translation
  defaults : List Default

def Rules.empty : Rules := ⟨[], [], [], [], []⟩

/-- A free value, null where it is not given. -/
def anyOrNull (name : String) : Field Value := .defaulted name .any .null

def Transfer.codec : Codec Transfer :=
  Schema.codec
    (.field (.required "source_field" .name) <|
      .field (.required "destination_field" .name) <|
      .field (.optional "transformation" .text) <|
      .field (.defaulted "transformation_params" (.table .any) []) <|
      .field (.defaulted "required" .bool false) .done)
    (fun (s, d, t, p, r, ()) => ⟨s, d, t, p, r⟩)
    (fun m => (m.source, m.destination, m.transformation, m.parameters, m.required, ()))

def Assignment.codec : Codec Assignment :=
  Schema.codec
    (.field (.required "destination_field" .name) <| .field (anyOrNull "value") .done)
    (fun (d, v, ()) => ⟨d, v⟩)
    (fun a => (a.destination, a.value, ()))

def Conditional.codec : Codec Conditional :=
  Schema.codec
    (.field (.required "condition" .text) <|
      .field (.defaulted "mappings" (.list Assignment.codec) []) .done)
    (fun (c, as, ()) => ⟨c, as⟩)
    (fun c => (c.condition, c.assignments, ()))

def roundingCodec : Codec Rounding := .choice Rounding.all Rounding.name

def Calculation.codec : Codec Calculation :=
  Schema.codec
    (.field (.required "destination_field" .name) <|
      .field (.required "formula" .text) <|
      .field (.defaulted "rounding" roundingCodec .none) .done)
    (fun (d, f, r, ()) => ⟨d, f, r⟩)
    (fun c => (c.destination, c.formula, c.rounding, ()))

/-- Moves a text at the key of the table to the key of the table's name. -/
def moveTableName (key : String) (r : Table Value) : Option (Table Value) :=
  match Table.get? r key with
  | some (.text s) => some ((Table.erase r key).put "lookup_table_ref" (.text s))
  | _ => none

/-- A translation may give the name of its table in the place of the table. -/
def splitTableName : Value → Value
  | .object r =>
    match (moveTableName "lookup_table" r).or (moveTableName "lookupTable" r) with
    | some r => .object r
    | none => .object r
  | v => v

def Translation.codec : Codec Translation :=
  .prepared splitTableName <| Schema.codec
    (.field (.required "source_field" .name) <|
      .field (.required "destination_field" .name) <|
      .field (.optional "lookup_table" (.table .any)) <|
      .field (.optional "lookup_table_ref" .text) <|
      .field (anyOrNull "default_value") .done)
    (fun (s, d, t, n, v, ()) => ⟨s, d, t, n, v⟩)
    (fun l => (l.source, l.destination, l.entries, l.tableName, l.default, ()))

def DefaultPolicy.codec : Codec DefaultPolicy := .choice [.always, .ifNull, .ifEmpty] name

def Default.codec : Codec Default :=
  Schema.codec
    (.field (.required "destination_field" .name) <|
      .field (anyOrNull "value") <|
      .field (.defaulted "apply_when" DefaultPolicy.codec .ifNull) .done)
    (fun (d, v, p, ()) => ⟨d, v, p⟩)
    (fun d => (d.destination, d.value, d.policy, ()))

def Rules.codec : Codec Rules :=
  Schema.codec
    (.field (.defaulted "field_mappings" (.list Transfer.codec) []) <|
      .field (.defaulted "conditional_mappings" (.list Conditional.codec) []) <|
      .field (.defaulted "calculated_fields" (.list Calculation.codec) []) <|
      .field (.defaulted "lookup_mappings" (.list Translation.codec) []) <|
      .field (.defaulted "default_values" (.list Default.codec) []) .done)
    (fun (t, c, k, l, d, ()) => ⟨t, c, k, l, d⟩)
    (fun r => (r.transfers, r.conditionals, r.calculations, r.translations, r.defaults, ()))

end Mapping

end Crosswalk
