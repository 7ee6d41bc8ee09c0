import Crosswalk.Mapping.Rules

/-!
Mapping configurations: rules with the tenant that owns them, their versions and their life.

A draft makes a configuration, and changes make its next version. Fields that a change clears are refused
unless they may be null.
-/

namespace Crosswalk

/-- What a new entity takes from the moment of its making. -/
structure Fresh where
  id : String
  /-- The current moment, of UTC. -/
  now : Moment

/-- What kind of record a configuration maps. -/
inductive RecordKind where
  | contribution
  | employee
  | election
  | loan
deriving DecidableEq

namespace RecordKind

def name : RecordKind → String
  | .contribution => "CONTRIBUTION"
  | .employee => "EMPLOYEE"
  | .election => "ELECTION"
  | .loan => "LOAN"

def all : List RecordKind := [.contribution, .employee, .election, .loan]

def codec : Codec RecordKind := .choice all name

end RecordKind

namespace Mapping

structure Configuration where
  id : String
  tenant : String
  name : String
  description : Option String
  sourceSystem : String
  destinationSystem : String
  kind : RecordKind
  rules : Rules
  template : Option String
  isActive : Bool
  version : Int
  createdBy : Option String
  updatedBy : Option String
  createdAt : Moment
  updatedAt : Moment
  deletedAt : Option Moment

structure Draft where
  name : String
  description : Option String
  sourceSystem : String
  destinationSystem : String
  kind : RecordKind
  rules : Rules
  template : Option String
  isActive : Bool

structure Changes where
  name : Change String
  description : Change String
  sourceSystem : Change String
  destinationSystem : Change String
  rules : Change Rules
  isActive : Change Bool

/-- The name of a configuration has 1 to 200 characters. -/
def titleCodec : Codec String := .boundedText 1 (some 200)

def Configuration.codec (fresh : Fresh) : Codec Configuration :=
  Schema.codec
    (.field (.defaulted "id" .text fresh.id) <|
      .field (.required "tenant_id" .text) <|
      .field (.required "name" titleCodec) <|
      .field (.optional "description" .text) <|
      .field (.required "source_system" .text) <|
      .field (.required "destination_system" .text) <|
      .field (.required "mapping_type" RecordKind.codec) <|
      .field (.defaulted "mapping_rules" Rules.codec .empty) <|
      .field (.optional "template_id" .text) <|
      .field (.defaulted "is_active" .bool true) <|
      .field (.defaulted "version" (.integerFrom 1) 1) <|
      .field (.optional "created_by" .text) <|
      .field (.optional "updated_by" .text) <|
      .field (.defaulted "created_at" .moment fresh.now) <|
      .field (.defaulted "updated_at" .moment fresh.now) <|
      .field (.optional "deleted_at" .moment) .done)
    (fun (i, t, n, d, s, e, k, r, p, a, v, c, u, ca, ua, da, ()) =>
      ⟨i, t, n, d, s, e, k, r, p, a, v, c, u, ca, ua, da⟩)
    (fun c => (c.id, c.tenant, c.name, c.description, c.sourceSystem, c.destinationSystem, c.kind,
      c.rules, c.template, c.isActive, c.version, c.createdBy, c.updatedBy, c.createdAt, c.updatedAt,
      c.deletedAt, ()))

def Draft.codec : Codec Draft :=
  Schema.codec
    (.field (.required "name" titleCodec) <|
      .field (.optional "description" .text) <|
      .field (.required "source_system" .text) <|
      .field (.required "destination_system" .text) <|
      .field (.required "mapping_type" RecordKind.codec) <|
      .field (.defaulted "mapping_rules" Rules.codec .empty) <|
      .field (.optional "template_id" .text) <|
      .field (.defaulted "is_active" .bool true) .done)
    (fun (n, d, s, e, k, r, p, a, ()) => ⟨n, d, s, e, k, r, p, a⟩)
    (fun c => (c.name, c.description, c.sourceSystem, c.destinationSystem, c.kind, c.rules, c.template,
      c.isActive, ()))

def Changes.codec : Codec Changes :=
  Schema.codec
    (.field (.changing "name" titleCodec) <|
      .field (.changing "description" .text) <|
      .field (.changing "source_system" .text) <|
      .field (.changing "destination_system" .text) <|
      .field (.changing "mapping_rules" Rules.codec) <|
      .field (.changing "is_active" .bool) .done)
    (fun (n, d, s, e, r, a, ()) => ⟨n, d, s, e, r, a⟩)
    (fun c => (c.name, c.description, c.sourceSystem, c.destinationSystem, c.rules, c.isActive, ()))

/-- The first version of a configuration. A configuration has a tenant. -/
def Draft.build (d : Draft) (fresh : Fresh) (tenant user : Option String) : Reading Configuration :=
  match tenant with
  | none => (Reading.refuse .textType).under "tenant_id"
  | some tenant =>
    .ok {
      id := fresh.id, tenant, name := d.name, description := d.description,
      sourceSystem := d.sourceSystem, destinationSystem := d.destinationSystem, kind := d.kind,
      rules := d.rules, template := d.template, isActive := d.isActive, version := 1,
      createdBy := user, updatedBy := user, createdAt := fresh.now, updatedAt := fresh.now,
      deletedAt := none }

end Mapping

namespace Change

variable {α : Type}

/-- The changed value of a field that may be null. -/
def onOptional (old : Option α) : Change α → Option α
  | .keep => old
  | .clear => none
  | .set x => some x

/-- The changed value of a field that must have one. -/
def onRequired (key : String) (k : IssueKind) (old : α) : Change α → Reading α
  | .keep => .ok old
  | .clear => (Reading.refuse k).under key
  | .set x => .ok x

end Change

namespace Mapping

/-- The next version of a configuration, read again with the changes that were read from `data`. -/
def Configuration.merge (c : Configuration) (data : Value) (changes : Changes) (fresh : Fresh)
    (user : Option String) : Reading Configuration :=
  (codec fresh).merge Changes.codec c data changes
    [("version", .int (c.version + 1)), ("updated_by", Codec.text.nullable.dump .plain user),
      ("updated_at", .moment fresh.now)]

/-- The next version of a configuration, field by field. -/
def Configuration.update (c : Configuration) (changes : Changes) (now : Moment)
    (user : Option String) : Reading Configuration :=
  let name := changes.name.onRequired "name" .textType c.name
  let source := changes.sourceSystem.onRequired "source_system" .textType c.sourceSystem
  let destination :=
    changes.destinationSystem.onRequired "destination_system" .textType c.destinationSystem
  let rules := changes.rules.onRequired "mapping_rules" .recordType c.rules
  let isActive := changes.isActive.onRequired "is_active" .boolType c.isActive
  let systems := Reading.both Prod.mk source destination
  let content := Reading.both Prod.mk rules isActive
  Reading.both
    (fun name ((sourceSystem, destinationSystem), (rules, isActive)) =>
      { c with
        name, description := changes.description.onOptional c.description, sourceSystem,
        destinationSystem, rules, isActive, version := c.version + 1, updatedBy := user,
        updatedAt := now })
    name (Reading.both Prod.mk systems content)

end Mapping

end Crosswalk
