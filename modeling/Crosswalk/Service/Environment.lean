import Crosswalk.Answer
import Crosswalk.Mapping.Batch
import Crosswalk.Mapping.Review
import Crosswalk.Settings
import Crosswalk.Store
import Crosswalk.Value.Number

/-!
What an operation depends on besides the store: settings, clock, fresh identities, and whether audit
events can be written. An event that cannot be written is dropped, and the operation goes on.

An operation works on the store step by step. What it has written stays, also where it fails later: an
event whose values go too deep for a row ends the operation after its entity has been kept.
-/

namespace Crosswalk.Service

/-- The circumstances of one operation. -/
structure Circumstances where
  settings : Settings
  catalogue : Catalogue
  recorder : Execution.Recorder
  /-- The part of a limit past which employees are warned. -/
  warningRatio : Number
  auditWorks : Bool
  id : String
  now : Moment
  /-- The year in which dates began to be read. -/
  readerYear : Nat
  /-- The seconds that a batch takes. -/
  elapsed : Binary64
  /-- The present when a batch has been checked. -/
  finishedAt : Moment
  /-- The present when a log or an event is made. -/
  recordedAt : Moment
  /-- The bytes that the process takes when a log is made. -/
  memory : Nat

/-- The circumstances with the way in which formulas and conditions are read. -/
structure Environment extends Circumstances where
  readers : Readers

abbrev Result := Except Failure (Answer × Store)

/-- A computation on the store, which may fail. -/
abbrev Work (α : Type) := ExceptT Failure (StateM Store) α

/-- Writes to the store, unless it refuses. -/
def Work.write (f : Store → Except Fault Store) : Work Unit := do
  set (← Failure.ofFault (f (← get)))

namespace Environment

def fresh (e : Environment) : Fresh := ⟨e.id, e.now.atUtc⟩

def clock (e : Environment) : Clock := ⟨e.now, e.readerYear⟩

def engine (e : Environment) : Mapping.Engine := ⟨e.catalogue, e.readers, e.clock⟩

/-- Writes an audit event if that works. -/
def audit (e : Environment) (s : Store) (event : Audit.Event) : Store :=
  if e.auditWorks then s.addEvent event else s

def event (e : Environment) (tenant user : Option String) (action : Audit.Action)
    (entityType entity : String) (before after : Option (Table Value)) : Audit.Event :=
  ⟨e.id, tenant, user, action, entityType, entity, before, after, e.recordedAt.atUtc⟩

end Environment

def configurationEntity : String := "mapping_configuration"

def ruleEntity : String := "validation_rule"

/-- The fields of an entity as they are kept in events. -/
def rowOf {α : Type} (c : Codec α) (x : α) : Except Failure (Table Value) :=
  match c.row x with
  | .ok v => .ok (v.fields?.getD [])
  | .error f => .error (.unrecorded f)

def configurationRow (c : Mapping.Configuration) : Except Failure (Table Value) :=
  rowOf (Mapping.Configuration.codec .unused) c

def ruleRow (r : Rule) : Except Failure (Table Value) := rowOf (Rule.codec .unused) r

/-- Makes an audit event, first its values before and after, and writes it. -/
def record (e : Environment) (tenant user : Option String) (action : Audit.Action)
    (entityType entity : String) (before after : Except Failure (Option (Table Value))) : Work Unit := do
  let event := e.event tenant user action entityType entity (← before) (← after)
  modify fun s => e.audit s event

/-- Data that is no record has none of the fields that are asked for. -/
def noFields (v : Value) (field : String) : Failure :=
  .fault ⟨.noAttribute, "'" ++ v.typeName ++ "' object has no attribute '" ++ field ++ "'"⟩

/-- Reads the data of an operation; `field` is the first that is asked for. -/
def readData {α : Type} (c : Codec α) (field : String) : Value → Except Failure α
  | .object fs => Failure.ofReading (c.read (.object fs))
  | v => .error (noFields v field)

def invalidRules (errors : List String) : Failure :=
  .fault ⟨.invalidMappingRules, "Invalid mapping rules: " ++ "; ".intercalate errors⟩

def configurationNotFound (id : String) : Failure :=
  .fault ⟨.mappingNotFound, "Mapping configuration " ++ id ++ " not found"⟩

/-- The live configuration of an identity. -/
def findConfiguration (s : Store) (id : String) (tenant : Option String) :
    Except Failure Mapping.Configuration :=
  match s.configuration? id tenant with
  | some c => .ok c
  | none => .error (configurationNotFound id)

end Crosswalk.Service
