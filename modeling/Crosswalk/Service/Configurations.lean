import Crosswalk.Service.Environment

/-!
Operations on mapping configurations. Every change is checked, kept and then written to the audit trail.
-/

namespace Crosswalk.Service

variable (e : Environment) (s : Store)

/-- Refuses mapping rules with errors. -/
def checkMappingRules (rules : Mapping.Rules) : Except Failure Unit := do
  let review ← Failure.ofFault (Mapping.review e.catalogue e.readers none rules)
  if review.isValid then return () else throw (invalidRules review.errors)

/-- The configuration that data asks for. -/
def newConfiguration (data : Value) (tenant user : Option String) :
    Except Failure Mapping.Configuration := do
  let draft ← readData Mapping.Draft.codec "mapping_rules" data
  checkMappingRules e draft.rules
  Failure.ofReading (draft.build e.fresh tenant user)

/-- Keeps a new configuration. -/
def createMapping (data : Value) (tenant user : Option String) : Work Answer := do
  let c ← newConfiguration e data tenant user
  Work.write fun s => s.insertConfiguration c
  record e tenant user .create configurationEntity c.id (.ok none) (some <$> configurationRow c)
  return .configuration c

/-- The changes that data asks for; what is no record asks for fields that it does not have. -/
def readChanges {α : Type} (c : Codec α) (data : Value) : Except Failure (Option α) :=
  match data with
  | .object fs => (Failure.ofReading (c.read (.object fs))).map some
  | _ => .ok none

/-- Refuses changes with errors in their mapping rules. -/
def checkChangedRules : Change Mapping.Rules → Except Failure Unit
  | .set rules => checkMappingRules e rules
  | _ => .ok ()

/-- A configuration and its next version with the changes that data asks for. -/
def changedConfiguration (id : String) (data : Value) (tenant user : Option String) :
    Except Failure (Mapping.Configuration × Mapping.Configuration) := do
  let changes ← readChanges Mapping.Changes.codec data
  let old ← findConfiguration s id tenant
  match changes with
  | none => throw (noFields data "mapping_rules")
  | some changes =>
    checkChangedRules e changes.rules
    return (old, ← Failure.ofReading (old.merge data changes e.fresh user))

/-- Makes the next version of a configuration. -/
def updateMapping (id : String) (data : Value) (tenant user : Option String) : Work Answer := do
  let (old, c) ← changedConfiguration e (← get) id data tenant user
  Work.write fun s => s.replaceConfiguration c
  record e tenant user .update configurationEntity id (some <$> configurationRow old)
    (some <$> configurationRow c)
  return .configuration c

/-- A configuration that is deleted at a moment. -/
def deletedConfiguration (old : Mapping.Configuration) (user : Option String) : Mapping.Configuration :=
  let now := e.fresh.now
  { old with isActive := false, deletedAt := some now, updatedAt := now, updatedBy := user }

/-- Deletes a configuration; it stays in the store. -/
def deleteMapping (id : String) (tenant user : Option String) : Work Answer := do
  let old ← findConfiguration (← get) id tenant
  let c := deletedConfiguration e old user
  Work.write fun s => s.replaceConfiguration c
  record e tenant user .delete configurationEntity id (some <$> configurationRow old) (.ok none)
  return .configuration c

/-- A configuration that is switched on or off. -/
def switchedConfiguration (active : Bool) (old : Mapping.Configuration) (user : Option String) :
    Mapping.Configuration :=
  { old with isActive := active, updatedAt := e.fresh.now, updatedBy := user }

def activation (active : Bool) : Table Value := [("is_active", .bool active)]

/-- Switches a configuration on or off. -/
def setActive (active : Bool) (id : String) (tenant user : Option String) : Work Answer := do
  let old ← findConfiguration (← get) id tenant
  let c := switchedConfiguration e active old user
  Work.write fun s => s.replaceConfiguration c
  record e tenant user (if active then .activate else .deactivate) configurationEntity id
    (.ok (some (activation old.isActive))) (.ok (some (activation active)))
  return .configuration c

def getMapping (id : String) (tenant : Option String) : Except Failure Answer :=
  return .configuration (← findConfiguration s id tenant)

def listMappings (tenant kind : Option String) (includeInactive : Bool) : Except Failure Answer :=
  return .configurations (← Failure.ofFault (s.configurationsOf tenant kind includeInactive))

/-- The summaries of the latest runs of a configuration. -/
def executionLogs (id : String) (tenant : Option String) (limit : Option Int) :
    Except Failure Answer := do
  let limit := limit.getD e.settings.logLimit
  if limit < 1 then throw (.fault ⟨.badValue, "limit must be at least 1"⟩)
  else
    let _ ← findConfiguration s id tenant
    let logs ← Failure.ofFault (s.logsOf id limit)
    return .summaries (logs.map Execution.Log.summary)

end Crosswalk.Service
