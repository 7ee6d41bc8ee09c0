import Crosswalk.Audit
import Crosswalk.Execution.Log
import Crosswalk.Rule.Validation

/-!
What is kept: configurations and rules by identity, in the order of their making, and the logs and audit
events in the order of writing. Deleted configurations stay and are no longer found.
-/

namespace Crosswalk

structure Store where
  configurations : Table Mapping.Configuration
  rules : Table Rule
  logs : List Execution.Log
  events : List Audit.Event

namespace Store

def empty : Store := ⟨[], [], [], []⟩

/-- Whether a configuration is live and owned by a tenant. -/
def isLiveOf (tenant : Option String) (c : Mapping.Configuration) : Bool :=
  some c.tenant = tenant && c.deletedAt.isNone

def configuration? (s : Store) (id : String) (tenant : Option String) : Option Mapping.Configuration :=
  (Table.get? s.configurations id).filter (isLiveOf tenant)

/-- Moments with a zone and moments without one have no order. -/
def haveOrder (ts : List Moment) : Bool :=
  ts.all (fun t => t.offset.isSome) || ts.all (fun t => t.offset.isNone)

/-- The items from the latest moment to the earliest; items of one moment keep their order. -/
def latestFirst {α : Type} (moment : α → Moment) (xs : List α) : Except Fault (List α) :=
  if haveOrder (xs.map moment) then
    .ok (xs.mergeSort fun x y => decide ((moment y).utcTicks ≤ (moment x).utcTicks))
  else .error ⟨.wrongType, "can't compare offset-naive and offset-aware datetimes"⟩

/-- The live configurations of a tenant, of one kind or all, the newest first. -/
def configurationsOf (s : Store) (tenant kind : Option String) (includeInactive : Bool) :
    Except Fault (List Mapping.Configuration) :=
  latestFirst (·.createdAt) <| s.configurations.filterMap fun (_, c) =>
    if isLiveOf tenant c && (includeInactive || c.isActive) && kind.all (· = c.kind.name) then some c
    else none

def insertConfiguration (s : Store) (c : Mapping.Configuration) : Except Fault Store :=
  if Table.has s.configurations c.id then
    .error ⟨.repository, "Mapping configuration " ++ c.id ++ " already exists"⟩
  else .ok { s with configurations := Table.put s.configurations c.id c }

def replaceConfiguration (s : Store) (c : Mapping.Configuration) : Except Fault Store :=
  if Table.has s.configurations c.id then
    .ok { s with configurations := Table.put s.configurations c.id c }
  else .error ⟨.repository, "Mapping configuration " ++ c.id ++ " does not exist"⟩

def rule? (s : Store) (id : String) : Option Rule := Table.get? s.rules id

def allRules (s : Store) : List Rule := s.rules.map (·.2)

/-- The rules to be used for records of a kind that a tenant maps. -/
def rulesFor (s : Store) (kind : String) (tenant : Option String) : List Rule :=
  Rule.select s.allRules kind tenant

/-- Whether a tenant sees a rule. -/
def isVisible (tenant : Option String) (r : Rule) : Bool := r.isGlobal || r.tenant = tenant

/-- The rules that a tenant sees, inactive ones too, for one kind or all. -/
def rulesOf (s : Store) (tenant kind : Option String) : List Rule :=
  s.allRules.filter fun r => isVisible tenant r && kind.all r.appliesToKind

/-- Puts in a rule, in the place of one of the same identity. -/
def putRule (s : Store) (r : Rule) : Store := { s with rules := Table.put s.rules r.id r }

def replaceRule (s : Store) (r : Rule) : Except Fault Store :=
  if Table.has s.rules r.id then .ok (s.putRule r)
  else .error ⟨.repository, "Validation rule " ++ r.id ++ " does not exist"⟩

def addLog (s : Store) (l : Execution.Log) : Store := { s with logs := s.logs ++ [l] }

/-- The latest logs of a configuration; a negative number leaves out as many of the earliest. -/
def logsOf (s : Store) (configuration : String) (limit : Int) : Except Fault (List Execution.Log) :=
  return Execution.sample limit
    (← latestFirst (·.startedAt) (s.logs.filter fun l => l.configuration = configuration))

def addEvent (s : Store) (e : Audit.Event) : Store := { s with events := s.events ++ [e] }

end Store

end Crosswalk
