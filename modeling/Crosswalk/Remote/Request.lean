import Crosswalk.Remote.Query
import Crosswalk.Settings

/-!
The store behind remote tables: the query of each request, and its answer from the rows that come back.

Every failure is reported as one of the store, behind what was to be done. Rows of rules that do not read are
passed over where a list is asked for.
-/

namespace Crosswalk.Remote

inductive Request where
  | configuration (id tenant : Value)
  | configurations (tenant kind : Value) (includeInactive : Bool)
  | createConfiguration (c : Mapping.Configuration)
  | updateConfiguration (c : Mapping.Configuration)
  | rulesFor (kind tenant : Value)
  | rule (id : Value)
  | rules (tenant kind : Value)
  | createRule (r : Rule)
  | updateRule (r : Rule)
  | createLog (l : Execution.Log)
  | logs (configuration limit : Value)
  | writeEvent (e : Audit.Event)

def configurationTable : String := "mapping_configurations"
def ruleTable : String := "validation_rules"
def logTable : String := "mapping_execution_logs"
def eventTable : String := "audit_logs"

/-- What the request was to do, for the message of a failure. -/
def Request.failed : Request → String
  | .configuration .. => "Mapping fetch failed"
  | .configurations .. => "Mapping list failed"
  | .createConfiguration _ => "Mapping creation failed"
  | .updateConfiguration _ => "Mapping update failed"
  | .rulesFor .. => "Validation rule fetch failed"
  | .rule _ => "Validation rule fetch failed"
  | .rules .. => "Validation rule list failed"
  | .createRule _ => "Validation rule creation failed"
  | .updateRule _ => "Validation rule update failed"
  | .createLog _ => "Execution log write failed"
  | .logs .. => "Execution log fetch failed"
  | .writeEvent _ => "Audit log write failed"

/-- A value inside a text. -/
def inText (v : Value) : String := (v.toText.toOption).getD ""

/-- The kind of record that a value names. -/
def kindOf (v : Value) : Except Fault RecordKind :=
  match RecordKind.codec.read v with
  | .ok k => .ok k
  | .error _ => do
    throw ⟨.badValue, (← v.written) ++ " is not a valid MappingType"⟩

/-- The query that goes on with a row, if there is one. -/
def withRow (q : Query) (row : Except Fault Value) (f : Query → Value → Query) :
    Query × Except Fault Unit :=
  match row with
  | .ok v => (f q v, .ok ())
  | .error fault => (q, .error fault)

/-- The query of a request, and a fault that keeps it from being sent. -/
def Request.query : Request → Query × Except Fault Unit
  | .configuration id tenant =>
    (((((from_ configurationTable).selectAll.equal "id" id).equal "tenant_id" tenant).null
      "deleted_at").limit (.int 1), .ok ())
  | .configurations tenant kind includeInactive =>
    let q := ((from_ configurationTable).selectAll.equal "tenant_id" tenant).null "deleted_at"
    let q := q.order "created_at" true
    let q := if includeInactive then q else q.equal "is_active" (.bool true)
    if kind.isNull then (q, .ok ())
    else
      match kindOf kind with
      | .ok k => (q.equal "mapping_type" (.text k.name), .ok ())
      | .error f => (q, .error f)
  | .createConfiguration c =>
    withRow (from_ configurationTable) ((Mapping.Configuration.codec .unused).row c) Query.insert
  | .updateConfiguration c =>
    withRow (from_ configurationTable) ((Mapping.Configuration.codec .unused).row c) fun q v =>
      ((q.update v).equal "id" (.text c.id)).equal "tenant_id" (.text c.tenant)
  | .rulesFor kind tenant =>
    let q := (from_ ruleTable).selectAll.equal "is_active" (.bool true)
    let q := q.overlaps "applies_to" [kind, .text Rule.everyKind]
    (q.visibleTo (inText tenant), .ok ())
  | .rule id => (((from_ ruleTable).selectAll.equal "id" id).limit (.int 1), .ok ())
  | .rules tenant kind =>
    let q := ((from_ ruleTable).selectAll.visibleTo (inText tenant)).order "created_at" false
    if kind.isNull then (q, .ok ())
    else (q.overlaps "applies_to" [kind, .text Rule.everyKind], .ok ())
  | .createRule r => withRow (from_ ruleTable) ((Rule.codec .unused).row r) Query.insert
  | .updateRule r =>
    withRow (from_ ruleTable) ((Rule.codec .unused).row r) fun q v =>
      (q.update v).equal "id" (.text r.id)
  | .createLog l =>
    withRow (from_ logTable) ((Execution.Log.codec .unused).row l) Query.insert
  | .logs id limit =>
    ((((from_ logTable).selectAll.equal "mapping_config_id" id).order "execution_start"
      true).limit limit, .ok ())
  | .writeEvent e => withRow (from_ eventTable) ((Audit.Event.codec .unused).row e) Query.insert

/-- Whether requests can be sent: through a client that is given, or with an address and a key. -/
def connect (s : Settings) (given : Bool) : Except Fault Unit :=
  if given || s.hasRemote then .ok ()
  else
    .error ⟨.repository, "Supabase client initialization failed: SUPABASE_URL and SUPABASE_KEY are " ++
      "required"⟩

/-- Issues as the fault of a row. -/
def rowFault (issues : List Issue) : Fault :=
  ⟨.badValue, toString issues.length ++ " validation error" ++ (if issues.length = 1 then "" else "s")⟩

def readRow {α : Type} (c : Codec α) (row : Value) : Except Fault α :=
  match c.read row with
  | .ok x => .ok x
  | .error issues => .error (rowFault issues)

/-- What the first row reads as, if there is one. -/
def firstRow {α : Type} (c : Codec α) : List Value → Except Fault (Option α)
  | [] => .ok none
  | row :: _ => (readRow c row).map some

/-- The rules that rows read as. A row that does not read is passed over with a message that names its
identity; one that is no record at all is a fault. -/
def readRules (fresh : Fresh) : List Value → Except Fault (List Rule)
  | [] => .ok []
  | row :: rows =>
    match (Rule.codec fresh).read row with
    | .ok r => return r :: (← readRules fresh rows)
    | .error _ =>
      match row with
      | .object fields => do
        let _ ← (Record.value fields "id").toText
        readRules fresh rows
      | v => .error ⟨.noAttribute, "'" ++ v.typeName ++ "' object has no attribute 'get'"⟩

/-- The text of a value that is one. -/
def text? : Value → Option String
  | .text s => some s
  | _ => none

/-- The answer of a request from the rows that came back. -/
def Request.answer (fresh : Fresh) (rows : List Value) : Request → Except Fault Answer
  | .configuration .. => do
    match ← firstRow (Mapping.Configuration.codec fresh) rows with
    | some c => return .configuration c
    | none => return .nothing
  | .configurations .. =>
    return .configurations (← rows.mapM (readRow (Mapping.Configuration.codec fresh)))
  | .createConfiguration c =>
    return .configuration ((← firstRow (Mapping.Configuration.codec fresh) rows).getD c)
  | .updateConfiguration c =>
    return .configuration ((← firstRow (Mapping.Configuration.codec fresh) rows).getD c)
  | .rulesFor kind tenant =>
    return .rules (Rule.select (← readRules fresh rows) (inText kind) (text? tenant))
  | .rule _ => do
    match ← firstRow (Rule.codec fresh) rows with
    | some r => return .rule r
    | none => return .nothing
  | .rules tenant _ => return .rules ((← readRules fresh rows).filter (Store.isVisible (text? tenant)))
  | .createRule r => return .rule ((← firstRow (Rule.codec fresh) rows).getD r)
  | .updateRule r => return .rule ((← firstRow (Rule.codec fresh) rows).getD r)
  | .createLog l => return .log ((← firstRow (Execution.Log.codec fresh) rows).getD l)
  | .logs .. => return .logs (← rows.mapM (readRow (Execution.Log.codec fresh)))
  | .writeEvent _ => .ok .nothing

/-- Sends a request; `reply` are the rows that come back, or why none do. -/
def send (fresh : Fresh) (reply : Except String (List Value)) (r : Request) :
    Query × Except Fault Answer :=
  let (q, ready) := r.query
  let answered : Except Fault Answer := do
    ready
    match reply with
    | .ok rows => r.answer fresh rows
    | .error message => throw ⟨.runtime, message⟩
  match answered with
  | .ok a => (q, .ok a)
  | .error f => (q, .error ⟨.repository, r.failed ++ ": " ++ f.message⟩)

end Crosswalk.Remote
