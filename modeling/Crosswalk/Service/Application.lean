import Crosswalk.Contribution.Batch
import Crosswalk.Service.Environment

/-!
Applying a configuration to a batch: map, validate, check limits, and keep a log of the run.

Issues are gathered by the position of their record; those of one record stand in the order mapping,
validation, limits. A dry run keeps nothing.
-/

namespace Crosswalk.Service

open Batch (Options Outcome Metrics Warning)

variable (e : Environment) (s : Store)

/-- A configuration that may be applied. -/
def findActive (id : String) (tenant : Option String) : Except Failure Mapping.Configuration := do
  let c ← findConfiguration s id tenant
  if c.isActive then return c
  else throw (.fault ⟨.mappingInactive, "Mapping configuration " ++ id ++ " is inactive"⟩)

def batchTooLarge (size : Nat) (limit : Int) : Failure :=
  .fault ⟨.batchTooLarge, s!"Batch of {size} records exceeds the limit of " ++ toString limit⟩

/-- The configuration for a batch of a size, unless the batch is too large. -/
def prepare (id : String) (tenant : Option String) (size : Nat) :
    Except Failure Mapping.Configuration := do
  let c ← findActive s id tenant
  let limit := e.settings.maxBatch
  if limit ≠ 0 ∧ limit < size then throw (batchTooLarge size limit) else return c

/-- The errors of a verdict on the record at a position. -/
def verdictErrors (index : Int) (v : Verdict) : List Batch.Failure :=
  v.errors.map fun f => ⟨index, .validationError, f.code, f.message, some f.field, f.value⟩

/-- The warnings of a verdict on the record at a position. -/
def verdictWarnings (index : Int) (v : Verdict) : List Warning :=
  v.warnings.map fun f => ⟨index, f.code, f.message, some f.field, f.value, .validationWarning⟩

/-- The verdicts of validation rules on mapped records, each put back to the position of its record. -/
def ruleVerdicts (rules : List Rule) (records : List (Nat × Record)) :
    Except Fault (List (Int × Verdict)) := do
  let vs ← Verdict.ofRecords rules (records.map (·.2))
  return (records.zip vs).map fun (r, v) => ((r.1 : Int), v)

/-- The verdicts of the limits on contributions. -/
def limitVerdicts (options : Options) (records : List (Nat × Record)) :
    Except Fault (List (Int × Verdict)) :=
  Contribution.checkBatch
    ⟨e.clock, options.baselines, ⟨options.employeeLimit, options.matchLimit⟩, e.warningRatio⟩
    (records.map fun (i, r) => ((i : Int), r))

/-- All verdicts on mapped records in the order of checking. -/
def verdicts (tenant : Option String) (c : Mapping.Configuration) (options : Options)
    (records : List (Nat × Record)) : Except Fault (List (Int × Verdict)) := do
  if options.skipValidation then return []
  else
    let byRules ← ruleVerdicts (s.rulesFor c.kind.name tenant) records
    if options.checkLimits && c.kind = .contribution then
      return byRules ++ (← limitVerdicts e options records)
    else return byRules

/-- Milliseconds, rounded to the third place. -/
def milliseconds (seconds : Binary64) : Binary64 := seconds.mul (.ofInt 1000)

def metrics (total failed : Nat) (elapsed : Binary64) : Metrics where
  total := total
  successful := total - failed
  failed := failed
  elapsedMs := (milliseconds elapsed).roundPlaces 3
  averageMs :=
    if total = 0 then .zero false else ((milliseconds elapsed).div (.ofInt total)).roundPlaces 3

/-- The outcome of a batch of a size from what was mapped and the verdicts on it. -/
def outcome (size : Nat) (dryRun : Bool) (mapped : Mapping.Mapped) (vs : List (Int × Verdict)) :
    Outcome :=
  let errors := mapped.errors ++ vs.flatMap fun (i, v) => verdictErrors i v
  let warnings := vs.flatMap fun (i, v) => verdictWarnings i v
  { success := !errors.any (·.category.isError)
    data := mapped.data
    errors := errors.mergeSort fun x y => decide (x.index ≤ y.index)
    warnings := warnings.mergeSort fun x y => decide (x.index ≤ y.index)
    metrics := metrics size mapped.errors.length e.elapsed
    dryRun }

/-- What is kept of a run in the audit trail. -/
def runValues (c : Mapping.Configuration) (options : Options) (o : Outcome) : Table Value :=
  [("version", .int c.version), ("file_upload_id", Value.ofOption (options.fileUpload.map .text)),
    ("success", .bool o.success), ("total_records", .int o.metrics.total),
    ("successful_records", .int o.metrics.successful), ("failed_records", .int o.metrics.failed),
    ("error_count", .int o.errors.length), ("warning_count", .int o.warnings.length)]

/-- The store with the log and the event of a run. -/
def keepRun (c : Mapping.Configuration) (options : Options) (o : Outcome) : Store :=
  let log := Execution.Log.ofRun e.recorder ⟨e.id, e.recordedAt.atUtc⟩ e.memory c.id c.tenant o.errors
    o.metrics e.now.atUtc (some e.finishedAt.atUtc) options.fileUpload
  let event := e.event (some c.tenant) options.user .execute configurationEntity c.id none
    (some (runValues c options o))
  e.audit (s.addLog log) event

/-- The end of a run: verdicts, outcome, and what is kept. -/
def finish (tenant : Option String) (c : Mapping.Configuration) (options : Options) (size : Nat)
    (mapped : Mapping.Mapped) : Work Answer := do
  let vs ← Failure.ofFault (verdicts e (← get) tenant c options mapped.records)
  let o := outcome e size options.dryRun mapped vs
  if options.dryRun then return .outcome o
  else
    modify fun s => keepRun e s c options o
    return .outcome o

/-- Runs a batch through a configuration, and counts on. -/
def runBatch (t : Mapping.Tally) (id : String) (tenant : Option String) (inputs : List Value)
    (options : Options) : (Except Failure Answer × Store) × Mapping.Tally :=
  match prepare e s id tenant inputs.length with
  | .error f => ((.error f, s), t)
  | .ok c =>
    let (mapped, t) := Mapping.mapBatch e.engine c.rules inputs t
    ((finish e tenant c options inputs.length mapped).run s, t)

/-- What comes of applying a configuration to a batch: the answer with the store that it leaves. -/
def apply (t : Mapping.Tally) (id : String) (tenant : Option String) (inputs : List Value)
    (options : Options) : Result × Mapping.Tally :=
  let ((answer, s), t) := runBatch e s t id tenant inputs options
  (answer.map fun a => (a, s), t)

end Crosswalk.Service
