import Crosswalk.Proofs.Execution.Log
import Crosswalk.Proofs.Service.Application

/-!
A dry run, and what the other run keeps.

Both runs of a batch come to one outcome before anything is kept. The dry run stops there; the other
adds a log and an event, and what these say of the run is what the outcome says.
-/

namespace Crosswalk.Service

open Batch (Options Outcome)
open Mapping (Configuration)
open Fallible

variable (e : Environment) (c : Configuration) (options : Options) (o : Outcome)

/-- A log that says of a run what its outcome says. -/
structure Logs (l : Execution.Log) : Prop where
  configuration : l.configuration = c.id
  tenant : l.tenant = c.tenant
  processed : l.processed = o.metrics.total
  successful : l.successful = o.metrics.successful
  failed : l.failed = o.metrics.failed
  counts : ∀ code, Table.get? l.errorCounts code =
    if o.errors.countP (fun x => x.code = code) = 0 then none
    else some ((o.errors.countP fun x => x.code = code : Nat) : Int)
  codes : l.errorCounts.keys.Nodup
  sample : 0 ≤ e.recorder.sampleSize →
    l.sampleErrors = o.errors.take e.recorder.sampleSize.toNat

/-- An event that says of a run what its outcome says. -/
structure Records (x : Audit.Event) : Prop where
  action : x.action = .execute
  entityType : x.entityType = configurationEntity
  entity : x.entity = c.id
  tenant : x.tenant = some c.tenant
  user : x.user = options.user
  before : x.before = none
  values : ∃ vs, x.after = some vs ∧ Table.get? vs "success" = some (.bool o.success) ∧
    Table.get? vs "total_records" = some (.int o.metrics.total) ∧
    Table.get? vs "successful_records" = some (.int o.metrics.successful) ∧
    Table.get? vs "failed_records" = some (.int o.metrics.failed) ∧
    Table.get? vs "error_count" = some (.int o.errors.length) ∧
    Table.get? vs "warning_count" = some (.int o.warnings.length)

/-- A run adds one log and, if audit events can be written, one event. -/
structure Keeps (s s' : Store) : Prop where
  configurations : s'.configurations = s.configurations
  rules : s'.rules = s.rules
  log : ∃ l, s'.logs = s.logs ++ [l] ∧ Logs e c o l
  event : if e.auditWorks then ∃ x, s'.events = s.events ++ [x] ∧ Records c options o x
    else s'.events = s.events

lemma ofRun_logs : Logs e c o (Execution.Log.ofRun e.recorder ⟨e.id, e.recordedAt.atUtc⟩ e.memory
    c.id c.tenant o.errors o.metrics e.now.atUtc (some e.finishedAt.atUtc) options.fileUpload) where
  configuration := rfl
  tenant := rfl
  processed := rfl
  successful := rfl
  failed := rfl
  counts := Execution.get?_countCodes o.errors
  codes := Execution.nodup_countCodes o.errors
  sample h := Execution.sample_of_nonneg h o.errors

lemma event_records : Records c options o (e.event (some c.tenant) options.user .execute
    configurationEntity c.id none (some (runValues c options o))) where
  action := rfl
  entityType := rfl
  entity := rfl
  tenant := rfl
  user := rfl
  before := rfl
  values := ⟨_, rfl, rfl, rfl, rfl, rfl, rfl, rfl⟩

lemma keepRun_keeps (s : Store) : Keeps e c options o s (keepRun e s c options o) := by
  unfold keepRun Environment.audit
  dsimp only
  by_cases ha : e.auditWorks
  · rw [if_pos ha]
    exact ⟨rfl, rfl, ⟨_, rfl, ofRun_logs e c options o⟩,
      by rw [if_pos ha]; exact ⟨_, rfl, event_records e c options o⟩⟩
  · rw [if_neg ha]
    exact ⟨rfl, rfl, ⟨_, rfl, ofRun_logs e c options o⟩, by rw [if_neg ha]; rfl⟩

variable {e c options o} {s : Store} {t : Mapping.Tally} {id : String} {tenant : Option String}
  {inputs : List Value}

/-- **A dry run does what the other run does**, and keeps nothing of it. -/
theorem apply_dryRun (e : Environment) (s : Store) (t : Mapping.Tally) (id : String)
    (tenant : Option String) (inputs : List Value) (options : Options) :
    match (apply e s t id tenant inputs { options with dryRun := false }).1 with
    | .error f => (apply e s t id tenant inputs { options with dryRun := true }).1 = .error f
    | .ok (a, s') => ∃ c o, prepare e s id tenant inputs.length = .ok c ∧ a = .outcome o ∧
        o.dryRun = false ∧ Keeps e c options o s s' ∧
        (apply e s t id tenant inputs { options with dryRun := true }).1 =
          .ok (.outcome { o with dryRun := true }, s) := by
  rcases h : (apply e s t id tenant inputs { options with dryRun := false }).1 with f | ⟨a, s'⟩
  · have hf := apply_error.1 h
    exact apply_error.2 hf
  · obtain ⟨c, vs, hc, hv, rfl, rfl⟩ := apply_ok.1 h
    refine ⟨c, _, hc, rfl, rfl, keepRun_keeps e c options _ s, ?_⟩
    exact apply_ok.2 ⟨c, vs, hc, hv, rfl, rfl⟩

end Crosswalk.Service
