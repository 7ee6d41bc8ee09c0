import Crosswalk.Batch.Outcome
import Crosswalk.Settings

/-!
Execution logs: what is kept of a batch run, and the summaries made of it.
-/

namespace Crosswalk.Execution

structure Log where
  id : String
  configuration : String
  tenant : String
  fileUpload : Option String
  startedAt : Moment
  finishedAt : Option Moment
  processed : Int
  successful : Int
  failed : Int
  errorCounts : Table Int
  sampleErrors : List Batch.Failure
  performance : Table Binary64
  createdAt : Moment

structure Summary where
  id : String
  configuration : String
  fileUpload : Option String
  startedAt : Moment
  finishedAt : Option Moment
  processed : Int
  successful : Int
  failed : Int
  errorCounts : Table Int
  performance : Table Binary64
  status : String

def Log.codec (fresh : Fresh) : Codec Log :=
  Schema.codec
    (.field (.defaulted "id" .text fresh.id) <|
      .field (.required "mapping_config_id" .text) <|
      .field (.required "tenant_id" .text) <|
      .field (.optional "file_upload_id" .text) <|
      .field (.required "execution_start" .moment) <|
      .field (.optional "execution_end" .moment) <|
      .field (.defaulted "records_processed" .integer 0) <|
      .field (.defaulted "records_successful" .integer 0) <|
      .field (.defaulted "records_failed" .integer 0) <|
      .field (.defaulted "error_summary" (.table .integer) []) <|
      .field (.defaulted "sample_errors" (.list Batch.Failure.codec) []) <|
      .field (.defaulted "performance_metrics" (.table .float) []) <|
      .field (.defaulted "created_at" .moment fresh.now) .done)
    (fun (i, c, t, f, s, e, p, ok, bad, h, sample, m, at_, ()) =>
      ⟨i, c, t, f, s, e, p, ok, bad, h, sample, m, at_⟩)
    (fun l => (l.id, l.configuration, l.tenant, l.fileUpload, l.startedAt, l.finishedAt, l.processed,
      l.successful, l.failed, l.errorCounts, l.sampleErrors, l.performance, l.createdAt, ()))

def Summary.codec : Codec Summary :=
  Schema.codec
    (.field (.required "id" .text) <|
      .field (.required "mapping_config_id" .text) <|
      .field (.optional "file_upload_id" .text) <|
      .field (.required "execution_start" .moment) <|
      .field (.optional "execution_end" .moment) <|
      .field (.required "records_processed" .integer) <|
      .field (.required "records_successful" .integer) <|
      .field (.required "records_failed" .integer) <|
      .field (.defaulted "error_summary" (.table .integer) []) <|
      .field (.defaulted "performance_metrics" (.table .float) []) <|
      .field (.required "status" .text) .done)
    (fun (i, c, f, s, e, p, ok, bad, h, m, st, ()) => ⟨i, c, f, s, e, p, ok, bad, h, m, st⟩)
    (fun l => (l.id, l.configuration, l.fileUpload, l.startedAt, l.finishedAt, l.processed,
      l.successful, l.failed, l.errorCounts, l.performance, l.status, ()))

/-- How often each code occurs, in the order in which the codes first occur. -/
def countCodes (errors : List Batch.Failure) : Table Int :=
  errors.foldl (fun t e => t.put e.code ((Table.get? t e.code).getD 0 + 1)) []

/-- The first items of a list; a negative number leaves out as many at the end. -/
def sample {α : Type} (size : Int) (xs : List α) : List α :=
  if size < 0 then xs.take (xs.length - size.natAbs) else xs.take size.toNat

/-- What a log keeps of a run besides its figures. -/
structure Recorder where
  /-- How many errors are kept as a sample. -/
  sampleSize : Int
  keepsMemory : Bool

/-- What the settings say, unless something else is asked for. -/
def Recorder.of (s : Settings) (sampleSize : Option Int) (keepsMemory : Option Bool) : Recorder :=
  ⟨sampleSize.getD s.sampleSize, keepsMemory.getD s.recordMemory⟩

/-- Bytes of memory in units of `2 ^ 20`, rounded to the second place. -/
def megabytes (bytes : Nat) : Binary64 :=
  ((Binary64.ofInt bytes).div (.ofInt (1024 * 1024))).roundPlaces 2

/-- The figures of performance; `memory` has the bytes that the process takes. -/
def performance (r : Recorder) (m : Batch.Metrics) (memory : Nat) : Table Binary64 :=
  [("avg_time_per_record_ms", m.averageMs), ("total_time_ms", m.elapsedMs)] ++
    if r.keepsMemory then [("memory_rss_mb", megabytes memory)] else []

/-- The log of a batch run. -/
def Log.ofRun (r : Recorder) (fresh : Fresh) (memory : Nat) (configuration tenant : String)
    (errors : List Batch.Failure) (m : Batch.Metrics) (startedAt : Moment)
    (finishedAt : Option Moment) (fileUpload : Option String) : Log where
  id := fresh.id
  configuration
  tenant
  fileUpload
  startedAt
  finishedAt
  processed := m.total
  successful := m.successful
  failed := m.failed
  errorCounts := countCodes errors
  sampleErrors := sample r.sampleSize errors
  performance := Execution.performance r m memory
  createdAt := fresh.now

/-- How a run ended, if it did. -/
def Log.status (l : Log) : String :=
  if l.finishedAt.isNone then "running"
  else if l.failed = 0 then "completed"
  else "completed_with_errors"

def Log.summary (l : Log) : Summary where
  id := l.id
  configuration := l.configuration
  fileUpload := l.fileUpload
  startedAt := l.startedAt
  finishedAt := l.finishedAt
  processed := l.processed
  successful := l.successful
  failed := l.failed
  errorCounts := l.errorCounts
  performance := l.performance
  status := l.status

end Crosswalk.Execution
