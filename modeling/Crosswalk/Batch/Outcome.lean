import Crosswalk.Contribution.Totals
import Crosswalk.Rule.Basic

/-!
The outcome of a batch: destination records, errors and warnings by the position of the record, and metrics.
-/

namespace Crosswalk.Batch

inductive Category where
  | mappingFailed
  | validationError
  | validationWarning
deriving DecidableEq

namespace Category

def name : Category → String
  | .mappingFailed => "MAPPING_FAILED"
  | .validationError => "VALIDATION_ERROR"
  | .validationWarning => "VALIDATION_WARNING"

/-- Whether an issue of a category keeps a batch from success. -/
def isError : Category → Bool
  | .mappingFailed | .validationError => true
  | .validationWarning => false

def codec : Codec Category := .choice [.mappingFailed, .validationError, .validationWarning] name

end Category

/-- An error of one record. -/
structure Failure where
  index : Int
  category : Category
  code : String
  message : String
  field : Option String
  value : Value

/-- A warning about one record. -/
structure Warning where
  index : Int
  code : String
  message : String
  field : Option String
  value : Value
  category : Category

structure Metrics where
  total : Int
  successful : Int
  failed : Int
  elapsedMs : Binary64
  averageMs : Binary64

structure Outcome where
  success : Bool
  data : List Record
  errors : List Failure
  warnings : List Warning
  metrics : Metrics
  dryRun : Bool

structure Options where
  dryRun : Bool
  skipValidation : Bool
  checkLimits : Bool
  fileUpload : Option String
  user : Option String
  baselines : Table Contribution.Totals
  employeeLimit : Option Int
  matchLimit : Option Int

def Failure.codec : Codec Failure :=
  Schema.codec
    (.field (.required "record_index" .integer) <|
      .field (.required "category" Category.codec) <|
      .field (.required "code" .text) <|
      .field (.required "message" .text) <|
      .field (.optional "field" .text) <|
      .field (Mapping.anyOrNull "value") .done)
    (fun (i, k, c, m, f, v, ()) => ⟨i, k, c, m, f, v⟩)
    (fun e => (e.index, e.category, e.code, e.message, e.field, e.value, ()))

def Warning.codec : Codec Warning :=
  Schema.codec
    (.field (.required "record_index" .integer) <|
      .field (.required "code" .text) <|
      .field (.required "message" .text) <|
      .field (.optional "field" .text) <|
      .field (Mapping.anyOrNull "value") <|
      .field (.defaulted "category" Category.codec .validationWarning) .done)
    (fun (i, c, m, f, v, k, ()) => ⟨i, c, m, f, v, k⟩)
    (fun w => (w.index, w.code, w.message, w.field, w.value, w.category, ()))

namespace Metrics

def zero : Metrics := ⟨0, 0, 0, .zero false, .zero false⟩

def codec : Codec Metrics :=
  Schema.codec
    (.field (.defaulted "total_records" .integer 0) <|
      .field (.defaulted "successful_records" .integer 0) <|
      .field (.defaulted "failed_records" .integer 0) <|
      .field (.defaulted "processing_time_ms" .float (.zero false)) <|
      .field (.defaulted "avg_time_per_record_ms" .float (.zero false)) .done)
    (fun (t, s, f, p, a, ()) => ⟨t, s, f, p, a⟩)
    (fun m => (m.total, m.successful, m.failed, m.elapsedMs, m.averageMs, ()))

end Metrics

def Outcome.codec : Codec Outcome :=
  Schema.codec
    (.field (.required "success" .bool) <|
      .field (.defaulted "data" (.list (.table .any)) []) <|
      .field (.defaulted "errors" (.list Failure.codec) []) <|
      .field (.defaulted "warnings" (.list Warning.codec) []) <|
      .field (.defaulted "metrics" Metrics.codec .zero) <|
      .field (.defaulted "dry_run" .bool false) .done)
    (fun (s, d, e, w, m, r, ()) => ⟨s, d, e, w, m, r⟩)
    (fun o => (o.success, o.data, o.errors, o.warnings, o.metrics, o.dryRun, ()))

namespace Options

def standard : Options := ⟨false, false, false, none, none, [], none, none⟩

def codec : Codec Options :=
  Schema.codec
    (.field (.defaulted "dry_run" .bool false) <|
      .field (.defaulted "skip_validation" .bool false) <|
      .field (.defaulted "check_compliance" .bool false) <|
      .field (.optional "file_upload_id" .text) <|
      .field (.optional "user_id" .text) <|
      .field (.defaulted "ytd_baselines" (.table Contribution.Totals.codec) []) <|
      .field (.optional "plan_employee_limit" .integer) <|
      .field (.optional "plan_match_limit" .integer) .done)
    (fun (d, s, c, f, u, b, e, m, ()) => ⟨d, s, c, f, u, b, e, m⟩)
    (fun o => (o.dryRun, o.skipValidation, o.checkLimits, o.fileUpload, o.user, o.baselines,
      o.employeeLimit, o.matchLimit, ()))

end Options

end Crosswalk.Batch
