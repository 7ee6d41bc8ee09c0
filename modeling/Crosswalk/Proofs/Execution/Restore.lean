import Crosswalk.Audit
import Crosswalk.Execution.Log
import Crosswalk.Proofs.Mapping.Restore

/-!
Outcomes of batches, logs of runs and audit events come back from their dumps.
-/

namespace Crosswalk

open Codec Crosswalk.Field Mapping Value

/-! ### Batches -/

namespace Batch

def Failure.Storable (f : Failure) : Prop := f.value.isJson

lemma restores_failure : Failure.codec.Restores Failure.Storable :=
  Schema.restores_codec
    (.field (restores_required restores_integer) <|
      .field (restores_required (restores_choice _ _)) <|
      .field (restores_required restores_text) <|
      .field (restores_required restores_text) <|
      .field restores_optionalText <|
      .field (restores_anyOrNull "value") .done)
    (by decide) (fun _ => rfl) (fun _ => rfl) (fun _ => rfl)
    fun _ h => ⟨trivial, trivial, trivial, trivial, trivial, h, trivial⟩

def Warning.Storable (w : Warning) : Prop := w.value.isJson

lemma restores_warning : Warning.codec.Restores Warning.Storable :=
  Schema.restores_codec
    (.field (restores_required restores_integer) <|
      .field (restores_required restores_text) <|
      .field (restores_required restores_text) <|
      .field restores_optionalText <|
      .field (restores_anyOrNull "value") <|
      .field (restores_defaulted (restores_choice _ _) ⟨.text "VALIDATION_WARNING", rfl⟩) .done)
    (by decide) (fun _ => rfl) (fun _ => rfl) (fun _ => rfl)
    fun _ h => ⟨trivial, trivial, trivial, trivial, h, trivial, trivial⟩

lemma restores_metrics : Metrics.codec.RestoresAll :=
  Schema.restores_codec
    (.field (restores_defaulted restores_integer ⟨.int 0, rfl⟩) <|
      .field (restores_defaulted restores_integer ⟨.int 0, rfl⟩) <|
      .field (restores_defaulted restores_integer ⟨.int 0, rfl⟩) <|
      .field (restores_defaulted restores_float ⟨.float (.zero false), rfl⟩) <|
      .field (restores_defaulted restores_float ⟨.float (.zero false), rfl⟩) .done)
    (by decide) (fun _ => rfl) (fun _ => rfl) (fun _ => rfl)
    fun _ _ => ⟨trivial, trivial, trivial, trivial, trivial, trivial⟩

structure Outcome.Storable (o : Outcome) : Prop where
  data : ∀ r ∈ o.data, JsonTable r
  errors : ∀ f ∈ o.errors, f.Storable
  warnings : ∀ w ∈ o.warnings, w.Storable

lemma restores_outcome : Outcome.codec.Restores Outcome.Storable :=
  Schema.restores_codec
    (.field (restores_required restores_bool) <|
      .field (restores_defaulted (restores_list (restores_table restores_any)) ⟨.list [], rfl⟩) <|
      .field (restores_defaulted (restores_list restores_failure) ⟨.list [], rfl⟩) <|
      .field (restores_defaulted (restores_list restores_warning) ⟨.list [], rfl⟩) <|
      .field (restores_defaulted restores_metrics ⟨.object [], rfl⟩) <|
      .field (restores_defaulted restores_bool ⟨.bool false, rfl⟩) .done)
    (by decide) (fun _ => rfl) (fun _ => rfl) (fun _ => rfl)
    fun _ h => ⟨trivial, h.data, h.errors, h.warnings, trivial, trivial, trivial⟩

lemma restores_totals : Contribution.Totals.codec.RestoresAll :=
  Schema.restores_codec
    (.field (restores_defaulted restores_integer ⟨.int 0, rfl⟩) <|
      .field (restores_defaulted restores_integer ⟨.int 0, rfl⟩) .done)
    (by decide) (fun _ => rfl) (fun _ => rfl) (fun _ => rfl)
    fun _ _ => ⟨trivial, trivial, trivial⟩

lemma restores_options : Options.codec.RestoresAll :=
  Schema.restores_codec
    (.field (restores_defaulted restores_bool ⟨.bool false, rfl⟩) <|
      .field (restores_defaulted restores_bool ⟨.bool false, rfl⟩) <|
      .field (restores_defaulted restores_bool ⟨.bool false, rfl⟩) <|
      .field restores_optionalText <|
      .field restores_optionalText <|
      .field (restores_defaulted (restores_table restores_totals) ⟨.object [], rfl⟩) <|
      .field (restores_optional restores_integer (neverNull_leaf fun _ _ => nofun)) <|
      .field (restores_optional restores_integer (neverNull_leaf fun _ _ => nofun)) .done)
    (by decide) (fun _ => rfl) (fun _ => rfl) (fun _ => rfl)
    fun _ _ => ⟨trivial, trivial, trivial, trivial, trivial, fun _ _ => trivial, fun _ _ => trivial,
      fun _ _ => trivial, trivial⟩

end Batch

/-! ### Logs -/

namespace Execution

structure Log.Storable (l : Log) : Prop where
  startedAt : l.startedAt.Storable
  finishedAt : ∀ t ∈ l.finishedAt, t.Storable
  sampleErrors : ∀ f ∈ l.sampleErrors, f.Storable
  createdAt : l.createdAt.Storable

lemma restores_log (fresh : Fresh) : (Log.codec fresh).Restores Log.Storable := by
  refine Schema.restores_codec
    (.field (restores_defaulted restores_text ⟨.text fresh.id, rfl⟩) <|
      .field (restores_required restores_text) <|
      .field (restores_required restores_text) <|
      .field restores_optionalText <|
      .field (restores_required restores_moment) <|
      .field (restores_optional restores_moment neverNull_moment) <|
      .field (restores_defaulted restores_integer ⟨.int 0, rfl⟩) <|
      .field (restores_defaulted restores_integer ⟨.int 0, rfl⟩) <|
      .field (restores_defaulted restores_integer ⟨.int 0, rfl⟩) <|
      .field (restores_defaulted (restores_table restores_integer) ⟨.object [], rfl⟩) <|
      .field (restores_defaulted (restores_list Batch.restores_failure) ⟨.list [], rfl⟩) <|
      .field (restores_defaulted (restores_table restores_float) ⟨.object [], rfl⟩) <|
      .field (restores_defaulted restores_moment ⟨.moment fresh.now, rfl⟩) .done)
    (Schema.separate_of_names
      ["id", "mapping_config_id", "tenant_id", "file_upload_id", "execution_start", "execution_end",
        "records_processed", "records_successful", "records_failed", "error_summary", "sample_errors",
        "performance_metrics", "created_at"] rfl (by decide))
    (fun _ => rfl) (fun _ => rfl) (fun _ => rfl) fun _ h => ?_
  exact ⟨trivial, trivial, trivial, trivial, h.startedAt, h.finishedAt, trivial, trivial,
    trivial, fun _ _ => trivial, h.sampleErrors, fun _ _ => trivial, h.createdAt, trivial⟩

structure Summary.Storable (s : Summary) : Prop where
  startedAt : s.startedAt.Storable
  finishedAt : ∀ t ∈ s.finishedAt, t.Storable

lemma restores_summary : Summary.codec.Restores Summary.Storable :=
  Schema.restores_codec
    (.field (restores_required restores_text) <|
      .field (restores_required restores_text) <|
      .field restores_optionalText <|
      .field (restores_required restores_moment) <|
      .field (restores_optional restores_moment neverNull_moment) <|
      .field (restores_required restores_integer) <|
      .field (restores_required restores_integer) <|
      .field (restores_required restores_integer) <|
      .field (restores_defaulted (restores_table restores_integer) ⟨.object [], rfl⟩) <|
      .field (restores_defaulted (restores_table restores_float) ⟨.object [], rfl⟩) <|
      .field (restores_required restores_text) .done)
    (by decide) (fun _ => rfl) (fun _ => rfl) (fun _ => rfl)
    fun _ h => ⟨trivial, trivial, trivial, h.startedAt, h.finishedAt, trivial, trivial,
      trivial, fun _ _ => trivial, fun _ _ => trivial, trivial, trivial⟩

end Execution

/-! ### Audit events -/

namespace Audit

structure Event.Storable (e : Event) : Prop where
  before : ∀ t ∈ e.before, JsonTable t
  after : ∀ t ∈ e.after, JsonTable t
  createdAt : e.createdAt.Storable

lemma restores_event (fresh : Fresh) : (Event.codec fresh).Restores Event.Storable := by
  refine Schema.restores_codec
    (.field (restores_defaulted restores_text ⟨.text fresh.id, rfl⟩) <|
      .field restores_optionalText <|
      .field restores_optionalText <|
      .field (restores_required (restores_choice _ _)) <|
      .field (restores_required restores_text) <|
      .field (restores_required restores_text) <|
      .field (restores_optional (restores_table restores_any) neverNull_table) <|
      .field (restores_optional (restores_table restores_any) neverNull_table) <|
      .field (restores_defaulted restores_moment ⟨.moment fresh.now, rfl⟩) .done)
    (Schema.separate_of_names
      ["id", "tenant_id", "user_id", "action", "entity_type", "entity_id", "old_values", "new_values",
        "created_at"] rfl (by decide))
    (fun _ => rfl) (fun _ => rfl) (fun _ => rfl) fun _ h => ?_
  exact ⟨trivial, trivial, trivial, trivial, trivial, trivial, h.before, h.after, h.createdAt, trivial⟩

end Audit

end Crosswalk
