import Crosswalk.Proofs.Mapping.Restore
import Crosswalk.Proofs.Rule.Basic
import Crosswalk.Rule.Finding

/-!
Validation rules and findings come back from their dumps.

One kind or null stands for a list of kinds in the data of a rule, and a rule has to name a field. The
dump of a rule has a list of kinds and names a field again.
-/

namespace Crosswalk

open Codec Crosswalk.Field Mapping

namespace Rule

structure Logic.Storable (l : Logic) : Prop where
  value : l.value.isJson
  values : ∀ vs ∈ l.values, ∀ v ∈ vs, v.isJson

lemma restores_logic : Logic.codec.Restores Logic.Storable :=
  Schema.restores_codec
    (.field (restores_required (restores_choice _ _)) <|
      .field restores_optionalText <|
      .field (restores_anyOrNull "value") <|
      .field (restores_optional restores_float neverNull_float) <|
      .field (restores_optional restores_float neverNull_float) <|
      .field restores_optionalText <|
      .field (restores_optional (restores_list restores_any) neverNull_list) .done)
    (by decide) (fun _ => rfl) (fun _ => rfl) (fun _ => rfl)
    fun _ h => ⟨trivial, trivial, h.value, fun _ _ => trivial, fun _ _ => trivial, trivial, h.values,
      trivial⟩

structure Storable (r : Rule) : Prop where
  logic : r.logic.Storable
  createdAt : r.createdAt.Storable
  updatedAt : r.updatedAt.Storable

lemma restores_kinds : kindsCodec.RestoresAll := fun v ks hv style _ =>
  restores_list restores_text v ks hv style fun _ _ _ => trivial

lemma restores_kindsField {prepare : Value → Value} (h : ∀ vs, prepare (.list vs) = .list vs) :
    (kindsField prepare).Restores (fun _ => True) fun ks => ks :=
  restores_defaulted (restores_prepared restores_kinds fun _ _ => h _)
    ⟨.list [.text everyKind], congrArg kindsCodec.read (h _)⟩

lemma restores_rule (fresh : Fresh) : (codec fresh).Restores Storable := by
  refine restores_checked <| Schema.restores_codec
    (.field (restores_defaulted restores_text ⟨.text fresh.id, rfl⟩) <|
      .field restores_optionalText <|
      .field (restores_required restores_name) <|
      .field restores_optionalText <|
      .field (restores_required (restores_choice _ _)) <|
      .field (restores_kindsField fun _ => rfl) <|
      .field restores_optionalText <|
      .field (restores_required restores_logic) <|
      .field (restores_required restores_text) <|
      .field (restores_defaulted (restores_choice _ _) ⟨.text "ERROR", rfl⟩) <|
      .field (restores_defaulted restores_bool ⟨.bool true, rfl⟩) <|
      .field (restores_defaulted restores_moment ⟨.moment fresh.now, rfl⟩) <|
      .field (restores_defaulted restores_moment ⟨.moment fresh.now, rfl⟩) .done)
    (Schema.separate_of_names fields rfl (by decide))
    (fun _ => rfl) (fun _ => rfl) (fun _ => rfl) fun _ h => ?_
  exact ⟨trivial, trivial, trivial, trivial, trivial, trivial, trivial, h.logic, trivial, trivial,
    trivial, h.createdAt, h.updatedAt, trivial⟩

def Draft.Storable (d : Draft) : Prop := d.logic.Storable

lemma restores_draft : Draft.codec.Restores Draft.Storable :=
  Schema.restores_codec
    (.field (restores_required restores_name) <|
      .field restores_optionalText <|
      .field (restores_required (restores_choice _ _)) <|
      .field (restores_kindsField fun _ => rfl) <|
      .field restores_optionalText <|
      .field (restores_required restores_logic) <|
      .field (restores_required restores_text) <|
      .field (restores_defaulted (restores_choice _ _) ⟨.text "ERROR", rfl⟩) <|
      .field (restores_defaulted restores_bool ⟨.bool true, rfl⟩) .done)
    (by decide) (fun _ => rfl) (fun _ => rfl) (fun _ => rfl)
    fun _ h => ⟨trivial, trivial, trivial, trivial, trivial, h, trivial, trivial, trivial, trivial⟩

namespace Changes

def Storable (c : Changes) : Prop := ∀ l ∈ c.logic.toOption, l.Storable

def settled (c : Changes) : Changes :=
  ⟨Field.settled c.name, Field.settled c.description, Field.settled c.appliesTo,
    Field.settled c.field, Field.settled c.logic, Field.settled c.message, Field.settled c.severity,
    Field.settled c.isActive⟩

lemma settled_idem (c : Changes) : c.settled.settled = c.settled := by
  simp [settled]

lemma read_dump {v : Value} {c : Changes} (hv : Changes.codec.read v = .ok c) {style : Style}
    (hc : style.json → c.Storable) :
    Changes.codec.read (Changes.codec.dump style c) = .ok c.settled :=
  Schema.Restores.codec
    (.field (restores_changing restores_text neverNull_text) <|
      .field (restores_changing restores_text neverNull_text) <|
      .field (restores_changing restores_kinds neverNull_kinds) <|
      .field (restores_changing restores_text neverNull_text) <|
      .field (restores_changing restores_logic Schema.neverNull_codec) <|
      .field (restores_changing restores_text neverNull_text) <|
      .field (restores_changing (restores_choice _ _) (neverNull_choice _ _)) <|
      .field (restores_changing restores_bool neverNull_bool) .done)
    (by decide) (fun _ => rfl) hv
    fun hs => ⟨fun _ _ => trivial, fun _ _ => trivial, fun _ _ => trivial, fun _ _ => trivial, hc hs,
      fun _ _ => trivial, fun _ _ => trivial, fun _ _ => trivial, trivial⟩

end Changes

end Rule

/-! ### Findings -/

def Finding.Storable (f : Finding) : Prop := f.value.isJson

lemma restores_finding : Finding.codec.Restores Finding.Storable :=
  Schema.restores_codec
    (.field (restores_required restores_text) <|
      .field (restores_required restores_text) <|
      .field (restores_required restores_text) <|
      .field (restores_anyOrNull "value") <|
      .field (restores_defaulted (restores_choice _ _) ⟨.text "ERROR", rfl⟩) .done)
    (by decide) (fun _ => rfl) (fun _ => rfl) (fun _ => rfl)
    fun _ h => ⟨trivial, trivial, trivial, h, trivial, trivial⟩

structure Verdict.Storable (v : Verdict) : Prop where
  errors : ∀ f ∈ v.errors, f.Storable
  warnings : ∀ f ∈ v.warnings, f.Storable

lemma restores_verdict : Verdict.codec.Restores Verdict.Storable :=
  Schema.restores_codec
    (.field (restores_defaulted restores_bool ⟨.bool true, rfl⟩) <|
      .field (restores_defaulted (restores_list restores_finding) ⟨.list [], rfl⟩) <|
      .field (restores_defaulted (restores_list restores_finding) ⟨.list [], rfl⟩) .done)
    (by decide) (fun _ => rfl) (fun _ => rfl) (fun _ => rfl)
    fun _ h => ⟨trivial, h.errors, h.warnings, trivial⟩

end Crosswalk
