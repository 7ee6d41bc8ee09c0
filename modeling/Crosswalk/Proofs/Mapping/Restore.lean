import Crosswalk.Proofs.Mapping.Configuration
import Crosswalk.Proofs.Schema.Restore

/-!
Mapping rules and configurations come back from their dumps.

What a JSON text may lose of them is in their free values and in their moments. A change comes back with
what it keeps cleared, for its dump has null there.
-/

namespace Crosswalk.Mapping

open Codec Crosswalk.Field Value

/-! ### Rules -/

def Transfer.Storable (t : Transfer) : Prop := JsonTable t.parameters

lemma restores_transfer : Transfer.codec.Restores Transfer.Storable :=
  Schema.restores_codec
    (.field (restores_required restores_name) <|
      .field (restores_required restores_name) <|
      .field restores_optionalText <|
      .field (restores_defaulted (restores_table restores_any) ⟨.object [], rfl⟩) <|
      .field (restores_defaulted restores_bool ⟨.bool false, rfl⟩) .done)
    (by decide) (fun _ => rfl) (fun _ => rfl) (fun _ => rfl)
    fun _ h => ⟨trivial, trivial, trivial, h, trivial, trivial⟩

lemma restores_anyOrNull (name : String) : (anyOrNull name).Restores (fun v => v.isJson) id :=
  restores_defaulted restores_any ⟨.null, rfl⟩

def Assignment.Storable (a : Assignment) : Prop := a.value.isJson

lemma restores_assignment : Assignment.codec.Restores Assignment.Storable :=
  Schema.restores_codec
    (.field (restores_required restores_name) <| .field (restores_anyOrNull "value") .done)
    (by decide) (fun _ => rfl) (fun _ => rfl) (fun _ => rfl)
    fun _ h => ⟨trivial, h, trivial⟩

def Conditional.Storable (c : Conditional) : Prop := ∀ a ∈ c.assignments, a.Storable

lemma restores_conditional : Conditional.codec.Restores Conditional.Storable :=
  Schema.restores_codec
    (.field (restores_required restores_text) <|
      .field (restores_defaulted (restores_list restores_assignment) ⟨.list [], rfl⟩) .done)
    (by decide) (fun _ => rfl) (fun _ => rfl) (fun _ => rfl)
    fun _ h => ⟨trivial, h, trivial⟩

lemma restores_calculation : Calculation.codec.RestoresAll :=
  Schema.restores_codec
    (.field (restores_required restores_name) <|
      .field (restores_required restores_text) <|
      .field (restores_defaulted (restores_choice _ _) ⟨.text "none", rfl⟩) .done)
    (by decide) (fun _ => rfl) (fun _ => rfl) (fun _ => rfl)
    fun _ _ => ⟨trivial, trivial, trivial, trivial⟩

structure Translation.Storable (t : Translation) : Prop where
  entries : ∀ u ∈ t.entries, JsonTable u
  default : t.default.isJson

lemma restores_translation : Translation.codec.Restores Translation.Storable :=
  restores_prepared
    (Schema.restores_codec
      (.field (restores_required restores_name) <|
        .field (restores_required restores_name) <|
        .field (restores_optional (restores_table restores_any) neverNull_table) <|
        .field restores_optionalText <|
        .field (restores_anyOrNull "default_value") .done)
      (by decide) (fun _ => rfl) (fun _ => rfl) (fun _ => rfl)
      fun _ h => ⟨trivial, trivial, h.entries, trivial, h.default, trivial⟩)
    splitTableName_dump

def Default.Storable (d : Default) : Prop := d.value.isJson

lemma restores_default : Default.codec.Restores Default.Storable :=
  Schema.restores_codec
    (.field (restores_required restores_name) <|
      .field (restores_anyOrNull "value") <|
      .field (restores_defaulted (restores_choice _ _) ⟨.text "if_null", rfl⟩) .done)
    (by decide) (fun _ => rfl) (fun _ => rfl) (fun _ => rfl)
    fun _ h => ⟨trivial, h, trivial, trivial⟩

structure Rules.Storable (r : Rules) : Prop where
  transfers : ∀ t ∈ r.transfers, t.Storable
  conditionals : ∀ c ∈ r.conditionals, c.Storable
  translations : ∀ t ∈ r.translations, t.Storable
  defaults : ∀ d ∈ r.defaults, d.Storable

lemma restores_rules : Rules.codec.Restores Rules.Storable :=
  Schema.restores_codec
    (.field (restores_defaulted (restores_list restores_transfer) ⟨.list [], rfl⟩) <|
      .field (restores_defaulted (restores_list restores_conditional) ⟨.list [], rfl⟩) <|
      .field (restores_defaulted (restores_list restores_calculation) ⟨.list [], rfl⟩) <|
      .field (restores_defaulted (restores_list restores_translation) ⟨.list [], rfl⟩) <|
      .field (restores_defaulted (restores_list restores_default) ⟨.list [], rfl⟩) .done)
    (by decide) (fun _ => rfl) (fun _ => rfl) (fun _ => rfl)
    fun _ h => ⟨h.transfers, h.conditionals, fun _ _ => trivial, h.translations, h.defaults, trivial⟩

/-! ### Configurations -/

structure Configuration.Storable (c : Configuration) : Prop where
  rules : c.rules.Storable
  createdAt : c.createdAt.Storable
  updatedAt : c.updatedAt.Storable
  deletedAt : ∀ t ∈ c.deletedAt, t.Storable

lemma restores_title : titleCodec.RestoresAll := restores_boundedText 1 (some 200)

lemma restores_configuration (fresh : Fresh) :
    (Configuration.codec fresh).Restores Configuration.Storable := by
  refine Schema.restores_codec
    (.field (restores_defaulted restores_text ⟨.text fresh.id, rfl⟩) <|
      .field (restores_required restores_text) <|
      .field (restores_required restores_title) <|
      .field restores_optionalText <|
      .field (restores_required restores_text) <|
      .field (restores_required restores_text) <|
      .field (restores_required (restores_choice _ _)) <|
      .field (restores_defaulted restores_rules ⟨.object [], rfl⟩) <|
      .field restores_optionalText <|
      .field (restores_defaulted restores_bool ⟨.bool true, rfl⟩) <|
      .field (restores_defaulted (restores_integerFrom 1) ⟨.int 1, rfl⟩) <|
      .field restores_optionalText <|
      .field restores_optionalText <|
      .field (restores_defaulted restores_moment ⟨.moment fresh.now, rfl⟩) <|
      .field (restores_defaulted restores_moment ⟨.moment fresh.now, rfl⟩) <|
      .field (restores_optional restores_moment neverNull_moment) .done)
    (Schema.separate_of_names configurationFields rfl (by decide))
    (fun _ => rfl) (fun _ => rfl) (fun _ => rfl) fun _ h => ?_
  exact ⟨trivial, trivial, trivial, trivial, trivial, trivial, trivial, h.rules, trivial, trivial,
    trivial, trivial, trivial, h.createdAt, h.updatedAt, h.deletedAt, trivial⟩

def Draft.Storable (d : Draft) : Prop := d.rules.Storable

lemma restores_draft : Draft.codec.Restores Draft.Storable :=
  Schema.restores_codec
    (.field (restores_required restores_title) <|
      .field restores_optionalText <|
      .field (restores_required restores_text) <|
      .field (restores_required restores_text) <|
      .field (restores_required (restores_choice _ _)) <|
      .field (restores_defaulted restores_rules ⟨.object [], rfl⟩) <|
      .field restores_optionalText <|
      .field (restores_defaulted restores_bool ⟨.bool true, rfl⟩) .done)
    (by decide) (fun _ => rfl) (fun _ => rfl) (fun _ => rfl)
    fun _ h => ⟨trivial, trivial, trivial, trivial, trivial, h, trivial, trivial, trivial⟩

/-! ### Changes -/

namespace Changes

def Storable (c : Changes) : Prop := ∀ r ∈ c.rules.toOption, r.Storable

def settled (c : Changes) : Changes :=
  ⟨Field.settled c.name, Field.settled c.description, Field.settled c.sourceSystem,
    Field.settled c.destinationSystem, Field.settled c.rules, Field.settled c.isActive⟩

lemma settled_idem (c : Changes) : c.settled.settled = c.settled := by
  simp [settled]

lemma read_dump {v : Value} {c : Changes} (hv : Changes.codec.read v = .ok c) {style : Style}
    (hc : style.json → c.Storable) :
    Changes.codec.read (Changes.codec.dump style c) = .ok c.settled :=
  Schema.Restores.codec
    (.field (restores_changing restores_title (neverNull_boundedText 1 _)) <|
      .field (restores_changing restores_text neverNull_text) <|
      .field (restores_changing restores_text neverNull_text) <|
      .field (restores_changing restores_text neverNull_text) <|
      .field (restores_changing restores_rules neverNull_rules) <|
      .field (restores_changing restores_bool neverNull_bool) .done)
    (by decide) (fun _ => rfl) hv
    fun hs => ⟨fun _ _ => trivial, fun _ _ => trivial, fun _ _ => trivial, fun _ _ => trivial, hc hs,
      fun _ _ => trivial, trivial⟩

end Changes

end Crosswalk.Mapping
