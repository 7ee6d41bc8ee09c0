import Crosswalk.Proofs.Schema.Merge

/-!
Configurations read again.

The codecs of mapping rules are lawful, so the rules that a change sets come out of a merge as they
were read, and those that it keeps as they were kept.
-/

namespace Crosswalk

open Fallible Codec

namespace Mapping

lemma lawful_transfer : Transfer.codec.Lawful :=
  Schema.lawful_codec (by decide)
    ⟨lawful_name, lawful_name, lawful_nullable lawful_text neverNull_text, lawful_table lawful_any,
      lawful_bool, trivial⟩
    (fun _ => rfl) fun _ => rfl

lemma lawful_assignment : Assignment.codec.Lawful :=
  Schema.lawful_codec (by decide) ⟨lawful_name, lawful_any, trivial⟩ (fun _ => rfl) fun _ => rfl

lemma lawful_conditional : Conditional.codec.Lawful :=
  Schema.lawful_codec (by decide) ⟨lawful_text, lawful_list lawful_assignment, trivial⟩
    (fun _ => rfl) fun _ => rfl

lemma lawful_rounding : roundingCodec.Lawful :=
  lawful_choice _ fun x y h => by cases x <;> cases y <;> first | rfl | exact absurd h (by decide)

lemma lawful_calculation : Calculation.codec.Lawful :=
  Schema.lawful_codec (by decide) ⟨lawful_name, lawful_text, lawful_rounding, trivial⟩
    (fun _ => rfl) fun _ => rfl

def NotText (v : Value) : Prop := ∀ s, v ≠ .text s

def tableKeys : List String := ["lookup_table", "lookupTable"]

lemma splitTableName_eq {r : Table Value}
    (h : ∀ key ∈ tableKeys, ∀ v, r.get? key = some v → NotText v) :
    splitTableName (.object r) = .object r := by
  have hnone : ∀ key ∈ tableKeys, moveTableName key r = none := by
    intro key hkey
    rw [moveTableName]
    split
    · exact absurd rfl (h key hkey _ ‹_› _)
    · rfl
  rw [splitTableName, hnone _ (by simp [tableKeys]), hnone _ (by simp [tableKeys])]
  rfl

lemma gives_nullable_table : ((Codec.table .any).nullable).Gives NotText where
  dump style x := by cases x <;> simp [NotText, nullable, table]
  dumpGiven style v x := by cases x <;> simp [NotText, nullable, table]

lemma tableKeys_ne : ∀ key ∈ tableKeys,
    ∀ n ∈ ["source_field", "destination_field", "lookup_table_ref", "default_value"],
      key ≠ n ∧ key ≠ Text.camelCase n := by decide

lemma splitTableName_dump (style : Style) (l : Translation) :
    splitTableName (Translation.codec.dump style l) = Translation.codec.dump style l := by
  refine splitTableName_eq fun key hkey v h => Schema.gives_of_dump h ?_
  exact ⟨.inl (tableKeys_ne key hkey _ (by simp)), .inl (tableKeys_ne key hkey _ (by simp)),
    .inr gives_nullable_table, .inl (tableKeys_ne key hkey _ (by simp)),
    .inl (tableKeys_ne key hkey "default_value" (by simp)), trivial⟩

lemma lawful_translation : Translation.codec.Lawful := by
  have htable : ((Codec.table .any).nullable).Lawful :=
    lawful_nullable (lawful_table lawful_any) neverNull_table
  refine lawful_prepared (Schema.lawful_codec (by decide)
    ⟨lawful_name, lawful_name, htable, lawful_nullable lawful_text neverNull_text, lawful_any, trivial⟩
    (fun _ => rfl) fun _ => rfl) splitTableName_dump fun style v x => ?_
  refine splitTableName_eq fun key hkey w h => Schema.gives_of_dumpGiven h ?_
  exact ⟨.inl (tableKeys_ne key hkey _ (by simp)), .inl (tableKeys_ne key hkey _ (by simp)),
    .inr gives_nullable_table, .inl (tableKeys_ne key hkey _ (by simp)),
    .inl (tableKeys_ne key hkey "default_value" (by simp)), trivial⟩

lemma lawful_defaultPolicy : DefaultPolicy.codec.Lawful :=
  lawful_choice _ fun x y h => by cases x <;> cases y <;> first | rfl | exact absurd h (by decide)

lemma lawful_default : Default.codec.Lawful :=
  Schema.lawful_codec (by decide) ⟨lawful_name, lawful_any, lawful_defaultPolicy, trivial⟩
    (fun _ => rfl) fun _ => rfl

lemma lawful_rules : Rules.codec.Lawful :=
  Schema.lawful_codec (by decide)
    ⟨lawful_list lawful_transfer, lawful_list lawful_conditional, lawful_list lawful_calculation,
      lawful_list lawful_translation, lawful_list lawful_default, trivial⟩
    (fun _ => rfl) fun _ => rfl

lemma neverNull_rules : Rules.codec.NeverNull := Schema.neverNull_codec

lemma lawful_title : titleCodec.Lawful := lawful_boundedText 1 (some 200)

lemma lawful_kind : RecordKind.codec.Lawful :=
  lawful_choice _ fun x y h => by cases x <;> cases y <;> first | rfl | exact absurd h (by decide)

def configurationFields : List String :=
  ["id", "tenant_id", "name", "description", "source_system", "destination_system", "mapping_type",
    "mapping_rules", "template_id", "is_active", "version", "created_by", "updated_by", "created_at",
    "updated_at", "deleted_at"]

/-- What is read of a configuration with changes put over it is its next version. -/
theorem Configuration.update_of_merge {old c : Configuration} {data : Value} {changes : Changes}
    {fresh : Fresh} {user : Option String} (hdata : Changes.codec.read data = .ok changes)
    (h : old.merge data changes fresh user = .ok c) :
    old.update changes fresh.now user = .ok c := by
  have hoptional := lawful_nullable lawful_text neverNull_text
  -- the merged data is read field by field, each with its change put over it
  obtain ⟨r, ⟨n, d, s, e, ru, a, ⟨⟩⟩,
      ⟨i', t', n', d', s', e', k', ru', p', a', v', c', u', ca', ua', da', ⟨⟩⟩, hread, rfl, hover,
      rfl⟩ :=
    Schema.readOver_of_merge hdata h
      (Schema.separate_of_names configurationFields rfl (by decide))
      ⟨lawful_text, lawful_text, lawful_title, hoptional, lawful_text, lawful_text, lawful_kind,
        lawful_rules, hoptional, lawful_bool, lawful_integerFrom 1, hoptional, hoptional,
        lawful_moment, lawful_moment, lawful_nullable lawful_moment neverNull_moment, trivial⟩
      (fun _ => rfl) (by simp [Table.keys]) (by simp [Table.keys])
  obtain ⟨hn, hd, hs, he, hru, ha, -⟩ := by simpa only [Schema.read_field_eq_ok] using hread
  -- what each of the six fields becomes that a change may name
  have hname := Field.readOver_required (f := .required "name" titleCodec)
    (Field.patches_changing lawful_title (neverNull_boundedText 1 _) hn) rfl rfl old.name
  have hdescription := Field.readOver_optional (f := .optional "description" text)
    (Field.patches_changing lawful_text neverNull_text hd) rfl old.description
  have hsource := Field.readOver_required (f := .required "source_system" text)
    (Field.patches_changing lawful_text neverNull_text hs) rfl rfl old.sourceSystem
  have hdestination := Field.readOver_required (f := .required "destination_system" text)
    (Field.patches_changing lawful_text neverNull_text he) rfl rfl old.destinationSystem
  have hrules := Field.readOver_required (f := .defaulted "mapping_rules" Rules.codec .empty)
    (Field.patches_changing lawful_rules neverNull_rules hru) rfl rfl old.rules
  have hactive := Field.readOver_required (f := .defaulted "is_active" .bool true)
    (Field.patches_changing lawful_bool neverNull_bool ha) rfl rfl old.isActive
  simp only [Schema.readOver_field_eq_ok, Schema.get?_dumpGiven, Table.get?_append,
    Table.get?_cons] at hover
  simp only [Field.required_name, Field.defaulted_name, Field.optional_name, Field.changing_name,
    Field.defaulted_codec, Field.optional_codec, Field.readOver_none, Field.readOver_some,
    Schema.dumpGiven_done, Schema.readOver_done, Table.get?_nil, String.reduceEq, ↓reduceIte,
    Option.or_self, Option.or_none, Option.none_or, Option.or_some, Option.getD_none,
    Except.ok.injEq, Reading.under_eq_ok, and_true,
    hname, hdescription, hsource, hdestination, hrules, hactive] at hover
  obtain ⟨rfl, rfl, hn', rfl, hs', he', rfl, hru', rfl, ha', hv', rfl, hu', rfl, hua', rfl⟩ := hover
  -- the version, the user and the moment are always set
  obtain rfl : old.version + 1 = v' := Except.ok.inj (integerFrom_eq_ok.1 hv').1
  obtain rfl : u' = user := hoptional.faithful rfl hu'
  obtain rfl : fresh.now = ua' := Except.ok.inj hua'
  simp [Configuration.update, hn', hs', he', hru', ha', Reading.both]

lemma Configuration.rules_of_update {old c : Configuration} {changes : Changes} {now : Moment}
    {user : Option String} (h : old.update changes now user = .ok c) :
    changes.rules = .set c.rules ∨ c.rules = old.rules := by
  obtain ⟨name, ⟨⟨source, destination⟩, rules, isActive⟩, -, hcontent, rfl⟩ :=
    Reading.both_eq_ok.1 h
  obtain ⟨-, hcontent⟩ := Reading.pair_eq_ok.1 hcontent
  obtain ⟨hrules, -⟩ := Reading.pair_eq_ok.1 hcontent
  rcases hr : changes.rules with _ | _ | q
  · rw [hr] at hrules
    exact .inr (Except.ok.inj hrules).symm
  · rw [hr] at hrules
    cases hrules
  · rw [hr] at hrules
    exact .inl (congrArg Change.set (Except.ok.inj hrules))

end Mapping

end Crosswalk
