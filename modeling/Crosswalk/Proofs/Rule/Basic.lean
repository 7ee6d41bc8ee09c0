import Crosswalk.Proofs.Schema.Merge
import Crosswalk.Rule.Basic

/-!
Validation rules read again.

The logic that a change sets comes out of a merge as it was read, and one that it keeps as it was kept.
A name must not be empty then, and kinds that are cleared are all kinds.
-/

namespace Crosswalk.Rule

open Fallible Codec

lemma Operator.name_injective : Function.Injective Operator.name := by
  intro x y h
  cases x <;> cases y <;> first | rfl | exact absurd h (by decide)

lemma Category.name_injective : Function.Injective Category.name := by
  intro x y h
  cases x <;> cases y <;> first | rfl | exact absurd h (by decide)

lemma severityName_injective : Function.Injective Severity.name := by
  intro x y h
  cases x <;> cases y <;> first | rfl | exact absurd h (by decide)

lemma lawful_logic : Logic.codec.Lawful :=
  Schema.lawful_codec (by decide)
    ⟨lawful_choice _ Operator.name_injective, lawful_nullable lawful_text neverNull_text, lawful_any,
      lawful_nullable lawful_float neverNull_float, lawful_nullable lawful_float neverNull_float,
      lawful_nullable lawful_text neverNull_text,
      lawful_nullable (lawful_list lawful_any) neverNull_list, trivial⟩
    (fun _ => rfl) fun _ => rfl

lemma lawful_severity : Severity.codec.Lawful := lawful_choice _ severityName_injective

lemma lawful_kinds : kindsCodec.Lawful := lawful_list lawful_text

lemma neverNull_kinds : kindsCodec.NeverNull := neverNull_list

lemma lawful_preparedKinds : (kindsCodec.prepared listOfOneOrAll).Lawful :=
  lawful_prepared lawful_kinds (fun _ _ => rfl) fun _ _ _ => rfl

@[simp] lemma kindsField_name (prepare : Value → Value) : (kindsField prepare).name = "applies_to" :=
  rfl

variable {o : Option Value}

lemma readOver_name {x : Change String} (h : Field.Patches text x o) (old : String) :
    (Field.required "name" Codec.name).readOver o old = changedName old x := by
  cases h with
  | keep => rfl
  | clear => rfl
  | @set s v ne read =>
    obtain ⟨rfl, -⟩ := boundedText_eq_ok.1 read
    rfl

lemma listOfOneOrAll_of_read {v : Value} {ks : List String} (h : kindsCodec.read v = .ok ks) :
    listOfOneOrAll v = v := by
  obtain ⟨vs, hvs, -⟩ := list_eq_ok.1 h
  cases v <;> first | rfl | cases hvs

lemma readOver_kinds {x : Change (List String)} (h : Field.Patches kindsCodec x o)
    (old : List String) : (kindsField listOfOneOrAll).readOver o old =
      .ok ((x.onOptional (some old)).getD [everyKind]) := by
  cases h with
  | keep => rfl
  | clear => rfl
  | @set ks v ne read =>
    have hread : (kindsField listOfOneOrAll).codec.read v = kindsCodec.read v :=
      congrArg kindsCodec.read (listOfOneOrAll_of_read read)
    rw [Field.readOver_some, hread, read]
    rfl

def fields : List String :=
  ["id", "tenant_id", "name", "description", "rule_type", "applies_to", "field", "rule_logic",
    "error_message", "severity", "is_active", "created_at", "updated_at"]

/-- What is read of a rule with changes put over it is the rule with the changes. -/
theorem update_of_merge {old q : Rule} {data : Value} {changes : Changes} {fresh : Fresh}
    (hdata : Changes.codec.read data = .ok changes) (h : old.merge data changes fresh = .ok q) :
    old.update changes fresh.now = .ok q := by
  have hoptional := lawful_nullable lawful_text neverNull_text
  obtain ⟨hmerge, htarget⟩ := checked_eq_ok.1 h
  -- the merged data is read field by field, each with its change put over it
  obtain ⟨r, ⟨n, d, a, f, l, m, s, act, ⟨⟩⟩,
      ⟨i', t', n', d', k', a', f', l', m', s', act', ca', ua', ⟨⟩⟩, hread, rfl, hover, rfl⟩ :=
    Schema.readOver_of_merge hdata hmerge
      (Schema.separate_of_names fields rfl (by decide))
      ⟨lawful_text, hoptional, lawful_name, hoptional, lawful_choice _ Category.name_injective,
        lawful_preparedKinds, hoptional, lawful_logic, lawful_text, lawful_severity, lawful_bool,
        lawful_moment, lawful_moment, trivial⟩
      (fun _ => rfl) (by simp [Table.keys]) (by simp [Table.keys])
  obtain ⟨hn, hd, ha, hf, hl, hm, hs, hact, -⟩ := by
    simpa only [Schema.read_field_eq_ok] using hread
  -- what each of the eight fields becomes that a change may name
  have hname := readOver_name (Field.patches_changing lawful_text neverNull_text hn) old.name
  have hdescription := Field.readOver_optional (f := .optional "description" text)
    (Field.patches_changing lawful_text neverNull_text hd) rfl old.description
  have hkinds := readOver_kinds (Field.patches_changing lawful_kinds neverNull_kinds ha) old.appliesTo
  have hfield := Field.readOver_optional (f := .optional "field" text)
    (Field.patches_changing lawful_text neverNull_text hf) rfl old.field
  have hlogic := Field.readOver_required (f := .required "rule_logic" Logic.codec)
    (Field.patches_changing lawful_logic Schema.neverNull_codec hl) rfl rfl old.logic
  have hmessage := Field.readOver_required (f := .required "error_message" text)
    (Field.patches_changing lawful_text neverNull_text hm) rfl rfl old.message
  have hseverity := Field.readOver_required (f := .defaulted "severity" Severity.codec .error)
    (Field.patches_changing lawful_severity (neverNull_choice _ _) hs) rfl rfl old.severity
  have hactive := Field.readOver_required (f := .defaulted "is_active" .bool true)
    (Field.patches_changing lawful_bool neverNull_bool hact) rfl rfl old.isActive
  simp only [Schema.readOver_field_eq_ok, Schema.get?_dumpGiven, Table.get?_append,
    Table.get?_cons] at hover
  simp only [Field.required_name, Field.defaulted_name, Field.optional_name, Field.changing_name,
    kindsField_name, Field.defaulted_codec, Field.readOver_none, Field.readOver_some,
    Schema.dumpGiven_done, Schema.readOver_done, Table.get?_nil, String.reduceEq, ↓reduceIte,
    Option.or_self, Option.or_none, Option.none_or, Option.or_some, Option.getD_none,
    Except.ok.injEq, Reading.under_eq_ok, and_true,
    hname, hdescription, hkinds, hfield, hlogic, hmessage, hseverity, hactive] at hover
  obtain ⟨rfl, rfl, hn', rfl, rfl, rfl, rfl, hl', hm', hs', hact', rfl, hua'⟩ := hover
  obtain rfl : fresh.now = ua' := Except.ok.inj hua'
  simp only [update, hn', hl', hm', hs', hact', Reading.both]
  -- reading has checked the rule as a whole, and so does the update
  exact if_pos htarget

end Crosswalk.Rule
