import Crosswalk.Answer
import Crosswalk.Proofs.Execution.Restore
import Crosswalk.Proofs.Rule.Restore
import Crosswalk.Proofs.Service.Unrecorded

/-!
All records come back from their dumps.

A record that has been read is read again from its dump, under either kind of keys, and so from its
row if it is storable: its free values are values of JSON and its moments are of the calendar, with
offsets of whole minutes. There is no row of free values that go too deep, and that alone can be in the
way.
-/

namespace Crosswalk

open Mapping (Transfer Assignment Conditional Calculation Translation Default Rules Configuration)
open Service (nested rulesWith rulesDataWith)

namespace Codec

variable {α : Type} (c : Codec α)

/-- The dump in a style. There is none for JSON where free values go too deep. -/
def written (style : Style) (x : α) : Except Fault Value :=
  if style.json && c.isTooDeep x then .error .tooDeep else .ok (c.dump style x)

lemma written_row (x : α) : c.written .row x = c.row x := rfl

end Codec

/-! ### Types of records -/

/-- A type of records with its codec. -/
structure RecordType where
  Carrier : Type
  codec : Codec Carrier
  /-- A JSON text can hold what is in the record. -/
  Storable : Carrier → Prop
  /-- The records are equal. Among changes, keeping a field and clearing it make no difference. -/
  Same : Carrier → Carrier → Prop

namespace RecordType

def of {α : Type} (c : Codec α) (P : α → Prop) : RecordType := ⟨α, c, P, Eq⟩

/-- A value is read as a record that is equal to `x`. -/
def ReadsAs (m : RecordType) (w : Value) (x : m.Carrier) : Prop :=
  ∃ y, m.codec.read w = .ok y ∧ m.Same y x

/-- What has been read comes back from its dumps. -/
def Restores (m : RecordType) : Prop :=
  ∀ (v : Value) (x : m.Carrier), m.codec.read v = .ok x →
    ∀ style : Style, (style.json → m.Storable x) → m.ReadsAs (m.codec.dump style x) x

lemma restores_of {α : Type} {c : Codec α} {P : α → Prop} (h : c.Restores P) : (of c P).Restores :=
  fun v x hv style hx => ⟨x, h v x hv style hx, rfl⟩

def changes : RecordType :=
  ⟨_, Mapping.Changes.codec, Mapping.Changes.Storable, fun c d => c.settled = d.settled⟩

def ruleChanges : RecordType :=
  ⟨_, Rule.Changes.codec, Rule.Changes.Storable, fun c d => c.settled = d.settled⟩

lemma restores_changes : changes.Restores := fun _ c hv _ hc =>
  ⟨c.settled, Mapping.Changes.read_dump hv hc, c.settled_idem⟩

lemma restores_ruleChanges : ruleChanges.Restores := fun _ c hv _ hc =>
  ⟨c.settled, Rule.Changes.read_dump hv hc, c.settled_idem⟩

/-- All types of records that are read from data, the settings apart. -/
def all (fresh : Fresh) : List RecordType :=
  [of Transfer.codec Transfer.Storable, of Assignment.codec Assignment.Storable,
    of Conditional.codec Conditional.Storable, of Calculation.codec fun _ => True,
    of Translation.codec Translation.Storable, of Default.codec Default.Storable,
    of Rules.codec Rules.Storable, of (Configuration.codec fresh) Configuration.Storable,
    of Mapping.Draft.codec Mapping.Draft.Storable, changes,
    of Rule.Logic.codec Rule.Logic.Storable, of (Rule.codec fresh) Rule.Storable,
    of Rule.Draft.codec Rule.Draft.Storable, ruleChanges,
    of Finding.codec Finding.Storable, of Verdict.codec Verdict.Storable,
    of Batch.Failure.codec Batch.Failure.Storable, of Batch.Warning.codec Batch.Warning.Storable,
    of Batch.Metrics.codec fun _ => True, of Batch.Outcome.codec Batch.Outcome.Storable,
    of Contribution.Totals.codec fun _ => True, of Batch.Options.codec fun _ => True,
    of (Execution.Log.codec fresh) Execution.Log.Storable,
    of Execution.Summary.codec Execution.Summary.Storable,
    of (Audit.Event.codec fresh) Audit.Event.Storable]

lemma restores_all (fresh : Fresh) : ∀ m ∈ all fresh, m.Restores := by
  simp only [all, List.forall_mem_cons]
  exact ⟨restores_of Mapping.restores_transfer, restores_of Mapping.restores_assignment,
    restores_of Mapping.restores_conditional, restores_of Mapping.restores_calculation,
    restores_of Mapping.restores_translation, restores_of Mapping.restores_default,
    restores_of Mapping.restores_rules, restores_of (Mapping.restores_configuration fresh),
    restores_of Mapping.restores_draft, restores_changes,
    restores_of Rule.restores_logic, restores_of (Rule.restores_rule fresh),
    restores_of Rule.restores_draft, restores_ruleChanges,
    restores_of restores_finding, restores_of restores_verdict,
    restores_of Batch.restores_failure, restores_of Batch.restores_warning,
    restores_of Batch.restores_metrics, restores_of Batch.restores_outcome,
    restores_of Batch.restores_totals, restores_of Batch.restores_options,
    restores_of (Execution.restores_log fresh), restores_of Execution.restores_summary,
    restores_of (Audit.restores_event fresh), nofun⟩

end RecordType

/-- **What has been read of any record is read again from its dump, as an equal record.** For JSON
it has to be storable, and its free values must not go too deep. -/
theorem dump_reads_back (fresh : Fresh) (m : RecordType) (hm : m ∈ RecordType.all fresh) (v : Value)
    (x : m.Carrier) (hv : m.codec.read v = .ok x) (style : Style)
    (hx : style.json → m.Storable x ∧ ¬ m.codec.isTooDeep x) :
    ∃ w, m.codec.written style x = .ok w ∧ m.ReadsAs w x := by
  refine ⟨m.codec.dump style x, ?_, RecordType.restores_all fresh m hm v x hv style fun hs => (hx hs).1⟩
  by_cases hs : style.json
  · rw [Codec.written, if_neg (by simp [(hx hs).2])]
  · rw [Codec.written, if_neg (by simp [hs])]

/-- The row of a translation that gives the name of its table in the place of the table. -/
theorem named_translation_reads_back :
    ∃ w, Translation.codec.row ⟨"a", "b", none, some "states", .null⟩ = .ok w ∧
      Translation.codec.read w = .ok ⟨"a", "b", none, some "states", .null⟩ := by
  obtain ⟨w, hw, y, hy, rfl⟩ := dump_reads_back .unused (.of Translation.codec Translation.Storable)
    (List.mem_of_getElem? (i := 4) rfl)
    (.object [("sourceField", .text "a"), ("destinationField", .text "b"),
      ("lookupTable", .text "states")])
    ⟨"a", "b", none, some "states", .null⟩ rfl .row fun _ => ⟨⟨nofun, rfl⟩, by decide⟩
  exact ⟨w, (Codec.written_row _ _).symm.trans hw, hy⟩

lemma isJson_nested (n : Nat) : (nested n).isJson := by
  induction n with
  | zero => rfl
  | succ n ih => simp [nested, Value.isJson, Value.areJson, ih]

lemma storable_rulesWith {v : Value} (h : v.isJson) : (rulesWith v).Storable :=
  ⟨nofun, nofun, nofun, fun d hd => by
    obtain rfl := List.mem_singleton.1 hd
    exact h⟩

/-- Rules with a default that goes too deep have no row, though a JSON text can hold them. -/
theorem deep_rules_not_restored :
    ¬ ∀ (fresh : Fresh) (m : RecordType), m ∈ RecordType.all fresh →
      ∀ (v : Value) (x : m.Carrier), m.codec.read v = .ok x → m.Storable x →
        ∃ w, m.codec.row x = .ok w ∧ m.ReadsAs w x := by
  intro h
  obtain ⟨w, hw, -⟩ := h .unused (.of Rules.codec Rules.Storable) (List.mem_of_getElem? (i := 6) rfl)
    (rulesDataWith (nested 255)) (rulesWith (nested 255)) rfl (storable_rulesWith (isJson_nested 255))
  have hdeep : Rules.codec.isTooDeep (rulesWith (nested 255)) := by
    rw [Codec.isTooDeep, Service.depth_rulesWith, Service.depth_nested]
    decide
  have hnone : Rules.codec.row (rulesWith (nested 255)) = .error .tooDeep := if_pos hdeep
  cases hnone.symm.trans hw

end Crosswalk
