import Crosswalk.Proofs.Service.History

/-!
What is left of an operation that fails.

An operation that fails before it has kept anything leaves the store as it was. There is one other
way to fail: the event of an entity cannot be made, because a free value in it goes too deep for a
row. The entity has been kept by then, and nothing else has.
-/

namespace Crosswalk.Service

open Mapping (Configuration)
open Fallible

variable {e : Environment} {s : Store} {op : Operation}

def isDeepConfiguration (c : Configuration) : Bool := (Configuration.codec .unused).isTooDeep c

def isDeepRule (r : Rule) : Bool := (Rule.codec .unused).isTooDeep r

/-- The store after an operation that has kept an entity without an event of it. -/
inductive LeftBehind (e : Environment) (s : Store) (op : Operation) : Store → Prop where
  | configuration {old : Option Configuration} {c : Configuration} (h : Makes e s op old c)
      (deep : old.any isDeepConfiguration ∨ isDeepConfiguration c) :
      LeftBehind e s op (s.putConfiguration c)
  | rule {old : Option Rule} {r : Rule} (h : MakesRule e s op old r)
      (deep : old.any isDeepRule ∨ isDeepRule r) : LeftBehind e s op (s.putRule r)

/-! ### Events that cannot be made -/

lemma rowOf_eq_error {α : Type} {k : Codec α} {x : α} {f : Failure} (h : rowOf k x = .error f) :
    k.isTooDeep x := by
  unfold rowOf Codec.row at h
  by_cases hx : k.isTooDeep x
  · exact hx
  · simp [hx] at h

def rowIfAny {α : Type} (k : Codec α) : Option α → Except Failure (Option (Table Value))
  | none => .ok none
  | some x => some <$> rowOf k x

lemma deep_of_rowIfAny {α : Type} {k : Codec α} {x : Option α} {f : Failure}
    (h : rowIfAny k x = .error f) : x.any k.isTooDeep := by
  cases x with
  | none => cases h
  | some x => exact rowOf_eq_error (map_eq_error.1 h)

lemma deep_of_eventOf {α : Type} (k : Codec α) (old new : Option α) {tenant user : Option String}
    {action : Audit.Action} {entityType entity : String} {f : Failure}
    (h : eventOf e tenant user action entityType entity (rowIfAny k old) (rowIfAny k new) = .error f) :
    old.any k.isTooDeep ∨ new.any k.isTooDeep := by
  rcases hb : rowIfAny k old with g | b
  · exact .inl (deep_of_rowIfAny hb)
  · rcases ha : rowIfAny k new with g | a
    · exact .inr (deep_of_rowIfAny ha)
    · rw [hb, ha] at h
      cases h

lemma deep_of_eventFor {old : Option Configuration} {c : Configuration} {f : Failure}
    (h : Makes e s op old c) (hf : eventFor e op old c = .error f) :
    old.any isDeepConfiguration ∨ isDeepConfiguration c := by
  cases h with
  | create => exact deep_of_eventOf (Configuration.codec .unused) none (some _) hf
  | update => exact deep_of_eventOf (Configuration.codec .unused) (some _) (some _) hf
  | delete => exact (deep_of_eventOf (Configuration.codec .unused) (some _) none hf).imp_right nofun
  | activate => cases hf
  | deactivate => cases hf

lemma deep_of_ruleEventFor {old : Option Rule} {r : Rule} {f : Failure}
    (h : MakesRule e s op old r) (hf : ruleEventFor e op old r = .error f) :
    old.any isDeepRule ∨ isDeepRule r := by
  cases h with
  | create => exact deep_of_eventOf (Rule.codec .unused) none (some _) hf
  | update => exact deep_of_eventOf (Rule.codec .unused) (some _) (some _) hf
  | delete => exact (deep_of_eventOf (Rule.codec .unused) (some _) none hf).imp_right nofun

lemma raises_ruleEventFor (old : Option Rule) (r : Rule) :
    Raises (· = .unrecorded .tooDeep) (ruleEventFor e op old r) := by
  have hrow : ∀ r, Raises (· = .unrecorded .tooDeep) (some <$> ruleRow r) :=
    fun r => (raises_map some).2 (raises_rowOf _ r)
  unfold ruleEventFor
  split
  · exact raises_eventOf (by simp) (hrow _)
  · exact raises_eventOf (hrow _) (hrow _)
  · exact raises_eventOf (hrow _) (by simp)
  · simp

/-! ### The store after a failure -/

lemma ending_eq_error {u : Store} {a : Answer} {y : Except Failure Audit.Event} {f : Failure}
    (h : (ending e u a y).1 = .error f) : y = .error f ∧ (ending e u a y).2 = u := by
  rcases y with g | x
  · obtain rfl := Except.error.inj h
    exact ⟨rfl, rfl⟩
  · cases h

lemma Effect.of_error {r : Except Failure Answer × Store} {f : Failure} (h : Effect e s op r)
    (hf : r.1 = .error f) : if f.isUnrecorded then LeftBehind e s op r.2 else r.2 = s := by
  cases h with
  | refused plain =>
    obtain rfl := Except.error.inj hf
    simp [plain]
  | answered => cases hf
  | made h =>
    obtain ⟨hevent, hstore⟩ := ending_eq_error hf
    obtain rfl := raises_eventFor _ _ f hevent
    simp only [Failure.isUnrecorded, if_true, hstore]
    exact .configuration h (deep_of_eventFor h hevent)
  | ruled h =>
    obtain ⟨hevent, hstore⟩ := ending_eq_error hf
    obtain rfl := raises_ruleEventFor _ _ f hevent
    simp only [Failure.isUnrecorded, if_true, hstore]
    exact .rule h (deep_of_ruleEventFor h hevent)
  | ran => cases hf

/-- **An operation that fails leaves the store as it was**, or it leaves an entity behind whose event
it could not make. -/
theorem failed_step (c : Circumstances) (st : State) (op : Operation) (f : Failure)
    (h : (step c st op).2 = .error f) :
    if f.isUnrecorded then
      LeftBehind (c.environment st.memory) st.store op (step c st op).1.store
    else (step c st op).1.store = st.store :=
  (step_effect c st op).of_error h

/-- An identity that nothing has been stored under. -/
theorem failed_step_of_unknown :
    (step smallEnvironment.toCircumstances .initial (.deleteMapping "m" (some "t") none)).1.store =
      .empty := by
  have hf : (step smallEnvironment.toCircumstances .initial
      (.deleteMapping "m" (some "t") none)).2 = .error (configurationNotFound "m") := rfl
  have h := failed_step smallEnvironment.toCircumstances .initial (.deleteMapping "m" (some "t") none)
    (configurationNotFound "m") hf
  rwa [if_neg (by decide)] at h

/-! ### A default that goes too deep -/

def nested : Nat → Value
  | 0 => .null
  | n + 1 => .list [nested n]

lemma depth_nested (n : Nat) : (nested n).depth = n + 1 := by
  induction n with
  | zero => rfl
  | succ n ih => simp [nested, Value.depth, Value.depthOfAll, ih]

lemma exists_deep : ∃ v : Value, Codec.maxDepth < v.depth :=
  ⟨nested 255, by rw [depth_nested]; decide⟩

def rulesWith (v : Value) : Mapping.Rules := { Mapping.Rules.empty with defaults := [⟨"x", v, .ifNull⟩] }

def rulesDataWith (v : Value) : Value := .object
  [("default_values", .list [.object [("destination_field", .text "x"), ("value", v)]])]

def draftWith (v : Value) : Value := .object
  [("name", .text "name"), ("source_system", .text "a"), ("destination_system", .text "b"),
    ("mapping_type", .text "CONTRIBUTION"), ("mapping_rules", rulesDataWith v)]

def configurationWith (v : Value) : Configuration :=
  { smallConfiguration with
    id := "x"
    rules := rulesWith v
    createdAt := smallEnvironment.now.atUtc
    updatedAt := smallEnvironment.now.atUtc }

lemma newConfiguration_draftWith (m : Memory) (v : Value) :
    newConfiguration (smallEnvironment.toCircumstances.environment m) (draftWith v) (some "t") none =
      .ok (configurationWith v) := by
  rfl

@[simp] lemma depth_leaf {α : Type} (read : Value → Reading α) (dump : Style → α → Value) (x : α) :
    (Codec.leaf read dump).depth x = 0 := rfl

@[simp] lemma depth_nullable_leaf {α : Type} (read : Value → Reading α) (dump : Style → α → Value)
    (x : Option α) : (Codec.leaf read dump).nullable.depth x = 0 := by
  cases x <;> rfl

lemma depth_configuration (fresh : Fresh) (c : Configuration) :
    (Configuration.codec fresh).depth c = Mapping.Rules.codec.depth c.rules := by
  simp [Configuration.codec, Schema.codec, Schema.depth, Field.required, Field.optional,
    Field.defaulted, Codec.text, Mapping.titleCodec, Codec.boundedText, RecordKind.codec, Codec.choice,
    Codec.bool, Codec.integerFrom, Codec.moment]

lemma depth_rulesWith (v : Value) : Mapping.Rules.codec.depth (rulesWith v) = v.depth := by
  simp [Mapping.Rules.codec, rulesWith, Mapping.Rules.empty, Schema.codec, Schema.depth,
    Field.required, Field.defaulted, Codec.list, Codec.deepest, Mapping.Default.codec, Codec.name,
    Codec.boundedText, Mapping.anyOrNull, Codec.any, Mapping.DefaultPolicy.codec, Codec.choice]

lemma isDeep_of_rules {c : Configuration} {v : Value} (hc : c.rules = rulesWith v)
    (hv : Codec.maxDepth < v.depth) : isDeepConfiguration c := by
  have hd : (Configuration.codec .unused).depth c = v.depth := by
    rw [depth_configuration, hc, depth_rulesWith]
  simpa [isDeepConfiguration, Codec.isTooDeep, hd] using hv

lemma configurationRow_of_deep {c : Configuration} (h : isDeepConfiguration c) :
    configurationRow c = .error (.unrecorded .tooDeep) := by
  unfold configurationRow rowOf Codec.row
  rw [if_pos (by exact h)]

lemma keeping_of_error {α : Type} {entity : Except Failure α} {write : α → Store → Except Fault Store}
    {event : α → Except Failure Audit.Event} {answer : α → Answer} {x : α} {u : Store} {f : Failure}
    (hx : entity = .ok x) (hu : write x s = .ok u) (hf : event x = .error f) :
    keeping e s entity write event answer = (.error f, u) := by
  simp only [keeping, hx, hu, hf]
  rfl

def creationWith (v : Value) : Operation := .createMapping (draftWith v) (some "t") none

lemma step_creationWith {v : Value} (hv : Codec.maxDepth < v.depth) :
    ((step smallEnvironment.toCircumstances .initial (creationWith v)).2,
        (step smallEnvironment.toCircumstances .initial (creationWith v)).1.store) =
      (.error (.unrecorded .tooDeep), Store.empty.putConfiguration (configurationWith v)) := by
  have hrow := configurationRow_of_deep (isDeep_of_rules (c := configurationWith v) rfl hv)
  rw [step_eq, creationWith, perform, run_createMapping]
  dsimp only
  have hnew := newConfiguration_draftWith State.initial.memory v
  refine keeping_of_error hnew ?_ ?_
  · exact Store.insertConfiguration_eq_ok.2 ⟨rfl, rfl⟩
  · rw [eventFor, hrow]
    rfl

/-- An operation may fail after it has kept a configuration. -/
theorem failed_creation_keeps :
    ¬ ∀ (ops : List (Circumstances × Operation)) (c : Circumstances) (op : Operation) (f : Failure),
      (step c (run .initial ops).1 op).2 = .error f →
        (step c (run .initial ops).1 op).1.store = (run .initial ops).1.store := by
  intro h
  obtain ⟨v, hv⟩ := exists_deep
  obtain ⟨hfails, hkeeps⟩ := Prod.mk.inj (step_creationWith hv)
  have hsame := h [] smallEnvironment.toCircumstances (creationWith v) _ hfails
  have hrun : (run .initial []).1 = .initial := rfl
  rw [hrun, hkeeps] at hsame
  have hcount := congrArg (fun s => s.configurations.length) hsame
  exact absurd hcount Nat.one_ne_zero

end Crosswalk.Service
