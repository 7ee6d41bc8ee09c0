import Mathlib.Data.List.Induction
import Crosswalk.Proofs.Readers
import Crosswalk.Proofs.Service.Version
import Crosswalk.Service.Step

/-!
What a run of the service leaves.

Every step comes to one of the ends that an operation has, so what every end preserves holds of the
store after any run. The store is sound in this sense. What a step does to the configuration of one
identity is of two kinds: it makes it, or it leaves it with its events up to those of runs.

The history of a run has its operations with what they answered.
-/

namespace Crosswalk.Service

open Mapping (Configuration)
open Fallible

/-! ### Runs -/

lemma step_eq (c : Circumstances) (st : State) (op : Operation) :
    ((step c st op).2, (step c st op).1.store) =
      (perform (c.environment st.memory) st.store st.tally op).1 := rfl

lemma step_effect (c : Circumstances) (st : State) (op : Operation) :
    Effect (c.environment st.memory) st.store op ((step c st op).2, (step c st op).1.store) := by
  rw [step_eq]
  exact effect (c.environment st.memory) st.store st.tally op

lemma run_singleton (p : Circumstances × Operation) (st : State) :
    (run st [p]).1 = (step p.1 st p.2).1 := rfl

lemma run_append (xs ys : List (Circumstances × Operation)) (st : State) :
    run st (xs ++ ys) =
      ((run (run st xs).1 ys).1, (run st xs).2 ++ (run (run st xs).1 ys).2) := by
  induction xs generalizing st with
  | nil => rfl
  | cons p xs ih =>
    have hxs := ih (step p.1 st p.2).1
    calc run st (p :: xs ++ ys)
        = ((run (step p.1 st p.2).1 (xs ++ ys)).1,
            (step p.1 st p.2).2 :: (run (step p.1 st p.2).1 (xs ++ ys)).2) := rfl
      _ = _ := by rw [hxs]; rfl

lemma run_snoc (ops : List (Circumstances × Operation)) (p : Circumstances × Operation) (st : State) :
    (run st (ops ++ [p])).1 = (step p.1 (run st ops).1 p.2).1 := by
  rw [run_append]
  rfl

lemma run_invariant {P : State → Prop} (hstep : ∀ c st op, P st → P (step c st op).1)
    (ops : List (Circumstances × Operation)) {st : State} (h : P st) : P (run st ops).1 := by
  induction ops generalizing st with
  | nil => exact h
  | cons p ops ih => exact ih (hstep p.1 st p.2 h)

lemma memory_step (c : Circumstances) (st : State) (op : Operation) : (step c st op).1.memory =
    match rulesRead (c.environment st.memory) st.store op with
    | some rules => remember st.memory c.settings.limits rules
    | none => st.memory := rfl

lemma under_run {l : Limits} (ops : List (Circumstances × Operation))
    (h : ∀ p ∈ ops, p.1.settings.limits = l) : (run .initial ops).1.memory.Under l := by
  suffices hrun : ∀ st : State, st.memory.Under l → (run st ops).1.memory.Under l from
    hrun .initial Memory.under_empty
  induction ops with
  | nil => exact fun st hst => hst
  | cons p ops ih =>
    intro st hst
    refine ih (fun q hq => h q (List.mem_cons_of_mem p hq)) (step p.1 st p.2).1 ?_
    rw [memory_step]
    split
    · rw [remember, h p List.mem_cons_self]
      exact hst.afterReading _ _
    · exact hst

/-- An operation with its circumstances and what it answered. -/
structure Entry where
  circumstances : Circumstances
  operation : Operation
  answer : Except Failure Answer

/-- The operations of a run with what they answered. -/
def history (st : State) (ops : List (Circumstances × Operation)) : List Entry :=
  List.zipWith (fun p answer => ⟨p.1, p.2, answer⟩) ops (run st ops).2

lemma history_singleton (p : Circumstances × Operation) (st : State) :
    history st [p] = [⟨p.1, p.2, (step p.1 st p.2).2⟩] := rfl

lemma history_append (xs ys : List (Circumstances × Operation)) (st : State) :
    history st (xs ++ ys) = history st xs ++ history (run st xs).1 ys := by
  induction xs generalizing st with
  | nil => rfl
  | cons p xs ih => exact congrArg (_ :: ·) (ih (step p.1 st p.2).1)

lemma history_snoc (ops : List (Circumstances × Operation)) (p : Circumstances × Operation)
    (st : State) :
    history st (ops ++ [p]) =
      history st ops ++ [⟨p.1, p.2, (step p.1 (run st ops).1 p.2).2⟩] :=
  history_append ops [p] st

/-! ### What is written at the end of an operation -/

variable {e : Environment} {s : Store} {op : Operation} {r : Except Failure Answer × Store}
  {old : Option Configuration} {c : Configuration} {x : Audit.Event} {id : String}

/-- The events that are written of one that is to be recorded. -/
def written (e : Environment) : Except Failure Audit.Event → List Audit.Event
  | .ok x => if e.auditWorks then [x] else []
  | .error _ => []

lemma mem_written {y : Except Failure Audit.Event} (h : x ∈ written e y) : y = .ok x := by
  rcases y with f | y
  · simp [written] at h
  · by_cases ha : e.auditWorks <;> simp_all [written]

lemma audit_eq (s : Store) (x : Audit.Event) :
    e.audit s x = { s with events := s.events ++ written e (.ok x) } := by
  unfold Environment.audit written
  split
  · rfl
  · rw [List.append_nil]

lemma ending_snd (s : Store) (a : Answer) (y : Except Failure Audit.Event) :
    (ending e s a y).2 = { s with events := s.events ++ written e y } := by
  rcases y with f | x
  · exact congrArg (Store.mk _ _ _) (List.append_nil _).symm
  · exact audit_eq s x

lemma raises_rowOf {α : Type} (k : Codec α) (x : α) :
    Raises (· = .unrecorded .tooDeep) (rowOf k x) := by
  unfold rowOf Codec.row
  by_cases h : k.isTooDeep x <;> simp [h]

lemma raises_eventOf {tenant user : Option String} {action : Audit.Action}
    {entityType entity : String} {before after : Except Failure (Option (Table Value))}
    (hb : Raises (· = .unrecorded .tooDeep) before) (ha : Raises (· = .unrecorded .tooDeep) after) :
    Raises (· = .unrecorded .tooDeep) (eventOf e tenant user action entityType entity before after) :=
  raises_bind hb fun _ _ => raises_bind ha fun _ _ => by simp

lemma raises_eventFor (old : Option Configuration) (c : Configuration) :
    Raises (· = .unrecorded .tooDeep) (eventFor e op old c) := by
  have hrow : ∀ c, Raises (· = .unrecorded .tooDeep) (some <$> configurationRow c) :=
    fun c => (raises_map some).2 (raises_rowOf _ c)
  unfold eventFor
  split
  · exact raises_eventOf (by simp) (hrow _)
  · exact raises_eventOf (hrow _) (hrow _)
  · exact raises_eventOf (hrow _) (by simp)
  · exact raises_eventOf (by simp) (by simp)
  · exact raises_eventOf (by simp) (by simp)
  · simp

def logOf (e : Environment) (c : Configuration) (options : Batch.Options) (o : Batch.Outcome) :
    Execution.Log :=
  Execution.Log.ofRun e.recorder ⟨e.id, e.recordedAt.atUtc⟩ e.memory c.id c.tenant o.errors o.metrics
    e.now.atUtc (some e.finishedAt.atUtc) options.fileUpload

def runEvent (e : Environment) (c : Configuration) (options : Batch.Options) (o : Batch.Outcome) :
    Audit.Event :=
  e.event (some c.tenant) options.user .execute configurationEntity c.id none
    (some (runValues c options o))

lemma keepRun_eq (s : Store) (c : Configuration) (options : Batch.Options) (o : Batch.Outcome) :
    keepRun e s c options o =
      { s.addLog (logOf e c options o) with
        events := s.events ++ written e (.ok (runEvent e c options o)) } :=
  audit_eq (s.addLog (logOf e c options o)) (runEvent e c options o)

lemma eventOf_eq_ok {tenant user : Option String} {action : Audit.Action} {entityType entity : String}
    {before after : Except Failure (Option (Table Value))} :
    eventOf e tenant user action entityType entity before after = .ok x ↔
      ∃ b a, before = .ok b ∧ after = .ok a ∧
        e.event tenant user action entityType entity b a = x := by
  rcases before with f | b <;> rcases after with g | a <;> simp [eventOf]

/-! ### Sound stores -/

lemma Effect.sound (hs : s.Sound) (h : Effect e s op r) : r.2.Sound := by
  cases h with
  | refused => exact hs
  | answered => exact hs
  | made h =>
    rw [ending_snd]
    exact (hs.putConfiguration (h.fits hs)).withEvents _
  | ruled h =>
    rw [ending_snd]
    exact hs.putRule.withEvents _
  | ran found =>
    rw [keepRun_eq]
    obtain ⟨hget, -, -⟩ := findConfiguration_eq_ok.1 found
    have hid := hs.configurationId _ _ hget
    subst hid
    exact (hs.addLog hget rfl).withEvents _

/-- **Every store that a run leaves is sound.** -/
theorem sound_run (ops : List (Circumstances × Operation)) : (run .initial ops).1.store.Sound :=
  run_invariant (P := fun st => st.store.Sound) (fun c st op h => (step_effect c st op).sound h) ops
    Store.sound_empty

/-! ### One configuration -/

/-- Whether an operation has kept what it made: it succeeded, or only its event could not be made. -/
def kept : Except Failure Answer → Bool
  | .ok _ => true
  | .error f => f.isUnrecorded

lemma kept_ending (s : Store) (a : Answer) (old : Option Configuration) (c : Configuration) :
    kept (ending e s a (eventFor e op old c)).1 := by
  rcases h : eventFor e op old c with f | x
  · obtain rfl := raises_eventFor old c f h
    rfl
  · rfl

def IsAbout (id : String) (x : Audit.Event) : Prop :=
  x.entityType = configurationEntity ∧ x.entity = id

instance (id : String) (x : Audit.Event) : Decidable (IsAbout id x) :=
  inferInstanceAs (Decidable (_ ∧ _))

/-- Whether an operation has kept a version of a configuration. -/
def keepsVersion (id fresh : String) (op : Operation) (answer : Except Failure Answer) : Bool :=
  kept answer && op.making fresh = some id

/-- What an operation does to the configuration of an identity: it leaves it or makes it. -/
inductive OnConfiguration (e : Environment) (s : Store) (op : Operation) (id : String)
    (r : Except Failure Answer × Store) : Prop where
  | left (idle : keepsVersion id e.id op r.1 = false)
      (same : r.2.configurations.get? id = s.configurations.get? id)
      (events : ∃ xs, r.2.events = s.events ++ xs ∧ ∀ x ∈ xs, IsAbout id x → x.action = .execute)
  | made {old : Option Configuration} {c : Configuration} (h : Makes e s op old c)
      (keeps : keepsVersion id e.id op r.1 = true) (before : s.configurations.get? id = old)
      (after : r.2.configurations.get? id = some c)
      (events : r.2.events = s.events ++ written e (eventFor e op old c))
      (recorded : ∀ f, eventFor e op old c = .error f → r.1 = .error f)

lemma making_of_idle (h : op.makes = false) (fresh : String) : op.making fresh = none := by
  cases op <;> first | rfl | cases h

lemma isAbout_eventFor (hs : s.Sound) (h : Makes e s op old c) (hx : eventFor e op old c = .ok x) :
    IsAbout c.id x := by
  have hid := (h.making hs).1
  cases h <;> obtain ⟨b, a, -, -, rfl⟩ := eventOf_eq_ok.1 hx
  · exact ⟨rfl, rfl⟩
  all_goals exact ⟨rfl, Option.some.inj hid⟩

lemma entityType_ruleEventFor {old : Option Rule} {q : Rule} (h : MakesRule e s op old q)
    (hx : ruleEventFor e op old q = .ok x) : x.entityType = ruleEntity := by
  cases h <;> obtain ⟨b, a, -, -, rfl⟩ := eventOf_eq_ok.1 hx <;> rfl

lemma ending_of_error (s : Store) (a : Answer) {y : Except Failure Audit.Event} {f : Failure}
    (h : y = .error f) : (ending e s a y).1 = .error f := by
  rw [h]
  rfl

lemma Effect.onConfiguration (hs : s.Sound) (h : Effect e s op r) (id : String) :
    OnConfiguration e s op id r := by
  -- only what is made under this identity changes its configuration
  cases h with
  | refused plain => exact .left (by simp [keepsVersion, kept, plain]) rfl ⟨[], by simp, by simp⟩
  | answered idle =>
    exact .left (by simp [keepsVersion, making_of_idle idle]) rfl ⟨[], by simp, by simp⟩
  | made h =>
    rename_i old c
    obtain ⟨hmaking, hold⟩ := h.making hs
    by_cases hid : c.id = id
    · subst hid
      refine .made h ?_ hold ?_ (by rw [ending_snd]; rfl) fun f hf => ending_of_error _ _ hf
      · simp [keepsVersion, kept_ending, hmaking]
      · rw [ending_snd]
        exact (Store.get?_putConfiguration c.id).trans (if_pos rfl)
    · -- the event of another configuration is not about this one
      refine .left (by simp [keepsVersion, hmaking, hid]) ?_
        ⟨written e (eventFor e op old c), by rw [ending_snd]; rfl, ?_⟩
      · rw [ending_snd]
        exact (Store.get?_putConfiguration id).trans (if_neg (Ne.symm hid))
      · intro x hx habout
        have hc := isAbout_eventFor hs h (mem_written hx)
        exact absurd (hc.2.symm.trans habout.2) hid
  | ruled h =>
    rename_i old q
    refine .left (by simp [keepsVersion, h.making]) (by rw [ending_snd]; rfl)
      ⟨written e (ruleEventFor e op old q), by rw [ending_snd]; rfl, ?_⟩
    intro x hx habout
    -- events of rules are about no configuration, whatever their identity
    have hrule := entityType_ruleEventFor h (mem_written hx)
    exact absurd (habout.1.symm.trans hrule) (by decide)
  | ran found =>
    rename_i options c o
    refine .left (by simp [keepsVersion, Operation.making]) (by rw [keepRun_eq]; rfl)
      ⟨written e (.ok (runEvent e c options o)), by rw [keepRun_eq], ?_⟩
    -- a run has an event of the configuration, but it is one of a run
    intro x hx _
    obtain rfl := Except.ok.inj (mem_written hx)
    rfl

lemma step_onConfiguration (ops : List (Circumstances × Operation)) (c : Circumstances)
    (op : Operation) (id : String) :
    OnConfiguration (c.environment (run .initial ops).1.memory) (run .initial ops).1.store op id
      ((step c (run .initial ops).1 op).2, (step c (run .initial ops).1 op).1.store) :=
  (step_effect c _ op).onConfiguration (sound_run ops) id

end Crosswalk.Service
