import Crosswalk.Proofs.Service.History

/-!
Operations while no audit event can be written.

What an operation answers and what else it keeps does not depend on the events that are kept, nor on
whether an event can be written. To say so, events are erased: a step without audit, from a state
whose events are erased, is the step with its events erased. Two runs of the same operations agree
with one run of erased states, and so with each other.
-/

namespace Crosswalk

open Mapping (Configuration)

namespace Store

def silent (s : Store) : Store := { s with events := [] }

/-- Two stores that keep the same configurations, rules and logs. -/
structure SameButEvents (s s' : Store) : Prop where
  configurations : s.configurations = s'.configurations
  rules : s.rules = s'.rules
  logs : s.logs = s'.logs

variable (s : Store)

lemma sameButEvents_of_silent {s s' : Store} (h : s.silent = s'.silent) : s.SameButEvents s' := by
  obtain ⟨hc, hr, hl, -⟩ := Store.mk.inj h
  exact ⟨hc, hr, hl⟩

lemma insertConfiguration_silent (c : Configuration) :
    s.silent.insertConfiguration c = (s.insertConfiguration c).map silent := by
  rw [insertConfiguration, insertConfiguration, apply_ite (Except.map silent)]
  rfl

lemma replaceConfiguration_silent (c : Configuration) :
    s.silent.replaceConfiguration c = (s.replaceConfiguration c).map silent := by
  rw [replaceConfiguration, replaceConfiguration, apply_ite (Except.map silent)]
  rfl

lemma replaceRule_silent (r : Rule) : s.silent.replaceRule r = (s.replaceRule r).map silent := by
  rw [replaceRule, replaceRule, apply_ite (Except.map silent)]
  rfl

end Store

namespace Service

/-- The circumstances with an audit trail that refuses every event. -/
def Circumstances.unaudited (c : Circumstances) : Circumstances := { c with auditWorks := false }

def Environment.unaudited (e : Environment) : Environment := ⟨e.toCircumstances.unaudited, e.readers⟩

def State.silent (st : State) : State := { st with store := st.store.silent }

/-- How an operation ends, with the events of the store after it erased. -/
def silentEnd {α : Type} (r : α × Store) : α × Store := (r.1, r.2.silent)

variable {α : Type} (e : Environment) (s : Store)

/-! ### Operations -/

lemma audit_silent (x : Audit.Event) : e.unaudited.audit s.silent x = (e.audit s x).silent := by
  have h : e.unaudited.audit s.silent x = s.silent := rfl
  rw [h, Environment.audit]
  split <;> rfl

lemma ending_silent (a : Answer) (y : Except Failure Audit.Event) :
    ending e.unaudited s.silent a y = silentEnd (ending e s a y) := by
  rcases y with f | x
  · rfl
  · exact congrArg (Prod.mk _) (audit_silent e s x)

lemma keeping_silent {entity : Except Failure α} {write : α → Store → Except Fault Store}
    {event : α → Except Failure Audit.Event} {answer : α → Answer}
    (hwrite : ∀ x, write x s.silent = (write x s).map Store.silent) :
    keeping e.unaudited s.silent entity write event answer =
      silentEnd (keeping e s entity write event answer) := by
  rcases entity with f | x
  · rfl
  · simp only [keeping, hwrite]
    rcases write x s with g | u
    · rfl
    · exact ending_silent e u _ _

lemma runBatch_fst_silent (t : Mapping.Tally) (id : String) (tenant : Option String)
    (inputs : List Value) (options : Batch.Options) :
    (runBatch e.unaudited s.silent t id tenant inputs options).1 =
      silentEnd (runBatch e s t id tenant inputs options).1 := by
  have hprepare : prepare e.unaudited s.silent id tenant inputs.length =
      prepare e s id tenant inputs.length := rfl
  rw [runBatch_fst, runBatch_fst, hprepare]
  rcases prepare e s id tenant inputs.length with f | c
  · rfl
  · have hverdicts : verdictsOn e.unaudited s.silent tenant c options inputs =
        verdictsOn e s tenant c options inputs := rfl
    dsimp only
    rw [hverdicts]
    rcases verdictsOn e s tenant c options inputs with g | vs
    · rfl
    · refine congrArg (Prod.mk _) ?_
      unfold storeAfter
      split
      · rfl
      · exact audit_silent e (s.addLog _) _

lemma runBatch_snd_silent (t : Mapping.Tally) (id : String) (tenant : Option String)
    (inputs : List Value) (options : Batch.Options) :
    (runBatch e.unaudited s.silent t id tenant inputs options).2 =
      (runBatch e s t id tenant inputs options).2 := by
  have hprepare : prepare e.unaudited s.silent id tenant inputs.length =
      prepare e s id tenant inputs.length := rfl
  rw [runBatch, runBatch, hprepare]
  rcases prepare e s id tenant inputs.length with f | c <;> rfl

lemma perform_fst_silent (t : Mapping.Tally) (op : Operation) :
    (perform e.unaudited s.silent t op).1 = silentEnd (perform e s t op).1 := by
  -- no operation reads the events, so without them it makes and writes the same
  cases op with
  | createMapping data tenant user =>
    rw [perform, perform, run_createMapping, run_createMapping]
    dsimp only
    exact keeping_silent e s fun c => s.insertConfiguration_silent c
  | updateMapping id data tenant user =>
    rw [perform, perform, run_updateMapping, run_updateMapping]
    dsimp only
    exact keeping_silent e s fun p => s.replaceConfiguration_silent p.2
  | deleteMapping id tenant user =>
    rw [perform, perform, run_deleteMapping, run_deleteMapping]
    dsimp only
    exact keeping_silent e s fun old => s.replaceConfiguration_silent _
  | activateMapping id tenant user =>
    rw [perform, perform, run_setActive, run_setActive]
    dsimp only
    exact keeping_silent e s fun old => s.replaceConfiguration_silent _
  | deactivateMapping id tenant user =>
    rw [perform, perform, run_setActive, run_setActive]
    dsimp only
    exact keeping_silent e s fun old => s.replaceConfiguration_silent _
  | getMapping id tenant => rfl
  | listMappings tenant kind includeInactive => rfl
  | createRule data tenant user =>
    rw [perform, perform, run_createRule, run_createRule]
    dsimp only
    exact keeping_silent e s fun r => rfl
  | updateRule id data tenant user =>
    rw [perform, perform, run_updateRule, run_updateRule]
    dsimp only
    exact keeping_silent e s fun p => s.replaceRule_silent p.2
  | deleteRule id tenant user =>
    rw [perform, perform, run_deleteRule, run_deleteRule]
    dsimp only
    exact keeping_silent e s fun old => s.replaceRule_silent _
  | listRules tenant kind => rfl
  | executionLogs id tenant limit => rfl
  | apply id tenant inputs options => exact runBatch_fst_silent e s t id tenant inputs options
  | testMapping id tenant inputs options => exact runBatch_fst_silent e s t id tenant inputs _

lemma perform_silent (t : Mapping.Tally) (op : Operation) : perform e.unaudited s.silent t op =
    (silentEnd (perform e s t op).1, (perform e s t op).2) := by
  refine Prod.ext (perform_fst_silent e s t op) ?_
  cases op with
  | apply id tenant inputs options => exact runBatch_snd_silent e s t id tenant inputs options
  | testMapping id tenant inputs options => exact runBatch_snd_silent e s t id tenant inputs _
  | _ => rfl

lemma rulesRead_silent (op : Operation) : rulesRead e.unaudited s.silent op = rulesRead e s op := by
  cases op <;> rfl

/-! ### Runs -/

/-- The operations of a run, with an audit trail that refuses every event. -/
def unaudited (ops : List (Circumstances × Operation)) : List (Circumstances × Operation) :=
  ops.map fun p => (p.1.unaudited, p.2)

variable (c : Circumstances) (st : State) (ops : List (Circumstances × Operation))

lemma unaudited_unaudited : unaudited (unaudited ops) = unaudited ops := by
  simp [unaudited, Circumstances.unaudited]

lemma take_unaudited (n : Nat) : (unaudited ops).take n = unaudited (ops.take n) :=
  List.map_take.symm

/-- **A step without audit does what it does with it**, events apart. -/
theorem step_silent (op : Operation) :
    step c.unaudited st.silent op = ((step c st op).1.silent, (step c st op).2) := by
  have henv : c.unaudited.environment st.silent.memory = (c.environment st.memory).unaudited := rfl
  have hstore : st.silent.store = st.store.silent := rfl
  simp only [step, henv, hstore, perform_silent, rulesRead_silent]
  rfl

lemma run_silent :
    run st.silent (unaudited ops) = ((run st ops).1.silent, (run st ops).2) := by
  induction ops generalizing st with
  | nil => rfl
  | cons p ops ih =>
    have hrun : run st.silent (unaudited (p :: ops)) =
        ((run (step p.1.unaudited st.silent p.2).1 (unaudited ops)).1,
          (step p.1.unaudited st.silent p.2).2 ::
            (run (step p.1.unaudited st.silent p.2).1 (unaudited ops)).2) := rfl
    rw [hrun, step_silent, ih]
    rfl

lemma run_unaudited : (run st (unaudited ops)).2 = (run st ops).2 ∧
    (run st (unaudited ops)).1.silent = (run st ops).1.silent := by
  have h := run_silent st ops
  have h' := run_silent st (unaudited ops)
  rw [unaudited_unaudited, h] at h'
  obtain ⟨hstate, hanswers⟩ := Prod.mk.inj h'
  exact ⟨hanswers.symm, hstate.symm⟩

lemma Effect.events_of_unaudited {op : Operation} {r : Except Failure Answer × Store}
    (h : Effect e s op r) (he : e.auditWorks = false) : r.2.events = s.events := by
  have hwritten : ∀ y, written e y = [] := by
    rintro (f | x)
    · rfl
    · simp [written, he]
  cases h with
  | refused => rfl
  | answered => rfl
  | made h => simp [ending_snd, hwritten, Store.putConfiguration]
  | ruled h => simp [ending_snd, hwritten, Store.putRule]
  | ran found => simp [keepRun_eq, hwritten]

lemma events_run_unaudited : (run st (unaudited ops)).1.store.events = st.store.events := by
  induction ops generalizing st with
  | nil => rfl
  | cons p ops ih =>
    have hstep := (step_effect p.1.unaudited st p.2).events_of_unaudited _ _ rfl
    exact (ih (step p.1.unaudited st p.2).1).trans hstep

/-- **Auditing is best effort.** From any start, a run of which no event can be written gives the
same answers as one of which some or all can, after every step the same configurations, rules and
logs are kept, and no event has been added. -/
theorem audit_bestEffort :
    (run st (unaudited ops)).2 = (run st ops).2 ∧
      ∀ n, (run st ((unaudited ops).take n)).1.store.SameButEvents (run st (ops.take n)).1.store ∧
        (run st ((unaudited ops).take n)).1.store.events = st.store.events := by
  refine ⟨(run_unaudited st ops).1, fun n => ?_⟩
  rw [take_unaudited]
  have hstate := (run_unaudited st (ops.take n)).2
  exact ⟨Store.sameButEvents_of_silent (congrArg State.store hstate),
    events_run_unaudited st (ops.take n)⟩

end Service

end Crosswalk
