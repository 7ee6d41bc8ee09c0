import Crosswalk.Proofs.Service.Application
import Crosswalk.Proofs.Store
import Crosswalk.Service.Step

/-!
What an operation does to the store.

An operation is refused, or gives an answer from what is kept, or makes one entity, or keeps the run
of a batch. `Effect` lists these ends with all that the store is afterwards, and `effect` says that
every operation comes to one of them. What else is proved of operations is read off this list.

An entity is kept before its event is made. So the event decides the answer, and not what is kept.
-/

namespace Crosswalk

open Fallible

/-- Whether an operation failed only after it had kept what it made. -/
def Failure.isUnrecorded : Failure → Bool
  | .unrecorded _ => true
  | _ => false

namespace Service

open Mapping (Configuration)

/-- The tenant for whom an operation is. -/
def Operation.tenant : Operation → Option String
  | .createMapping _ tenant _ => tenant
  | .updateMapping _ _ tenant _ => tenant
  | .deleteMapping _ tenant _ => tenant
  | .activateMapping _ tenant _ => tenant
  | .deactivateMapping _ tenant _ => tenant
  | .getMapping _ tenant => tenant
  | .listMappings tenant _ _ => tenant
  | .createRule _ tenant _ => tenant
  | .updateRule _ _ tenant _ => tenant
  | .deleteRule _ tenant _ => tenant
  | .listRules tenant _ => tenant
  | .executionLogs _ tenant _ => tenant
  | .apply _ tenant _ _ => tenant
  | .testMapping _ tenant _ _ => tenant

/-- The identity of the configuration that an operation is about. -/
def Operation.configuration? : Operation → Option String
  | .updateMapping id _ _ _ => some id
  | .deleteMapping id _ _ => some id
  | .activateMapping id _ _ => some id
  | .deactivateMapping id _ _ => some id
  | .getMapping id _ => some id
  | .executionLogs id _ _ => some id
  | .apply id _ _ _ => some id
  | .testMapping id _ _ _ => some id
  | _ => none

def Operation.makes : Operation → Bool
  | .createMapping .. | .updateMapping .. | .deleteMapping .. | .activateMapping ..
  | .deactivateMapping .. | .createRule .. | .updateRule .. | .deleteRule .. => true
  | _ => false

variable (e : Environment) (s : Store)

/-- What an operation makes of a configuration; there is none before its creation. -/
inductive Makes : Operation → Option Configuration → Configuration → Prop where
  | create {data : Value} {tenant user : Option String} {c : Configuration}
      (made : newConfiguration e data tenant user = .ok c)
      (new : s.configurations.get? c.id = none) : Makes (.createMapping data tenant user) none c
  | update {id : String} {data : Value} {tenant user : Option String} {old c : Configuration}
      (made : changedConfiguration e s id data tenant user = .ok (old, c)) :
      Makes (.updateMapping id data tenant user) (some old) c
  | delete {id : String} {tenant user : Option String} {old : Configuration}
      (found : findConfiguration s id tenant = .ok old) :
      Makes (.deleteMapping id tenant user) (some old) (deletedConfiguration e old user)
  | activate {id : String} {tenant user : Option String} {old : Configuration}
      (found : findConfiguration s id tenant = .ok old) :
      Makes (.activateMapping id tenant user) (some old) (switchedConfiguration e true old user)
  | deactivate {id : String} {tenant user : Option String} {old : Configuration}
      (found : findConfiguration s id tenant = .ok old) :
      Makes (.deactivateMapping id tenant user) (some old) (switchedConfiguration e false old user)

def switchEvent (active : Bool) (id : String) (tenant user : Option String) (old : Configuration) :
    Except Failure Audit.Event :=
  eventOf e tenant user (if active then .activate else .deactivate) configurationEntity id
    (.ok (some (activation old.isActive))) (.ok (some (activation active)))

def eventFor : Operation → Option Configuration → Configuration → Except Failure Audit.Event
  | .createMapping _ tenant user, _, c =>
    eventOf e tenant user .create configurationEntity c.id (.ok none) (some <$> configurationRow c)
  | .updateMapping id _ tenant user, some old, c =>
    eventOf e tenant user .update configurationEntity id (some <$> configurationRow old)
      (some <$> configurationRow c)
  | .deleteMapping id tenant user, some old, _ =>
    eventOf e tenant user .delete configurationEntity id (some <$> configurationRow old) (.ok none)
  | .activateMapping id tenant user, some old, _ => switchEvent e true id tenant user old
  | .deactivateMapping id tenant user, some old, _ => switchEvent e false id tenant user old
  | _, _, _ => .error (.unrecorded .tooDeep)

/-- What an operation makes of a rule; there is none before its creation. -/
inductive MakesRule : Operation → Option Rule → Rule → Prop where
  | create {data : Value} {tenant user : Option String} {r : Rule}
      (made : newRule e data tenant = .ok r) : MakesRule (.createRule data tenant user) none r
  | update {id : String} {data : Value} {tenant user : Option String} {old r : Rule}
      (made : changedRule e s id data tenant = .ok (old, r)) :
      MakesRule (.updateRule id data tenant user) (some old) r
  | delete {id : String} {tenant user : Option String} {old : Rule}
      (found : findRule s id tenant = .ok old) :
      MakesRule (.deleteRule id tenant user) (some old) (deletedRule e old)

def ruleEventFor : Operation → Option Rule → Rule → Except Failure Audit.Event
  | .createRule _ tenant user, _, r =>
    eventOf e tenant user .create ruleEntity r.id (.ok none) (some <$> ruleRow r)
  | .updateRule id _ tenant user, some old, r =>
    eventOf e tenant user .update ruleEntity id (some <$> ruleRow old) (some <$> ruleRow r)
  | .deleteRule id tenant user, some old, _ =>
    eventOf e tenant user .delete ruleEntity id (some <$> ruleRow old) (.ok none)
  | _, _, _ => .error (.unrecorded .tooDeep)

/-- How an operation ends, and the store after it. -/
inductive Effect : Operation → Except Failure Answer × Store → Prop where
  | refused {op : Operation} {f : Failure} (plain : f.isUnrecorded = false) :
      Effect op (.error f, s)
  | answered {op : Operation} {a : Answer} (idle : op.makes = false) : Effect op (.ok a, s)
  | made {op : Operation} {old : Option Configuration} {c : Configuration} (h : Makes e s op old c) :
      Effect op (ending e (s.putConfiguration c) (.configuration c) (eventFor e op old c))
  | ruled {op : Operation} {old : Option Rule} {r : Rule} (h : MakesRule e s op old r) :
      Effect op (ending e (s.putRule r) (.rule r) (ruleEventFor e op old r))
  | ran {id : String} {tenant : Option String} {inputs : List Value} {options : Batch.Options}
      {c : Configuration} {o : Batch.Outcome} (found : findConfiguration s id tenant = .ok c) :
      Effect (.apply id tenant inputs options) (.ok (.outcome o), keepRun e s c options o)

/-! ### Failing before anything is kept -/

abbrev Plain {α : Type} (x : Except Failure α) : Prop := Raises (fun f => f.isUnrecorded = false) x

variable {e s} {α : Type} {id : String} {data : Value} {tenant user : Option String}

lemma plain_ofFault (x : Except Fault α) : Plain (Failure.ofFault x) := by
  cases x <;> simp [Failure.ofFault, Failure.isUnrecorded]

lemma plain_ofReading (x : Reading α) : Plain (Failure.ofReading x) := by
  cases x <;> simp [Failure.ofReading, Failure.isUnrecorded]

lemma plain_readData (c : Codec α) (field : String) (v : Value) : Plain (readData c field v) := by
  unfold readData
  split
  · exact plain_ofReading _
  · simp [noFields, Failure.isUnrecorded]

lemma plain_readChanges (c : Codec α) (v : Value) : Plain (readChanges c v) := by
  unfold readChanges
  split
  · exact (raises_map (α := _) some).2 (plain_ofReading _)
  · simp

lemma plain_findConfiguration : Plain (findConfiguration s id tenant) := by
  unfold findConfiguration
  split <;> simp [configurationNotFound, Failure.isUnrecorded]

lemma plain_checkMappingRules (rules : Mapping.Rules) : Plain (checkMappingRules e rules) := by
  refine raises_bind (plain_ofFault _) fun review _ => ?_
  split <;> simp [invalidRules, Failure.isUnrecorded]

lemma plain_newConfiguration : Plain (newConfiguration e data tenant user) := by
  refine raises_bind (plain_readData _ _ _) fun draft _ => ?_
  exact raises_bind (plain_checkMappingRules _) fun _ _ => plain_ofReading _

lemma plain_changedConfiguration : Plain (changedConfiguration e s id data tenant user) := by
  refine raises_bind (plain_readChanges _ _) fun changes _ => ?_
  refine raises_bind plain_findConfiguration fun old _ => ?_
  split
  · simp [noFields, Failure.isUnrecorded]
  · refine raises_bind ?_ fun _ _ => raises_bind (plain_ofReading _) fun _ _ => by simp
    unfold checkChangedRules
    split
    · exact plain_checkMappingRules _
    · simp

lemma plain_checkLogic (r : Rule) : Plain (checkLogic r) := by
  refine raises_bind (plain_ofFault _) fun problems _ => ?_
  split <;> simp [invalidRules, Failure.isUnrecorded]

lemma plain_findRule : Plain (findRule s id tenant) := by
  unfold findRule
  split <;> simp [Failure.isUnrecorded]

lemma plain_newRule : Plain (newRule e data tenant) := by
  refine raises_bind (plain_readData _ _ _) fun draft _ => ?_
  refine raises_bind (plain_ofReading _) fun r _ => ?_
  exact raises_bind (plain_checkLogic r) fun _ _ => by simp

lemma plain_changedRule : Plain (changedRule e s id data tenant) := by
  refine raises_bind (plain_readChanges _ _) fun changes _ => ?_
  refine raises_bind plain_findRule fun old _ => ?_
  split
  · simp [noFields, Failure.isUnrecorded]
  · refine raises_bind (plain_ofReading _) fun r _ => ?_
    exact raises_bind (plain_checkLogic r) fun _ _ => by simp

lemma plain_prepare {size : Nat} : Plain (prepare e s id tenant size) := by
  refine raises_bind (raises_bind plain_findConfiguration fun c _ => ?_) fun c _ => ?_
  · split <;> simp [Failure.isUnrecorded]
  · dsimp only
    split <;> simp [batchTooLarge, Failure.isUnrecorded]

/-! ### The end of every operation -/

lemma keeping_effect {t : Mapping.Tally} {op : Operation} {entity : Except Failure α}
    {write : α → Store → Except Fault Store} {event : α → Except Failure Audit.Event}
    {answer : α → Answer} (hp : Plain entity)
    (hw : ∀ x u, entity = .ok x → write x s = .ok u → Effect e s op (ending e u (answer x) (event x))) :
    Effect e s op (keeping e s entity write event answer, t).1 := by
  dsimp only [keeping]
  split
  · exact .refused (hp _ rfl)
  · split
    · exact .refused rfl
    · exact hw _ _ rfl ‹_›

lemma replacing_effect {t : Mapping.Tally} {op : Operation} {entity : Except Failure α}
    {next : α → Configuration} {event : α → Except Failure Audit.Event} {answer : α → Answer}
    (hp : Plain entity)
    (hw : ∀ x, entity = .ok x →
      Effect e s op (ending e (s.putConfiguration (next x)) (answer x) (event x))) :
    Effect e s op (keeping e s entity (fun x u => u.replaceConfiguration (next x)) event answer,
      t).1 := by
  refine keeping_effect hp fun x u hx hu => ?_
  obtain ⟨-, rfl⟩ := Store.replaceConfiguration_eq_ok.1 hu
  exact hw x hx

lemma replacingRule_effect {t : Mapping.Tally} {op : Operation} {entity : Except Failure α}
    {next : α → Rule} {event : α → Except Failure Audit.Event} {answer : α → Answer}
    (hp : Plain entity)
    (hw : ∀ x, entity = .ok x → Effect e s op (ending e (s.putRule (next x)) (answer x) (event x))) :
    Effect e s op (keeping e s entity (fun x u => u.replaceRule (next x)) event answer, t).1 := by
  refine keeping_effect hp fun x u hx hu => ?_
  obtain ⟨-, rfl⟩ := Store.replaceRule_eq_ok.1 hu
  exact hw x hx

variable (e s)

lemma run_createMapping (data : Value) (tenant user : Option String) :
    (createMapping e data tenant user).run s =
      keeping e s (newConfiguration e data tenant user) (fun c u => u.insertConfiguration c)
        (eventFor e (.createMapping data tenant user) none) .configuration :=
  run_keeping e s _ _ _ _ _ _ _ _ _ _

lemma run_updateMapping (id : String) (data : Value) (tenant user : Option String) :
    (updateMapping e id data tenant user).run s =
      keeping e s (changedConfiguration e s id data tenant user)
        (fun p u => u.replaceConfiguration p.2)
        (fun p => eventFor e (.updateMapping id data tenant user) (some p.1) p.2)
        fun p => .configuration p.2 :=
  run_keeping e s _ _ _ _ _ _ _ _ _ _

lemma run_deleteMapping (id : String) (tenant user : Option String) :
    (deleteMapping e id tenant user).run s =
      keeping e s (findConfiguration s id tenant)
        (fun old u => u.replaceConfiguration (deletedConfiguration e old user))
        (fun old => eventFor e (.deleteMapping id tenant user) (some old)
          (deletedConfiguration e old user))
        fun old => .configuration (deletedConfiguration e old user) :=
  run_keeping e s _ _ _ _ _ _ _ _ _ _

lemma run_setActive (active : Bool) (id : String) (tenant user : Option String) :
    (setActive e active id tenant user).run s =
      keeping e s (findConfiguration s id tenant)
        (fun old u => u.replaceConfiguration (switchedConfiguration e active old user))
        (switchEvent e active id tenant user)
        fun old => .configuration (switchedConfiguration e active old user) :=
  run_keeping e s _ _ _ _ _ _ _ _ _ _

lemma run_createRule (data : Value) (tenant user : Option String) :
    (createRule e data tenant user).run s =
      keeping e s (newRule e data tenant) (fun r u => .ok (u.putRule r))
        (ruleEventFor e (.createRule data tenant user) none) .rule :=
  run_keeping e s _ _ _ _ _ _ _ _ _ _

lemma run_updateRule (id : String) (data : Value) (tenant user : Option String) :
    (updateRule e id data tenant user).run s =
      keeping e s (changedRule e s id data tenant) (fun p u => u.replaceRule p.2)
        (fun p => ruleEventFor e (.updateRule id data tenant user) (some p.1) p.2)
        fun p => .rule p.2 :=
  run_keeping e s _ _ _ _ _ _ _ _ _ _

lemma run_deleteRule (id : String) (tenant user : Option String) :
    (deleteRule e id tenant user).run s =
      keeping e s (findRule s id tenant) (fun old u => u.replaceRule (deletedRule e old))
        (fun old => ruleEventFor e (.deleteRule id tenant user) (some old) (deletedRule e old))
        fun old => .rule (deletedRule e old) :=
  run_keeping e s _ _ _ _ _ _ _ _ _ _

lemma runBatch_effect (t : Mapping.Tally) (id : String) (tenant : Option String)
    (inputs : List Value) (options : Batch.Options) (op : Operation) (idle : op.makes = false)
    (hop : options.dryRun ∨ op = .apply id tenant inputs options) :
    Effect e s op (runBatch e s t id tenant inputs options).1 := by
  rw [runBatch_fst]
  split
  · exact .refused (plain_prepare _ ‹_›)
  · rename_i c hc
    split
    · exact .refused rfl
    · rw [storeAfter]
      split
      · exact .answered idle
      · obtain rfl := hop.resolve_left ‹_›
        exact .ran (prepare_ok hc).1

lemma answered_of {op : Operation} {x : Except Failure Answer} (hx : Plain x)
    (idle : op.makes = false) : Effect e s op (x, s) := by
  cases x with
  | error f => exact .refused (hx f rfl)
  | ok a => exact .answered idle

/-- **Every operation comes to one of these ends.** -/
theorem effect (t : Mapping.Tally) (op : Operation) : Effect e s op (perform e s t op).1 := by
  -- an operation that keeps an entity makes it, writes it and then makes the event of it
  cases op with
  | createMapping data tenant user =>
    rw [perform, run_createMapping]
    refine keeping_effect plain_newConfiguration ?_
    intro c u hc hu
    obtain ⟨hn, rfl⟩ := Store.insertConfiguration_eq_ok.1 hu
    exact .made (.create hc hn)
  -- what is replaced was found, and its identity is in the store
  | updateMapping id data tenant user =>
    rw [perform, run_updateMapping]
    exact replacing_effect plain_changedConfiguration fun _ hp => .made (.update hp)
  | deleteMapping id tenant user =>
    rw [perform, run_deleteMapping]
    exact replacing_effect plain_findConfiguration fun _ hold => .made (.delete hold)
  | activateMapping id tenant user =>
    rw [perform, run_setActive]
    exact replacing_effect plain_findConfiguration fun _ hold => .made (.activate hold)
  | deactivateMapping id tenant user =>
    rw [perform, run_setActive]
    exact replacing_effect plain_findConfiguration fun _ hold => .made (.deactivate hold)
  -- operations that only ask leave the store as it is, whatever they answer
  | getMapping id tenant =>
    exact answered_of e s (raises_bind plain_findConfiguration fun _ _ => by simp) rfl
  | listMappings tenant kind includeInactive =>
    exact answered_of e s (raises_bind (plain_ofFault _) fun _ _ => by simp) rfl
  | createRule data tenant user =>
    rw [perform, run_createRule]
    -- a rule is written under a fresh identity, which cannot fail
    refine keeping_effect plain_newRule ?_
    intro r u hr hu
    obtain rfl := Except.ok.inj hu
    exact .ruled (.create hr)
  | updateRule id data tenant user =>
    rw [perform, run_updateRule]
    exact replacingRule_effect plain_changedRule fun _ hp => .ruled (.update hp)
  | deleteRule id tenant user =>
    rw [perform, run_deleteRule]
    exact replacingRule_effect plain_findRule fun _ hold => .ruled (.delete hold)
  | listRules tenant kind => exact .answered rfl
  | executionLogs id tenant limit =>
    refine answered_of e s ?_ rfl
    unfold executionLogs
    dsimp only
    split
    · simp [Failure.isUnrecorded]
    · -- a limit that is too small is refused before anything is looked for
      refine raises_bind plain_findConfiguration fun _ _ => ?_
      exact raises_bind (plain_ofFault _) fun _ _ => by simp
  | apply id tenant inputs options =>
    exact runBatch_effect e s t id tenant inputs options _ rfl (.inr rfl)
  | testMapping id tenant inputs options =>
    -- a test of a mapping is a dry run, which keeps nothing
    exact runBatch_effect e s t id tenant inputs _ _ rfl (.inl rfl)

end Service

end Crosswalk
