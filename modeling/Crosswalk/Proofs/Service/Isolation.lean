import Crosswalk.Proofs.Service.Abort
import Crosswalk.Proofs.Service.History
import Crosswalk.Proofs.Tenancy

/-!
Isolation of tenants.

An operation for a tenant leaves the others what they have, and the global rules. Its answer, and what
the tenant has afterwards, depend only on what the tenant has before and on the global rules: nothing
tells two stores apart in which these are the same, except that a list of rules tells how the two kinds
stand among each other. Identities must be fresh for it, since a taken one is refused or replaced.

Operations in between may have had texts read and remembered. As long as the limits for texts stay, a
remembered text is read as it would be afresh, so the memory tells nothing either.
-/

namespace Crosswalk

open Fallible

namespace Store

/-- Nothing is stored under an identity. -/
structure Unused (id : String) (s : Store) : Prop where
  configuration : s.configurations.get? id = none
  rule : s.rules.get? id = none

end Store

namespace Service

open Mapping (Configuration)
open Store (Agree AgreeAfter KeepsOthers SameOrder Unused)

variable {e : Environment} {s s' : Store} {op : Operation} {old c : Configuration} {id tenant : String}
  {r r' : Except Failure Answer × Store}

/-! ### Identities -/

lemma MakesRule.replaces {old : Option Rule} {q : Rule} (hs : s.Sound) (hu : Unused e.id s)
    (h : MakesRule e s op old q) : s.rules.get? q.id = old := by
  have hplace := h.place
  rcases old with _ | old
  · rw [show q.id = e.id from hplace]
    exact hu.rule
  · obtain ⟨id, hfound, hid⟩ := hplace
    obtain ⟨hget, -⟩ := findRule_eq_ok.1 hfound
    rw [hid, hs.ruleId id old hget]
    exact hget

lemma MakesRule.fits {old : Option Rule} {q : Rule} (hs : s.Sound) (hu : Unused e.id s)
    (h : MakesRule e s op old q) : s.FitsRule q := by
  intro w hw
  rw [h.replaces hs hu] at hw
  subst hw
  obtain ⟨id, hfound, -⟩ := h.place
  exact (findRule_eq_ok.1 hfound).2.trans h.tenant_eq.symm

/-- An operation stores nothing under a new identity but its own. -/
lemma Effect.unused (hs : s.Sound) (h : Effect e s op r) (hu : Unused id s) (hid : e.id ≠ id) :
    Unused id r.2 := by
  cases h with
  | refused => exact hu
  | answered => exact hu
  | made h =>
    rename_i old c
    rw [ending_snd]
    refine ⟨?_, hu.rule⟩
    refine (Store.get?_putConfiguration id).trans ?_
    split
    · -- something is made where nothing was, which only a creation does, under the fresh identity
      rename_i heq
      subst heq
      obtain rfl : none = old := hu.configuration.symm.trans (h.making hs).2
      exact absurd h.isFirst.id.symm hid
    · exact hu.configuration
  | ruled h =>
    rename_i old q
    rw [ending_snd]
    refine ⟨hu.configuration, ?_⟩
    refine (Store.get?_putRule id).trans ?_
    split
    · rename_i heq
      subst heq
      -- a rule is made under the fresh identity, or in the place of one that was found
      rcases old with _ | old
      · exact absurd (show q.id = e.id from h.place).symm hid
      · obtain ⟨k, hfound, hq⟩ := h.place
        obtain ⟨hget, -⟩ := findRule_eq_ok.1 hfound
        have hrule := hu.rule
        rw [hq, hs.ruleId k old hget, hget] at hrule
        cases hrule
    · exact hu.rule
  | ran => rw [keepRun_eq]; exact ⟨hu.configuration, hu.rule⟩

lemma unused_run (ops : List (Circumstances × Operation)) (hops : id ∉ ops.map (·.1.id)) :
    Unused id (run .initial ops).1.store := by
  induction ops using List.reverseRecOn with
  | nil => exact ⟨rfl, rfl⟩
  | append_singleton ops p ih =>
    simp only [List.map_append, List.mem_append, List.map_cons, List.map_nil, List.mem_singleton,
      not_or] at hops
    rw [run_snoc]
    exact (step_effect p.1 _ p.2).unused (sound_run ops) (ih hops.1) (Ne.symm hops.2)

/-! ### The others -/

lemma Effect.keepsOthers (hs : s.Sound) (hu : Unused e.id s) (h : Effect e s op r)
    (hop : op.tenant = some tenant) : KeepsOthers tenant s r.2 := by
  cases h with
  | refused => exact .refl tenant s
  | answered => exact .refl tenant s
  | made h =>
    rw [ending_snd]
    have ht := Option.some.inj (h.tenant_eq.symm.trans hop)
    exact (KeepsOthers.putConfiguration hs (h.fits hs) ht).withEvents _
  | ruled h =>
    rw [ending_snd]
    exact (KeepsOthers.putRule hs (h.fits hs hu) (h.tenant_eq.trans hop)).withEvents _
  | ran found =>
    rw [keepRun_eq]
    obtain ⟨-, hc, -⟩ := findConfiguration_eq_ok.1 found
    have ht := Option.some.inj (hc.symm.trans hop)
    exact (KeepsOthers.addLog s ht).withEvents _

/-! ### What is read for a tenant -/

section

variable (h : Agree tenant s s') (hs : s.Sound) (hs' : s'.Sound)
include h hs hs'

lemma findConfiguration_agree (id : String) :
    findConfiguration s id (some tenant) = findConfiguration s' id (some tenant) := by
  rw [findConfiguration, findConfiguration, h.configuration? hs hs']

lemma findRule_agree (id : String) : findRule s id (some tenant) = findRule s' id (some tenant) := by
  rw [findRule, findRule, h.rule? hs hs']

lemma changedConfiguration_agree (id : String) (data : Value) (user : Option String) :
    changedConfiguration e s id data (some tenant) user =
      changedConfiguration e s' id data (some tenant) user := by
  rw [changedConfiguration, changedConfiguration, findConfiguration_agree h hs hs']

lemma changedRule_agree (id : String) (data : Value) :
    changedRule e s id data (some tenant) = changedRule e s' id data (some tenant) := by
  rw [changedRule, changedRule, findRule_agree h hs hs']

lemma prepare_agree (id : String) (size : Nat) :
    prepare e s id (some tenant) size = prepare e s' id (some tenant) size := by
  rw [prepare, prepare, findActive, findActive, findConfiguration_agree h hs hs']

lemma executionLogs_agree (id : String) (limit : Option Int) :
    executionLogs e s id (some tenant) limit = executionLogs e s' id (some tenant) limit := by
  have hfind := findConfiguration_agree h hs hs' id
  simp only [executionLogs, ← hfind]
  split
  · rfl
  · -- logs are asked for by the configuration, which has the same ones in both
    rcases hc : findConfiguration s id (some tenant) with f | c
    · rfl
    · have hc' := hfind.symm.trans hc
      obtain ⟨hget, ht, -⟩ := findConfiguration_eq_ok.1 hc
      obtain ⟨hget', -, -⟩ := findConfiguration_eq_ok.1 hc'
      rw [ok_bind, ok_bind, h.logsOf hget hget' (Option.some.inj ht).symm]

end

lemma verdictsOn_agree (h : Agree tenant s s') (c : Configuration) (options : Batch.Options)
    (inputs : List Value) :
    verdictsOn e s (some tenant) c options inputs = verdictsOn e s' (some tenant) c options inputs := by
  rw [verdictsOn, verdictsOn, verdicts, verdicts, h.rulesFor]

/-! ### Operations -/

/-- Two ends with one answer, and with stores that agree as those before did. -/
structure SameEnd (tenant : String) (s s' : Store) (r r' : Except Failure Answer × Store) : Prop where
  answer : r.1 = r'.1
  store : AgreeAfter tenant s s' r.2 r'.2

lemma ending_sameEnd {u u' : Store} (h : AgreeAfter tenant s s' u u') (a : Answer)
    (y : Except Failure Audit.Event) :
    SameEnd tenant s s' (ending e u a y) (ending e u' a y) where
  answer := by cases y <;> rfl
  store := by
    rw [ending_snd, ending_snd]
    exact h.withEvents _ _

def Operation.listsRules : Operation → Bool
  | .listRules .. => true
  | _ => false

lemma keeping_sameEnd {α : Type} {entity entity' : Except Failure α}
    {write : α → Store → Except Fault Store} {event : α → Except Failure Audit.Event}
    {answer : α → Answer} (h : Agree tenant s s') (hentity : entity = entity')
    (hw : ∀ x, entity = .ok x →
      ∃ u u', write x s = .ok u ∧ write x s' = .ok u' ∧ AgreeAfter tenant s s' u u') :
    SameEnd tenant s s' (keeping e s entity write event answer)
      (keeping e s' entity' write event answer) := by
  subst hentity
  rcases entity with f | x
  · exact ⟨rfl, .refl h⟩
  · obtain ⟨u, u', hu, hu', hagree⟩ := hw x rfl
    simp only [keeping, hu, hu']
    exact ending_sameEnd hagree (answer x) (event x)

section

variable (h : Agree tenant s s') (hs : s.Sound) (hs' : s'.Sound)
include h hs hs'

lemma put_agree {old old' : Option Configuration} (hm : Makes e s op old c)
    (hm' : Makes e s' op old' c) (hop : op.tenant = some tenant) :
    AgreeAfter tenant s s' (s.putConfiguration c) (s'.putConfiguration c) :=
  .putConfiguration h hs hs' (hm.fits hs) (hm'.fits hs')
    (Option.some.inj (hm.tenant_eq.symm.trans hop))

lemma replacing_sameEnd {α : Type} {entity entity' : Except Failure α} {old next : α → Configuration}
    {event : α → Except Failure Audit.Event} {answer : α → Answer} (hop : op.tenant = some tenant)
    (hentity : entity = entity')
    (hm : ∀ x, entity = .ok x → Makes e s op (some (old x)) (next x))
    (hm' : ∀ x, entity' = .ok x → Makes e s' op (some (old x)) (next x)) :
    SameEnd tenant s s'
      (keeping e s entity (fun x u => u.replaceConfiguration (next x)) event answer)
      (keeping e s' entity' (fun x u => u.replaceConfiguration (next x)) event answer) := by
  refine keeping_sameEnd h hentity fun x hx => ?_
  have hmake := hm x hx
  have hmake' := hm' x (hentity.symm.trans hx)
  have hold := (hmake.making hs).2
  have hold' := (hmake'.making hs').2
  refine ⟨_, _, ?_, ?_, put_agree h hs hs' hmake hmake' hop⟩
  · exact Store.replaceConfiguration_eq_ok.2 ⟨by rw [hold]; rfl, rfl⟩
  · exact Store.replaceConfiguration_eq_ok.2 ⟨by rw [hold']; rfl, rfl⟩

variable (hu : Unused e.id s) (hu' : Unused e.id s')
include hu hu'

lemma putRule_agree (op : Operation) {old old' : Option Rule} {q : Rule} (hm : MakesRule e s op old q)
    (hm' : MakesRule e s' op old' q) : AgreeAfter tenant s s' (s.putRule q) (s'.putRule q) :=
  .putRule h hs hs' (hm.fits hs hu) (hm'.fits hs' hu')

lemma replacingRule_sameEnd {α : Type} {entity entity' : Except Failure α} {old next : α → Rule}
    {event : α → Except Failure Audit.Event} {answer : α → Answer} (op : Operation)
    (hentity : entity = entity')
    (hm : ∀ x, entity = .ok x → MakesRule e s op (some (old x)) (next x))
    (hm' : ∀ x, entity' = .ok x → MakesRule e s' op (some (old x)) (next x)) :
    SameEnd tenant s s' (keeping e s entity (fun x u => u.replaceRule (next x)) event answer)
      (keeping e s' entity' (fun x u => u.replaceRule (next x)) event answer) := by
  refine keeping_sameEnd h hentity fun x hx => ?_
  have hmake := hm x hx
  have hmake' := hm' x (hentity.symm.trans hx)
  have hold := hmake.replaces hs hu
  have hold' := hmake'.replaces hs' hu'
  refine ⟨_, _, ?_, ?_, putRule_agree h hs hs' hu hu' op hmake hmake'⟩
  · exact Store.replaceRule_eq_ok.2 ⟨by rw [hold]; rfl, rfl⟩
  · exact Store.replaceRule_eq_ok.2 ⟨by rw [hold']; rfl, rfl⟩

end

lemma runBatch_sameEnd (h : Agree tenant s s') (hs : s.Sound) (hs' : s'.Sound) (t t' : Mapping.Tally)
    (id : String) (inputs : List Value) (options : Batch.Options) :
    SameEnd tenant s s' (runBatch e s t id (some tenant) inputs options).1
      (runBatch e s' t' id (some tenant) inputs options).1 := by
  rw [runBatch_fst, runBatch_fst, ← prepare_agree h hs hs']
  rcases hc : prepare e s id (some tenant) inputs.length with f | c
  · exact ⟨rfl, .refl h⟩
  · dsimp only
    rw [← verdictsOn_agree h]
    rcases verdictsOn e s (some tenant) c options inputs with g | vs
    · exact ⟨rfl, .refl h⟩
    · refine ⟨rfl, ?_⟩
      dsimp only [storeAfter]
      split
      · exact .refl h
      · -- the configuration was found in both stores, so both get the same log of it
        have hfound := (prepare_ok hc).1
        obtain ⟨hget, -, -⟩ := findConfiguration_eq_ok.1 hfound
        rw [findConfiguration_agree h hs hs'] at hfound
        obtain ⟨hget', -, -⟩ := findConfiguration_eq_ok.1 hfound
        rw [keepRun_eq, keepRun_eq]
        refine (AgreeAfter.addLog h ?_).withEvents _ _
        have hid := hs.configurationId id c hget
        subst hid
        exact hget.trans hget'.symm

/-- **An operation for a tenant comes to one end in stores that agree**, if it does not list rules. -/
theorem perform_sameEnd (h : Agree tenant s s') (hs : s.Sound) (hs' : s'.Sound)
    (hu : Unused e.id s) (hu' : Unused e.id s') (t t' : Mapping.Tally)
    (hop : op.tenant = some tenant) (hlist : op.listsRules = false) :
    SameEnd tenant s s' (perform e s t op).1 (perform e s' t' op).1 := by
  have hfind := findConfiguration_agree h hs hs'
  -- what is found for the tenant is the same, so what is made of it is the same
  cases op with
  | createMapping data _ user =>
    obtain rfl := hop
    rw [perform, perform, run_createMapping, run_createMapping]
    dsimp only
    refine keeping_sameEnd h rfl fun c hc => ?_
    -- the fresh identity is unused in both stores, so both insert the configuration
    have hid := (newConfiguration_eq_ok hc).id
    have hnew : s.configurations.get? c.id = none := hid ▸ hu.configuration
    have hnew' : s'.configurations.get? c.id = none := hid ▸ hu'.configuration
    refine ⟨_, _, Store.insertConfiguration_eq_ok.2 ⟨hnew, rfl⟩,
      Store.insertConfiguration_eq_ok.2 ⟨hnew', rfl⟩, ?_⟩
    exact put_agree h hs hs' (.create hc hnew) (.create hc hnew') rfl
  | updateMapping id data _ user =>
    obtain rfl := hop
    have hchanged := changedConfiguration_agree (e := e) h hs hs' id data user
    rw [perform, perform, run_updateMapping, run_updateMapping]
    -- both find the same old version, and put the same next one in its place
    exact replacing_sameEnd h hs hs' rfl hchanged (fun _ => .update) fun _ => .update
  | deleteMapping id _ user =>
    obtain rfl := hop
    rw [perform, perform, run_deleteMapping, run_deleteMapping]
    exact replacing_sameEnd h hs hs' rfl (hfind id) (fun _ => .delete) fun _ => .delete
  | activateMapping id _ user =>
    obtain rfl := hop
    rw [perform, perform, run_setActive, run_setActive]
    exact replacing_sameEnd h hs hs' rfl (hfind id) (fun _ => .activate) fun _ => .activate
  | deactivateMapping id _ user =>
    obtain rfl := hop
    rw [perform, perform, run_setActive, run_setActive]
    exact replacing_sameEnd h hs hs' rfl (hfind id) (fun _ => .deactivate) fun _ => .deactivate
  | getMapping id _ =>
    obtain rfl := hop
    -- what only asks leaves both stores as they were
    exact ⟨by simp only [perform, getMapping, hfind id], .refl h⟩
  | listMappings _ kind includeInactive =>
    obtain rfl := hop
    exact ⟨by simp only [perform, listMappings, h.configurationsOf], .refl h⟩
  | createRule data _ user =>
    obtain rfl := hop
    rw [perform, perform, run_createRule, run_createRule]
    dsimp only
    -- a rule goes to the end of both stores, whatever stands in front of it
    refine keeping_sameEnd h rfl fun q hq => ⟨_, _, rfl, rfl, ?_⟩
    exact putRule_agree h hs hs' hu hu' (.createRule data _ user) (.create hq) (.create hq)
  | updateRule id data _ user =>
    obtain rfl := hop
    have hchanged := changedRule_agree (e := e) h hs hs' id data
    rw [perform, perform, run_updateRule, run_updateRule]
    exact replacingRule_sameEnd h hs hs' hu hu' (.updateRule id data _ user) hchanged
      (fun _ => .update) fun _ => .update
  | deleteRule id _ user =>
    obtain rfl := hop
    have hrule := findRule_agree h hs hs' id
    rw [perform, perform, run_deleteRule, run_deleteRule]
    exact replacingRule_sameEnd h hs hs' hu hu' (.deleteRule id _ user) hrule
      (fun _ => .delete) fun _ => .delete
  | listRules => cases hlist
  | executionLogs id _ limit =>
    obtain rfl := hop
    exact ⟨executionLogs_agree h hs hs' id limit, .refl h⟩
  | apply id _ inputs options =>
    obtain rfl := hop
    exact runBatch_sameEnd h hs hs' t t' id inputs options
  | testMapping id _ inputs options =>
    obtain rfl := hop
    exact runBatch_sameEnd h hs hs' t t' id inputs _

/-! ### Runs -/

/-- Lists of the same rules of a tenant and the same global ones, each kind in its order. -/
structure SameKinds (tenant : String) (rs rs' : List Rule) : Prop where
  visible : ∀ r ∈ rs ++ rs', Store.isVisible (some tenant) r
  globalRules : rs.filter Rule.isGlobal = rs'.filter Rule.isGlobal
  ownRules : rs.filter (fun r => r.tenant = some tenant) =
    rs'.filter fun r => r.tenant = some tenant

/-- Answers to an operation for a tenant that are the same; those to a list of its rules may differ in
how they stand among the global ones. -/
def SameAnswer (tenant : String) (op : Operation) (a a' : Except Failure Answer) : Prop :=
  if op.listsRules then
    ∃ rs rs', a = .ok (.rules rs) ∧ a' = .ok (.rules rs') ∧ SameKinds tenant rs rs'
  else a = a'

/-- An operation tells nothing of two services but what the tenant has in them. -/
structure TellsOwn (tenant : String) (op : Operation) (st st' : State)
    (r r' : State × Except Failure Answer) : Prop where
  answer : SameAnswer tenant op r.2 r'.2
  agree : Agree tenant r.1.store r'.1.store
  inOrder : SameOrder tenant st.store st'.store →
    r.2 = r'.2 ∧ SameOrder tenant r.1.store r'.1.store

lemma listRules_tellsOwn {st st' : State} (h : Agree tenant st.store st'.store) (c : Circumstances)
    (kind : Option String) : TellsOwn tenant (.listRules (some tenant) kind) st st'
      (step c st (.listRules (some tenant) kind)) (step c st' (.listRules (some tenant) kind)) where
  answer := by
    obtain ⟨hglobal, hown⟩ := h.rulesOf kind
    refine ⟨_, _, rfl, rfl, fun r hr => ?_, hglobal, hown⟩
    obtain hr | hr := List.mem_append.1 hr
    all_goals exact (Bool.and_eq_true_iff.1 (List.mem_filter.1 hr).2).1
  agree := h
  inOrder horder := ⟨congrArg (fun rs => Except.ok (Answer.rules rs)) (horder.rulesOf kind), horder⟩

/-- **Tenants are isolated.** After any operations, an operation for a tenant under a fresh identity
leaves the others what they have. And after any other operations under the same limits, with which the
tenant has the same beside the same global rules, it gives the same answer, and the tenant has the same
again. Only a list of rules tells more: how the tenant's own stand among the global ones. -/
theorem tenant_isolation (tenant : String) (c : Circumstances) (op : Operation)
    (own : op.tenant = some tenant) (ops ops' : List (Circumstances × Operation))
    (fresh : c.id ∉ ops.map (·.1.id)) (fresh' : c.id ∉ ops'.map (·.1.id)) :
    KeepsOthers tenant (run .initial ops).1.store (step c (run .initial ops).1 op).1.store ∧
      ((∀ p ∈ ops ++ ops', p.1.settings.limits = c.settings.limits) →
        Agree tenant (run .initial ops).1.store (run .initial ops').1.store →
          TellsOwn tenant op (run .initial ops).1 (run .initial ops').1
            (step c (run .initial ops).1 op) (step c (run .initial ops').1 op)) := by
  have hs := sound_run ops
  have hs' := sound_run ops'
  have hu := unused_run ops fresh
  have hu' := unused_run ops' fresh'
  refine ⟨(step_effect c _ op).keepsOthers hs hu own, fun limits h => ?_⟩
  -- a list shows the order of the rules, so it is compared by itself
  by_cases hlist : op.listsRules
  · cases op with
    | listRules _ kind =>
      obtain rfl := own
      exact listRules_tellsOwn h c kind
    | _ => cases hlist
  -- both memories read as the limits do, so both steps have one environment
  have hm := under_run ops fun p hp => limits p (List.mem_append_left _ hp)
  have hm' := under_run ops' fun p hp => limits p (List.mem_append_right _ hp)
  have he : c.environment (run .initial ops).1.memory = c.environment (run .initial ops').1.memory := by
    rw [Circumstances.environment, Circumstances.environment, hm.readers, hm'.readers]
  have hend := perform_sameEnd (e := c.environment (run .initial ops).1.memory) h hs hs' hu hu'
    (run .initial ops).1.tally (run .initial ops').1.tally own (Bool.eq_false_iff.2 hlist)
  have hstep' : (perform (c.environment (run .initial ops).1.memory) (run .initial ops').1.store
      (run .initial ops').1.tally op).1 =
        ((step c (run .initial ops').1 op).2, (step c (run .initial ops').1 op).1.store) := by
    rw [he, ← step_eq]
  rw [← step_eq, hstep'] at hend
  have hanswer : (step c (run .initial ops).1 op).2 = (step c (run .initial ops').1 op).2 := hend.answer
  refine ⟨?_, hend.store.agree, fun horder => ⟨hanswer, hend.store.order horder⟩⟩
  rwa [SameAnswer, if_neg hlist]

/-- A newcomer makes its first mapping beside that of another tenant as if it were alone. -/
theorem isolation_of_newcomer :
    let newcomer := { smallEnvironment.toCircumstances with id := "y" }
    let creation := Operation.createMapping payrollDraft (some "u") none
    KeepsOthers "u" (run .initial payrollOperations).1.store
        (step newcomer (run .initial payrollOperations).1 creation).1.store ∧
      (step newcomer (run .initial payrollOperations).1 creation).2 =
        (step newcomer .initial creation).2 := by
  intro newcomer creation
  have h := tenant_isolation "u" newcomer creation rfl payrollOperations [] (by decide) (by decide)
  have hlimits : ∀ p ∈ payrollOperations ++ [], p.1.settings.limits = newcomer.settings.limits := by
    simp [payrollOperations, newcomer]
  exact ⟨h.1, (h.2 hlimits ⟨rfl, rfl, rfl, rfl⟩).answer⟩

def ruleDraft : Value := .object
  [("name", .text "rule"), ("rule_type", .text "REQUIRED_FIELD"), ("field", .text "ssn"),
    ("rule_logic", .object [("operator", .text "not_empty")]), ("error_message", .text "no")]

def ruledTwice (ownFirst : Bool) : List (Circumstances × Operation) :=
  let own := ({ smallEnvironment.toCircumstances with id := "own" },
    Operation.createRule ruleDraft (some "t") none)
  let everyones := ({ smallEnvironment.toCircumstances with id := "all" },
    Operation.createRule ruleDraft none none)
  if ownFirst then [own, everyones] else [everyones, own]

/-- The rules are the same in either order, and a list of them tells which came first. -/
theorem listed_order_told :
    ¬ ∀ (tenant : String) (c : Circumstances) (op : Operation)
      (ops ops' : List (Circumstances × Operation)), op.tenant = some tenant →
        c.id ∉ ops.map (·.1.id) → c.id ∉ ops'.map (·.1.id) →
        (∀ p ∈ ops ++ ops', p.1.settings.limits = c.settings.limits) →
        Agree tenant (run .initial ops).1.store (run .initial ops').1.store →
          (step c (run .initial ops).1 op).2 = (step c (run .initial ops').1 op).2 := by
  intro h
  have hagree : Agree "t" (run .initial (ruledTwice true)).1.store
      (run .initial (ruledTwice false)).1.store := ⟨rfl, rfl, rfl, rfl⟩
  have hsame := h "t" smallEnvironment.toCircumstances (.listRules (some "t") none) (ruledTwice true)
    (ruledTwice false) rfl (by decide) (by decide) (by simp [ruledTwice]) hagree
  have hrules := Answer.rules.inj (Except.ok.inj hsame)
  have hids : ["own", "all"] = ["all", "own"] := congrArg (List.map Rule.id) hrules
  exact absurd hids (by decide)

end Service

end Crosswalk
