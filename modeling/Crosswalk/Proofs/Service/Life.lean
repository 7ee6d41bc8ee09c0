import Crosswalk.Proofs.Service.Unrecorded

/-!
The life of a configuration.

What has become of a configuration after a run can be told from the operations that have kept a
version of it: each update counts one on, and a deletion ends its life. Its origin never changes, and
after its deletion nothing does, for no operation finds it any more.

An operation that has kept a version without an event counts here as one that succeeded. The
configuration goes on as if it had.
-/

namespace Crosswalk.Service

open Mapping (Configuration)
open Mapping.Configuration (SameOrigin)
open Fallible

variable {e : Environment} {s : Store} {op : Operation} {c : Configuration} {id : String}
  {r : Except Failure Answer × Store}

/-- The configuration of an identity, live or deleted. -/
def stored (st : State) (id : String) : Option Configuration := st.store.configurations.get? id

/-- Whether an entry of a history has kept a version of a configuration. -/
def Entry.keeps (id : String) (x : Entry) : Bool :=
  keepsVersion id x.circumstances.id x.operation x.answer

/-- The operations that have kept a version of a configuration, in order. -/
def deeds (id : String) (h : List Entry) : List Operation :=
  (h.filter fun x => x.keeps id).map (·.operation)

lemma deeds_snoc (h : List Entry) (x : Entry) :
    deeds id (h ++ [x]) = deeds id h ++ if x.keeps id then [x.operation] else [] := by
  by_cases hx : x.keeps id <;> simp [deeds, hx]

/-- What the operations on a configuration have made of it. -/
structure LivesBy (ops : List Operation) (c : Configuration) : Prop where
  version : c.version = 1 + ops.countP Operation.isUpdate
  deleted : c.deletedAt.isSome ↔ ∃ op ∈ ops, op.isDelete
  inactive : c.deletedAt.isSome → c.isActive = false

/-! ### One step -/

lemma IsFirst.livesBy (h : IsFirst e op c) (hu : op.isUpdate = false) (hd : op.isDelete = false) :
    LivesBy [op] c where
  version := by simp [h.version, hu]
  deleted := by simp [h.alive, hd]
  inactive := by simp [h.alive]

lemma IsNext.livesBy {old : Configuration} {ops : List Operation} (h : IsNext op old c)
    (hold : LivesBy ops old) (hlive : old.deletedAt = none) : LivesBy (ops ++ [op]) c where
  version := by
    rw [h.version, hold.version, List.countP_append]
    by_cases hu : op.isUpdate <;> simp [hu, Int.add_assoc]
  deleted := by
    have hnone : ¬ ∃ op ∈ ops, op.isDelete := by
      rw [← hold.deleted, hlive]
      simp
    rw [h.deleted]
    simp only [List.mem_append, List.mem_singleton]
    constructor
    · intro hd
      exact ⟨op, .inr rfl, hd⟩
    · rintro ⟨x, hx | rfl, hd⟩
      · exact absurd ⟨x, hx, hd⟩ hnone
      · exact hd
  inactive hd := h.inactive (h.deleted ▸ hd)

/-- What is known of a configuration, if it is stored, or else that nothing has been kept of it. -/
def Known (ops : List Operation) : Option Configuration → Prop
  | some c => LivesBy ops c
  | none => ops = []

lemma known_step (ops : List (Circumstances × Operation)) (p : Circumstances × Operation)
    (h : Known (deeds id (history .initial ops)) (stored (run .initial ops).1 id)) :
    Known (deeds id (history .initial (ops ++ [p]))) (stored (run .initial (ops ++ [p])).1 id) := by
  obtain ⟨c, op⟩ := p
  rw [history_snoc, run_snoc, deeds_snoc]
  -- the operation leaves the configuration, or it makes its next version
  rcases step_onConfiguration ops c op id with ⟨idle, same, -⟩ | ⟨hmakes, keeps, before, after, -, -⟩
  · have hkeeps : Entry.keeps id ⟨c, op, (step c (run .initial ops).1 op).2⟩ = false := idle
    rw [hkeeps, if_neg Bool.false_ne_true, List.append_nil, stored, same]
    exact h
  · have hkeeps : Entry.keeps id ⟨c, op, (step c (run .initial ops).1 op).2⟩ = true := keeps
    rw [hkeeps, stored, after, if_pos rfl]
    rw [stored, before] at h
    rename_i old d
    -- the first deed of all is the creation, and every other is done to a live configuration
    rcases old with _ | old
    · have hcreate : op.isUpdate = false ∧ op.isDelete = false := by
        cases hmakes
        exact ⟨rfl, rfl⟩
      rw [show deeds id (history .initial ops) = [] from h, List.nil_append]
      exact hmakes.isFirst.livesBy hcreate.1 hcreate.2
    · obtain ⟨k, -, hfound⟩ := hmakes.found
      exact hmakes.isNext.livesBy h (findConfiguration_eq_ok.1 hfound).2.2

lemma known_run (ops : List (Circumstances × Operation)) (id : String) :
    Known (deeds id (history .initial ops)) (stored (run .initial ops).1 id) := by
  induction ops using List.reverseRecOn with
  | nil => rfl
  | append_singleton ops p ih => exact known_step ops p ih

/-! ### Later steps -/

lemma stored_step (ops : List (Circumstances × Operation)) (p : Circumstances × Operation)
    (h : stored (run .initial ops).1 id = some c) :
    ∃ d, stored (run .initial (ops ++ [p])).1 id = some d ∧ SameOrigin c d ∧
      (c.deletedAt.isSome → d = c) := by
  obtain ⟨k, op⟩ := p
  rw [run_snoc]
  rcases step_onConfiguration ops k op id with ⟨-, same, -⟩ | ⟨hmakes, -, before, after, -, -⟩
  · exact ⟨c, same.trans h, .refl c, fun _ => rfl⟩
  · rename_i old d
    obtain rfl : some c = old := h.symm.trans before
    -- what an operation finds is live, so a deleted configuration is left as it is
    obtain ⟨j, -, hfound⟩ := hmakes.found
    have hlive := (findConfiguration_eq_ok.1 hfound).2.2
    exact ⟨d, after, hmakes.isNext.origin, by simp [hlive]⟩

lemma stored_run (ops later : List (Circumstances × Operation))
    (h : stored (run .initial ops).1 id = some c) :
    ∃ d, stored (run .initial (ops ++ later)).1 id = some d ∧ SameOrigin c d ∧
      (c.deletedAt.isSome → d = c) := by
  induction later using List.reverseRecOn with
  | nil => exact ⟨c, by rwa [List.append_nil], .refl c, fun _ => rfl⟩
  | append_singleton later p ih =>
    obtain ⟨d, hd, horigin, hsame⟩ := ih
    obtain ⟨d', hd', horigin', hsame'⟩ := stored_step (ops ++ later) p hd
    rw [← List.append_assoc]
    refine ⟨d', hd', horigin.trans horigin', fun hdel => ?_⟩
    obtain rfl := hsame hdel
    exact hsame' hdel

/-! ### Operations on a deleted configuration -/

def Operation.Readable (c : Circumstances) : Operation → Prop
  | .updateMapping _ data _ _ => ∃ changes, readChanges Mapping.Changes.codec data = .ok changes
  | .executionLogs _ _ limit => 1 ≤ limit.getD c.settings.logLimit
  | _ => True

lemma findConfiguration_of_none {tenant : Option String} (h : s.configuration? id tenant = none) :
    findConfiguration s id tenant = .error (configurationNotFound id) := by
  rw [findConfiguration, h]

/-- Where no configuration is found, every operation on it is refused. -/
lemma perform_of_none (t : Mapping.Tally) (hs : ∀ tenant, s.configuration? id tenant = none)
    (hid : op.configuration? = some id) (hr : op.Readable e.toCircumstances) :
    (perform e s t op).1.1 = .error (configurationNotFound id) := by
  have hfind := fun tenant => findConfiguration_of_none (hs tenant)
  -- each of them looks for the configuration before it does anything else
  cases op with
  | createMapping | listMappings | createRule | updateRule | deleteRule | listRules => cases hid
  | updateMapping k data tenant user =>
    obtain rfl := Option.some.inj hid
    obtain ⟨changes, hchanges⟩ := hr
    rw [perform, run_updateMapping, changedConfiguration, hchanges, ok_bind, hfind]
    rfl
  | deleteMapping k tenant user =>
    obtain rfl := Option.some.inj hid
    rw [perform, run_deleteMapping, hfind]
    rfl
  | activateMapping k tenant user =>
    obtain rfl := Option.some.inj hid
    rw [perform, run_setActive, hfind]
    rfl
  | deactivateMapping k tenant user =>
    obtain rfl := Option.some.inj hid
    rw [perform, run_setActive, hfind]
    rfl
  | getMapping k tenant =>
    obtain rfl := Option.some.inj hid
    rw [perform, getMapping, hfind]
    rfl
  | executionLogs k tenant limit =>
    obtain rfl := Option.some.inj hid
    have hlimit : ¬ limit.getD e.settings.logLimit < 1 := Int.not_lt.2 hr
    rw [perform, executionLogs]
    dsimp only
    rw [if_neg hlimit, hfind]
    rfl
  | apply k tenant inputs options =>
    obtain rfl := Option.some.inj hid
    rw [perform, runBatch_fst, prepare, findActive, hfind]
    rfl
  | testMapping k tenant inputs options =>
    obtain rfl := Option.some.inj hid
    rw [perform, runBatch_fst, prepare, findActive, hfind]
    rfl

lemma configuration?_of_deleted (hc : s.configurations.get? id = some c) (hd : c.deletedAt.isSome)
    (tenant : Option String) : s.configuration? id tenant = none := by
  rw [Store.configuration?, hc, Option.filter_some, if_neg]
  simp [Store.isLiveOf, Option.isSome_iff_ne_none.1 hd]

/-! ### The life of a configuration -/

/-- A configuration after some operations, and what is there of it after further ones. -/
structure Life (ops later : List (Circumstances × Operation)) (id : String) (c d : Configuration) :
    Prop where
  before : stored (run .initial ops).1 id = some c
  after : stored (run .initial (ops ++ later)).1 id = some d
  identity : c.id = id
  origin : SameOrigin c d
  deeds : LivesBy (deeds id (history .initial ops)) c
  settled : c.deletedAt.isSome → d = c
  gone : c.deletedAt.isSome → ∀ (k : Circumstances) (op : Operation), op.configuration? = some id →
    op.Readable k →
      (step k (run .initial (ops ++ later)).1 op).2 = .error (configurationNotFound id)

lemma life_of_stored (ops later : List (Circumstances × Operation))
    (hc : stored (run .initial ops).1 id = some c) : ∃ d, Life ops later id c d := by
  have hknown := known_run ops id
  rw [hc] at hknown
  obtain ⟨d, hd, horigin, hsame⟩ := stored_run ops later hc
  refine ⟨d, hc, hd, (sound_run ops).configurationId id c hc, horigin, hknown, hsame, ?_⟩
  intro hdel k op hid hread
  obtain rfl := hsame hdel
  exact perform_of_none _ (configuration?_of_deleted hd hdel) hid hread

/-- Whether an entry of a history has created a configuration. -/
def Entry.creates (id : String) (x : Entry) : Bool :=
  match x.operation with
  | .createMapping .. => x.circumstances.id = id && kept x.answer
  | _ => false

lemma keeps_of_creates {x : Entry} (h : x.creates id) : x.keeps id := by
  unfold Entry.creates at h
  split at h
  · rename_i hop
    rw [Bool.and_eq_true, decide_eq_true_eq] at h
    rw [Entry.keeps, keepsVersion, hop, h.2, Operation.making, h.1]
    simp
  · cases h

/-- **The life of every configuration that is ever created.** It stays in the store, with its origin;
its version and its end are those of the operations on it; and after its end it is not found. -/
theorem configuration_life (ops later : List (Circumstances × Operation)) (id : String)
    (created : ∃ x ∈ history .initial ops, x.creates id) : ∃ c d, Life ops later id c d := by
  obtain ⟨x, hx, hcreates⟩ := created
  rcases hc : stored (run .initial ops).1 id with _ | c
  · have hnone : deeds id (history .initial ops) = [] := by
      have hknown := known_run ops id
      rwa [hc] at hknown
    have hmem : x.operation ∈ deeds id (history .initial ops) :=
      List.mem_map_of_mem (List.mem_filter.2 ⟨hx, keeps_of_creates hcreates⟩)
    rw [hnone] at hmem
    exact absurd hmem List.not_mem_nil
  · exact ⟨c, life_of_stored ops later hc⟩

/-! ### A small life -/

def smallCreation : Circumstances × Operation :=
  (smallEnvironment.toCircumstances, creationWith .null)

def smallDeletion : Circumstances × Operation :=
  (smallEnvironment.toCircumstances, .deleteMapping "x" (some "t") none)

/-- A configuration that is created and deleted. -/
theorem deleted_configuration_life :
    ∃ c d, Life [smallCreation, smallDeletion] [smallCreation] "x" c d :=
  configuration_life _ _ _ ⟨_, List.mem_cons_self, rfl⟩

/-! ### A deletion that fails -/

/-- The creation of a configuration that goes too deep, which keeps it and fails. -/
def deepCreation (v : Value) : Circumstances × Operation :=
  (smallEnvironment.toCircumstances, creationWith v)

lemma store_deepCreation {v : Value} (hv : Codec.maxDepth < v.depth) :
    (run .initial [deepCreation v]).1.store = Store.empty.putConfiguration (configurationWith v) := by
  obtain ⟨-, hstore⟩ := Prod.mk.inj (step_creationWith hv)
  rw [run_singleton, deepCreation, hstore]

lemma stored_deepCreation {v : Value} (hv : Codec.maxDepth < v.depth) :
    stored (run .initial [deepCreation v]).1 "x" = some (configurationWith v) := by
  rw [stored, store_deepCreation hv]
  exact (Store.get?_putConfiguration "x").trans (if_pos rfl)

lemma step_deepDeletion {v : Value} (hv : Codec.maxDepth < v.depth) :
    ∃ d : Configuration, d.id = "x" ∧ d.deletedAt.isSome ∧
      ((step smallDeletion.1 (run .initial [deepCreation v]).1 smallDeletion.2).2,
        (step smallDeletion.1 (run .initial [deepCreation v]).1 smallDeletion.2).1.store) =
      (.error (.unrecorded .tooDeep), (run .initial [deepCreation v]).1.store.putConfiguration d) := by
  have hstored := stored_deepCreation hv
  have hrow := configurationRow_of_deep (isDeep_of_rules (c := configurationWith v) rfl hv)
  have hfound : findConfiguration (run .initial [deepCreation v]).1.store "x" (some "t") =
      .ok (configurationWith v) := findConfiguration_eq_ok.2 ⟨hstored, rfl, rfl⟩
  refine ⟨deletedConfiguration
    (smallEnvironment.toCircumstances.environment (run .initial [deepCreation v]).1.memory)
    (configurationWith v) none, rfl, rfl, ?_⟩
  rw [step_eq, smallDeletion, perform, run_deleteMapping]
  dsimp only
  -- the deletion is written, and then its event cannot be made
  refine keeping_of_error hfound ?_ ?_
  · refine Store.replaceConfiguration_eq_ok.2 ⟨?_, rfl⟩
    exact Option.isSome_iff_exists.2 ⟨_, hstored⟩
  · rw [eventFor, hrow]
    rfl

/-- A configuration may be deleted by an operation that fails. -/
theorem deleted_by_failure :
    ¬ ∀ (ops : List (Circumstances × Operation)) (id : String) (c : Configuration),
      stored (run .initial ops).1 id = some c →
        (c.deletedAt.isSome ↔ ∃ x ∈ history .initial ops,
          x.operation.isDelete ∧ x.operation.configuration? = some id ∧ x.answer.isOk) := by
  intro h
  obtain ⟨v, hv⟩ := exists_deep
  obtain ⟨d, hid, hdeleted, hstep⟩ := step_deepDeletion hv
  obtain ⟨hfails, hkeeps⟩ := Prod.mk.inj hstep
  have hstored : stored (run .initial ([deepCreation v] ++ [smallDeletion])).1 "x" = some d := by
    rw [run_snoc, stored, hkeeps]
    exact (Store.get?_putConfiguration "x").trans (if_pos hid.symm)
  obtain ⟨x, hx, hdelete, -, hok⟩ := (h _ "x" d hstored).1 hdeleted
  rw [history_snoc, hfails] at hx
  -- neither operation counts: the one is no deletion, the other gave no answer
  rcases List.mem_append.1 hx with hx | hx
  · rw [history_singleton] at hx
    obtain rfl := List.mem_singleton.1 hx
    cases hdelete
  · obtain rfl := List.mem_singleton.1 hx
    cases hok

end Crosswalk.Service
