import Crosswalk.Proofs.Service.Abort
import Crosswalk.Proofs.Service.Clock

/-!
Listings of configurations.

Three operations decide by themselves which configurations a tenant sees: one looks a configuration
up, one lists them all, one finds what a batch may be applied under. They agree after every run, and
a listing is in the order of creation, the newest first, where the clock readings of the run rise.
For the store has its configurations in the order of their creation: a new one comes last, and every
later version has the place and the creation of the one before it.
-/

namespace Crosswalk.Service

open Mapping (Configuration)
open Fallible

variable {e : Environment} {s : Store} {op : Operation} {r : Except Failure Answer × Store}
  {old : Option Configuration} {c : Configuration} {id : String} {tenant kind : Option String}
  {all : Bool} {ops : List (Circumstances × Operation)} {inputs : List Value}
  {options : Batch.Options}

/-! ### The order of creation -/

/-- When the configurations of a store were created, in the order in which it has them. -/
def creations (s : Store) : List Moment := s.configurations.map fun p => p.2.createdAt

lemma Makes.createdAt_first (h : Makes e s op none c) : c.createdAt = e.fresh.now := by
  cases h with
  | create made new =>
    obtain ⟨draft, owner, rfl, hbuild⟩ := build_of_newConfiguration made
    obtain rfl := Except.ok.inj hbuild
    rfl

lemma Makes.creations_eq (hs : s.Sound) (h : Makes e s op old c) :
    creations (s.putConfiguration c) = creations s ∨
      creations (s.putConfiguration c) = creations s ++ [e.fresh.now] := by
  obtain ⟨-, hold⟩ := h.making hs
  rcases old with _ | old
  · refine .inr ?_
    have hput : s.configurations.put c.id c = s.configurations ++ [(c.id, c)] :=
      Table.put_of_none hold c
    rw [creations, Store.putConfiguration, hput, List.map_append, ← h.createdAt_first]
    rfl
  · exact .inl (Table.map_put_of_some hs.configurationKeys hold h.isNext.origin.createdAt)

lemma Effect.creations_eq (hs : s.Sound) (h : Effect e s op r) :
    creations r.2 = creations s ∨ creations r.2 = creations s ++ [e.fresh.now] := by
  cases h with
  | refused => exact .inl rfl
  | answered => exact .inl rfl
  | made h =>
    rw [ending_snd]
    exact h.creations_eq hs
  | ruled =>
    rw [ending_snd]
    exact .inl rfl
  | ran =>
    rw [keepRun_eq]
    exact .inl rfl

lemma dated_creations (rises : Rises ops) : Dated ops (creations (run .initial ops).1.store) :=
  dated_run rfl (fun _ _ _ _ hs h => h.creations_eq hs) rises

/-! ### What is listed -/

def isListed (tenant kind : Option String) (all : Bool) (c : Configuration) : Bool :=
  Store.isLiveOf tenant c && (all || c.isActive) && kind.all (· = c.kind.name)

def listed (s : Store) (tenant kind : Option String) (all : Bool) : List Configuration :=
  (s.configurations.map (·.2)).filter (isListed tenant kind all)

lemma listed_sublist (s : Store) (tenant kind : Option String) (all : Bool) :
    (listed s tenant kind all).Sublist (s.configurations.map (·.2)) :=
  List.filter_sublist

lemma configurationsOf_eq : s.configurationsOf tenant kind all =
    Store.latestFirst (·.createdAt) (listed s tenant kind all) := by
  rw [Store.configurationsOf, listed, ← List.filterMap_eq_filter, List.filterMap_map]
  rfl

lemma dated_listed (rises : Rises ops) (tenant kind : Option String) (all : Bool) :
    Dated ops ((listed (run .initial ops).1.store tenant kind all).map (·.createdAt)) := by
  have hmap := (listed_sublist (run .initial ops).1.store tenant kind all).map (·.createdAt)
  rw [List.map_map] at hmap
  exact (dated_creations rises).sublist hmap

lemma step_listMappings (rises : Rises ops) (tenant kind : Option String) (all : Bool)
    (k : Circumstances) :
    (step k (run .initial ops).1 (.listMappings tenant kind all)).2 =
      .ok (.configurations (listed (run .initial ops).1.store tenant kind all).reverse) := by
  have hsorted := (dated_listed rises tenant kind all).latestFirst
  have hanswer : (step k (run .initial ops).1 (.listMappings tenant kind all)).2 =
      listMappings (run .initial ops).1.store tenant kind all := rfl
  rw [hanswer, listMappings, configurationsOf_eq, hsorted]
  rfl

/-! ### What is found -/

lemma step_getMapping (k : Circumstances) (st : State) (id : String) (tenant : Option String) :
    (step k st (.getMapping id tenant)).2 = .ok (.configuration c) ↔
      findConfiguration st.store id tenant = .ok c := by
  have hanswer : (step k st (.getMapping id tenant)).2 = getMapping st.store id tenant := rfl
  rw [hanswer, getMapping]
  rcases findConfiguration st.store id tenant with f | d
  · simp
  · simp

lemma mem_listed (hs : s.Sound) : c ∈ listed s tenant kind all ↔
    findConfiguration s c.id tenant = .ok c ∧ (all || c.isActive) ∧ kind.all (· = c.kind.name) := by
  have hstored : c ∈ s.configurations.map (·.2) ↔ s.configurations.get? c.id = some c := by
    rw [List.mem_map]
    constructor
    · rintro ⟨p, hp, rfl⟩
      have hget := Table.get?_of_mem hs.configurationKeys hp
      rwa [hs.configurationId _ _ hget]
    · intro hget
      exact ⟨(c.id, c), Table.mem_of_get? hget, rfl⟩
  rw [listed, List.mem_filter, hstored, findConfiguration_eq_ok]
  simp only [isListed, Store.isLiveOf, Bool.and_eq_true, decide_eq_true_eq,
    Option.isNone_iff_eq_none]
  rw [eq_comm (a := tenant)]
  tauto

lemma nodup_listed (hs : s.Sound) : ((listed s tenant kind all).map (·.id)).Nodup := by
  have hkeys : (s.configurations.map (·.2)).map (·.id) = s.configurations.keys := by
    rw [List.map_map]
    refine List.map_congr_left fun p hp => ?_
    exact hs.configurationId p.1 p.2 (Table.get?_of_mem hs.configurationKeys hp)
  have hids := (listed_sublist s tenant kind all).map (·.id)
  rw [hkeys] at hids
  exact hs.configurationKeys.sublist hids

lemma listed_active :
    listed s tenant kind false = (listed s tenant kind true).filter (·.isActive) := by
  rw [listed, listed, List.filter_filter]
  refine List.filter_congr fun c _ => ?_
  simp only [isListed, Bool.false_or, Bool.true_or, Bool.and_true]
  cases c.isActive <;> simp

/-! ### What can be used -/

/-- Whether an answer is that there is no live configuration, or that it is inactive. -/
def isBarred : Except Failure Answer → Bool
  | .error (.fault f) => f.kind = .mappingNotFound || f.kind = .mappingInactive
  | _ => false

lemma isBarred_of_foreign {f : Fault} (h : f.kind.isOwn = false) :
    isBarred (.error (.fault f)) = false := by
  have hnotFound : f.kind ≠ .mappingNotFound := by
    intro hk
    simp [hk, FaultKind.isOwn] at h
  have hinactive : f.kind ≠ .mappingInactive := by
    intro hk
    simp [hk, FaultKind.isOwn] at h
  simp [isBarred, hnotFound, hinactive]

lemma isBarred_runBatch {t : Mapping.Tally} (hfound : findConfiguration s id tenant = .ok c) :
    isBarred (runBatch e s t id tenant inputs options).1.1 = !c.isActive := by
  rw [runBatch_fst, prepare, findActive, hfound, ok_bind]
  by_cases hactive : c.isActive
  · -- the batch may still be too large or have no verdict, which are faults of other kinds
    rw [if_pos hactive, hactive, pure_ok, ok_bind]
    dsimp only
    by_cases hlarge : e.settings.maxBatch ≠ 0 ∧ e.settings.maxBatch < inputs.length
    · rw [if_pos hlarge]
      rfl
    · rw [if_neg hlarge, pure_ok]
      dsimp only
      rcases hv : verdictsOn e s tenant c options inputs with g | vs
      · exact isBarred_of_foreign (foreign_verdictsOn g hv)
      · rfl
  · rw [if_neg hactive, Bool.not_eq_true] at *
    rw [hactive]
    rfl

lemma isBarred_apply (k : Circumstances) (st : State) (inputs : List Value)
    (options : Batch.Options) (hfound : findConfiguration st.store id tenant = .ok c) :
    isBarred (step k st (.apply id tenant inputs options)).2 = !c.isActive :=
  isBarred_runBatch (t := st.tally) hfound

/-! ### Listings agree with the other operations -/

/-- A tenant's configurations of one kind or all: each that is found, once, the newest first. -/
structure Lists (st : State) (tenant kind : Option String) (cs : List Configuration) : Prop where
  found (k : Circumstances) (id : String) (c : Configuration) : c ∈ cs ∧ c.id = id ↔
    (step k st (.getMapping id tenant)).2 = .ok (.configuration c) ∧ kind.all (· = c.kind.name)
  once : (cs.map (·.id)).Nodup
  newestFirst : cs.Pairwise fun c d => d.createdAt.utcTicks < c.createdAt.utcTicks

lemma lists_listed (rises : Rises ops) (tenant kind : Option String) :
    Lists (run .initial ops).1 tenant kind
      (listed (run .initial ops).1.store tenant kind true).reverse where
  found k id c := by
    have hs := sound_run ops
    rw [List.mem_reverse, mem_listed hs, step_getMapping]
    constructor
    · rintro ⟨⟨hfound, -, hkind⟩, rfl⟩
      exact ⟨hfound, hkind⟩
    · rintro ⟨hfound, hkind⟩
      have hid := hs.configurationId id c (findConfiguration_eq_ok.1 hfound).1
      subst hid
      exact ⟨⟨hfound, rfl, hkind⟩, rfl⟩
  once := by
    rw [List.map_reverse, List.nodup_reverse]
    exact nodup_listed (sound_run ops)
  newestFirst := (dated_listed rises tenant kind true).pairwise_reverse

/-- **Listings agree with what is found and with what can be used.** The listing of all has each
configuration of the kind that is found, once and the newest first. The other one has of these, in
the same order, just those that batches are not barred from. -/
theorem listings_agree (ops : List (Circumstances × Operation)) (rises : Rises ops)
    (tenant kind : Option String) : ∃ cs, Lists (run .initial ops).1 tenant kind cs ∧
      ∀ k : Circumstances,
        (step k (run .initial ops).1 (.listMappings tenant kind true)).2 =
          .ok (.configurations cs) ∧
        ∀ (l : Circumstances) (inputs : List Value) (options : Batch.Options),
          (step k (run .initial ops).1 (.listMappings tenant kind false)).2 =
            .ok (.configurations (cs.filter fun c =>
              !isBarred (step l (run .initial ops).1 (.apply c.id tenant inputs options)).2)) := by
  refine ⟨_, lists_listed rises tenant kind, fun k => ?_⟩
  refine ⟨step_listMappings rises tenant kind true k, fun l inputs options => ?_⟩
  rw [step_listMappings rises, listed_active, ← List.filter_reverse]
  congr 2
  refine List.filter_congr fun c hc => ?_
  have hfound := ((mem_listed (sound_run ops)).1 (List.mem_reverse.1 hc)).1
  rw [isBarred_apply l _ inputs options hfound, Bool.not_not]

def twoMappings : List (Circumstances × Operation) :=
  [(onDay 1 "x", .createMapping payrollDraft (some "t") none),
    (onDay 2 "y", .createMapping payrollDraft (some "t") none),
    (onDay 3 "z", .deactivateMapping "x" (some "t") none)]

/-- Both are listed, the newer one first, and it alone can be used. -/
theorem two_mappings_listed : ∃ cs ds : List Configuration,
    Lists (run .initial twoMappings).1 (some "t") (some "CONTRIBUTION") cs ∧
      ds = cs.filter (fun c => !isBarred (step (onDay 4 "z") (run .initial twoMappings).1
        (.apply c.id (some "t") [] .standard)).2) ∧
      cs.map (·.id) = ["y", "x"] ∧ ds.map (·.id) = ["y"] := by
  have rises : Rises twoMappings := by
    unfold Rises twoMappings
    decide
  obtain ⟨cs, hcs, hlists⟩ := listings_agree twoMappings rises (some "t") (some "CONTRIBUTION")
  obtain ⟨hall, hrest⟩ := hlists (onDay 4 "z")
  have husable := hrest (onDay 4 "z") [] .standard
  rw [step_listMappings rises] at hall husable
  refine ⟨cs, _, hcs, rfl, ?_, ?_⟩
  · rw [← Answer.configurations.inj (Except.ok.inj hall)]
    decide +kernel
  · rw [← Answer.configurations.inj (Except.ok.inj husable)]
    decide +kernel

end Crosswalk.Service
