import Crosswalk.Proofs.Mapping.Review
import Crosswalk.Proofs.Service.Abort
import Crosswalk.Proofs.Service.History

/-!
What is kept has passed its check.

The rules of a configuration are checked when they are asked for, and the logic of a rule when what
is made of it is. Every other operation takes them over from what is kept, an update that leaves them
out included. So as long as the limits and the transformations stay, the same check passes on
everything that is kept, after any operations, whether or not they have succeeded.
-/

namespace Crosswalk

open Fallible

namespace Service

open Mapping (Configuration)

variable {e : Environment} {s : Store} {op : Operation} {r : Except Failure Answer × Store}

/-! ### The checks -/

lemma checkMappingRules_eq_ok {rules : Mapping.Rules} : checkMappingRules e rules = .ok () ↔
    ∃ v, Mapping.review e.catalogue e.readers none rules = .ok v ∧ v.isValid := by
  rw [checkMappingRules]
  rcases Mapping.review e.catalogue e.readers none rules with f | v
  · simp [Failure.ofFault]
  · by_cases h : v.isValid <;> simp [Failure.ofFault, h]

lemma checkLogic_eq_ok {q : Rule} : checkLogic q = .ok () ↔ q.logic.problems = .ok [] := by
  rw [checkLogic]
  rcases q.logic.problems with f | problems
  · simp [Failure.ofFault]
  · cases problems <;> simp [Failure.ofFault]

lemma Makes.checked {old : Option Configuration} {c : Configuration} (h : Makes e s op old c) :
    checkMappingRules e c.rules = .ok () ∨ ∃ o, old = some o ∧ c.rules = o.rules := by
  cases h with
  | create made new =>
    rename_i tenant user
    obtain ⟨draft, -, made⟩ := bind_eq_ok.1 made
    obtain ⟨⟨⟩, hrules, made⟩ := bind_eq_ok.1 made
    have hbuild := ofReading_eq_ok.1 made
    rcases tenant with _ | tenant
    · simp [Mapping.Draft.build, Reading.refuse, Reading.under] at hbuild
    · obtain rfl := Except.ok.inj hbuild
      exact .inl hrules
  -- rules that a change does not set are those that were checked before
  | update made =>
    obtain ⟨-, changes, -, hrules, hupdate⟩ := changedConfiguration_eq_ok made
    rcases Configuration.rules_of_update hupdate with hset | hkept
    · rw [hset] at hrules
      exact .inl hrules
    · exact .inr ⟨_, rfl, hkept⟩
  | delete found => exact .inr ⟨_, rfl, rfl⟩
  | activate found => exact .inr ⟨_, rfl, rfl⟩
  | deactivate found => exact .inr ⟨_, rfl, rfl⟩

lemma MakesRule.checked {old : Option Rule} {q : Rule} (h : MakesRule e s op old q) :
    checkLogic q = .ok () ∨ ∃ o, old = some o ∧ q.logic = o.logic := by
  cases h with
  | create made =>
    obtain ⟨draft, -, made⟩ := bind_eq_ok.1 made
    obtain ⟨x, -, made⟩ := bind_eq_ok.1 made
    obtain ⟨⟨⟩, hlogic, made⟩ := bind_eq_ok.1 made
    obtain rfl := Except.ok.inj made
    exact .inl hlogic
  -- an updated rule is checked as a whole, with its old logic or a new one
  | update made =>
    obtain ⟨changes, -, made⟩ := bind_eq_ok.1 made
    obtain ⟨o, -, made⟩ := bind_eq_ok.1 made
    rcases changes with _ | changes
    · simp at made
    · obtain ⟨x, -, made⟩ := bind_eq_ok.1 made
      obtain ⟨⟨⟩, hlogic, made⟩ := bind_eq_ok.1 made
      obtain ⟨-, rfl⟩ := Prod.mk.inj (Except.ok.inj made)
      exact .inl hlogic
  | delete found => exact .inr ⟨_, rfl, rfl⟩

/-! ### Stores -/

/-- Everything that is kept has a property: the rules of configurations, and the logics of rules. -/
structure AllKept (P : Mapping.Rules → Prop) (Q : Rule.Logic → Prop) (s : Store) : Prop where
  configurations : ∀ p ∈ s.configurations, P p.2.rules
  rules : ∀ p ∈ s.rules, Q p.2.logic

lemma allKept_empty (P : Mapping.Rules → Prop) (Q : Rule.Logic → Prop) : AllKept P Q .empty :=
  ⟨fun _ h => absurd h List.not_mem_nil, fun _ h => absurd h List.not_mem_nil⟩

lemma Makes.found_mem {old c : Configuration} (h : Makes e s op (some old) c) :
    ∃ id, (id, old) ∈ s.configurations := by
  obtain ⟨id, -, hfound⟩ := h.found
  exact ⟨id, Table.mem_of_get? (findConfiguration_eq_ok.1 hfound).1⟩

lemma MakesRule.found_mem {old q : Rule} (h : MakesRule e s op (some old) q) :
    ∃ id, (id, old) ∈ s.rules := by
  obtain ⟨id, hfound, -⟩ := h.place
  exact ⟨id, Table.mem_of_get? (findRule_eq_ok.1 hfound).1⟩

/-- An operation keeps a property of everything that is kept, if the checks grant it. -/
lemma Effect.allKept {P : Mapping.Rules → Prop} {Q : Rule.Logic → Prop}
    (hP : ∀ rules, checkMappingRules e rules = .ok () → P rules)
    (hQ : ∀ q : Rule, checkLogic q = .ok () → Q q.logic) (hs : AllKept P Q s) (h : Effect e s op r) :
    AllKept P Q r.2 := by
  cases h with
  | refused => exact hs
  | answered => exact hs
  | @made op old c h =>
    rw [ending_snd]
    refine ⟨fun p hp => ?_, hs.rules⟩
    obtain hp | rfl := Table.mem_put hp
    · exact hs.configurations p hp
    · -- what was not checked now has the rules of what was kept already
      rcases h.checked with hchecked | ⟨o, rfl, hrules⟩
      · exact hP _ hchecked
      · obtain ⟨id, hmem⟩ := h.found_mem
        exact hrules ▸ hs.configurations _ hmem
  | @ruled op old q h =>
    rw [ending_snd]
    refine ⟨hs.configurations, fun p hp => ?_⟩
    obtain hp | rfl := Table.mem_put hp
    · exact hs.rules p hp
    · rcases h.checked with hchecked | ⟨o, rfl, hlogic⟩
      · exact hQ _ hchecked
      · obtain ⟨id, hmem⟩ := h.found_mem
        exact hlogic ▸ hs.rules _ hmem
  | ran found =>
    rw [keepRun_eq]
    exact ⟨hs.configurations, hs.rules⟩

/-! ### Runs -/

lemma allKept_run {P : Mapping.Rules → Prop} {Q : Rule.Logic → Prop}
    {l : Limits} {k : Catalogue} (hQ : ∀ q : Rule, checkLogic q = .ok () → Q q.logic)
    (hP : ∀ (e : Environment) rules, e.catalogue = k → e.readers = .within l →
      checkMappingRules e rules = .ok () → P rules)
    (ops : List (Circumstances × Operation)) (hl : ∀ p ∈ ops, p.1.settings.limits = l)
    (hk : ∀ p ∈ ops, p.1.catalogue = k) : AllKept P Q (run .initial ops).1.store := by
  induction ops using List.reverseRecOn with
  | nil => exact allKept_empty P Q
  | append_singleton ops p ih =>
    have hprefix : ∀ q ∈ ops, q.1.settings.limits = l := fun q hq => hl q (by simp [hq])
    have hkeeps := ih hprefix fun q hq => hk q (by simp [hq])
    -- what is in memory was read under the limits that are in force
    have hreaders : (p.1.environment (run .initial ops).1.memory).readers = .within l := by
      rw [Circumstances.environment, hl p (by simp)]
      exact (under_run ops hprefix).readers
    rw [run_snoc]
    exact (step_effect p.1 _ p.2).allKept (fun rules => hP _ rules (hk p (by simp)) hreaders) hQ hkeeps

/-- **Everything that is kept is valid**, after any operations under limits that stay: the rules of
every configuration pass a review, so all their texts are read and all their transformations exist,
and no rule has a logic with problems. -/
theorem stored_valid {l : Limits} {k : Catalogue} (ops : List (Circumstances × Operation))
    (hl : ∀ p ∈ ops, p.1.settings.limits = l) (hk : ∀ p ∈ ops, p.1.catalogue = k) :
    (∀ p ∈ (run .initial ops).1.store.configurations,
        (∃ v, Mapping.review k (.within l) none p.2.rules = .ok v ∧ v.isValid) ∧
          p.2.rules.Reads k (.within l)) ∧
      ∀ p ∈ (run .initial ops).1.store.rules, p.2.logic.problems = .ok [] := by
  obtain ⟨hconfigurations, hrules⟩ := allKept_run (l := l) (k := k)
    (P := fun rules => ∃ v, Mapping.review k (.within l) none rules = .ok v ∧ v.isValid)
    (Q := fun logic => logic.problems = .ok [])
    (fun q hq => checkLogic_eq_ok.1 hq)
    (fun e rules hcatalogue hreaders hchecked => by
      rw [← hcatalogue, ← hreaders]
      exact checkMappingRules_eq_ok.1 hchecked) ops hl hk
  exact ⟨fun p hp => ⟨hconfigurations p hp, Mapping.review_isValid_iff.1 (hconfigurations p hp)⟩,
    hrules⟩

/-! ### A small history -/

def amountDraft : Value := .object
  [("name", .text "name"), ("source_system", .text "a"), ("destination_system", .text "b"),
    ("mapping_type", .text "CONTRIBUTION"),
    ("mapping_rules", .object
      [("conditional_mappings", .list [.object [("condition", .text "source.a == 1")]]),
        ("calculated_fields", .list [.object
          [("destination_field", .text "total"), ("formula", .text "a + b")]])])]

def patternDraft : Value := .object
  [("name", .text "rule"), ("rule_type", .text "FORMAT"), ("field", .text "a"),
    ("rule_logic", .object [("operator", .text "matches"), ("pattern", .text "[0-9]")]),
    ("error_message", .text "no")]

def newName : Value := .object [("name", .text "renamed")]

/-- A mapping and a rule that are created, renamed and ended. -/
def amountOperations : List (Circumstances × Operation) :=
  [.createMapping amountDraft (some "t") none, .updateMapping "x" newName (some "t") none,
    .deactivateMapping "x" (some "t") none, .activateMapping "x" (some "t") none,
    .deleteMapping "x" (some "t") none, .createRule patternDraft (some "t") none,
    .updateRule "x" newName (some "t") none].map fun op => (smallEnvironment.toCircumstances, op)

theorem amount_mapping_valid :
    ((run .initial amountOperations).1.store.configurations.map fun p =>
        (p.2.name, p.2.rules.calculations.length)) = [("renamed", 1)] ∧
    ((run .initial amountOperations).1.store.rules.map (·.2.name)) = ["renamed"] ∧
    (∀ p ∈ (run .initial amountOperations).1.store.configurations,
        (∃ v, Mapping.review [] (.within .standard) none p.2.rules = .ok v ∧ v.isValid) ∧
          p.2.rules.Reads [] (.within .standard)) ∧
      ∀ p ∈ (run .initial amountOperations).1.store.rules, p.2.logic.problems = .ok [] :=
  ⟨by decide +kernel, by decide +kernel,
    stored_valid amountOperations
      (by simp [amountOperations, smallEnvironment, Settings.standard])
      (by simp [amountOperations, smallEnvironment])⟩

end Service

end Crosswalk
