import Crosswalk.Proofs.Store

/-!
What a tenant sees of a store.

A tenant sees its configurations with their logs, its rules and the global ones, each in the order of
the store. Whatever is read for a tenant depends on that alone, but for the list of its rules, which
tells how its own stand among the global ones. What is written for it leaves the rest as it was, and is
written to what it sees.
-/

namespace Crosswalk.Store

open Mapping (Configuration)

def logsOfTenant (s : Store) (tenant : String) : List Execution.Log :=
  s.logs.filter fun l => (s.configurations.get? l.configuration).any fun c => c.tenant = tenant

/-- Stores with the same configurations, rules and logs of a tenant, and with the same global rules. -/
structure Agree (tenant : String) (s u : Store) : Prop where
  configurations : s.configurations.select (fun c => c.tenant = tenant) =
    u.configurations.select fun c => c.tenant = tenant
  ownRules : s.rules.select (fun r => r.tenant = some tenant) =
    u.rules.select fun r => r.tenant = some tenant
  globalRules : s.rules.select Rule.isGlobal = u.rules.select Rule.isGlobal
  logs : s.logsOfTenant tenant = u.logsOfTenant tenant

/-- Stores in which the rules of a tenant stand in the same places among the global ones. -/
def SameOrder (tenant : String) (s u : Store) : Prop :=
  s.rules.select (isVisible (some tenant)) = u.rules.select (isVisible (some tenant))

/-- Stores that agree for a tenant, and that have its rules in one order if two earlier ones had. -/
structure AgreeAfter (tenant : String) (s s' u u' : Store) : Prop where
  agree : Agree tenant u u'
  order : SameOrder tenant s s' → SameOrder tenant u u'

/-- A later store with the same configurations, rules and logs, but for those of a tenant. -/
structure KeepsOthers (tenant : String) (s u : Store) : Prop where
  configurations : u.configurations.select (fun c => c.tenant ≠ tenant) =
    s.configurations.select fun c => c.tenant ≠ tenant
  rules : u.rules.select (fun r => r.tenant ≠ some tenant) =
    s.rules.select fun r => r.tenant ≠ some tenant
  logs : u.logs.filter (fun l => l.tenant ≠ tenant) = s.logs.filter fun l => l.tenant ≠ tenant

variable {s s' u u' : Store} {c old : Configuration} {r : Rule} {l : Execution.Log}
  {tenant id : String}

lemma Sound.logsOfTenant_eq (h : s.Sound) (tenant : String) :
    s.logsOfTenant tenant = s.logs.filter fun l => l.tenant = tenant := by
  refine List.filter_congr fun l hl => ?_
  obtain ⟨c, hc, ht⟩ := h.logs l hl
  simp [hc, ht]

/-! ### Reading -/

lemma filter_allRules {p q : Rule → Bool} (h : s.rules.select q = s'.rules.select q)
    (hp : ∀ r, p r → q r) : s.allRules.filter p = s'.allRules.filter p := by
  have hselect : ∀ s : Store, s.allRules.filter p = ((s.rules.select q).map (·.2)).filter p := by
    intro s
    rw [allRules, Table.select, List.filter_map, List.filter_map, List.filter_filter]
    congr 1
    refine List.filter_congr fun e _ => ?_
    by_cases he : p e.2
    · simp [he, hp e.2 he]
    · simp [he]
  rw [hselect, hselect, h]

lemma SameOrder.rulesOf (h : SameOrder tenant s s') (kind : Option String) :
    s.rulesOf (some tenant) kind = s'.rulesOf (some tenant) kind :=
  filter_allRules h fun _ hr => (Bool.and_eq_true_iff.1 hr).1

namespace Agree

lemma configuration? (h : Agree tenant s s') (hs : s.Sound) (hs' : s'.Sound) (id : String) :
    s.configuration? id (some tenant) = s'.configuration? id (some tenant) := by
  have hlive : ∀ c, isLiveOf (some tenant) c → decide (c.tenant = tenant) := by
    intro c hc
    simp only [isLiveOf, Bool.and_eq_true, decide_eq_true_eq, Option.some.injEq] at hc
    simpa using hc.1
  rw [Store.configuration?, Store.configuration?,
    ← Table.filter_get?_select hs.configurationKeys hlive, h.configurations,
    Table.filter_get?_select hs'.configurationKeys hlive]

lemma configurationsOf (h : Agree tenant s s') (kind : Option String) (includeInactive : Bool) :
    s.configurationsOf (some tenant) kind includeInactive =
      s'.configurationsOf (some tenant) kind includeInactive := by
  -- what is listed is made of the entries one by one, and of foreign ones nothing is
  obtain ⟨f, hlist, hforeign⟩ : ∃ f : String × Configuration → Option Configuration,
      (∀ s : Store, s.configurationsOf (some tenant) kind includeInactive =
        latestFirst (·.createdAt) (s.configurations.filterMap f)) ∧
      ∀ e, decide (e.2.tenant = tenant) = false → f e = none := by
    refine ⟨_, fun s => rfl, ?_⟩
    intro e he
    have hne : e.2.tenant ≠ tenant := by simpa using he
    simp [isLiveOf, hne]
  have hselect := fun s : Store =>
    Table.filterMap_select (p := fun c => c.tenant = tenant) (t := s.configurations) hforeign
  rw [hlist, hlist, ← hselect s, ← hselect s', h.configurations]

lemma rule? (h : Agree tenant s s') (hs : s.Sound) (hs' : s'.Sound) (id : String) :
    (s.rule? id).filter (fun r => r.tenant = some tenant) =
      (s'.rule? id).filter fun r => r.tenant = some tenant := by
  rw [Store.rule?, Store.rule?, ← Table.get?_select hs.ruleKeys, h.ownRules,
    Table.get?_select hs'.ruleKeys]

lemma rulesFor (h : Agree tenant s s') (kind : String) :
    s.rulesFor kind (some tenant) = s'.rulesFor kind (some tenant) := by
  have hglobal := filter_allRules (p := fun r => r.isGlobal && r.isFor kind (some tenant))
    h.globalRules fun r hr => (Bool.and_eq_true_iff.1 hr).1
  have hown := filter_allRules (p := fun r => (!r.isGlobal) && r.isFor kind (some tenant))
    h.ownRules fun r hr => by
      simp only [Rule.isFor, Bool.and_eq_true, Bool.or_eq_true, Bool.not_eq_true'] at hr
      exact hr.2.2.resolve_left (by simp [hr.1])
  simp only [Store.rulesFor, Rule.select, List.filter_filter, hglobal, hown]

lemma rulesOf (h : Agree tenant s s') (kind : Option String) :
    (s.rulesOf (some tenant) kind).filter Rule.isGlobal =
        (s'.rulesOf (some tenant) kind).filter Rule.isGlobal ∧
      (s.rulesOf (some tenant) kind).filter (fun r => r.tenant = some tenant) =
        (s'.rulesOf (some tenant) kind).filter fun r => r.tenant = some tenant := by
  simp only [Store.rulesOf, List.filter_filter]
  exact ⟨filter_allRules h.globalRules fun r hr => (Bool.and_eq_true_iff.1 hr).1,
    filter_allRules h.ownRules fun r hr => (Bool.and_eq_true_iff.1 hr).1⟩

lemma logsOf (h : Agree tenant s s') (hc : s.configurations.get? id = some c)
    (hc' : s'.configurations.get? id = some c) (ht : c.tenant = tenant) (limit : Int) :
    s.logsOf id limit = s'.logsOf id limit := by
  have hselect : ∀ s : Store, s.configurations.get? id = some c →
      s.logs.filter (fun l => l.configuration = id) =
        (s.logsOfTenant tenant).filter fun l => l.configuration = id := by
    intro s hc
    rw [logsOfTenant, List.filter_filter]
    refine List.filter_congr fun l _ => ?_
    by_cases hl : l.configuration = id
    · simp [hl, hc, ht]
    · simp [hl]
  rw [Store.logsOf, Store.logsOf, hselect s hc, hselect s' hc', h.logs]

end Agree

/-! ### Writing -/

lemma select_putRule (hs : s.Sound) (hfits : s.FitsRule r) {p : Rule → Bool}
    (hp : ∀ w, w.tenant = r.tenant → p w = p r) : (s.putRule r).rules.select p =
      if p r then (s.rules.select p).put r.id r else s.rules.select p :=
  Table.select_put hs.ruleKeys fun w hw => hp w (hfits w hw)

namespace KeepsOthers

lemma refl (tenant : String) (s : Store) : KeepsOthers tenant s s := ⟨rfl, rfl, rfl⟩

lemma withEvents (h : KeepsOthers tenant s u) (xs : List Audit.Event) :
    KeepsOthers tenant s { u with events := xs } := ⟨h.configurations, h.rules, h.logs⟩

lemma putConfiguration (hs : s.Sound) (hfits : s.FitsConfiguration c) (ht : c.tenant = tenant) :
    KeepsOthers tenant s (s.putConfiguration c) where
  configurations := by
    refine (Table.select_put hs.configurationKeys fun w hw => ?_).trans (if_neg (by simp [ht]))
    rw [hfits w hw]
  rules := rfl
  logs := rfl

lemma putRule (hs : s.Sound) (hfits : s.FitsRule r) (ht : r.tenant = some tenant) :
    KeepsOthers tenant s (s.putRule r) where
  configurations := rfl
  rules := (select_putRule hs hfits fun w hw => by rw [hw]).trans (if_neg (by simp [ht]))
  logs := rfl

lemma addLog (s : Store) (ht : l.tenant = tenant) : KeepsOthers tenant s (s.addLog l) where
  configurations := rfl
  rules := rfl
  logs := by simp [Store.addLog, ht]

end KeepsOthers

namespace AgreeAfter

lemma refl (h : Agree tenant s s') : AgreeAfter tenant s s' s s' := ⟨h, id⟩

lemma withEvents (h : AgreeAfter tenant s s' u u') (xs ys : List Audit.Event) :
    AgreeAfter tenant s s' { u with events := xs } { u' with events := ys } where
  agree := ⟨h.agree.configurations, h.agree.ownRules, h.agree.globalRules, h.agree.logs⟩
  order := h.order

lemma putConfiguration (h : Agree tenant s s') (hs : s.Sound) (hs' : s'.Sound)
    (hfits : s.FitsConfiguration c) (hfits' : s'.FitsConfiguration c) (ht : c.tenant = tenant) :
    AgreeAfter tenant s s' (s.putConfiguration c) (s'.putConfiguration c) where
  agree.configurations := by
    have hput : ∀ s : Store, s.Sound → s.FitsConfiguration c →
        (s.putConfiguration c).configurations.select (fun c => c.tenant = tenant) =
          (s.configurations.select fun c => c.tenant = tenant).put c.id c := by
      intro s hs hfits
      refine (Table.select_put hs.configurationKeys fun w hw => ?_).trans (if_pos (by simp [ht]))
      rw [hfits w hw]
    rw [hput s hs hfits, hput s' hs' hfits', h.configurations]
  agree.ownRules := h.ownRules
  agree.globalRules := h.globalRules
  agree.logs := by
    rw [(hs.putConfiguration hfits).logsOfTenant_eq, (hs'.putConfiguration hfits').logsOfTenant_eq]
    have hlogs := h.logs
    rwa [hs.logsOfTenant_eq, hs'.logsOfTenant_eq] at hlogs
  order := id

lemma putRule (h : Agree tenant s s') (hs : s.Sound) (hs' : s'.Sound) (hfits : s.FitsRule r)
    (hfits' : s'.FitsRule r) : AgreeAfter tenant s s' (s.putRule r) (s'.putRule r) := by
  have hput : ∀ p : Rule → Bool, (∀ w, w.tenant = r.tenant → p w = p r) →
      s.rules.select p = s'.rules.select p →
        (s.putRule r).rules.select p = (s'.putRule r).rules.select p := by
    intro p hp hsame
    rw [select_putRule hs hfits hp, select_putRule hs' hfits' hp, hsame]
  refine ⟨⟨h.configurations, hput _ ?_ h.ownRules, hput _ ?_ h.globalRules, h.logs⟩, hput _ ?_⟩
  all_goals
    intro w hw
    simp only [isVisible, Rule.isGlobal, hw]

lemma addLog (h : Agree tenant s s')
    (hc : s.configurations.get? l.configuration = s'.configurations.get? l.configuration) :
    AgreeAfter tenant s s' (s.addLog l) (s'.addLog l) where
  agree.configurations := h.configurations
  agree.ownRules := h.ownRules
  agree.globalRules := h.globalRules
  agree.logs := by
    have hadd : ∀ s : Store, (s.addLog l).logsOfTenant tenant = s.logsOfTenant tenant ++
        [l].filter fun l => (s.configurations.get? l.configuration).any fun c => c.tenant = tenant :=
      fun s => List.filter_append ..
    rw [hadd, hadd, h.logs]
    congr 1
    refine List.filter_congr fun m hm => ?_
    obtain rfl := List.mem_singleton.1 hm
    rw [hc]
  order := id

end AgreeAfter

end Crosswalk.Store
