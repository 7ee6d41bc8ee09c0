import Crosswalk.Proofs.Table
import Crosswalk.Store

/-!
What a store keeps.

In a sound store every configuration and every rule stands under its own identity, each identity
stands once, and every log is one of a configuration that is kept, with its tenant. Writing keeps a
store sound, if what is written in the place of a configuration has the same tenant.
-/

namespace Crosswalk.Store

open Mapping (Configuration)

variable {s u : Store} {c old : Configuration} {r : Rule} {l : Execution.Log} {id : String}
  {tenant : Option String}

def putConfiguration (s : Store) (c : Configuration) : Store :=
  { s with configurations := s.configurations.put c.id c }

lemma insertConfiguration_eq_ok : s.insertConfiguration c = .ok u ↔
    s.configurations.get? c.id = none ∧ u = s.putConfiguration c := by
  rw [← Option.not_isSome_iff_eq_none, ← Table.has]
  by_cases h : s.configurations.has c.id
  · simp [insertConfiguration, h]
  · simp [insertConfiguration, h, putConfiguration, eq_comm (a := u)]

lemma replaceConfiguration_eq_ok : s.replaceConfiguration c = .ok u ↔
    (s.configurations.get? c.id).isSome ∧ u = s.putConfiguration c := by
  rw [← Table.has]
  by_cases h : s.configurations.has c.id
  · simp [replaceConfiguration, h, putConfiguration, eq_comm (a := u)]
  · simp [replaceConfiguration, h]

lemma replaceRule_eq_ok :
    s.replaceRule r = .ok u ↔ (s.rules.get? r.id).isSome ∧ u = s.putRule r := by
  rw [← Table.has]
  by_cases h : s.rules.has r.id
  · simp [replaceRule, h, eq_comm (a := u)]
  · simp [replaceRule, h]

lemma configuration?_eq_some : s.configuration? id tenant = some c ↔
    s.configurations.get? id = some c ∧ tenant = some c.tenant ∧ c.deletedAt = none := by
  rw [configuration?, Option.filter_eq_some_iff]
  simp [isLiveOf, eq_comm (a := tenant)]

lemma get?_putConfiguration (k : String) : (s.putConfiguration c).configurations.get? k =
    if k = c.id then some c else s.configurations.get? k :=
  Table.get?_put s.configurations c.id k c

lemma get?_putRule (k : String) :
    (s.putRule r).rules.get? k = if k = r.id then some r else s.rules.get? k :=
  Table.get?_put s.rules r.id k r

/-! ### Sound stores -/

structure Sound (s : Store) : Prop where
  configurationKeys : s.configurations.keys.Nodup
  configurationId : ∀ k c, s.configurations.get? k = some c → c.id = k
  ruleKeys : s.rules.keys.Nodup
  ruleId : ∀ k r, s.rules.get? k = some r → r.id = k
  logs : ∀ l ∈ s.logs, ∃ c, s.configurations.get? l.configuration = some c ∧ c.tenant = l.tenant

lemma sound_empty : Sound empty where
  configurationKeys := List.nodup_nil
  configurationId := by simp [empty]
  ruleKeys := List.nodup_nil
  ruleId := by simp [empty]
  logs := by simp [empty]

/-- What is in the place of a configuration, if anything, is of the same tenant. -/
def FitsConfiguration (s : Store) (c : Configuration) : Prop :=
  ∀ old, s.configurations.get? c.id = some old → old.tenant = c.tenant

/-- What is in the place of a rule, if anything, is of the same tenant. -/
def FitsRule (s : Store) (r : Rule) : Prop :=
  ∀ old, s.rules.get? r.id = some old → old.tenant = r.tenant

lemma Sound.putConfiguration (h : s.Sound) (hfits : s.FitsConfiguration c) :
    (s.putConfiguration c).Sound where
  configurationKeys := Table.nodup_keys_put h.configurationKeys c.id c
  configurationId k d hd := by
    rw [get?_putConfiguration] at hd
    split at hd
    · obtain rfl := Option.some.inj hd
      exact Eq.symm ‹_›
    · exact h.configurationId k d hd
  ruleKeys := h.ruleKeys
  ruleId := h.ruleId
  logs l hl := by
    obtain ⟨d, hd, ht⟩ := h.logs l hl
    rw [get?_putConfiguration]
    split
    · -- a log of the replaced configuration is one of the new one, which has the same tenant
      rename_i heq
      rw [heq] at hd
      exact ⟨c, rfl, (hfits d hd).symm.trans ht⟩
    · exact ⟨d, hd, ht⟩

lemma Sound.putRule (h : s.Sound) : (s.putRule r).Sound where
  configurationKeys := h.configurationKeys
  configurationId := h.configurationId
  ruleKeys := Table.nodup_keys_put h.ruleKeys r.id r
  ruleId k q hq := by
    rw [get?_putRule] at hq
    split at hq
    · obtain rfl := Option.some.inj hq
      exact Eq.symm ‹_›
    · exact h.ruleId k q hq
  logs := h.logs

lemma Sound.addLog (h : s.Sound) (hc : s.configurations.get? l.configuration = some c)
    (ht : c.tenant = l.tenant) : (s.addLog l).Sound where
  configurationKeys := h.configurationKeys
  configurationId := h.configurationId
  ruleKeys := h.ruleKeys
  ruleId := h.ruleId
  logs m hm := by
    rcases List.mem_append.1 hm with hm | hm
    · exact h.logs m hm
    · obtain rfl := List.mem_singleton.1 hm
      exact ⟨c, hc, ht⟩

lemma Sound.withEvents (h : s.Sound) (xs : List Audit.Event) : { s with events := xs }.Sound :=
  ⟨h.configurationKeys, h.configurationId, h.ruleKeys, h.ruleId, h.logs⟩

end Crosswalk.Store
