import Crosswalk.Proofs.Mapping.Configuration
import Crosswalk.Proofs.Rule.Basic
import Crosswalk.Proofs.Service.Effect

/-!
What an operation makes of an entity.

A new configuration is a first version, under the fresh identity and for the tenant who asks for it.
Every other one takes the place of a live configuration of that tenant and keeps its identity and its
origin: an update counts the version on, a deletion ends its life, and nothing else does either.
-/

namespace Crosswalk

open Fallible

namespace Mapping.Configuration

structure SameOrigin (old c : Configuration) : Prop where
  id : c.id = old.id
  tenant : c.tenant = old.tenant
  kind : c.kind = old.kind
  template : c.template = old.template
  createdBy : c.createdBy = old.createdBy
  createdAt : c.createdAt = old.createdAt

lemma SameOrigin.refl (c : Configuration) : SameOrigin c c := ⟨rfl, rfl, rfl, rfl, rfl, rfl⟩

lemma SameOrigin.trans {a b c : Configuration} (h : SameOrigin a b) (k : SameOrigin b c) :
    SameOrigin a c where
  id := k.id.trans h.id
  tenant := k.tenant.trans h.tenant
  kind := k.kind.trans h.kind
  template := k.template.trans h.template
  createdBy := k.createdBy.trans h.createdBy
  createdAt := k.createdAt.trans h.createdAt

lemma update_eq_ok {old c : Configuration} {changes : Changes} {now : Moment} {user : Option String}
    (h : old.update changes now user = .ok c) :
    SameOrigin old c ∧ c.version = old.version + 1 ∧ c.deletedAt = old.deletedAt := by
  obtain ⟨name, content, -, -, rfl⟩ := Reading.both_eq_ok.1 h
  exact ⟨⟨rfl, rfl, rfl, rfl, rfl, rfl⟩, rfl, rfl⟩

end Mapping.Configuration

namespace Rule

variable {old r : Rule}

lemma withTarget_eq_ok (h : old.withTarget = .ok r) : r = old := by
  unfold withTarget at h
  split at h
  · exact (Except.ok.inj h).symm
  · cases h

lemma update_eq_ok {changes : Changes} {now : Moment} (h : old.update changes now = .ok r) :
    r.id = old.id ∧ r.tenant = old.tenant := by
  unfold update at h
  dsimp only at h
  split at h
  · rename_i q hq
    obtain ⟨name, content, -, -, rfl⟩ := Reading.both_eq_ok.1 hq
    obtain rfl := withTarget_eq_ok h
    exact ⟨rfl, rfl⟩
  · cases h

end Rule

namespace Service

open Mapping (Configuration)
open Mapping.Configuration (SameOrigin)

variable {e : Environment} {s : Store} {op : Operation} {old c : Configuration} {id : String}
  {tenant : Option String}

lemma ofReading_eq_ok {α : Type} {x : Reading α} {a : α} : Failure.ofReading x = .ok a ↔ x = .ok a := by
  cases x <;> simp [Failure.ofReading]

lemma findConfiguration_eq_ok : findConfiguration s id tenant = .ok c ↔
    s.configurations.get? id = some c ∧ tenant = some c.tenant ∧ c.deletedAt = none := by
  rw [← Store.configuration?_eq_some, findConfiguration]
  rcases s.configuration? id tenant with _ | d <;> simp

lemma findRule_eq_ok {r : Rule} : findRule s id tenant = .ok r ↔
    s.rules.get? id = some r ∧ r.tenant = tenant := by
  rw [findRule, Store.rule?]
  rcases s.rules.get? id with _ | q
  · simp
  · rw [Option.filter_some]
    by_cases hq : q.tenant = tenant
    · simp only [hq, decide_true, if_true, Except.ok.injEq, Option.some.injEq, iff_self_and]
      rintro rfl
      exact hq
    · simp only [hq, decide_false, Bool.false_eq_true, if_false, reduceCtorEq, Option.some.injEq,
        false_iff, not_and]
      rintro rfl
      exact hq

/-! ### Configurations -/

namespace Operation

/-- The identity of the configuration that an operation makes, if it makes one. -/
def making (fresh : String) : Operation → Option String
  | .createMapping .. => some fresh
  | .updateMapping id .. => some id
  | .deleteMapping id .. => some id
  | .activateMapping id .. => some id
  | .deactivateMapping id .. => some id
  | _ => none

def isUpdate : Operation → Bool
  | .updateMapping .. => true
  | _ => false

def isDelete : Operation → Bool
  | .deleteMapping .. => true
  | _ => false

end Operation

structure IsFirst (e : Environment) (op : Operation) (c : Configuration) : Prop where
  id : c.id = e.id
  tenant : op.tenant = some c.tenant
  version : c.version = 1
  alive : c.deletedAt = none

/-- A configuration in the place of an old one. -/
structure IsNext (op : Operation) (old c : Configuration) : Prop where
  origin : SameOrigin old c
  version : c.version = old.version + if op.isUpdate then 1 else 0
  deleted : c.deletedAt.isSome = op.isDelete
  inactive : op.isDelete → c.isActive = false

lemma build_of_newConfiguration {data : Value} {user : Option String}
    (h : newConfiguration e data tenant user = .ok c) :
    ∃ (draft : Mapping.Draft) (owner : String), tenant = some owner ∧
      draft.build e.fresh (some owner) user = .ok c := by
  obtain ⟨draft, -, h⟩ := bind_eq_ok.1 h
  obtain ⟨-, -, h⟩ := bind_eq_ok.1 h
  have hbuild := ofReading_eq_ok.1 h
  rcases tenant with _ | owner
  · simp [Mapping.Draft.build, Reading.refuse, Reading.under] at hbuild
  · exact ⟨draft, owner, rfl, hbuild⟩

lemma newConfiguration_eq_ok {data : Value} {user : Option String}
    (h : newConfiguration e data tenant user = .ok c) :
    IsFirst e (.createMapping data tenant user) c := by
  obtain ⟨draft, owner, rfl, hbuild⟩ := build_of_newConfiguration h
  obtain rfl := Except.ok.inj hbuild
  exact ⟨rfl, rfl, rfl, rfl⟩

lemma readChanges_eq_ok {α : Type} {c : Codec α} {data : Value} {changes : α}
    (h : readChanges c data = .ok (some changes)) : c.read data = .ok changes := by
  unfold readChanges at h
  split at h
  · obtain ⟨x, hx, heq⟩ := map_eq_ok.1 (show some <$> _ = _ from h)
    rw [← Option.some.inj heq]
    exact ofReading_eq_ok.1 hx
  · cases h

lemma changedConfiguration_eq_ok {data : Value} {user : Option String}
    (h : changedConfiguration e s id data tenant user = .ok (old, c)) :
    findConfiguration s id tenant = .ok old ∧
      ∃ changes, Mapping.Changes.codec.read data = .ok changes ∧
        checkChangedRules e changes.rules = .ok () ∧
          old.update changes e.fresh.now user = .ok c := by
  obtain ⟨changes, hchanges, h⟩ := bind_eq_ok.1 h
  obtain ⟨d, hd, h⟩ := bind_eq_ok.1 h
  rcases changes with _ | changes
  · simp at h
  · obtain ⟨⟨⟩, hrules, h⟩ := bind_eq_ok.1 h
    obtain ⟨x, hx, h⟩ := bind_eq_ok.1 h
    obtain ⟨rfl, rfl⟩ := Prod.mk.inj (Except.ok.inj h)
    have hdata := readChanges_eq_ok hchanges
    exact ⟨hd, changes, hdata, hrules,
      Configuration.update_of_merge hdata (ofReading_eq_ok.1 hx)⟩

namespace Makes

lemma found (h : Makes e s op (some old) c) : ∃ id, op.making e.id = some id ∧
    findConfiguration s id op.tenant = .ok old := by
  cases h with
  | update made => exact ⟨_, rfl, (changedConfiguration_eq_ok made).1⟩
  | delete found => exact ⟨_, rfl, found⟩
  | activate found => exact ⟨_, rfl, found⟩
  | deactivate found => exact ⟨_, rfl, found⟩

lemma isFirst (h : Makes e s op none c) : IsFirst e op c := by
  cases h with
  | create made new => exact newConfiguration_eq_ok made

lemma isNext (h : Makes e s op (some old) c) : IsNext op old c := by
  obtain ⟨id, -, hold⟩ := h.found
  obtain ⟨-, -, hlive⟩ := findConfiguration_eq_ok.1 hold
  cases h with
  | update made =>
    obtain ⟨-, changes, -, -, hc⟩ := changedConfiguration_eq_ok made
    obtain ⟨horigin, hversion, hdeleted⟩ := Configuration.update_eq_ok hc
    exact ⟨horigin, hversion, by rw [hdeleted, hlive]; rfl, by simp [Operation.isDelete]⟩
  | delete found => exact ⟨⟨rfl, rfl, rfl, rfl, rfl, rfl⟩, (Int.add_zero _).symm, rfl, fun _ => rfl⟩
  | activate found =>
    exact ⟨⟨rfl, rfl, rfl, rfl, rfl, rfl⟩, (Int.add_zero _).symm, congrArg Option.isSome hlive,
      by simp [Operation.isDelete]⟩
  | deactivate found =>
    exact ⟨⟨rfl, rfl, rfl, rfl, rfl, rfl⟩, (Int.add_zero _).symm, congrArg Option.isSome hlive,
      by simp [Operation.isDelete]⟩

lemma tenant_eq {old : Option Configuration} (h : Makes e s op old c) : op.tenant = some c.tenant := by
  rcases old with _ | old
  · exact h.isFirst.tenant
  · obtain ⟨id, -, hold⟩ := h.found
    obtain ⟨-, ht, -⟩ := findConfiguration_eq_ok.1 hold
    rw [ht, h.isNext.origin.tenant]

lemma making {old : Option Configuration} (hs : s.Sound) (h : Makes e s op old c) :
    op.making e.id = some c.id ∧ s.configurations.get? c.id = old := by
  rcases old with _ | old
  · cases h with
    | create made new => exact ⟨congrArg some (create made new).isFirst.id.symm, new⟩
  · obtain ⟨id, hid, hold⟩ := h.found
    obtain ⟨hget, -, -⟩ := findConfiguration_eq_ok.1 hold
    have hc : c.id = id := h.isNext.origin.id.trans (hs.configurationId id old hget)
    rw [hc]
    exact ⟨hid, hget⟩

lemma fits {old : Option Configuration} (hs : s.Sound) (h : Makes e s op old c) :
    s.FitsConfiguration c := by
  intro w hw
  rw [(h.making hs).2] at hw
  subst hw
  exact h.isNext.origin.tenant.symm

end Makes

/-! ### Rules -/

lemma newRule_eq_ok {data : Value} {r : Rule} (h : newRule e data tenant = .ok r) :
    r.id = e.id ∧ r.tenant = tenant := by
  obtain ⟨draft, -, h⟩ := bind_eq_ok.1 h
  obtain ⟨q, hq, h⟩ := bind_eq_ok.1 h
  obtain ⟨-, -, h⟩ := bind_eq_ok.1 h
  obtain rfl := Except.ok.inj h
  obtain rfl := Rule.withTarget_eq_ok (ofReading_eq_ok.1 hq)
  exact ⟨rfl, rfl⟩

lemma changedRule_eq_ok {data : Value} {old r : Rule}
    (h : changedRule e s id data tenant = .ok (old, r)) :
    findRule s id tenant = .ok old ∧
      ∃ changes, Rule.Changes.codec.read data = .ok changes ∧
        old.update changes e.fresh.now = .ok r := by
  obtain ⟨changes, hchanges, h⟩ := bind_eq_ok.1 h
  obtain ⟨d, hd, h⟩ := bind_eq_ok.1 h
  rcases changes with _ | changes
  · simp at h
  · obtain ⟨x, hx, h⟩ := bind_eq_ok.1 h
    obtain ⟨-, -, h⟩ := bind_eq_ok.1 h
    obtain ⟨rfl, rfl⟩ := Prod.mk.inj (Except.ok.inj h)
    have hdata := readChanges_eq_ok hchanges
    exact ⟨hd, changes, hdata, Rule.update_of_merge hdata (ofReading_eq_ok.1 hx)⟩

namespace MakesRule

variable {old : Option Rule} {r : Rule}

lemma place (h : MakesRule e s op old r) :
    match old with
    | none => r.id = e.id
    | some old => ∃ id, findRule s id op.tenant = .ok old ∧ r.id = old.id := by
  cases h with
  | create made => exact (newRule_eq_ok made).1
  | update made =>
    obtain ⟨hold, changes, -, hr⟩ := changedRule_eq_ok made
    exact ⟨_, hold, (Rule.update_eq_ok hr).1⟩
  | delete found => exact ⟨_, found, rfl⟩

lemma tenant_eq (h : MakesRule e s op old r) : r.tenant = op.tenant := by
  cases h with
  | create made => exact (newRule_eq_ok made).2
  | update made =>
    obtain ⟨hold, changes, -, hr⟩ := changedRule_eq_ok made
    exact (Rule.update_eq_ok hr).2.trans (findRule_eq_ok.1 hold).2
  | delete found => exact (findRule_eq_ok.1 found).2

lemma making (h : MakesRule e s op old r) (fresh : String) : op.making fresh = none := by
  cases h <;> rfl

end MakesRule

end Service

end Crosswalk
