import Crosswalk.Mapping.Stage
import Crosswalk.Proofs.Table

/-!
What defaults leave in a field.

Defaults are written into one record, one after the other, and each looks at what the record holds
by then. What a field ends with still comes from two things alone: what it held at first, and the
defaults for it in their order. `settle` runs these by themselves. So a default for another field
changes nothing, a value stays if no default for its field fires on it, and a default that always
fires makes all that came before it void.
-/

namespace Crosswalk.Mapping

def ownDefaults (defaults : List Default) (field : String) : List Default :=
  defaults.filter (·.destination = field)

def settleNext (held : Option Value) (x : Default) : Option Value :=
  if x.policy.fires (Value.ofOption held) then some x.value else held

def settle (held : Option Value) (own : List Default) : Option Value := own.foldl settleNext held

def withDefault (d : Record) (x : Default) : Record :=
  if x.policy.fires (d.value x.destination) then Table.put d x.destination x.value else d

variable {defaults : List Default} {d : Record} {field : String}

@[simp] lemma withDefaults_cons (x : Default) (defaults : List Default) (d : Record) :
    withDefaults (x :: defaults) d = withDefaults defaults (withDefault d x) := rfl

@[simp] lemma settle_nil (held : Option Value) : settle held [] = held := rfl

@[simp] lemma settle_cons (held : Option Value) (x : Default) (own : List Default) :
    settle held (x :: own) = settle (settleNext held x) own := rfl

lemma settle_append (held : Option Value) (xs ys : List Default) :
    settle held (xs ++ ys) = settle (settle held xs) ys := List.foldl_append

lemma ownDefaults_append (xs ys : List Default) (field : String) :
    ownDefaults (xs ++ ys) field = ownDefaults xs field ++ ownDefaults ys field :=
  List.filter_append ..

lemma mem_ownDefaults {x : Default} :
    x ∈ ownDefaults defaults field ↔ x ∈ defaults ∧ x.destination = field := by
  simp [ownDefaults]

lemma ownDefaults_ownDefaults (defaults : List Default) (field : String) :
    ownDefaults (ownDefaults defaults field) field = ownDefaults defaults field := by
  simp [ownDefaults]

/-! ### One field of the record -/

lemma get?_withDefault (d : Record) (x : Default) (field : String) :
    Table.get? (withDefault d x) field =
      if x.destination = field then settleNext (Table.get? d field) x else Table.get? d field := by
  unfold withDefault settleNext Record.value
  by_cases hfield : x.destination = field
  · subst hfield
    rw [if_pos rfl]
    split
    · rw [Table.get?_put, if_pos rfl]
    · rfl
  · rw [if_neg hfield]
    split
    · rw [Table.get?_put, if_neg (Ne.symm hfield)]
    · rfl

lemma get?_withDefaults (defaults : List Default) (d : Record) (field : String) :
    Table.get? (withDefaults defaults d) field =
      settle (Table.get? d field) (ownDefaults defaults field) := by
  induction defaults generalizing d with
  | nil => rfl
  | cons x defaults ih =>
    rw [withDefaults_cons, ih, get?_withDefault]
    by_cases hfield : x.destination = field
    · have hown : ownDefaults (x :: defaults) field = x :: ownDefaults defaults field := by
        simp [ownDefaults, hfield]
      rw [if_pos hfield, hown, settle_cons]
    · have hown : ownDefaults (x :: defaults) field = ownDefaults defaults field := by
        simp [ownDefaults, hfield]
      rw [if_neg hfield, hown]

/-! ### Defaults by their policies -/

lemma settle_of_silent {v : Value} {own : List Default}
    (h : ∀ x ∈ own, x.policy.fires v = false) : settle (some v) own = some v := by
  induction own with
  | nil => rfl
  | cons x own ih =>
    have hx : settleNext (some v) x = some v := by
      have hsilent := h x List.mem_cons_self
      simp [settleNext, Value.ofOption, hsilent]
    rw [settle_cons, hx]
    exact ih fun y hy => h y (List.mem_cons_of_mem x hy)

lemma settleNext_always {x : Default} (h : x.policy = .always) (held : Option Value) :
    settleNext held x = some x.value := by
  simp [settleNext, DefaultPolicy.fires, h]

lemma fires_of_present {x : Default} {v : Value} (halways : x.policy ≠ .always)
    (hpresent : v.isMissing = false) (hfull : x.policy = .ifEmpty → v.isEmpty = false) :
    x.policy.fires v = false := by
  rcases hp : x.policy with _ | _ | _
  · exact absurd hp halways
  · exact hpresent
  · exact hfull hp

/-! ### All defaults together -/

/-- What a record becomes by defaults, seen field by field. -/
structure SettledBy (defaults : List Default) (d r : Record) : Prop where
  /-- Without a default a field is as it was. -/
  untouched : ∀ field, (∀ x ∈ defaults, x.destination ≠ field) →
    Table.get? r field = Table.get? d field
  /-- A value that is there stays, unless a default always fires, or fires because it is empty. -/
  kept : ∀ field v, Table.get? d field = some v →
    (∀ x ∈ defaults, x.destination = field → x.policy ≠ .always) → v.isMissing = false →
    ((∃ x ∈ defaults, x.destination = field ∧ x.policy = .ifEmpty) → v.isEmpty = false) →
    Table.get? r field = some v
  /-- From a default that always fires on, and so from the last one, only its value and the later
  defaults for its field count. -/
  renewed : ∀ before x after, defaults = before ++ x :: after → x.policy = .always →
    Table.get? r x.destination =
      Table.get? (withDefaults (ownDefaults after x.destination) [(x.destination, x.value)])
        x.destination
  /-- Other fields and the defaults for them do not matter. -/
  alone : ∀ field others e, ownDefaults others field = ownDefaults defaults field →
    Table.get? e field = Table.get? d field →
    Table.get? (withDefaults others e) field = Table.get? r field

/-- **Defaults settle each field by itself.** -/
theorem withDefaults_settles (defaults : List Default) (d : Record) :
    SettledBy defaults d (withDefaults defaults d) where
  untouched field h := by
    have hown : ownDefaults defaults field = [] := by
      rw [ownDefaults, List.filter_eq_nil_iff]
      intro x hx
      simpa using h x hx
    rw [get?_withDefaults, hown, settle_nil]
  -- no default for the field fires, as it is present and not empty where that is asked for
  kept field v hv halways hpresent hfull := by
    rw [get?_withDefaults, hv]
    refine settle_of_silent fun x hx => ?_
    obtain ⟨hmem, hfield⟩ := mem_ownDefaults.1 hx
    exact fires_of_present (halways x hmem hfield) hpresent fun hp => hfull ⟨x, hmem, hfield, hp⟩
  -- what stands in front of the last default that always fires is written over
  renewed before x after hsplit halways := by
    have hown : ownDefaults defaults x.destination =
        ownDefaults before x.destination ++ x :: ownDefaults after x.destination := by
      rw [hsplit, ownDefaults_append]
      simp [ownDefaults]
    have hsingle : Table.get? [(x.destination, x.value)] x.destination = some x.value := by
      rw [Table.get?_cons, if_pos rfl]
    rw [get?_withDefaults, get?_withDefaults, hown, settle_append, settle_cons,
      settleNext_always halways, hsingle, ownDefaults_ownDefaults]
  alone field others e hown hheld := by
    rw [get?_withDefaults, get?_withDefaults, hown, hheld]

/-- A null that is always written is filled by a later default for nulls, not by an earlier one. -/
example : withDefaults
    [⟨"a", .int 1, .ifNull⟩, ⟨"a", .null, .always⟩, ⟨"b", .text "", .always⟩, ⟨"a", .int 2, .ifNull⟩,
      ⟨"b", .int 3, .ifNull⟩]
    [("a", .int 0)] = [("a", .int 2), ("b", .text "")] := rfl

end Crosswalk.Mapping
