import Mathlib.Data.List.Nodup
import Mathlib.Data.List.Perm.Subperm
import Mathlib.Tactic.Common
import Crosswalk.Table

/-!
What tables give back.

A key that has been put in gives the value that was put in last, and every other key what it gave
before; so it is with a whole table that is put over another. Keys that differ stay different. Where
they do, the entries whose values satisfy a test give what the whole table gives, as far as it
satisfies the test. Tables that give the same values are of one length.
-/

namespace Crosswalk

section

variable {κ α : Type} [BEq κ] [LawfulBEq κ] [DecidableEq κ]

lemma lookup_cons_ite (p : κ × α) (es : List (κ × α)) (k : κ) :
    (p :: es).lookup k = if k = p.1 then some p.2 else es.lookup k := by
  rw [List.lookup_cons]
  by_cases h : k = p.1
  · rw [if_pos h, show (k == p.1) = true by simpa using h]
  · rw [if_neg h, show (k == p.1) = false by simpa using h]

lemma lookup_of_mem {es : List (κ × α)} (hn : (es.map (·.1)).Nodup) {p : κ × α} (hp : p ∈ es) :
    es.lookup p.1 = some p.2 := by
  induction es with
  | nil => simp at hp
  | cons q es ih =>
    rw [List.map_cons, List.nodup_cons] at hn
    rw [lookup_cons_ite]
    rcases List.mem_cons.1 hp with rfl | hp
    · simp
    · have hne : p.1 ≠ q.1 := by
        intro heq
        exact hn.1 (heq ▸ List.mem_map_of_mem hp)
      rw [if_neg hne]
      exact ih hn.2 hp

end

namespace Table

variable {α : Type}

@[simp] lemma get?_nil (k : String) : get? ([] : Table α) k = none := rfl

lemma get?_cons (p : String × α) (t : Table α) (k : String) :
    get? (p :: t) k = if k = p.1 then some p.2 else get? t k :=
  lookup_cons_ite p t k

lemma get?_append (t u : Table α) (k : String) :
    get? (t ++ u : Table α) k = (get? t k).or (get? u k) :=
  List.lookup_append

lemma get?_mapValues {β : Type} (f : α → β) (t : Table α) (k : String) :
    get? (mapValues f t) k = (get? t k).map f := by
  induction t with
  | nil => rfl
  | cons p t ih =>
    have htail : get? (t.map fun e => (e.1, f e.2) : Table β) k = (get? t k).map f := ih
    rw [mapValues, List.map_cons, get?_cons, get?_cons, htail]
    split <;> rfl

lemma get?_replace (t : Table α) (k l : String) (v : α) :
    get? (t.map fun e => if e.1 = k then (k, v) else e : Table α) l =
      if l = k ∧ (get? t k).isSome then some v else get? t l := by
  induction t with
  | nil => simp
  | cons p t ih =>
    rw [List.map_cons, get?_cons, ih]
    by_cases hk : p.1 = k
    · subst hk
      by_cases hl : l = p.1 <;> simp [get?_cons, hl]
    · by_cases hl : l = k
      · subst hl
        simp [get?_cons, hk, Ne.symm hk]
      · by_cases hlp : l = p.1 <;> simp [get?_cons, hk, hl, hlp]

lemma get?_put (t : Table α) (k l : String) (v : α) :
    get? (t.put k v) l = if l = k then some v else get? t l := by
  unfold put has
  by_cases h : (t.get? k).isSome
  · rw [if_pos h, get?_replace]
    simp [h]
  · rw [if_neg h, get?_append, get?_cons, get?_nil]
    by_cases hl : l = k
    · subst hl
      simp [Option.not_isSome_iff_eq_none.1 h]
    · simp [hl]

lemma has_iff (t : Table α) (k : String) : t.has k ↔ k ∈ t.keys := by
  induction t with
  | nil => simp [has, keys]
  | cons p t ih =>
    rw [has, get?_cons, keys, List.map_cons, List.mem_cons]
    rw [has, keys] at ih
    by_cases h : k = p.1 <;> simp [h, ih]

lemma keys_put (t : Table α) (k : String) (v : α) :
    (t.put k v).keys = if k ∈ t.keys then t.keys else t.keys ++ [k] := by
  simp only [put, ← has_iff]
  split
  · rw [keys, keys, List.map_map]
    refine List.map_congr_left fun p _ => ?_
    simp only [Function.comp_apply]
    split <;> simp [*]
  · simp [keys]

lemma nodup_keys_put {t : Table α} (h : t.keys.Nodup) (k : String) (v : α) :
    (t.put k v).keys.Nodup := by
  rw [keys_put]
  split
  · exact h
  · rw [List.nodup_append]
    refine ⟨h, by simp, fun a ha b hb => ?_⟩
    obtain rfl : b = k := by simpa using hb
    rintro rfl
    contradiction

/-! ### Entries -/

lemma mem_put {t : Table α} {k : String} {v : α} {p : String × α} (h : p ∈ t.put k v) :
    p ∈ t ∨ p = (k, v) := by
  rw [put] at h
  split at h
  · obtain ⟨q, hq, rfl⟩ := List.mem_map.1 h
    split
    · exact .inr rfl
    · exact .inl hq
  · simpa using h

lemma mem_of_get? {t : Table α} {k : String} {v : α} (h : t.get? k = some v) : (k, v) ∈ t := by
  obtain ⟨l, r, rfl, -⟩ := List.lookup_eq_some_iff.1 h
  simp

/-! ### Tables put over others -/

lemma putAll_append (t u v : Table α) : (t.putAll u).putAll v = t.putAll (u ++ v) :=
  List.foldl_append.symm

lemma get?_putAll_reverse (t u : Table α) (k : String) :
    (t.putAll u).get? k = (get? u.reverse k).or (t.get? k) := by
  induction u generalizing t with
  | nil => rfl
  | cons e u ih =>
    have hstep : t.putAll (e :: u) = (t.put e.1 e.2).putAll u := rfl
    rw [hstep, ih, get?_put, List.reverse_cons, get?_append, get?_cons, get?_nil, Option.or_assoc]
    congr 1
    by_cases hk : k = e.1 <;> simp [hk]

/-! ### Keys that occur once -/

lemma get?_eq_none_iff {t : Table α} {k : String} : get? t k = none ↔ k ∉ t.keys := by
  rw [← has_iff, has, Bool.not_eq_true, Option.isSome_eq_false_iff, Option.isNone_iff_eq_none]

lemma get?_of_mem {t : Table α} (hn : t.keys.Nodup) {p : String × α} (hp : p ∈ t) :
    get? t p.1 = some p.2 :=
  lookup_of_mem hn hp

lemma value_of_mem {t : Table α} (hn : t.keys.Nodup) {k : String} {v : α} (hk : t.get? k = some v)
    {p : String × α} (hp : p ∈ t) (heq : p.1 = k) : p.2 = v := by
  have hget := get?_of_mem hn hp
  rw [heq, hk] at hget
  exact (Option.some.inj hget).symm

lemma put_of_none {t : Table α} {k : String} (hk : t.get? k = none) (v : α) :
    t.put k v = t ++ [(k, v)] := by
  have hhas : ¬ t.has k := by simp [has, hk]
  rw [put, if_neg hhas]

lemma map_put_of_some {β : Type} {f : α → β} {t : Table α} (hn : t.keys.Nodup) {k : String}
    {v w : α} (hk : t.get? k = some w) (hf : f v = f w) :
    (t.put k v).map (fun e => f e.2) = t.map fun e => f e.2 := by
  have hhas : t.has k := by rw [has, hk]; rfl
  rw [put, if_pos hhas, List.map_map]
  refine List.map_congr_left fun e he => ?_
  rw [Function.comp_apply]
  split
  · rw [value_of_mem hn hk he ‹_›]
    exact hf
  · rfl

/-- Where no key occurs again, tables give the same values, as `f` tells them, if they are of one length
and each entry of the first has its like in the second. -/
lemma get?_agree_iff {β : Type} {t u : Table α} (ht : t.keys.Nodup) (hu : u.keys.Nodup) (f : α → β) :
    (t.length = u.length ∧ ∀ e ∈ t, ∃ w, u.get? e.1 = some w ∧ f e.2 = f w) ↔
      ∀ k, (t.get? k).map f = (u.get? k).map f := by
  have hlength : ∀ s : Table α, s.keys.length = s.length := fun s => List.length_map _
  constructor
  · rintro ⟨hlen, hlike⟩ k
    -- as many keys as in the second, all of them its own, are all it has
    have hsub : t.keys ⊆ u.keys := by
      intro l hl
      obtain ⟨e, he, rfl⟩ := List.mem_map.1 hl
      obtain ⟨w, hw, -⟩ := hlike e he
      exact List.mem_map.2 ⟨_, mem_of_get? hw, rfl⟩
    have hkeys : u.keys.length = t.keys.length := by rw [hlength, hlength, hlen]
    have hperm : t.keys.Perm u.keys :=
      (List.subperm_of_subset ht hsub).perm_of_length_le (Nat.le_of_eq hkeys)
    by_cases hk : k ∈ t.keys
    · obtain ⟨e, he, rfl⟩ := List.mem_map.1 hk
      obtain ⟨w, hw, hsame⟩ := hlike e he
      rw [get?_of_mem ht he, hw, Option.map_some, Option.map_some, hsame]
    · rw [get?_eq_none_iff.2 hk, get?_eq_none_iff.2 (mt hperm.mem_iff.2 hk)]
  · intro hagree
    have hperm : t.keys.Perm u.keys := by
      refine (List.perm_ext_iff_of_nodup ht hu).2 fun k => not_iff_not.1 ?_
      rw [← get?_eq_none_iff, ← get?_eq_none_iff, ← Option.map_eq_none_iff, hagree,
        Option.map_eq_none_iff]
    refine ⟨by rw [← hlength t, ← hlength u, hperm.length_eq], fun e he => ?_⟩
    have hsame := hagree e.1
    rw [get?_of_mem ht he, Option.map_some, eq_comm, Option.map_eq_some_iff] at hsame
    obtain ⟨w, hw, hsame⟩ := hsame
    exact ⟨w, hw, hsame.symm⟩

/-! ### Entries whose values satisfy a test -/

/-- The table of the entries whose values satisfy a test. -/
def select (p : α → Bool) (t : Table α) : Table α := t.filter fun e => p e.2

variable {p : α → Bool} {t : Table α}

lemma get?_select (hn : t.keys.Nodup) (k : String) : (t.select p).get? k = (t.get? k).filter p := by
  induction t with
  | nil => rfl
  | cons q t ih =>
    have hn' := hn
    rw [keys, List.map_cons, List.nodup_cons] at hn'
    have hk := ih hn'.2
    rw [select, List.filter_cons]
    by_cases hq : p q.2
    · rw [if_pos hq, get?_cons, get?_cons]
      split
      · rw [Option.filter_some, if_pos hq]
      · exact hk
    · rw [if_neg hq, get?_cons]
      refine hk.trans ?_
      split
      · -- the key of an entry that is left out stands nowhere else
        have hnone : get? t k = none := get?_eq_none_iff.2 (by subst k; exact hn'.1)
        rw [hnone, Option.filter_some, if_neg hq, Option.filter_none]
      · rfl

lemma filter_get?_select (hn : t.keys.Nodup) {q : α → Bool} (hq : ∀ v, q v → p v) (k : String) :
    ((t.select p).get? k).filter q = (t.get? k).filter q := by
  rw [get?_select hn, Option.filter_filter]
  congr 1
  funext v
  by_cases hv : q v
  · simp [hv, hq v hv]
  · simp [hv]

lemma filterMap_select {β : Type} {f : String × α → Option β} (h : ∀ e, p e.2 = false → f e = none) :
    (t.select p).filterMap f = t.filterMap f := by
  rw [select, List.filterMap_filter]
  congr 1
  funext e
  by_cases he : p e.2
  · simp [he]
  · simp [he, h e]

lemma select_put_of_some (hn : t.keys.Nodup) {k : String} {v w : α} (hk : t.get? k = some w)
    (hw : p w = p v) : (t.put k v).select p = if p v then (t.select p).put k v else t.select p := by
  have hhas : t.has k := by rw [has, hk]; rfl
  -- the key has one entry, which satisfies the test as the new one does
  have hkey : ∀ e ∈ t, e.1 = k → p e.2 = p v := by
    intro e he heq
    rw [value_of_mem hn hk he heq, hw]
  have hfilter : t.filter ((fun e => p e.2) ∘ fun e => if e.1 = k then (k, v) else e) = t.select p := by
    refine List.filter_congr fun e he => ?_
    rw [Function.comp_apply]
    split
    · exact (hkey e he ‹_›).symm
    · rfl
  rw [put, if_pos hhas, select, List.filter_map, hfilter]
  by_cases hv : p v
  · have hsel : (t.select p).has k := by simp [has, get?_select hn, hk, hw, hv]
    rw [if_pos hv, put, if_pos hsel]
  · -- nothing that is left has the key
    rw [if_neg hv]
    refine (List.map_congr_left fun e he => ?_).trans (List.map_id _)
    have hmem := List.mem_filter.1 he
    have hne : e.1 ≠ k := fun heq => hv ((hkey e hmem.1 heq).symm.trans hmem.2)
    simp [hne]

lemma select_put_of_none (hn : t.keys.Nodup) {k : String} (v : α) (hk : t.get? k = none) :
    (t.put k v).select p = if p v then (t.select p).put k v else t.select p := by
  have hsel : (t.select p).get? k = none := by rw [get?_select hn, hk, Option.filter_none]
  rw [put_of_none hk, select, List.filter_append]
  split
  · rw [put_of_none hsel]
    simp [select, *]
  · simp [select, *]

lemma select_put (hn : t.keys.Nodup) {k : String} {v : α}
    (hold : ∀ w, t.get? k = some w → p w = p v) :
    (t.put k v).select p = if p v then (t.select p).put k v else t.select p := by
  rcases hk : t.get? k with _ | w
  · exact select_put_of_none hn v hk
  · exact select_put_of_some hn hk (hold w hk)

end Table

end Crosswalk
