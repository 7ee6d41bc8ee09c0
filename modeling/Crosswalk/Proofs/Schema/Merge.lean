import Crosswalk.Mapping.Configuration
import Crosswalk.Proofs.Schema.Record

/-!
Records read again with changes.

What is put over a dump replaces fields one by one, so reading the result is reading each changed value
and keeping every other one. A changed value is read as it was in the data of the change, or is null and
clears the field.
-/

namespace Crosswalk

open Fallible

/-! ### Tables put over others -/

namespace Table

variable {α : Type}

lemma get?_putAll {u : Table α} (hu : u.keys.Nodup) (t : Table α) (k : String) :
    (t.putAll u).get? k = (u.get? k).or (t.get? k) := by
  induction u generalizing t with
  | nil => rfl
  | cons e u ih =>
    obtain ⟨hnotin, hnodup⟩ := List.nodup_cons.1 hu
    have hstep : t.putAll (e :: u) = (t.put e.1 e.2).putAll u := rfl
    rw [hstep, ih hnodup, get?_put, get?_cons]
    by_cases hk : k = e.1
    · have hnone : get? u k = none := get?_eq_none_iff.2 (hk ▸ hnotin)
      rw [if_pos hk, if_pos hk, hnone]
      rfl
    · rw [if_neg hk, if_neg hk]

end Table

/-! ### What a change gives back -/

namespace Field

variable {α : Type} {c : Codec α} {n : String} {r : Table Value} {x : Change α}

/-- What a field gives back of the data that it was read from. -/
def patch (f : Field α) (r : Table Value) (x : α) : Option Value :=
  (f.given? r).map fun p => f.codec.dumpGiven .plain p.2 x

def readOver (f : Field α) (w : Option Value) (old : α) : Reading α :=
  match w with
  | some v => (f.codec.read v).under f.name
  | none => .ok old

@[simp] lemma readOver_none (f : Field α) (old : α) : f.readOver none old = .ok old := rfl

@[simp] lemma readOver_some (f : Field α) (v : Value) (old : α) :
    f.readOver (some v) old = (f.codec.read v).under f.name := rfl

/-- What a change gives back: nothing where it keeps, null where it clears, and otherwise a value
that is read as the one it sets. -/
inductive Patches (c : Codec α) : Change α → Option Value → Prop where
  | keep : Patches c .keep none
  | clear : Patches c .clear (some .null)
  | set {x : α} {v : Value} (ne : v ≠ .null) (read : c.read v = .ok x) : Patches c (.set x) (some v)

lemma patches_changing (hc : c.Lawful) (hn : c.NeverNull) (h : (changing n c).read r = .ok x) :
    Patches c x ((changing n c).patch r x) := by
  rcases hr : (changing n c).given? r with _ | ⟨k, v⟩
  · rw [read, hr] at h
    obtain rfl : Change.keep = x := Except.ok.inj h
    rw [patch, hr]
    exact .keep
  · rw [read_of_given? hr, Reading.under_eq_ok] at h
    obtain ⟨y, hy, rfl⟩ := Reading.map_eq_ok.1 h
    rw [patch, hr]
    cases y with
    | none => exact .clear
    | some y =>
      have hgiven : c.nullable.read (c.dumpGiven .plain v y) = .ok (some y) :=
        (Codec.lawful_nullable hc hn).given rfl hy
      exact .set (hn.dumpGiven .plain v y) (Codec.read_of_nullable hgiven)

variable {f : Field α} {o : Option Value}

lemma readOver_required (h : Patches c x o) {k : IssueKind} (hread : f.codec.read = c.read)
    (hnull : c.read .null = Reading.refuse k) (old : α) :
    f.readOver o old = x.onRequired f.name k old := by
  cases h with
  | keep => rfl
  | clear => rw [readOver, hread, hnull, Change.onRequired]
  | set ne read => rw [readOver, hread, read, Change.onRequired, Reading.under]

lemma readOver_optional {f : Field (Option α)} (h : Patches c x o)
    (hread : f.codec.read = c.nullable.read) (old : Option α) : f.readOver o old = .ok (x.onOptional old) := by
  cases h with
  | keep => rfl
  | clear =>
    rw [readOver, hread]
    rfl
  | set ne read =>
    rw [readOver, hread, Codec.nullable_read ne, read]
    rfl

end Field

/-! ### Records with values put over them -/

namespace Schema

variable {ρ σ τ υ : Type}

/-- The fields one by one, each with what stands at its name put over it. -/
def readOver : {ρ : Type} → Schema ρ → Table Value → ρ → Reading ρ
  | _, .done, _, _ => .ok ()
  | _, .field f rest, u, (x, xs) =>
    Reading.both Prod.mk (f.readOver (u.get? f.name) x) (rest.readOver u xs)

@[simp] lemma readOver_done (u : Table Value) (xs : Unit) : Schema.done.readOver u xs = .ok () := rfl

@[simp] lemma dumpGiven_done (style : Style) (r : Table Value) (xs : Unit) :
    Schema.done.dumpGiven style r xs = [] := rfl

lemma readOver_field_eq_ok {α : Type} {f : Field α} {rest : Schema ρ} {u : Table Value} {x y : α}
    {xs ys : ρ} : (Schema.field f rest).readOver u (x, xs) = .ok (y, ys) ↔
      f.readOver (u.get? f.name) x = .ok y ∧ rest.readOver u xs = .ok ys :=
  Reading.pair_eq_ok

lemma keys_dumpGiven_sublist (s : Schema ρ) (r : Table Value) (xs : ρ) :
    (s.dumpGiven .plain r xs).keys.Sublist (s.names.map (·.1)) := by
  induction s with
  | done => exact .slnil
  | field f rest ih =>
    rw [dumpGiven]
    split
    · exact (ih xs.2).cons_cons _
    · exact (ih xs.2).cons _

lemma get?_dumpGiven {α : Type} (f : Field α) (rest : Schema ρ) (r : Table Value) (x : α) (xs : ρ)
    (k : String) : ((Schema.field f rest).dumpGiven .plain r (x, xs)).get? k =
      (if k = f.name then f.patch r x else none).or ((rest.dumpGiven .plain r xs).get? k) := by
  rw [dumpGiven, Field.patch]
  rcases f.given? r with _ | ⟨key, v⟩
  · simp
  · dsimp only
    rw [Table.get?_cons, show f.key .plain = f.name from rfl]
    split <;> rfl

lemma keys_dump (s : Schema ρ) (xs : ρ) : (s.dump .plain xs).keys = s.names.map (·.1) := by
  induction s with
  | done => rfl
  | field f rest ih => exact congrArg (f.name :: ·) (ih xs.2)

lemma Separate.camelKey_notMem {s : Schema ρ} (hs : s.Separate) {n : String × String}
    (hn : n ∈ s.names) (hne : n.2 ≠ n.1) : n.2 ∉ s.names.map (·.1) := by
  induction s with
  | done => cases hn
  | field f rest ih =>
    rw [names, List.map_cons, List.mem_cons, not_or]
    obtain rfl | hn := List.mem_cons.1 hn
    · refine ⟨hne, fun hmem => ?_⟩
      obtain ⟨m, hm, heq⟩ := List.mem_map.1 hmem
      exact (hs.lacks_camelKey m hm).1 heq.symm
    · exact ⟨(hs.lacks_name n hn).2.symm, ih hs.tail hn⟩

/-- Reading goes by what a table gives at the keys of a schema. -/
lemma readOver_of_read {s : Schema ρ} (hs : s.Separate) (hl : s.Lawful) {t u : Table Value}
    {xs ys : ρ} (ht : ∀ n ∈ s.names, t.get? n.1 = (u.get? n.1).or ((s.dump .plain xs).get? n.1))
    (hcamel : ∀ n ∈ s.names, n.2 = n.1 ∨ t.get? n.2 = none) (h : s.read t = .ok ys) :
    s.readOver u xs = .ok ys := by
  -- on the schema: no later field has a key of this one, so each is read by itself
  induction s with
  | done => rfl
  | field f rest ih =>
    obtain ⟨x, xs⟩ := xs
    obtain ⟨y, zs, hy, hzs, rfl⟩ := Reading.both_eq_ok.1 h
    have hrest : rest.readOver u xs = .ok zs := by
      refine ih hs.tail hl.2 (fun n hn => ?_) (fun n hn => hcamel n (List.mem_cons_of_mem _ hn)) hzs
      have hne : n.1 ≠ f.name := (hs.lacks_name n hn).1.symm
      rw [ht n (List.mem_cons_of_mem _ hn), dump, Table.get?_cons,
        if_neg (show n.1 ≠ f.key .plain from hne)]
    have hname : t.get? f.name = (u.get? f.name).or (some (f.codec.dump .plain x)) := by
      rw [ht (f.name, f.camelKey) (by simp [names]), dump, Table.get?_cons]
      simp [Field.key, Style.plain]
    have hgiven := Field.given?_of_name (hcamel (f.name, f.camelKey) (by simp [names]))
    refine Reading.both_eq_ok.2 ⟨y, zs, ?_, hrest, rfl⟩
    rw [hname] at hgiven
    -- where nothing is put over it, the old value is read back
    rcases hu : u.get? f.name with _ | v
    · rw [hu] at hgiven
      rw [Field.read_of_given? hgiven, Reading.under_eq_ok] at hy
      rw [hl.1.faithful rfl hy]
      rfl
    · rw [hu] at hgiven
      rwa [Field.read_of_given? hgiven] at hy

/-- A record that is read again with changes has the changed fields and keeps the others. -/
lemma readOver_of_merge {s : Schema ρ} {t : Schema σ} {build : ρ → τ} {parts : τ → ρ}
    {build' : σ → υ} {parts' : υ → σ} {old c : τ} {data : Value} {changes : υ}
    {marks : Table Value} (hdata : (t.codec build' parts').read data = .ok changes)
    (h : (s.codec build parts).merge (t.codec build' parts') old data changes marks = .ok c)
    (hs : s.Separate) (hl : s.Lawful) (hparts' : ∀ xs, parts' (build' xs) = xs)
    (hnodup : (t.names.map (·.1) ++ marks.keys).Nodup)
    (hnames : t.names.map (·.1) ++ marks.keys ⊆ s.names.map (·.1)) :
    ∃ r xs ys, t.read r = .ok xs ∧ build' xs = changes ∧
      s.readOver (t.dumpGiven .plain r xs ++ marks) (parts old) = .ok ys ∧ build ys = c := by
  obtain ⟨r, xs, hr, hxs, rfl⟩ := codec_eq_ok.1 hdata
  obtain ⟨w, ys, hw, hys, rfl⟩ := codec_eq_ok.1 h
  refine ⟨r, xs, ys, hxs, rfl, ?_, rfl⟩
  obtain rfl : ((s.dump .plain (parts old)).putAll
      (t.dumpGiven .plain (data.fields?.getD []) (parts' (build' xs)))).putAll marks = w :=
    Option.some.inj hw
  rw [hr, hparts', Option.getD_some, Table.putAll_append] at hys
  -- what is put over the old data has every key once, and none in camel case
  have hsub : (t.dumpGiven .plain r xs ++ marks : Table Value).keys.Sublist
      (t.names.map (·.1) ++ marks.keys) := by
    rw [Table.keys, List.map_append]
    exact (keys_dumpGiven_sublist t r xs).append (List.Sublist.refl _)
  have hget := Table.get?_putAll (hnodup.sublist hsub) (s.dump .plain (parts old))
  refine readOver_of_read hs hl (fun n _ => hget n.1) (fun n hn => ?_) hys
  refine or_iff_not_imp_left.2 fun hne => ?_
  have hnotin := hs.camelKey_notMem hn hne
  have hover : n.2 ∉ (t.dumpGiven .plain r xs ++ marks : Table Value).keys :=
    fun hmem => hnotin (hnames (hsub.subset hmem))
  rw [hget, Table.get?_eq_none_iff.2 hover, Table.get?_eq_none_iff.2 (by rwa [keys_dump])]
  rfl

end Schema

end Crosswalk
