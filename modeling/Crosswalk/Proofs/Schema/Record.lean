import Crosswalk.Proofs.Schema.Codec
import Crosswalk.Proofs.Table
import Crosswalk.Schema.Record

/-!
Records read what they give back.

A schema is separate if no key belongs to two of its fields, so each field finds its own value in a dump,
whichever keys are written. With lawful codecs for the fields, its codec is lawful.
-/

namespace Crosswalk

open Fallible

namespace Field

section keys

variable {α : Type} (n : String) (c : Codec α) (x : α)

@[simp] lemma required_name : (required n c).name = n := rfl
@[simp] lemma defaulted_name : (defaulted n c x).name = n := rfl
@[simp] lemma defaulted_codec : (defaulted n c x).codec = c := rfl
@[simp] lemma optional_name : (optional n c).name = n := rfl
@[simp] lemma optional_codec : (optional n c).codec = c.nullable := rfl
@[simp] lemma changing_name : (changing n c).name = n := rfl
@[simp] lemma changing_camelKey : (changing n c).camelKey = Text.camelCase n := rfl

end keys

variable {α : Type} {f : Field α} {t : Table Value}

lemma given?_of_camelKey {v : Value} (h : t.get? f.camelKey = some v) :
    f.given? t = some (f.camelKey, v) := by
  rw [given?, h]

lemma given?_of_name (h : f.camelKey = f.name ∨ t.get? f.camelKey = none) :
    f.given? t = (t.get? f.name).map fun v => (f.name, v) := by
  rw [given?]
  obtain h | h := h
  · rw [h]
    cases t.get? f.name <;> rfl
  · rw [h]

lemma given?_cons_key (style : Style) (v : Value) (h : t.get? f.camelKey = none) :
    f.given? ((f.key style, v) :: t : Table Value) = some (f.key style, v) := by
  by_cases hkey : f.camelKey = f.key style
  · rw [given?_of_camelKey, hkey]
    rw [Table.get?_cons, if_pos hkey]
  · have hname : f.key style = f.name := by
      rw [key]
      split
      · exact absurd (by simp [key, *]) hkey
      · rfl
    rw [given?_of_name (.inr ?_), hname, Table.get?_cons, if_pos rfl]
    · rfl
    · rw [Table.get?_cons, if_neg hkey, h]

lemma read_of_given? {k : String} {v : Value} (h : f.given? t = some (k, v)) :
    f.read t = (f.codec.read v).under k := by
  rw [read, h]

lemma given?_eq_none (hc : t.get? f.camelKey = none) (hn : t.get? f.name = none) :
    f.given? t = none := by
  rw [given?, hc, hn]
  rfl

end Field

namespace Schema

variable {ρ σ : Type}

def names : {ρ : Type} → Schema ρ → List (String × String)
  | _, .done => []
  | _, .field f rest => (f.name, f.camelKey) :: rest.names

def Lacks (s : Schema ρ) (key : String) : Prop := ∀ n ∈ s.names, key ≠ n.1 ∧ key ≠ n.2

/-- No key belongs to two fields. -/
def Separate (s : Schema ρ) : Prop :=
  s.names.Pairwise fun m n => (m.1 ≠ n.1 ∧ m.1 ≠ n.2) ∧ m.2 ≠ n.1 ∧ m.2 ≠ n.2

instance (s : Schema ρ) : Decidable s.Separate := inferInstanceAs (Decidable (List.Pairwise _ _))

def bothKeys (name : String) : String × String := (name, Text.camelCase name)

lemma separate_of_names {s : Schema ρ} (names : List String) (h : s.names = names.map bothKeys)
    (hs : (names.map bothKeys).Pairwise fun m n =>
      (m.1 ≠ n.1 ∧ m.1 ≠ n.2) ∧ m.2 ≠ n.1 ∧ m.2 ≠ n.2) : s.Separate := by
  rw [Separate, h]
  exact hs

def Lawful : {ρ : Type} → Schema ρ → Prop
  | _, .done => True
  | _, .field f rest => f.codec.Lawful ∧ rest.Lawful

variable {α : Type} {f : Field α} {rest : Schema ρ}

@[simp] lemma names_done : Schema.done.names = [] := rfl

@[simp] lemma names_field (f : Field α) (rest : Schema ρ) :
    (Schema.field f rest).names = (f.name, f.camelKey) :: rest.names := rfl

lemma read_field_eq_ok {r : Table Value} {x : α} {xs : ρ} :
    (Schema.field f rest).read r = .ok (x, xs) ↔ f.read r = .ok x ∧ rest.read r = .ok xs :=
  Reading.pair_eq_ok

lemma Separate.tail (h : (Schema.field f rest).Separate) : rest.Separate := (List.pairwise_cons.1 h).2

lemma Separate.lacks_name (h : (Schema.field f rest).Separate) : rest.Lacks f.name :=
  fun n hn => ((List.pairwise_cons.1 h).1 n hn).1

lemma Separate.lacks_camelKey (h : (Schema.field f rest).Separate) : rest.Lacks f.camelKey :=
  fun n hn => ((List.pairwise_cons.1 h).1 n hn).2

lemma Separate.lacks_key (h : (Schema.field f rest).Separate) (style : Style) :
    rest.Lacks (f.key style) := by
  rw [Field.key]
  split
  · exact h.lacks_camelKey
  · exact h.lacks_name

lemma ne_key_of_ne {key : String} (h : key ≠ f.name ∧ key ≠ f.camelKey) (style : Style) :
    key ≠ f.key style := by
  rw [Field.key]
  split
  · exact h.2
  · exact h.1

lemma Lacks.tail {key : String} (h : (Schema.field f rest).Lacks key) : rest.Lacks key :=
  fun n hn => h n (List.mem_cons_of_mem _ hn)

lemma Lacks.ne_key {key : String} (h : (Schema.field f rest).Lacks key) (style : Style) :
    key ≠ f.key style :=
  ne_key_of_ne (h (f.name, f.camelKey) (by simp [names])) style

/-! ### What a dump has at a key -/

lemma get?_dump_of_lacks {s : Schema ρ} {key : String} (h : s.Lacks key) (style : Style) (xs : ρ) :
    (s.dump style xs).get? key = none := by
  induction s with
  | done => rfl
  | field f rest ih =>
    rw [dump, Table.get?_cons, if_neg (h.ne_key style), ih h.tail]

lemma get?_dumpGiven_of_lacks {s : Schema ρ} {key : String} (h : s.Lacks key) (style : Style)
    (r : Table Value) (xs : ρ) : (s.dumpGiven style r xs).get? key = none := by
  induction s with
  | done => rfl
  | field f rest ih =>
    rw [dumpGiven]
    split
    · rw [Table.get?_cons, if_neg (h.ne_key style), ih h.tail]
    · exact ih h.tail _

/-- What stands at a key satisfies `P`, whichever field has it. -/
def GivesAt (P : Value → Prop) (key : String) : {ρ : Type} → Schema ρ → Prop
  | _, .done => True
  | _, .field f rest =>
    ((key ≠ f.name ∧ key ≠ f.camelKey) ∨ f.codec.Gives P) ∧ rest.GivesAt P key

section

variable {P : Value → Prop} {key : String} {style : Style} {v : Value}

lemma gives_of_dump {s : Schema ρ} {xs : ρ} (h : (s.dump style xs).get? key = some v)
    (hs : s.GivesAt P key) : P v := by
  induction s with
  | done => cases h
  | field f rest ih =>
    rw [dump, Table.get?_cons] at h
    split at h
    next heq =>
      obtain rfl := Option.some.inj h
      exact (hs.1.resolve_left fun hne => ne_key_of_ne hne style heq).dump style _
    next => exact ih h hs.2

lemma gives_of_dumpGiven {s : Schema ρ} {r : Table Value} {xs : ρ}
    (h : (s.dumpGiven style r xs).get? key = some v) (hs : s.GivesAt P key) : P v := by
  induction s with
  | done => cases h
  | field f rest ih =>
    rw [dumpGiven] at h
    split at h
    · rw [Table.get?_cons] at h
      split at h
      next heq =>
        obtain rfl := Option.some.inj h
        exact (hs.1.resolve_left fun hne => ne_key_of_ne hne style heq).dumpGiven style _ _
      next => exact ih h hs.2
    · exact ih h hs.2

end

lemma read_cons_of_lacks {s : Schema ρ} {key : String} (h : s.Lacks key) (v : Value)
    (t : Table Value) : s.read ((key, v) :: t : Table Value) = s.read t := by
  induction s with
  | done => rfl
  | field f rest ih =>
    have hf := h (f.name, f.camelKey) (by simp [names])
    have hgiven : f.given? ((key, v) :: t : Table Value) = f.given? t := by
      rw [Field.given?, Field.given?, Table.get?_cons, Table.get?_cons, if_neg hf.2.symm,
        if_neg hf.1.symm]
    rw [read, read, ih h.tail, Field.read, Field.read, hgiven]

/-! ### Lawful records -/

lemma faithful_dump {s : Schema ρ} (hs : s.Separate) (hl : s.Lawful) {style : Style}
    (hstyle : style.json = false) {xs ys : ρ} (h : s.read (s.dump style xs) = .ok ys) : ys = xs := by
  induction s with
  | done => rfl
  | field f rest ih =>
    obtain ⟨x, xs⟩ := xs
    obtain ⟨y, zs, hy, hzs, rfl⟩ := Reading.both_eq_ok.1 h
    have hgiven := Field.given?_cons_key style (f.codec.dump style x)
      (get?_dump_of_lacks hs.lacks_camelKey style xs)
    rw [dump, Field.read_of_given? hgiven, Reading.under_eq_ok] at hy
    rw [dump, read_cons_of_lacks (hs.lacks_key style)] at hzs
    rw [hl.1.faithful hstyle hy, ih hs.tail hl.2 hzs]

lemma given_dumpGiven {s : Schema ρ} (hs : s.Separate) (hl : s.Lawful) {style : Style}
    (hstyle : style.json = false) {r : Table Value} {xs : ρ} (h : s.read r = .ok xs) :
    s.read (s.dumpGiven style r xs) = .ok xs := by
  -- on the schema: keys of the fields behind are no keys of this one
  induction s with
  | done => rfl
  | field f rest ih =>
    obtain ⟨x, zs, hx, hzs, rfl⟩ := Reading.both_eq_ok.1 h
    have hrest := ih hs.tail hl.2 hzs
    rw [dumpGiven]
    rcases hr : f.given? r with _ | ⟨k, v⟩
    · have hnone : f.given? (rest.dumpGiven style r zs) = none :=
        Field.given?_eq_none (get?_dumpGiven_of_lacks hs.lacks_camelKey style r zs)
          (get?_dumpGiven_of_lacks hs.lacks_name style r zs)
      rw [Field.read, hr] at hx
      refine Reading.both_eq_ok.2 ⟨x, zs, ?_, hrest, rfl⟩
      rw [Field.read, hnone]
      exact hx
    · rw [Field.read_of_given? hr, Reading.under_eq_ok] at hx
      have hgiven := Field.given?_cons_key style (f.codec.dumpGiven style v x)
        (get?_dumpGiven_of_lacks hs.lacks_camelKey style r zs)
      refine Reading.both_eq_ok.2 ⟨x, zs, ?_, ?_, rfl⟩
      · rw [Field.read_of_given? hgiven, Reading.under_eq_ok]
        exact hl.1.given hstyle hx
      · rwa [read_cons_of_lacks (hs.lacks_key style)]

variable {s : Schema ρ} {build : ρ → σ} {parts : σ → ρ}

lemma codec_eq_ok {v : Value} {x : σ} : (s.codec build parts).read v = .ok x ↔
    ∃ r xs, v.fields? = some r ∧ s.read r = .ok xs ∧ build xs = x := by
  dsimp only [codec]
  cases v.fields? with
  | none => simp [Reading.refuse]
  | some r => simp [Reading.map_eq_ok]

lemma lawful_codec (hs : s.Separate) (hl : s.Lawful) (hbuild : ∀ x, build (parts x) = x)
    (hparts : ∀ xs, parts (build xs) = xs) : (s.codec build parts).Lawful where
  faithful {style x y} hstyle h := by
    obtain ⟨r, ys, hr, hys, rfl⟩ := codec_eq_ok.1 h
    obtain rfl := Option.some.inj hr
    rw [faithful_dump hs hl hstyle hys, hbuild]
  given {style v x} hstyle h := by
    obtain ⟨r, xs, hr, hxs, rfl⟩ := codec_eq_ok.1 h
    refine codec_eq_ok.2 ⟨_, xs, rfl, ?_, rfl⟩
    rw [hr, hparts, Option.getD_some]
    exact given_dumpGiven hs hl hstyle hxs

lemma neverNull_codec : (s.codec build parts).NeverNull :=
  ⟨fun _ _ => by simp [codec], fun _ _ _ => by simp [codec]⟩

end Schema

end Crosswalk
