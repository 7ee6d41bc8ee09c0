import Crosswalk.Proofs.Fallible
import Crosswalk.Schema.Leaf

/-!
Codecs read what they give back.

A lawful codec reads a dump as what was dumped or refuses it, and reads what it gives back of a value
as what it has read of that value. Both hold outside of what a JSON text holds, where values turn into
texts. The laws go from the codecs of single values to those that are built from them; null is special,
for only a codec that never gives null back may be made nullable.
-/

namespace Crosswalk

open Fallible

namespace Reading

variable {α β γ : Type} {f : α → β → γ} {x : Reading α} {y : Reading β} {z : γ}

lemma both_eq_ok : both f x y = .ok z ↔ ∃ a b, x = .ok a ∧ y = .ok b ∧ f a b = z := by
  rcases x with i | a <;> rcases y with j | b <;> simp [both]

lemma pair_eq_ok {p : α × β} {x : Reading α} {y : Reading β} :
    both Prod.mk x y = .ok p ↔ x = .ok p.1 ∧ y = .ok p.2 := by
  rcases x with i | a <;> rcases y with j | b <;> simp [both, Prod.ext_iff]

@[simp] lemma under_eq_ok {key : String} {a : α} : x.under key = .ok a ↔ x = .ok a := by
  cases x <;> simp [under]

lemma map_eq_ok {g : α → β} {b : β} : x.map g = .ok b ↔ ∃ a, x = .ok a ∧ g a = b :=
  Fallible.map_eq_ok

end Reading

namespace Codec

variable {α : Type} {c : Codec α} {style : Style}

/-- A codec reads what it gives back. -/
structure Lawful (c : Codec α) : Prop where
  /-- A dump is read as what was dumped, if it is read. -/
  faithful {style : Style} {x y : α} (hs : style.json = false)
    (h : c.read (c.dump style x) = .ok y) : y = x
  /-- What is given back of a value is read as the value was. -/
  given {style : Style} {v : Value} {x : α} (hs : style.json = false) (h : c.read v = .ok x) :
    c.read (c.dumpGiven style v x) = .ok x

/-- What a codec gives back satisfies `P`. -/
structure Gives (c : Codec α) (P : Value → Prop) : Prop where
  dump (style : Style) (x : α) : P (c.dump style x)
  dumpGiven (style : Style) (v : Value) (x : α) : P (c.dumpGiven style v x)

abbrev NeverNull (c : Codec α) : Prop := c.Gives (· ≠ .null)

/-! ### Single values -/

lemma lawful_leaf {read : Value → Reading α} {dump : Style → α → Value}
    (h : ∀ style x, style.json = false → read (dump style x) = .ok x) : (leaf read dump).Lawful where
  faithful hs hy := (Except.ok.inj ((h _ _ hs).symm.trans hy)).symm
  given hs _ := h _ _ hs

lemma neverNull_leaf {read : Value → Reading α} {dump : Style → α → Value}
    (h : ∀ style x, dump style x ≠ .null) : (leaf read dump).NeverNull where
  dump := h
  dumpGiven style _ := h style

lemma lawful_any : any.Lawful where
  faithful hs h := by simpa [any, leaf, hs] using h.symm
  given hs _ := by simp [any, leaf, hs]

lemma lawful_bool : bool.Lawful := lawful_leaf fun _ _ _ => rfl

lemma neverNull_bool : bool.NeverNull := neverNull_leaf fun _ _ => by simp

lemma lawful_float : float.Lawful := lawful_leaf fun _ _ _ => rfl

lemma neverNull_float : float.NeverNull := neverNull_leaf fun _ _ => by simp

lemma lawful_moment : moment.Lawful := lawful_leaf fun style t hs => by simp [hs, readMoment]

lemma neverNull_moment : moment.NeverNull := neverNull_leaf fun style t => by
  split <;> simp

lemma boundedText_eq_ok {low : Nat} {high : Option Nat} {v : Value} {s : String} :
    (boundedText low high).read v = .ok s ↔
      v = .text s ∧ high.all (s.length ≤ ·) ∧ low ≤ s.length := by
  cases v with
  | text t =>
    have hnot : high.any (· < t.length) = !high.all (t.length ≤ ·) := by
      cases high <;> simp [← decide_not]
    simp only [boundedText, leaf, hnot, Value.text.injEq]
    -- the upper bound is asked for before the lower one
    by_cases hall : high.all (t.length ≤ ·)
    · by_cases hlow : t.length < low
      · simp only [hall, hlow, Reading.refuse, Bool.not_true, Bool.false_eq_true, if_false, if_true,
          reduceCtorEq, false_iff]
        rintro ⟨rfl, -, hle⟩
        omega
      · simp only [hall, hlow, Bool.not_true, Bool.false_eq_true, if_false, Except.ok.injEq]
        exact ⟨fun heq => ⟨heq, heq ▸ hall, heq ▸ Nat.not_lt.1 hlow⟩, And.left⟩
    · simp only [hall, Reading.refuse, Bool.not_false, if_true, reduceCtorEq, false_iff]
      rintro ⟨rfl, htrue, -⟩
      exact hall htrue
  | _ => simp [boundedText, leaf, Reading.refuse]

lemma lawful_boundedText (low : Nat) (high : Option Nat) : (boundedText low high).Lawful where
  faithful _ h := by
    obtain ⟨htext, -⟩ := boundedText_eq_ok.1 h
    exact (Value.text.inj htext).symm
  given _ h := by
    obtain ⟨-, hbounds⟩ := boundedText_eq_ok.1 h
    exact boundedText_eq_ok.2 ⟨rfl, hbounds⟩

lemma neverNull_boundedText (low : Nat) (high : Option Nat) : (boundedText low high).NeverNull :=
  neverNull_leaf fun _ _ => by simp

lemma lawful_text : text.Lawful := lawful_boundedText 0 none

lemma neverNull_text : text.NeverNull := neverNull_boundedText 0 none

lemma lawful_name : name.Lawful := lawful_boundedText 1 none

lemma integerFrom_eq_ok {low : Int} {v : Value} {n : Int} :
    (integerFrom low).read v = .ok n ↔ readInteger v = .ok n ∧ low ≤ n := by
  dsimp only [integerFrom, leaf]
  rcases readInteger v with is | m
  · simp
  · by_cases h : low ≤ m
    · simp only [h, if_true, Except.ok.injEq]
      exact ⟨fun heq => ⟨heq, heq ▸ h⟩, And.left⟩
    · simp only [h, if_false, Except.ok.injEq, Reading.refuse, reduceCtorEq, false_iff]
      rintro ⟨rfl, hle⟩
      exact h hle

lemma lawful_integerFrom (low : Int) : (integerFrom low).Lawful where
  faithful _ h := (Except.ok.inj (integerFrom_eq_ok.1 h).1).symm
  given _ h := integerFrom_eq_ok.2 ⟨rfl, (integerFrom_eq_ok.1 h).2⟩

lemma choice_eq_ok {members : List α} {name : α → String} {v : Value} {x : α} :
    (choice members name).read v = .ok x ↔
      ∃ s, v = .text s ∧ members.find? (name · = s) = some x := by
  cases v with
  | text s =>
    dsimp only [choice, leaf]
    simp only [Value.text.injEq, exists_eq_left']
    cases members.find? (name · = s) <;> simp [Reading.refuse]
  | _ => simp [choice, leaf, Reading.refuse]

lemma lawful_choice (members : List α) {name : α → String} (hname : Function.Injective name) :
    (choice members name).Lawful where
  faithful _ h := by
    obtain ⟨s, hs, hfind⟩ := choice_eq_ok.1 h
    have heq := List.find?_some hfind
    rw [← Value.text.inj hs] at heq
    exact hname (by simpa using heq)
  given _ h := by
    obtain ⟨s, -, hfind⟩ := choice_eq_ok.1 h
    obtain rfl : name _ = s := by simpa using List.find?_some hfind
    exact choice_eq_ok.2 ⟨_, rfl, hfind⟩

lemma neverNull_choice (members : List α) (name : α → String) : (choice members name).NeverNull :=
  neverNull_leaf fun _ _ => by simp

/-! ### Codecs built from others -/

lemma nullable_read {v : Value} (h : v ≠ .null) : c.nullable.read v = (c.read v).map some := by
  cases v with
  | null => exact absurd rfl h
  | _ => rfl

lemma read_of_nullable {v : Value} {x : α} (h : c.nullable.read v = .ok (some x)) :
    c.read v = .ok x := by
  by_cases hv : v = .null
  · subst hv
    cases h
  · obtain ⟨y, hy, heq⟩ := Reading.map_eq_ok.1 ((nullable_read hv).symm.trans h)
    rwa [← Option.some.inj heq]

lemma lawful_nullable (hc : c.Lawful) (hn : c.NeverNull) : c.nullable.Lawful where
  faithful {style x y} hs h := by
    cases x with
    | none => exact (Except.ok.inj h).symm
    | some x =>
      obtain ⟨z, hz, rfl⟩ := Reading.map_eq_ok.1 ((nullable_read (hn.dump style x)).symm.trans h)
      rw [hc.faithful hs hz]
  given {style v x} hs h := by
    cases x with
    | none => rfl
    | some x =>
      refine (nullable_read (hn.dumpGiven style v x)).trans ?_
      exact Reading.map_eq_ok.2 ⟨x, hc.given hs (read_of_nullable h), rfl⟩

lemma faithful_readItems (hc : c.Lawful) (hs : style.json = false) {i : Nat} {xs ys : List α}
    (h : readItems c i (xs.map (c.dump style)) = .ok ys) : ys = xs := by
  induction xs generalizing i ys with
  | nil => exact (Except.ok.inj h).symm
  | cons x xs ih =>
    obtain ⟨y, zs, hy, hzs, rfl⟩ := Reading.both_eq_ok.1 h
    rw [hc.faithful hs (Reading.under_eq_ok.1 hy), ih hzs]

lemma given_readItems (hc : c.Lawful) (hs : style.json = false) {i : Nat} {vs : List Value}
    {xs : List α} (h : readItems c i vs = .ok xs) :
    readItems c i (List.zipWith (c.dumpGiven style) vs xs) = .ok xs := by
  induction vs generalizing i xs with
  | nil => simpa [readItems] using h
  | cons v vs ih =>
    obtain ⟨x, ys, hx, hys, rfl⟩ := Reading.both_eq_ok.1 h
    have hgiven := hc.given hs (Reading.under_eq_ok.1 hx)
    exact Reading.both_eq_ok.2 ⟨x, ys, Reading.under_eq_ok.2 hgiven, ih hys, rfl⟩

lemma list_eq_ok {v : Value} {xs : List α} :
    c.list.read v = .ok xs ↔ ∃ vs, v.items? = some vs ∧ readItems c 0 vs = .ok xs := by
  dsimp only [list]
  cases v.items? <;> simp [Reading.refuse]

lemma lawful_list (hc : c.Lawful) : c.list.Lawful where
  faithful hs h := faithful_readItems hc hs h
  given hs h := by
    obtain ⟨vs, hvs, hread⟩ := list_eq_ok.1 h
    refine list_eq_ok.2 ⟨_, rfl, ?_⟩
    rw [hvs, Option.getD_some]
    exact given_readItems hc hs hread

lemma neverNull_list : c.list.NeverNull := ⟨fun _ _ => by simp [list], fun _ _ _ => by simp [list]⟩

lemma faithful_readEntries (hc : c.Lawful) (hs : style.json = false) {t u : Table α}
    (h : readEntries c (t.map fun e => (e.1, c.dump style e.2)) = .ok u) : u = t := by
  induction t generalizing u with
  | nil => exact (Except.ok.inj h).symm
  | cons e t ih =>
    obtain ⟨y, zs, hy, hzs, rfl⟩ := Reading.both_eq_ok.1 h
    rw [hc.faithful hs (Reading.under_eq_ok.1 hy), ih hzs]

lemma given_readEntries (hc : c.Lawful) (hs : style.json = false) {fs : Table Value} {t : Table α}
    (h : readEntries c fs = .ok t) :
    readEntries c (List.zipWith (fun f e => (e.1, c.dumpGiven style f.2 e.2)) fs t) = .ok t := by
  induction fs generalizing t with
  | nil => simpa [readEntries] using h
  | cons f fs ih =>
    obtain ⟨x, u, hx, hu, rfl⟩ := Reading.both_eq_ok.1 h
    have hgiven := hc.given hs (Reading.under_eq_ok.1 hx)
    exact Reading.both_eq_ok.2 ⟨x, u, Reading.under_eq_ok.2 hgiven, ih hu, rfl⟩

lemma table_eq_ok {v : Value} {t : Table α} :
    c.table.read v = .ok t ↔ ∃ fs, v.fields? = some fs ∧ readEntries c fs = .ok t := by
  dsimp only [table]
  cases v.fields? <;> simp [Reading.refuse]

lemma lawful_table (hc : c.Lawful) : c.table.Lawful where
  faithful hs h := faithful_readEntries hc hs h
  given hs h := by
    obtain ⟨fs, hfs, hread⟩ := table_eq_ok.1 h
    refine table_eq_ok.2 ⟨_, rfl, ?_⟩
    rw [hfs, Option.getD_some]
    exact given_readEntries hc hs hread

lemma neverNull_table : c.table.NeverNull := ⟨fun _ _ => by simp [table], fun _ _ _ => by simp [table]⟩

lemma lawful_prepared {prepare : Value → Value} (hc : c.Lawful)
    (hdump : ∀ style x, prepare (c.dump style x) = c.dump style x)
    (hgiven : ∀ style v x, prepare (c.dumpGiven style v x) = c.dumpGiven style v x) :
    (c.prepared prepare).Lawful where
  faithful {style x y} hs h := by
    refine hc.faithful hs ?_
    rw [← hdump style x]
    exact h
  given {style v x} hs h := by
    refine Eq.trans ?_ (hc.given hs h)
    exact congrArg c.read (hgiven style (prepare v) x)

lemma checked_eq_ok {test : α → Bool} {v : Value} {x : α} :
    (c.checked test).read v = .ok x ↔ c.read v = .ok x ∧ test x := by
  dsimp only [checked]
  rcases c.read v with is | y
  · simp
  · by_cases h : test y
    · simp only [h, if_true, Except.ok.injEq]
      exact ⟨fun heq => ⟨heq, heq ▸ h⟩, And.left⟩
    · simp only [h, Bool.false_eq_true, if_false, Reading.refuse, reduceCtorEq, Except.ok.injEq,
        false_iff]
      rintro ⟨rfl, htest⟩
      exact h htest

end Codec

end Crosswalk
