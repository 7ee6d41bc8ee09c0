import Crosswalk.Proofs.Number.Quantity
import Crosswalk.Proofs.Table
import Crosswalk.Value.Equality

/-!
What equal values have in common.

A value means a quantity, a text, a list of meanings and so on, and two values are equal if they mean the
same. Truth values mean the quantities 0 and 1 there. Strict equality keeps them apart from numbers, but
leaves what is inside lists, tuples and objects to the equality that does not.
-/

namespace Crosswalk

/-! ### Meanings -/

/-- A moment with a zone is an instant, and one without is what it shows. -/
def Moment.clockOrInstant (t : Moment) : Moment ⊕ Int :=
  if t.offset.isSome then .inr t.utcTicks else .inl t

/-- What a value stands for, whatever its type. -/
inductive Meaning where
  | null
  | truth (b : Bool)
  | number (x : Option Quantity)
  | text (s : String)
  | list (ms : List Meaning)
  | tuple (ms : List Meaning)
  | object (field? : String → Option Meaning)
  | moment (x : Moment ⊕ Int)
  | date (d : Date)

namespace Value

mutual

/-- What a value means, where truth values are 0 and 1 if they are `counted`. -/
def meaning (counted : Bool) : Value → Meaning
  | .null => .null
  | .bool b => if counted then .number (some (.finite (if b then 1 else 0))) else .truth b
  | .int n => .number (some (.finite n))
  | .float x => .number x.quantity?
  | .decimal d => .number d.quantity?
  | .text s => .text s
  | .list vs => .list (meanings counted vs)
  | .tuple vs => .tuple (meanings counted vs)
  | .object fs => .object (meaningAt? counted fs)
  | .moment t => .moment t.clockOrInstant
  | .date d => .date d

def meanings (counted : Bool) : List Value → List Meaning
  | [] => []
  | v :: vs => v.meaning counted :: meanings counted vs

def meaningAt? (counted : Bool) : List (String × Value) → String → Option Meaning
  | [], _ => none
  | (k, v) :: fs, l => if l = k then some (v.meaning counted) else meaningAt? counted fs l

end

def quantity? : Value → Option Quantity
  | .int n => some (.finite n)
  | .float x => x.quantity?
  | .decimal d => d.quantity?
  | _ => none

/-- What a value means if a truth value is no number, but may be one inside of it. -/
def strictMeaning : Value → Meaning
  | .bool b => .truth b
  | v => v.meaning true

/-- A value in which every number is one, and whose objects have each key once. -/
inductive Definite : Value → Prop where
  | null : Definite .null
  | bool (b : Bool) : Definite (.bool b)
  | int (n : Int) : Definite (.int n)
  | float {x : Binary64} (number : x.isNaN = false) : Definite (.float x)
  | decimal {d : Decimal} (number : d.isNaN = false) : Definite (.decimal d)
  | text (s : String) : Definite (.text s)
  | list {vs : List Value} (items : ∀ v ∈ vs, Definite v) : Definite (.list vs)
  | tuple {vs : List Value} (items : ∀ v ∈ vs, Definite v) : Definite (.tuple vs)
  | object {fs : Table Value} (keys : fs.keys.Nodup) (fields : ∀ e ∈ fs, Definite e.2) :
      Definite (.object fs)
  | moment (t : Moment) : Definite (.moment t)
  | date (d : Date) : Definite (.date d)

variable {v w a b : Value} {vs ws : List Value} {fs gs : Table Value} {counted : Bool}

lemma meanings_eq (counted : Bool) (vs : List Value) :
    meanings counted vs = vs.map (meaning counted) := by
  induction vs with
  | nil => rfl
  | cons v vs ih => rw [meanings, ih, List.map_cons]

lemma meaningAt?_eq (counted : Bool) (fs : Table Value) :
    meaningAt? counted fs = fun k => (fs.get? k).map (meaning counted) := by
  funext k
  induction fs with
  | nil => rfl
  | cons e fs ih =>
    rw [meaningAt?, ih, Table.get?_cons]
    split_ifs <;> rfl

/-! ### Numbers -/

lemma meaning_of_denoted {x : Decimal} (h : v.denoted? = some x) :
    v.meaning true = .number x.quantity? := by
  cases v <;> cases h
  case bool b => cases b <;> simp [meaning, Decimal.quantity?_ofInt]
  case int n => rw [meaning, Decimal.quantity?_ofInt]
  case float x => rw [meaning, Decimal.quantity?_ofBinary64]
  case decimal => rw [meaning]

lemma meaning_ne_number (h : v.denoted? = none) (x : Option Quantity) :
    v.meaning true ≠ .number x := by
  cases v <;> cases h <;> simp [meaning]

lemma meaning_ne_truth (v : Value) (b : Bool) : v.meaning true ≠ .truth b := by
  cases v <;> simp [meaning]

lemma equals_of_denoted {x : Decimal} (h : v.denoted? = some x) (w : Value) :
    v.equals w = (w.denoted?.any fun y => Decimal.compare? x y = some .eq) := by
  cases v <;> cases h <;> cases w <;> simp [equals, denoted?]

lemma equals_number_iff {x : Decimal} (h : v.denoted? = some x) (hx : x.isNaN = false) (w : Value) :
    v.equals w ↔ v.meaning true = w.meaning true := by
  rw [equals_of_denoted h, meaning_of_denoted h]
  rcases hw : w.denoted? with _ | y
  · exact iff_of_false (by simp) (meaning_ne_number hw _).symm
  · rw [meaning_of_denoted hw, Meaning.number.injEq, ← Decimal.compare?_eq_iff hx]
    simp

/-! ### Equality -/

lemma sameMoment_iff (s t : Moment) : sameMoment s t ↔ s.clockOrInstant = t.clockOrInstant := by
  unfold sameMoment Moment.clockOrInstant
  rcases hs : s.offset <;> rcases ht : t.offset <;> simp

lemma equalsAll_iff
    (h : ∀ v ∈ vs, ∀ w : Value, w.Definite → (v.equals w ↔ v.meaning true = w.meaning true))
    (hws : ∀ w ∈ ws, Definite w) :
    equalsAll vs ws ↔ vs.map (meaning true) = ws.map (meaning true) := by
  induction vs generalizing ws with
  | nil => cases ws <;> simp [equalsAll]
  | cons v vs ih =>
    rw [List.forall_mem_cons] at h
    rcases ws with _ | ⟨w, ws⟩
    · simp [equalsAll]
    rw [List.forall_mem_cons] at hws
    rw [equalsAll, Bool.and_eq_true, h.1 w hws.1, ih h.2 hws.2, List.map_cons, List.map_cons,
      List.cons.injEq]

lemma equalsFields_iff
    (h : ∀ e ∈ fs, ∀ w : Value, w.Definite → (e.2.equals w ↔ e.2.meaning true = w.meaning true))
    (hgs : ∀ e ∈ gs, e.2.Definite) :
    equalsFields fs gs ↔
      ∀ e ∈ fs, ∃ w, gs.get? e.1 = some w ∧ e.2.meaning true = w.meaning true := by
  induction fs with
  | nil => simp [equalsFields]
  | cons e fs ih =>
    rw [List.forall_mem_cons] at h
    rw [equalsFields, Bool.and_eq_true, ih h.2, List.forall_mem_cons]
    refine and_congr_left' ?_
    rcases hw : gs.get? e.1 with _ | w
    · have hlookup : List.lookup e.1 gs = none := hw
      simp [hlookup]
    · have hlookup : List.lookup e.1 gs = some w := hw
      have hdefinite : w.Definite := hgs _ (Table.mem_of_get? hw)
      simp [hlookup, h.1 w hdefinite]

/-- **Values are equal exactly if they mean the same**, where truth values are counted. -/
theorem equals_iff (hv : v.Definite) (hw : w.Definite) :
    v.equals w ↔ v.meaning true = w.meaning true := by
  -- the parts of the first container are compared with any parts that the second one has
  induction hv generalizing w with
  | null => cases hw <;> simp [equals, meaning, denoted?]
  | bool b => exact equals_number_iff rfl rfl w
  | int n => exact equals_number_iff rfl rfl w
  | float hx => exact equals_number_iff rfl ((Decimal.isNaN_ofBinary64 _).trans hx) w
  | decimal hd => exact equals_number_iff rfl hd w
  | text s => cases hw <;> simp [equals, meaning, denoted?]
  | list hvs ih =>
    cases hw with
    | list hws =>
      rw [equals, equalsAll_iff (fun v hv w hw => ih v hv hw) hws, meaning, meaning, meanings_eq,
        meanings_eq, Meaning.list.injEq]
    | _ => simp [equals, meaning, denoted?]
  | tuple hvs ih =>
    cases hw with
    | tuple hws =>
      rw [equals, equalsAll_iff (fun v hv w hw => ih v hv hw) hws, meaning, meaning, meanings_eq,
        meanings_eq, Meaning.tuple.injEq]
    | _ => simp [equals, meaning, denoted?]
  | object hkeys hfs ih =>
    cases hw with
    | object hkeys' hgs =>
      rw [equals, Bool.and_eq_true, decide_eq_true_iff,
        equalsFields_iff (fun e he w hw => ih e he hw) hgs, Table.get?_agree_iff hkeys hkeys', meaning,
        meaning, meaningAt?_eq, meaningAt?_eq, Meaning.object.injEq, funext_iff]
    | _ => simp [equals, meaning, denoted?]
  | moment t =>
    cases hw with
    | moment t' => rw [equals, sameMoment_iff, meaning, meaning, Meaning.moment.injEq]
    | _ => simp [equals, meaning, denoted?]
  | date d => cases hw <;> simp [equals, meaning, denoted?]

/-! ### Strict equality -/

/-- Whether a value is a truth value. -/
def isTruth : Value → Bool
  | .bool _ => true
  | _ => false

lemma isTruth_iff : v.isTruth ↔ ∃ b, v = .bool b := by
  cases v <;> simp [isTruth]

lemma strictMeaning_of_not_truth (h : v.isTruth = false) : v.strictMeaning = v.meaning true := by
  cases v <;> first | rfl | cases h

lemma strictEquals_of_not_truth (hv : v.isTruth = false) (hw : w.isTruth = false) :
    v.strictEquals w = v.equals w := by
  cases v <;> cases w <;> simp_all [isTruth, strictEquals]

lemma isTruth_of_strictEquals (h : v.strictEquals w) : v.isTruth = w.isTruth := by
  cases v <;> cases w <;> simp_all [isTruth, strictEquals]

/-- **Values are strictly equal exactly if they mean the same**, where a truth value is no number. -/
theorem strictEquals_iff (hv : v.Definite) (hw : w.Definite) :
    v.strictEquals w ↔ v.strictMeaning = w.strictMeaning := by
  rcases htv : v.isTruth <;> rcases htw : w.isTruth
  · rw [strictEquals_of_not_truth htv htw, equals_iff hv hw, strictMeaning_of_not_truth htv,
      strictMeaning_of_not_truth htw]
  · obtain ⟨b, rfl⟩ := isTruth_iff.1 htw
    rw [strictMeaning_of_not_truth htv]
    refine iff_of_false ?_ (meaning_ne_truth v b)
    cases v <;> simp_all [isTruth, strictEquals]
  · obtain ⟨b, rfl⟩ := isTruth_iff.1 htv
    rw [strictMeaning_of_not_truth htw]
    refine iff_of_false ?_ (meaning_ne_truth w b).symm
    cases w <;> simp_all [isTruth, strictEquals]
  · obtain ⟨b, rfl⟩ := isTruth_iff.1 htv
    obtain ⟨c, rfl⟩ := isTruth_iff.1 htw
    simp [strictEquals, strictMeaning]

lemma meaning_of_strictMeaning (h : v.strictMeaning = w.strictMeaning) :
    v.meaning true = w.meaning true := by
  rcases htv : v.isTruth <;> rcases htw : w.isTruth
  · rwa [strictMeaning_of_not_truth htv, strictMeaning_of_not_truth htw] at h
  · obtain ⟨b, rfl⟩ := isTruth_iff.1 htw
    rw [strictMeaning_of_not_truth htv] at h
    exact absurd h (meaning_ne_truth v b)
  · obtain ⟨b, rfl⟩ := isTruth_iff.1 htv
    rw [strictMeaning_of_not_truth htw] at h
    exact absurd h.symm (meaning_ne_truth w b)
  · obtain ⟨b, rfl⟩ := isTruth_iff.1 htv
    obtain ⟨c, rfl⟩ := isTruth_iff.1 htw
    obtain rfl := Meaning.truth.inj h
    rfl

/-! ### Places -/

/-- In `v` stands `a` where `b` stands in `w`. -/
inductive Facing : Value → Value → Value → Value → Prop where
  | whole (v w : Value) : Facing v w v w
  | item {vs ws : List Value} {v w a b : Value} (i : Nat) (left : vs[i]? = some v)
      (right : ws[i]? = some w) (inside : Facing v w a b) : Facing (.list vs) (.list ws) a b
  | component {vs ws : List Value} {v w a b : Value} (i : Nat) (left : vs[i]? = some v)
      (right : ws[i]? = some w) (inside : Facing v w a b) : Facing (.tuple vs) (.tuple ws) a b
  | field {fs gs : Table Value} {v w a b : Value} (k : String) (left : fs.get? k = some v)
      (right : gs.get? k = some w) (inside : Facing v w a b) : Facing (.object fs) (.object gs) a b

lemma map_eq_map_iff {α β : Type} (f : α → β) (xs ys : List α) :
    xs.map f = ys.map f ↔ ∀ i : Nat, (xs[i]?).map f = (ys[i]?).map f := by
  rw [List.ext_getElem?_iff]
  simp only [List.getElem?_map]

lemma meaning_list_eq_iff : (Value.list vs).meaning counted = (Value.list ws).meaning counted ↔
    ∀ i : Nat, (vs[i]?).map (meaning counted) = (ws[i]?).map (meaning counted) := by
  rw [meaning, meaning, meanings_eq, meanings_eq, Meaning.list.injEq, map_eq_map_iff]

lemma meaning_tuple_eq_iff : (Value.tuple vs).meaning counted = (Value.tuple ws).meaning counted ↔
    ∀ i : Nat, (vs[i]?).map (meaning counted) = (ws[i]?).map (meaning counted) := by
  rw [meaning, meaning, meanings_eq, meanings_eq, Meaning.tuple.injEq, map_eq_map_iff]

lemma meaning_object_eq_iff : (Value.object fs).meaning counted = (Value.object gs).meaning counted ↔
    ∀ k, (fs.get? k).map (meaning counted) = (gs.get? k).map (meaning counted) := by
  rw [meaning, meaning, meaningAt?_eq, meaningAt?_eq, Meaning.object.injEq, funext_iff]

lemma Facing.meaning_eq (h : Facing v w a b) (hsame : v.meaning counted = w.meaning counted) :
    a.meaning counted = b.meaning counted := by
  induction h with
  | whole => exact hsame
  | item i left right _ ih =>
    have hitem := meaning_list_eq_iff.1 hsame i
    rw [left, right] at hitem
    exact ih (Option.some.inj hitem)
  | component i left right _ ih =>
    have hitem := meaning_tuple_eq_iff.1 hsame i
    rw [left, right] at hitem
    exact ih (Option.some.inj hitem)
  | field k left right _ ih =>
    have hfield := meaning_object_eq_iff.1 hsame k
    rw [left, right] at hfield
    exact ih (Option.some.inj hfield)

/-- Where both values have something, it is a truth value in both or in none. -/
def TruthsMeet (v w : Value) : Prop := ∀ a b, Facing v w a b → a.isTruth = b.isTruth

lemma truthsMeet_list : TruthsMeet (.list vs) (.list ws) ↔
    ∀ (i : Nat) v w, vs[i]? = some v → ws[i]? = some w → TruthsMeet v w := by
  refine ⟨fun h i v w hv hw a b hab => h a b (.item i hv hw hab), fun h a b hab => ?_⟩
  cases hab with
  | whole => rfl
  | item i left right inside => exact h i _ _ left right a b inside

lemma truthsMeet_tuple : TruthsMeet (.tuple vs) (.tuple ws) ↔
    ∀ (i : Nat) v w, vs[i]? = some v → ws[i]? = some w → TruthsMeet v w := by
  refine ⟨fun h i v w hv hw a b hab => h a b (.component i hv hw hab), fun h a b hab => ?_⟩
  cases hab with
  | whole => rfl
  | component i left right inside => exact h i _ _ left right a b inside

lemma truthsMeet_object : TruthsMeet (.object fs) (.object gs) ↔
    ∀ k v w, fs.get? k = some v → gs.get? k = some w → TruthsMeet v w := by
  refine ⟨fun h k v w hv hw a b hab => h a b (.field k hv hw hab), fun h a b hab => ?_⟩
  cases hab with
  | whole => rfl
  | field k left right inside => exact h k _ _ left right a b inside

/-- Two values mean the same with truth values apart from numbers exactly if they do so with truth values
counted, and these meet. -/
def Parted (v w : Value) : Prop :=
  v.meaning false = w.meaning false ↔ v.meaning true = w.meaning true ∧ TruthsMeet v w

lemma parted_option {x y : Option Value} (h : ∀ v w, x = some v → y = some w → Parted v w) :
    x.map (meaning false) = y.map (meaning false) ↔
      x.map (meaning true) = y.map (meaning true) ∧
        ∀ v w, x = some v → y = some w → TruthsMeet v w := by
  rcases x with _ | v <;> rcases y with _ | w
  · simp
  · simp
  · simp
  · have hparted : Parted v w := h v w rfl rfl
    simpa [Parted] using hparted

def meetInside : Value → Value → Bool
  | .list _, .list _ => true
  | .tuple _, .tuple _ => true
  | .object _, .object _ => true
  | _, _ => false

lemma parted_of_whole (hwhole : meetInside v w = false)
    (h : v.meaning false = w.meaning false ↔
      v.meaning true = w.meaning true ∧ v.isTruth = w.isTruth) : Parted v w := by
  have hmeet : TruthsMeet v w ↔ v.isTruth = w.isTruth := by
    refine ⟨fun hmeet => hmeet v w (.whole v w), fun htruth a b hab => ?_⟩
    cases hab with
    | whole => exact htruth
    | _ => cases hwhole
  rw [Parted, hmeet]
  exact h

lemma parted_bool (b : Bool) (w : Value) : Parted (.bool b) w := by
  cases w with
  | bool c => exact parted_of_whole rfl (by cases b <;> cases c <;> simp [meaning])
  | _ => exact parted_of_whole rfl (by simp [meaning, isTruth])

/-- **Truth values stay apart from numbers** exactly where they meet. -/
theorem parted_of_definite (hv : v.Definite) (w : Value) : Parted v w := by
  -- containers of different kinds mean different things, whether truth values are counted or not
  induction hv generalizing w with
  | bool b => exact parted_bool b w
  | list _ ih =>
    cases w with
    | list ws =>
      rw [Parted, meaning_list_eq_iff, meaning_list_eq_iff, truthsMeet_list, ← forall_and]
      exact forall_congr' fun i => parted_option fun v w hv _ => ih v (List.mem_of_getElem? hv) w
    | _ => exact parted_of_whole rfl (by simp [meaning])
  | tuple _ ih =>
    cases w with
    | tuple ws =>
      rw [Parted, meaning_tuple_eq_iff, meaning_tuple_eq_iff, truthsMeet_tuple, ← forall_and]
      exact forall_congr' fun i => parted_option fun v w hv _ => ih v (List.mem_of_getElem? hv) w
    | _ => exact parted_of_whole rfl (by simp [meaning])
  | object _ _ ih =>
    cases w with
    | object gs =>
      rw [Parted, meaning_object_eq_iff, meaning_object_eq_iff, truthsMeet_object, ← forall_and]
      exact forall_congr' fun k => parted_option fun v w hv _ => ih _ (Table.mem_of_get? hv) w
    | _ => exact parted_of_whole rfl (by simp [meaning])
  | _ => cases w <;> exact parted_of_whole rfl (by simp [meaning, isTruth])

/-! ### Classes -/

lemma strictEquals_refl (hv : v.Definite) : v.strictEquals v := (strictEquals_iff hv hv).2 rfl

lemma meaning_of_strictEquals (hv : v.Definite) (hw : w.Definite) (h : v.strictEquals w) :
    v.meaning true = w.meaning true :=
  meaning_of_strictMeaning ((strictEquals_iff hv hw).1 h)

lemma strictEquals_congr {v' w' : Value} (hv : v.Definite) (hv' : v'.Definite) (hw : w.Definite)
    (hw' : w'.Definite) (hvv : v.strictEquals v') (hww : w.strictEquals w') :
    v.strictEquals w = v'.strictEquals w' := by
  rw [Bool.eq_iff_iff, strictEquals_iff hv hw, strictEquals_iff hv' hw',
    (strictEquals_iff hv hv').1 hvv, (strictEquals_iff hw hw').1 hww]

lemma equivalence_strictEquals :
    Equivalence fun v w : {v : Value // v.Definite} => v.1.strictEquals w.1 = true where
  refl v := strictEquals_refl v.2
  symm {v w} h := (strictEquals_iff w.2 v.2).2 ((strictEquals_iff v.2 w.2).1 h).symm
  trans {u v w} h h' := by
    have hu := (strictEquals_iff u.2 v.2).1 h
    exact (strictEquals_iff u.2 w.2).2 (hu.trans ((strictEquals_iff v.2 w.2).1 h'))

lemma meaning_eq_text_iff {s : String} : v.meaning counted = .text s ↔ v = .text s := by
  cases v with
  | bool b => cases counted <;> simp [meaning]
  | _ => simp [meaning]

lemma meaning_of_quantity {x : Quantity} (h : v.quantity? = some x) :
    v.meaning true = .number (some x) := by
  cases v <;> simp_all [quantity?, meaning]

lemma isTruth_of_quantity {x : Quantity} (h : v.quantity? = some x) : v.isTruth = false := by
  cases v <;> simp_all [quantity?, isTruth]

lemma quantity_of_meaning {x : Quantity} (h : v.meaning true = .number (some x)) :
    v.quantity? = some x ∨ ∃ b, v = .bool b ∧ x = .finite (if b then 1 else 0) := by
  cases v <;> simp_all [quantity?, meaning, eq_comm]

lemma strictMeaning_of_meaning (h : v.meaning true = w.meaning true) (ht : v.isTruth = w.isTruth) :
    v.strictMeaning = w.strictMeaning := by
  rcases hv : v.isTruth
  · rwa [strictMeaning_of_not_truth hv, strictMeaning_of_not_truth (ht.symm.trans hv)]
  · obtain ⟨b, rfl⟩ := isTruth_iff.1 hv
    obtain ⟨c, rfl⟩ := isTruth_iff.1 (ht.symm.trans hv)
    cases b <;> cases c <;> simp_all [meaning, strictMeaning]

lemma strictEquals_numbers {x y : Quantity} (hv : v.Definite) (hw : w.Definite)
    (hx : v.quantity? = some x) (hy : w.quantity? = some y) : v.strictEquals w ↔ x = y := by
  rw [strictEquals_iff hv hw, strictMeaning_of_not_truth (isTruth_of_quantity hx),
    strictMeaning_of_not_truth (isTruth_of_quantity hy), meaning_of_quantity hx, meaning_of_quantity hy,
    Meaning.number.injEq, Option.some.injEq]

end Value

end Crosswalk
