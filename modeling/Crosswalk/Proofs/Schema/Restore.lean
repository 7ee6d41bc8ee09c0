import Crosswalk.Proofs.Calendar.Rfc3339
import Crosswalk.Proofs.Schema.Record

/-!
What comes back from a dump.

A codec reads again what it has read, from any dump of it. A dump for JSON loses what a JSON text cannot
hold, so for such a dump the free values have to be values of JSON and the offsets of moments of whole
minutes.
-/

namespace Crosswalk

/-! ### Values of JSON -/

namespace Value

mutual

def isJson : Value → Bool
  | .null | .bool _ | .int _ | .text _ => true
  | .float (.finite ..) => true
  | .float _ | .decimal _ | .moment _ | .date _ | .tuple _ => false
  | .list vs => areJson vs
  | .object fs => haveJson fs

def areJson : List Value → Bool
  | [] => true
  | v :: vs => isJson v && areJson vs

def haveJson : List (String × Value) → Bool
  | [] => true
  | (_, v) :: fs => isJson v && haveJson fs

end

mutual

lemma forJson_of_isJson : (v : Value) → v.isJson → v.forJson = v
  | .null, _ | .bool _, _ | .int _, _ | .text _, _ => rfl
  | .float (.finite ..), _ => rfl
  | .float (.infinite _), h | .float .nan, h => nomatch h
  | .decimal _, h | .moment _, h | .date _, h | .tuple _, h => nomatch h
  | .list vs, h => congrArg Value.list (allForJson_of_areJson vs h)
  | .object fs, h => congrArg Value.object (fieldsForJson_of_haveJson fs h)

lemma allForJson_of_areJson : (vs : List Value) → areJson vs → allForJson vs = vs
  | [], _ => rfl
  | v :: vs, h => by
    obtain ⟨hv, hvs⟩ := Bool.and_eq_true_iff.1 h
    rw [allForJson, forJson_of_isJson v hv, allForJson_of_areJson vs hvs]

lemma fieldsForJson_of_haveJson : (fs : List (String × Value)) → haveJson fs → fieldsForJson fs = fs
  | [], _ => rfl
  | (k, v) :: fs, h => by
    obtain ⟨hv, hfs⟩ := Bool.and_eq_true_iff.1 h
    rw [fieldsForJson, forJson_of_isJson v hv, fieldsForJson_of_haveJson fs hfs]

end

def JsonTable (t : Table Value) : Prop := ∀ e ∈ t, e.2.isJson

end Value

/-- A moment of the calendar that a row can hold. -/
structure Moment.Storable (t : Moment) : Prop where
  valid : t.Valid
  inMinutes : t.InMinutes

/-! ### Codecs -/

namespace Codec

variable {α : Type} {c : Codec α} {P : α → Prop}

/-- What has been read is read again from any dump of it, from one for JSON if it satisfies `P`. -/
def Restores (c : Codec α) (P : α → Prop) : Prop :=
  ∀ (v : Value) (x : α), c.read v = .ok x →
    ∀ style : Style, (style.json → P x) → c.read (c.dump style x) = .ok x

abbrev RestoresAll (c : Codec α) : Prop := c.Restores fun _ => True

lemma restores_any : any.Restores fun v => v.isJson := by
  intro v x hv style hP
  obtain rfl := Except.ok.inj hv
  by_cases hs : style.json
  · simp [any, leaf, hs, Value.forJson_of_isJson v (hP hs)]
  · simp [any, leaf, hs]

lemma restores_boundedText (low : Nat) (high : Option Nat) : (boundedText low high).RestoresAll := by
  intro v s hv _ _
  obtain ⟨-, hbounds⟩ := boundedText_eq_ok.1 hv
  exact boundedText_eq_ok.2 ⟨rfl, hbounds⟩

lemma restores_text : text.RestoresAll := restores_boundedText 0 none

lemma restores_name : name.RestoresAll := restores_boundedText 1 none

lemma restores_bool : bool.RestoresAll := fun _ _ _ _ _ => rfl

lemma restores_integer : integer.RestoresAll := fun _ _ _ _ _ => rfl

lemma restores_integerFrom (low : Int) : (integerFrom low).RestoresAll := by
  intro v n hv _ _
  exact integerFrom_eq_ok.2 ⟨rfl, (integerFrom_eq_ok.1 hv).2⟩

lemma restores_float : float.RestoresAll := fun _ _ _ _ _ => rfl

lemma restores_choice (members : List α) (name : α → String) : (choice members name).RestoresAll := by
  intro v x hv _ _
  obtain ⟨s, -, hfind⟩ := choice_eq_ok.1 hv
  obtain rfl : name x = s := by simpa using List.find?_some hfind
  exact choice_eq_ok.2 ⟨_, rfl, hfind⟩

lemma restores_moment : moment.Restores Moment.Storable := by
  intro v t _ style hP
  by_cases hs : style.json
  · have hread := Calendar.Rfc3339.read?_rowText (hP hs).valid (hP hs).inMinutes
    simp [moment, leaf, hs, readMoment, hread, ofMoment?]
  · simp [moment, leaf, hs, readMoment]

lemma restores_nullable (hc : c.Restores P) (hn : c.NeverNull) :
    c.nullable.Restores fun o => ∀ x ∈ o, P x := by
  intro v o hv style hP
  cases o with
  | none => rfl
  | some x =>
    have hread := read_of_nullable hv
    refine (nullable_read (hn.dump style x)).trans ?_
    exact Reading.map_eq_ok.2 ⟨x, hc v x hread style fun hs => hP hs x rfl, rfl⟩

lemma restores_readItems (hc : c.Restores P) {style : Style} {i : Nat} {vs : List Value} {xs : List α}
    (h : readItems c i vs = .ok xs) (hP : style.json → ∀ x ∈ xs, P x) :
    readItems c i (xs.map (c.dump style)) = .ok xs := by
  induction vs generalizing i xs with
  | nil =>
    obtain rfl : [] = xs := Except.ok.inj h
    rfl
  | cons v vs ih =>
    obtain ⟨x, ys, hx, hys, rfl⟩ := Reading.both_eq_ok.1 h
    have hread := hc v x (Reading.under_eq_ok.1 hx) style fun hs => hP hs x List.mem_cons_self
    have hrest := ih hys fun hs y hy => hP hs y (List.mem_cons_of_mem _ hy)
    exact Reading.both_eq_ok.2 ⟨x, ys, Reading.under_eq_ok.2 hread, hrest, rfl⟩

lemma restores_list (hc : c.Restores P) : c.list.Restores fun xs => ∀ x ∈ xs, P x := by
  intro v xs hv style hP
  obtain ⟨vs, -, hread⟩ := list_eq_ok.1 hv
  exact list_eq_ok.2 ⟨_, rfl, restores_readItems hc hread hP⟩

lemma restores_readEntries (hc : c.Restores P) {style : Style} {fs : Table Value} {t : Table α}
    (h : readEntries c fs = .ok t) (hP : style.json → ∀ e ∈ t, P e.2) :
    readEntries c (t.map fun e => (e.1, c.dump style e.2)) = .ok t := by
  induction fs generalizing t with
  | nil =>
    obtain rfl : [] = t := Except.ok.inj h
    rfl
  | cons f fs ih =>
    obtain ⟨x, u, hx, hu, rfl⟩ := Reading.both_eq_ok.1 h
    have hread := hc f.2 x (Reading.under_eq_ok.1 hx) style fun hs => hP hs _ List.mem_cons_self
    have hrest := ih hu fun hs e he => hP hs e (List.mem_cons_of_mem _ he)
    exact Reading.both_eq_ok.2 ⟨x, u, Reading.under_eq_ok.2 hread, hrest, rfl⟩

lemma restores_table (hc : c.Restores P) : c.table.Restores fun t => ∀ e ∈ t, P e.2 := by
  intro v t hv style hP
  obtain ⟨fs, -, hread⟩ := table_eq_ok.1 hv
  exact table_eq_ok.2 ⟨_, rfl, restores_readEntries hc hread hP⟩

lemma restores_prepared {prepare : Value → Value} (hc : c.Restores P)
    (hdump : ∀ style x, prepare (c.dump style x) = c.dump style x) :
    (c.prepared prepare).Restores P := by
  intro v x hv style hP
  exact (congrArg c.read (hdump style x)).trans (hc (prepare v) x hv style hP)

lemma restores_checked {test : α → Bool} (hc : c.Restores P) : (c.checked test).Restores P := by
  intro v x hv style hP
  obtain ⟨hread, htest⟩ := checked_eq_ok.1 hv
  exact checked_eq_ok.2 ⟨hc v x hread style hP, htest⟩

end Codec

/-! ### Fields -/

namespace Field

variable {α : Type} {f : Field α} {c : Codec α} {P : α → Prop} {n : String}

/-- What a field has been read as, given or not, comes back from its dump as `g` of it. -/
def Restores (f : Field α) (P : α → Prop) (g : α → α) : Prop :=
  ∀ (r : Table Value) (x : α), f.read r = .ok x →
    ∀ style : Style, (style.json → P x) → f.codec.read (f.codec.dump style x) = .ok (g x)

lemma restores_of_codec (hc : f.codec.Restores P)
    (hd : ∀ x ∈ f.default, ∃ v, f.codec.read v = .ok x) : f.Restores P id := by
  intro r x hr style hP
  unfold read at hr
  split at hr
  · exact hc _ x (Reading.under_eq_ok.1 hr) style hP
  · split at hr
    · rename_i y hy
      obtain rfl := Except.ok.inj hr
      obtain ⟨v, hv⟩ := hd y hy
      exact hc v y hv style hP
    · cases hr

lemma restores_required (hc : c.Restores P) : (required n c).Restores P id :=
  restores_of_codec hc fun _ hx => nomatch hx

lemma restores_defaulted {d : α} (hc : c.Restores P) (hd : ∃ v, c.read v = .ok d) :
    (defaulted n c d).Restores P id :=
  restores_of_codec hc fun x hx => by
    obtain rfl := Option.some.inj hx
    exact hd

lemma restores_optional (hc : c.Restores P) (hn : c.NeverNull) :
    (optional n c).Restores (fun o => ∀ x ∈ o, P x) id :=
  restores_of_codec (Codec.restores_nullable hc hn) fun x hx => by
    obtain rfl := Option.some.inj hx
    exact ⟨.null, rfl⟩

lemma restores_optionalText : (optional n .text).Restores (fun _ => True) id :=
  fun r o hr style _ =>
    restores_optional Codec.restores_text Codec.neverNull_text r o hr style fun _ _ _ => trivial

def settled (x : Change α) : Change α := .ofOption x.toOption

@[simp] lemma settled_settled (x : Change α) : settled (settled x) = settled x := by
  cases x <;> rfl

lemma restores_changing (hc : c.Restores P) (hn : c.NeverNull) :
    (changing n c).Restores (fun x => ∀ y ∈ x.toOption, P y) settled := by
  have hnullable := Codec.restores_nullable hc hn
  intro r x hr style hP
  unfold read at hr
  split at hr
  · obtain ⟨o, ho, rfl⟩ := Reading.map_eq_ok.1 (Reading.under_eq_ok.1 hr)
    have hback : (Change.ofOption o).toOption = o := by cases o <;> rfl
    have hread := hnullable _ o ho style fun hj y hy => hP hj y (hback.symm ▸ hy)
    refine Reading.map_eq_ok.2 ⟨o, ?_, congrArg Change.ofOption hback.symm⟩
    exact (congrArg (fun p => c.nullable.read (c.nullable.dump style p)) hback).trans hread
  · obtain rfl : Change.keep = x := Except.ok.inj hr
    rfl

end Field

/-! ### Records -/

namespace Schema

variable {ρ σ : Type} {s : Schema ρ} {Q : ρ → Prop} {g : ρ → ρ} {build : ρ → σ} {parts : σ → ρ}

inductive Restores : {ρ : Type} → Schema ρ → (ρ → Prop) → (ρ → ρ) → Prop where
  | done : Restores .done (fun _ => True) id
  | field {α ρ : Type} {f : Field α} {rest : Schema ρ} {P : α → Prop} {Q : ρ → Prop} {g : α → α}
      {h : ρ → ρ} (first : f.Restores P g) (others : rest.Restores Q h) :
      Restores (.field f rest) (fun xs => P xs.1 ∧ Q xs.2) (Prod.map g h)

lemma Restores.read_dump (h : s.Restores Q g) (hs : s.Separate) {r : Table Value} {xs : ρ}
    (hr : s.read r = .ok xs) {style : Style} (hQ : style.json → Q xs) :
    s.read (s.dump style xs) = .ok (g xs) := by
  induction h with
  | done => rfl
  | @field _ _ f rest _ _ _ _ first others ih =>
    obtain ⟨x, ys, hx, hys, rfl⟩ := Reading.both_eq_ok.1 hr
    have hgiven := Field.given?_cons_key style (f.codec.dump style x)
      (get?_dump_of_lacks hs.lacks_camelKey style ys)
    refine Reading.both_eq_ok.2 ⟨_, _, ?_, ?_, rfl⟩
    · rw [dump, Field.read_of_given? hgiven, Reading.under_eq_ok]
      exact first r x hx style fun hj => (hQ hj).1
    · rw [dump, read_cons_of_lacks (hs.lacks_key style)]
      exact ih hs.tail hys fun hj => (hQ hj).2

lemma Restores.codec (h : s.Restores Q g) (hs : s.Separate) (hparts : ∀ xs, parts (build xs) = xs)
    {v : Value} {x : σ} (hv : (s.codec build parts).read v = .ok x) {style : Style}
    (hQ : style.json → Q (parts x)) :
    (s.codec build parts).read ((s.codec build parts).dump style x) = .ok (build (g (parts x))) := by
  obtain ⟨r, xs, -, hxs, rfl⟩ := codec_eq_ok.1 hv
  rw [hparts] at hQ ⊢
  refine codec_eq_ok.2 ⟨_, g xs, rfl, ?_, rfl⟩
  rw [hparts]
  exact h.read_dump hs hxs hQ

lemma restores_codec {P : σ → Prop} (h : s.Restores Q g) (hs : s.Separate) (hg : ∀ xs, g xs = xs)
    (hbuild : ∀ x, build (parts x) = x) (hparts : ∀ xs, parts (build xs) = xs)
    (hP : ∀ x, P x → Q (parts x)) : (s.codec build parts).Restores P := by
  intro v x hv style hx
  have hread := h.codec hs hparts hv fun hj => hP x (hx hj)
  rwa [hg, hbuild] at hread

end Schema

end Crosswalk
