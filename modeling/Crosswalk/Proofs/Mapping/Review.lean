import Crosswalk.Mapping.Review
import Crosswalk.Proofs.Fallible
import Crosswalk.Proofs.Formula.Evaluation

/-!
What a review finds.

A review finds nothing wrong with rules exactly if all their conditions and formulas are read, all
their transformations exist, and every field that they name is admitted. Without known fields every
field is.
-/

namespace Crosswalk.Mapping

open Fallible

/-- Every text of the rules is read, and every transformation exists. -/
structure Rules.Reads (c : Catalogue) (r : Readers) (rules : Rules) : Prop where
  conditions : ∀ x ∈ rules.conditionals, ∃ y, r.condition x.condition = .ok y
  formulas : ∀ x ∈ rules.calculations, ∃ f, r.formula x.formula = .ok f
  transformations : ∀ x ∈ rules.transfers, ∀ name, x.transformation = some name → name ≠ "" →
    c.has name

/-- A field may be named: it is known or produced, if the known fields are given at all. -/
def Admits (known : Option (List String)) (produced : List String) (field : String) : Prop :=
  ∀ fields ∈ known, field ∈ fields ∨ field ∈ produced

/-- Every field that the rules name may be named where they name it. -/
structure Rules.Admitted (r : Readers) (known : Option (List String)) (rules : Rules) : Prop where
  transfers : ∀ x ∈ rules.transfers, Admits known [] x.source
  conditions : ∀ x ∈ rules.conditionals, ∀ y, r.condition x.condition = .ok y →
    Admits known [] y.field
  formulas : ∀ x ∈ rules.calculations, ∀ f, r.formula x.formula = .ok f → ∀ ref ∈ f.refs,
    Admits known (produced rules) ref.name
  translations : ∀ x ∈ rules.translations, Admits known [] x.source

variable {c : Catalogue} {r : Readers} {rules : Rules} {known : Option (List String)}
  {fields : List String}

@[simp] lemma admits_none (produced : List String) (field : String) : Admits none produced field :=
  nofun

@[simp] lemma admits_some {produced : List String} {field : String} :
    Admits (some fields) produced field ↔ field ∈ fields ∨ field ∈ produced := by
  simp [Admits]

lemma Rules.admitted_none : rules.Admitted r none := by
  constructor <;> simp

@[simp] lemma fieldErrors_none (place field : String) (produced : List String) :
    fieldErrors none place field produced = [] := rfl

lemma fieldErrors_eq_nil {place field : String} {produced : List String} :
    fieldErrors known place field produced = [] ↔ Admits known produced field := by
  cases known <;> simp [fieldErrors, or_iff_not_imp_left]

lemma transferErrors_eq_nil {i : Nat} {t : Transfer} : transferErrors c known i t = [] ↔
    Admits known [] t.source ∧
      ∀ name, t.transformation = some name → name ≠ "" → c.has name := by
  unfold transferErrors
  dsimp only
  rw [List.append_eq_nil_iff, fieldErrors_eq_nil]
  refine and_congr_right fun _ => ?_
  split
  · simp [*]
  · simp [*]
  next name hne hname =>
    rw [hname]
    split <;> simp_all

lemma readErrors_eq_nil {α : Type} {place : String} {reading : Except Fault α}
    {errors : α → List String} :
    readErrors place reading errors = .ok [] ↔ ∃ x, reading = .ok x ∧ errors x = [] := by
  unfold readErrors
  split
  · simp
  · split <;> simp

lemma collect_eq_nil {α : Type} {f : Nat → α → Except Fault (List String)} {p : α → Prop}
    (h : ∀ i x, f i x = .ok [] ↔ p x) (i : Nat) (xs : List α) :
    collect f i xs = .ok [] ↔ ∀ x ∈ xs, p x := by
  induction xs generalizing i with
  | nil => simp [collect]
  | cons x xs ih =>
    rw [collect, List.forall_mem_cons, ← h i x, ← ih (i + 1), bind_eq_ok]
    constructor
    · rintro ⟨ys, hys, hrest⟩
      obtain ⟨zs, hzs, heq⟩ := bind_eq_ok.1 hrest
      obtain ⟨rfl, rfl⟩ := List.append_eq_nil_iff.1 (Except.ok.inj heq)
      exact ⟨hys, hzs⟩
    · rintro ⟨hys, hzs⟩
      exact ⟨[], hys, by rw [hzs]; rfl⟩

lemma conditions_eq_nil (i : Nat) (xs : List Conditional) :
    collect (conditionErrors r known) i xs = .ok [] ↔
      ∀ x ∈ xs, ∃ y, r.condition x.condition = .ok y ∧ Admits known [] y.field :=
  collect_eq_nil (fun _ _ => by rw [conditionErrors, readErrors_eq_nil]; simp [fieldErrors_eq_nil])
    i xs

lemma formulas_eq_nil {produced : List String} (i : Nat) (xs : List Calculation) :
    collect (formulaErrors r known produced) i xs = .ok [] ↔ ∀ x ∈ xs,
      ∃ f, r.formula x.formula = .ok f ∧ ∀ ref ∈ f.refs, Admits known produced ref.name := by
  refine collect_eq_nil (fun i x => ?_) i xs
  rw [formulaErrors, readErrors_eq_nil]
  simp only [List.flatMap_eq_nil_iff, fieldErrors_eq_nil, Formula.mem_fieldNames,
    forall_exists_index, and_imp, forall_apply_eq_imp_iff₂]

lemma transfers_eq_nil (i : Nat) (ts : List Transfer) :
    ((ts.zipIdx i).map fun (t, i) => transferErrors c known i t).flatten = [] ↔
      ∀ x ∈ ts, Admits known [] x.source ∧
        ∀ name, x.transformation = some name → name ≠ "" → c.has name := by
  induction ts generalizing i with
  | nil => simp
  | cons t ts ih =>
    rw [List.zipIdx_cons, List.map_cons, List.flatten_cons, List.append_eq_nil_iff, ih,
      List.forall_mem_cons]
    exact and_congr_left fun _ => transferErrors_eq_nil

lemma translations_eq_nil (i : Nat) (ts : List Translation) (v : Review) :
    (((ts.zipIdx i).map fun (t, i) => translationReview known i t).foldl Review.append v).errors =
      [] ↔ v.errors = [] ∧ ∀ t ∈ ts, Admits known [] t.source := by
  induction ts generalizing i v with
  | nil => simp
  | cons t ts ih =>
    rw [List.zipIdx_cons, List.map_cons, List.foldl_cons, ih, List.forall_mem_cons, ← and_assoc]
    refine and_congr_left fun _ => ?_
    rw [Review.append, List.append_eq_nil_iff]
    exact and_congr_right fun _ => fieldErrors_eq_nil

lemma errors_translations (i : Nat) (ts : List Translation) {v : Review} (hv : v.errors = []) :
    (((ts.zipIdx i).map fun (t, i) => translationReview none i t).foldl Review.append v).errors =
      [] :=
  (translations_eq_nil i ts v).2 ⟨hv, fun _ _ => admits_none _ _⟩

/-- **A review finds nothing wrong** exactly if every text is read, every transformation exists and
every field may be named. -/
theorem review_isValid_iff_admitted : (∃ v, review c r known rules = .ok v ∧ v.isValid) ↔
    rules.Reads c r ∧ rules.Admitted r known := by
  constructor
  · rintro ⟨v, hv, hvalid⟩
    obtain ⟨cs, hcs, hv⟩ := bind_eq_ok.1 hv
    obtain ⟨fs, hfs, hv⟩ := bind_eq_ok.1 hv
    obtain rfl := Except.ok.inj hv
    simp only [Review.isValid, List.isEmpty_iff, List.append_eq_nil_iff] at hvalid
    -- the four lists of errors are empty, each one for the rules of its kind
    obtain ⟨⟨⟨hts, rfl⟩, rfl⟩, hls⟩ := hvalid
    have hts := (transfers_eq_nil 0 _).1 hts
    have hcs := (conditions_eq_nil 0 _).1 hcs
    have hfs := (formulas_eq_nil 0 _).1 hfs
    have hls := (translations_eq_nil 0 _ _).1 hls
    refine ⟨⟨fun x hx => (hcs x hx).imp fun _ => And.left,
      fun x hx => (hfs x hx).imp fun _ => And.left, fun x hx => (hts x hx).2⟩,
      fun x hx => (hts x hx).1, fun x hx y hy => ?_, fun x hx f hf => ?_, hls.2⟩
    · obtain ⟨y', hy', hadmits⟩ := hcs x hx
      obtain rfl := Except.ok.inj (hy.symm.trans hy')
      exact hadmits
    · obtain ⟨f', hf', hadmits⟩ := hfs x hx
      obtain rfl := Except.ok.inj (hf.symm.trans hf')
      exact hadmits
  · rintro ⟨⟨hconditions, hformulas, htransformations⟩, hadmitted⟩
    have hcs : collect (conditionErrors r known) 0 rules.conditionals = .ok [] :=
      (conditions_eq_nil 0 _).2 fun x hx =>
        (hconditions x hx).imp fun y hy => ⟨hy, hadmitted.conditions x hx y hy⟩
    have hfs : collect (formulaErrors r known (produced rules)) 0 rules.calculations = .ok [] :=
      (formulas_eq_nil 0 _).2 fun x hx =>
        (hformulas x hx).imp fun f hf => ⟨hf, hadmitted.formulas x hx f hf⟩
    have hts := (transfers_eq_nil 0 _).2 fun x hx =>
      And.intro (hadmitted.transfers x hx) (htransformations x hx)
    have hls := (translations_eq_nil 0 rules.translations .empty).2
      ⟨rfl, hadmitted.translations⟩
    rw [review, hcs, ok_bind, hfs, ok_bind]
    exact ⟨_, rfl, by simp [Review.isValid, hts, hls]⟩

theorem review_isValid_iff : (∃ v, review c r none rules = .ok v ∧ v.isValid) ↔ rules.Reads c r :=
  review_isValid_iff_admitted.trans (and_iff_left Rules.admitted_none)

end Crosswalk.Mapping
