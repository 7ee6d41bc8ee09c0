import Crosswalk.Proofs.Formula.Machine
import Crosswalk.Proofs.Mapping.Failure
import Crosswalk.Proofs.Mapping.Review
import Crosswalk.Proofs.Mapping.Tally
import Crosswalk.Proofs.Mapping.Writes
import Crosswalk.Proofs.Number.Text
import Crosswalk.Proofs.Value.Amount

/-!
A review finds what mapping will count.

Every error of a review begins with the place of its rule, and a place is a number in brackets, so
an error tells which rule it is about. The rules that a review blames are those whose texts are
refused, and these are what a mapping counts, besides the formulas that are read but have no
value.
-/

namespace Crosswalk.Mapping

open Fallible Run

def isAt (place error : String) : Bool := (place ++ ": ").toList.isPrefixOf error.toList

def Review.blames (v : Review) (place : String) : Bool := v.errors.any (isAt place)

/-! ### Places -/

lemma takeWhile_isDigit (i : Nat) (cs : List Char) :
    ((toString i).toList ++ (']' :: cs)).takeWhile Char.isDigit = (toString i).toList := by
  rw [List.takeWhile_append_of_pos fun _ => isDigit_of_mem]
  exact List.append_nil _

lemma isAt_place_iff {list message : String} {i j : Nat} :
    isAt (place list i) (place list j ++ ": " ++ message) ↔ i = j := by
  rw [isAt, List.isPrefixOf_iff_prefix]
  constructor
  · rintro ⟨rest, h⟩
    have htail : (toString i).toList ++ ']' :: (": ".toList ++ rest) =
        (toString j).toList ++ ']' :: (": ".toList ++ message.toList) := by
      simpa [place] using h
    -- the digits end where the bracket begins, whatever follows
    have hdigits := congrArg (List.takeWhile Char.isDigit) htail
    rw [takeWhile_isDigit, takeWhile_isDigit] at hdigits
    exact eq_of_digits hdigits
  · rintro rfl
    exact ⟨message.toList, by simp⟩

/-- The error begins with the name of the list. -/
def Names (list error : String) : Prop := list.toList <+: error.toList

instance (list error : String) : Decidable (Names list error) :=
  inferInstanceAs (Decidable (list.toList <+: error.toList))

lemma names_append {list s : String} (h : Names list s) (t : String) : Names list (s ++ t) := by
  rw [Names, String.toList_append]
  exact h.trans (List.prefix_append _ _)

lemma names_place (list : String) (i : Nat) : Names list (place list i) :=
  names_append (names_append (names_append List.prefix_rfl "[") (toString i)) "]"

lemma any_isAt_eq_false {list other : String} {errors : List String}
    (h : ∀ s ∈ errors, Names other s) (hlist : ¬ Names list other) (hother : ¬ Names other list)
    (i : Nat) : errors.any (isAt (place list i)) = false := by
  rw [List.any_eq_false]
  intro s hs hat
  have hname : Names list s :=
    (names_append (names_place list i) ": ").trans (List.isPrefixOf_iff_prefix.1 hat)
  exact (List.prefix_or_prefix_of_prefix hname (h s hs)).elim hlist hother

/-! ### Errors of a review -/

variable {α γ : Type}

def refusal (place : String) : Except Fault α → List String
  | .ok _ => []
  | .error f => [place ++ ": " ++ f.message]

def refusals (list : String) (read : γ → Except Fault α) (ks : List γ) : List String :=
  ks.zipIdx.flatMap fun (k, i) => refusal (place list i) (read k)

lemma readErrors_eq_ok {place : String} {reading : Except Fault α} {errors : α → List String}
    (herrors : ∀ x, errors x = []) (hreading : Raises (·.kind.isExpression) reading) :
    readErrors place reading errors = .ok (refusal place reading) := by
  rcases reading with f | x
  · exact if_pos (hreading f rfl)
  · exact congrArg Except.ok (herrors x)

lemma collect_eq_ok {f : Nat → γ → Except Fault (List String)} {g : Nat → γ → List String}
    {ks : List γ} (h : ∀ k ∈ ks, ∀ i, f i k = .ok (g i k)) (i : Nat) :
    collect f i ks = .ok ((ks.zipIdx i).flatMap fun (k, j) => g j k) := by
  induction ks generalizing i with
  | nil => rfl
  | cons k ks ih =>
    have hhead := h k (by simp) i
    have htail := ih (fun j hj => h j (by simp [hj])) (i + 1)
    rw [collect, hhead, htail]
    rfl

lemma mem_refusal {place s : String} {reading : Except Fault α} :
    s ∈ refusal place reading ↔ ∃ f, reading = .error f ∧ s = place ++ ": " ++ f.message := by
  cases reading <;> simp [refusal]

lemma mem_refusals {list s : String} {read : γ → Except Fault α} {ks : List γ} :
    s ∈ refusals list read ks ↔ ∃ i k f, ks[i]? = some k ∧ read k = .error f ∧
      s = place list i ++ ": " ++ f.message := by
  simp only [refusals, List.mem_flatMap, Prod.exists, List.mem_zipIdx_iff_getElem?, mem_refusal]
  constructor
  · rintro ⟨k, i, hk, f, hf, hs⟩
    exact ⟨i, k, f, hk, hf, hs⟩
  · rintro ⟨i, k, f, hk, hf, hs⟩
    exact ⟨k, i, hk, f, hf, hs⟩

lemma isOk_eq_false {x : Except Fault α} : x.isOk = false ↔ ∃ f, x = .error f := by
  cases x <;> simp [Except.isOk, Except.toBool]

lemma any_refusals {list : String} {read : γ → Except Fault α} {ks : List γ} {i : Nat} :
    (refusals list read ks).any (isAt (place list i)) ↔
      ∃ k, ks[i]? = some k ∧ (read k).isOk = false := by
  simp only [List.any_eq_true, mem_refusals, isOk_eq_false]
  constructor
  · rintro ⟨s, ⟨j, k, f, hk, hf, rfl⟩, hat⟩
    obtain rfl := isAt_place_iff.1 hat
    exact ⟨k, hk, f, hf⟩
  · rintro ⟨k, hk, f, hf⟩
    exact ⟨_, ⟨i, k, f, hk, hf, rfl⟩, isAt_place_iff.2 rfl⟩

lemma names_of_mem_refusals {list s : String} {read : γ → Except Fault α} {ks : List γ}
    (h : s ∈ refusals list read ks) : Names list s := by
  obtain ⟨i, k, f, -, -, rfl⟩ := mem_refusals.1 h
  exact names_append (names_append (names_place list i) ": ") f.message

/-! ### Reviews -/

variable {c : Catalogue} {r : Readers} {rules : Rules}

/-- The errors of transfers whose transformation does not exist. -/
def transferRefusals (c : Catalogue) (rules : Rules) : List String :=
  (rules.transfers.zipIdx.map fun (t, i) => transferErrors c none i t).flatten

def conditionRefusals (r : Readers) (rules : Rules) : List String :=
  refusals "conditional_mappings" (fun k => r.condition k.condition) rules.conditionals

def formulaRefusals (r : Readers) (rules : Rules) : List String :=
  refusals "calculated_fields" (fun k => r.formula k.formula) rules.calculations

/-- What a review says of rules whose texts have no faults of other kinds. -/
def Reports (c : Catalogue) (r : Readers) (rules : Rules) (v : Review) : Prop :=
  v.errors = transferRefusals c rules ++ conditionRefusals r rules ++ formulaRefusals r rules

lemma review_reports (hconditions : ∀ k ∈ rules.conditionals,
      Raises (·.kind.isExpression) (r.condition k.condition))
    (hformulas : ∀ k ∈ rules.calculations, Raises (·.kind.isExpression) (r.formula k.formula)) :
    ∃ v, review c r none rules = .ok v ∧ Reports c r rules v := by
  have hcs : collect (conditionErrors r none) 0 rules.conditionals =
      .ok (conditionRefusals r rules) :=
    collect_eq_ok (fun k hk i => readErrors_eq_ok (fun _ => rfl) (hconditions k hk)) 0
  have hfs : collect (formulaErrors r none (produced rules)) 0 rules.calculations =
      .ok (formulaRefusals r rules) :=
    collect_eq_ok (fun k hk i => readErrors_eq_ok
      (fun _ => List.flatMap_eq_nil_iff.2 fun _ _ => rfl) (hformulas k hk)) 0
  have hls := errors_translations 0 rules.translations (v := .empty) rfl
  rw [review, hcs, ok_bind, hfs, ok_bind]
  exact ⟨_, rfl, by rw [Reports, hls, List.append_nil]; rfl⟩

lemma names_of_mem_transferErrors {i : Nat} {t : Transfer} {s : String}
    (h : s ∈ transferErrors c none i t) : Names "field_mappings" s := by
  unfold transferErrors at h
  dsimp only at h
  rw [fieldErrors_none, List.nil_append] at h
  split at h
  · cases h
  · cases h
  · split at h
    · cases h
    · obtain rfl := List.mem_singleton.1 h
      exact names_append (names_append (names_append (names_place _ i) _) _) _

lemma names_of_mem_transferRefusals {s : String} (h : s ∈ transferRefusals c rules) :
    Names "field_mappings" s := by
  obtain ⟨errors, herrors, hs⟩ := List.mem_flatten.1 h
  obtain ⟨⟨t, i⟩, -, rfl⟩ := List.mem_map.1 herrors
  exact names_of_mem_transferErrors hs

variable {v : Review}

lemma blames_condition_iff (h : Reports c r rules v) (i : Nat) :
    v.blames (place "conditional_mappings" i) ↔
      ∃ k, rules.conditionals[i]? = some k ∧ (r.condition k.condition).isOk = false := by
  have htransfers :
      (transferRefusals c rules).any (isAt (place "conditional_mappings" i)) = false :=
    any_isAt_eq_false (fun _ => names_of_mem_transferRefusals) (by decide) (by decide) i
  have hformulas : (formulaRefusals r rules).any (isAt (place "conditional_mappings" i)) = false :=
    any_isAt_eq_false (fun _ => names_of_mem_refusals) (by decide) (by decide) i
  rw [Review.blames, h, List.any_append, List.any_append, htransfers, hformulas, Bool.false_or,
    Bool.or_false]
  exact any_refusals

lemma blames_formula_iff (h : Reports c r rules v) (i : Nat) :
    v.blames (place "calculated_fields" i) ↔
      ∃ k, rules.calculations[i]? = some k ∧ (r.formula k.formula).isOk = false := by
  have htransfers : (transferRefusals c rules).any (isAt (place "calculated_fields" i)) = false :=
    any_isAt_eq_false (fun _ => names_of_mem_transferRefusals) (by decide) (by decide) i
  have hconditions : (conditionRefusals r rules).any (isAt (place "calculated_fields" i)) = false :=
    any_isAt_eq_false (fun _ => names_of_mem_refusals) (by decide) (by decide) i
  rw [Review.blames, h, List.any_append, List.any_append, htransfers, hconditions, Bool.false_or,
    Bool.false_or]
  exact any_refusals

lemma countP_blames {list : String} {read : γ → Except Fault α} {ks : List γ}
    (h : ∀ i, v.blames (place list i) ↔ ∃ k, ks[i]? = some k ∧ (read k).isOk = false) :
    (ks.zipIdx.countP fun x => v.blames (place list x.2)) = ks.countP fun k => !(read k).isOk := by
  have hitems : ∀ x ∈ ks.zipIdx, v.blames (place list x.2) ↔ (!(read x.1).isOk) = true := by
    intro x hx
    have hget := List.mem_zipIdx_iff_getElem?.1 hx
    rw [h x.2, hget]
    simp
  have hfst : ks.zipIdx.map Prod.fst = ks := List.zipIdx_map_fst 0 ks
  calc (ks.zipIdx.countP fun x => v.blames (place list x.2))
      = ks.zipIdx.countP ((fun k => !(read k).isOk) ∘ Prod.fst) := List.countP_congr hitems
    _ = (ks.zipIdx.map Prod.fst).countP fun k => !(read k).isOk := List.countP_map.symm
    _ = ks.countP fun k => !(read k).isOk := by rw [hfst]

/-! ### Calculations without a value -/

variable {e : Engine} {source mapped : Record}

def rounded (source mapped : Record) (rounding : Rounding) (f : Formula) :
    Except Fault Decimal := do
  let x ← f.evaluate (amountOf source mapped)
  Fault.ofDecimal (rounding.apply x)

/-- The formula is read, but arithmetic or rounding fails on it. -/
def miscalculates (e : Engine) (source mapped : Record) (k : Calculation) : Bool :=
  match e.readers.formula k.formula with
  | .ok f => !(rounded source mapped k.rounding f).isOk
  | .error _ => false

lemma isFinite_of_amountOf {ref : FieldRef} {d : Decimal} (h : amountOf source mapped ref = .ok d) :
    d.isFinite := by
  obtain ⟨amount, hamount, h⟩ := bind_eq_ok.1 h
  obtain rfl := Except.ok.inj h
  rcases amount with _ | x
  · rfl
  · exact Value.isFinite_of_amount hamount

lemma isFinite_of_rounded {rounding : Rounding} {f : Formula} (hf : f.LiteralsFinite) {y : Decimal}
    (h : rounded source mapped rounding f = .ok y) : y.isFinite := by
  obtain ⟨x, hx, hy⟩ := bind_eq_ok.1 h
  rw [Formula.evaluate_eq] at hx
  have hfinite := Formula.isFinite_of_value (fun _ _ => isFinite_of_amountOf) hf
    (mapError_eq_ok.1 hx)
  exact Rounding.isFinite_of_apply hfinite (Fault.ofDecimal_eq_ok.1 hy)

lemma dropped_eq {l : Limits} (hl : e.readers.formula = Formula.parse l) (k : Calculation) :
    dropped e source mapped k =
      (!(e.readers.formula k.formula).isOk || miscalculates e source mapped k) := by
  rcases hf : e.readers.formula k.formula with g | f
  · rw [dropped, calculated, hf]
    rfl
  -- the formula is read, so only its arithmetic and its rounding are left to fail
  have hliterals : f.LiteralsFinite := Formula.literalsFinite_of_parse (hl ▸ hf)
  have hcalculated : calculated e source mapped k =
      rounded source mapped k.rounding f >>= Value.ofAmount := by
    rw [calculated, hf, ok_bind, rounded, bind_assoc]
  have hmiscalculates : miscalculates e source mapped k =
      !(rounded source mapped k.rounding f).isOk := by rw [miscalculates, hf]
  rw [dropped, hcalculated, hmiscalculates]
  rcases hy : rounded source mapped k.rounding f with g | y
  · rfl
  · -- a rounded value is finite, so giving it back does not fail
    obtain ⟨v, hv⟩ := not_fails.1 (Value.not_fails_ofAmount (isFinite_of_rounded hliterals hy))
    rw [ok_bind, hv]
    rfl

lemma countP_eq_add {p q s : γ → Bool} (hs : ∀ k, s k = (p k || q k)) (hq : ∀ k, p k → q k = false)
    (ks : List γ) : ks.countP s = ks.countP p + ks.countP q := by
  induction ks with
  | nil => rfl
  | cons k ks ih =>
    rw [List.countP_cons, List.countP_cons, List.countP_cons, ih, hs k]
    cases hp : p k with
    | false => simp [Nat.add_assoc]
    | true => simp [hq k hp, Nat.add_right_comm]

lemma countP_dropped {l : Limits} (hl : e.readers.formula = Formula.parse l)
    (ks : List Calculation) :
    ks.countP (dropped e source mapped) =
      (ks.countP fun k => !(e.readers.formula k.formula).isOk) +
        ks.countP (miscalculates e source mapped) := by
  refine countP_eq_add (dropped_eq hl) (fun k hk => ?_) ks
  rcases hf : e.readers.formula k.formula with g | f
  · rw [miscalculates, hf]
  · rw [hf] at hk
    cases hk

/-! ### Agreement -/

lemma raises_condition (h : assignedRecord e source rules = .ok mapped) :
    ∀ k ∈ rules.conditionals, Raises (·.kind.isExpression) (e.readers.condition k.condition) := by
  intro k hk f hf
  by_contra hkind
  have hfails : Fails (conditionalEntries e source k) := by
    have hheld : (e.readers.condition k.condition >>= fun c => c.holds source) = .error f := by
      rw [hf]
      rfl
    have hfulfils : Fails (fulfils e source k.condition) :=
      (fails_fulfils k.condition).2 ⟨f, hheld, by simpa using hkind⟩
    obtain ⟨g, hg⟩ := hfulfils
    exact ⟨g, by rw [conditionalEntries, hg]; rfl⟩
  have hstage : Fails (assignedRecord e source rules) := fails_afterEntries.2 ⟨k, hk, hfails⟩
  simp [h] at hstage

/-- What a review says of a mapping that counts from `t` to `t'` and calculates on `mapped`. -/
structure Foretells (e : Engine) (rules : Rules) (source mapped : Record) (t t' : Tally)
    (v : Review) : Prop where
  blamed_condition : ∀ i, v.blames (place "conditional_mappings" i) ↔
    ∃ k, rules.conditionals[i]? = some k ∧ (e.readers.condition k.condition).isOk = false
  blamed_formula : ∀ i, v.blames (place "calculated_fields" i) ↔
    ∃ k, rules.calculations[i]? = some k ∧ (e.readers.formula k.formula).isOk = false
  conditions : t'.conditionErrors = t.conditionErrors +
    rules.conditionals.zipIdx.countP fun x => v.blames (place "conditional_mappings" x.2)
  formulas : t'.formulaErrors = t.formulaErrors +
    ((rules.calculations.zipIdx.countP fun x => v.blames (place "calculated_fields" x.2)) +
      rules.calculations.countP (miscalculates e source mapped))
  read : v.isValid → ∀ k ∈ rules.conditionals, ∃ c, e.readers.condition k.condition = .ok c
  uncounted : v.isValid → t'.conditionErrors = t.conditionErrors
  known : v.isValid → ∀ x ∈ rules.transfers, ∀ name, x.transformation = some name → name ≠ "" →
    ∃ entry, Table.get? e.catalogue name = some entry ∧ ∀ w,
      e.catalogue.transform e.clock name w x.parameters =
        entry.apply e.clock w (Parameters.normalize x.parameters)

lemma foretells_of_counted {l : Limits} {t t' : Tally} {v : Review} (he : e.readers = .within l)
    (herrors : Reports e.catalogue e.readers rules v)
    (hreview : review e.catalogue e.readers none rules = .ok v)
    (hcounted : t'.conditionErrors = t.conditionErrors + rules.conditionals.countP (refused e))
    (hcounted' : t'.formulaErrors =
      t.formulaErrors + rules.calculations.countP (dropped e source mapped)) :
    Foretells e rules source mapped t t' v := by
  have hconditions := countP_blames (blames_condition_iff herrors)
  have hformulas := countP_blames (blames_formula_iff herrors)
  have hdropped : rules.calculations.countP (dropped e source mapped) = _ :=
    countP_dropped (congrArg Readers.formula he) rules.calculations
  have hreads : v.isValid → rules.Reads e.catalogue e.readers := fun hvalid =>
    review_isValid_iff.1 ⟨v, hreview, hvalid⟩
  refine ⟨blames_condition_iff herrors, blames_formula_iff herrors, ?_, ?_,
    fun hvalid => (hreads hvalid).conditions, fun hvalid => ?_, fun hvalid => ?_⟩
  · rw [hconditions]
    exact hcounted
  · rw [hformulas, ← hdropped]
    exact hcounted'
  · -- a valid review blames no condition, so there is none to be counted
    have hnone : rules.conditionals.countP (refused e) = 0 := by
      rw [List.countP_eq_zero]
      intro k hk
      obtain ⟨x, hx⟩ := (hreads hvalid).conditions k hk
      simp [refused, hx, Except.isOk, Except.toBool]
    rw [hnone] at hcounted
    exact hcounted
  · intro x hx name hname hne
    have hhas := (hreads hvalid).transformations x hx name hname hne
    obtain ⟨entry, hentry⟩ := Option.isSome_iff_exists.1 hhas
    refine ⟨entry, hentry, fun w => ?_⟩
    rw [Catalogue.transform, hentry]

/-- **A review foretells what a mapping counts**, as long as the limits of texts stay: each
condition that it blames and no other is taken for false, and formulas count that it blames or that
are read but fail on the numbers. Rules without errors have no such condition and no unknown
transformation. -/
theorem review_foretells {l : Limits} {m m' : Memory} (hm : m.Under l) (hm' : m'.Under l)
    (he : e.readers = m'.readers l) {index : Option Int} {t t' : Tally} {d : Record}
    (h : (mapRecord e rules index (.object source)).run t = (.ok d, t')) :
    ∃ v mapped, review e.catalogue (m.readers l) none rules = .ok v ∧
      Gives (afterTransfers e source rules >>= afterConditionals e source rules) (.ok mapped) ∧
      Foretells e rules source mapped t t' v := by
  -- under the same limits both memories read as if there were none
  rw [hm'.readers] at he
  rw [hm.readers, ← he]
  have hd := (mapFields_gives e source rules t).symm.trans (congrArg Prod.fst h)
  obtain ⟨u, hu, -⟩ := bind_eq_ok.1 hd
  obtain ⟨mapped, hmapped, -⟩ := undefaulted_eq_ok hu
  -- the engine fails on no text, since then there would be no result
  have hformulas : ∀ k ∈ rules.calculations,
      Raises (·.kind.isExpression) (e.readers.formula k.formula) := by
    intro k _ g hg
    rw [he] at hg
    have hkind := Formula.refuses_parse l k.formula g hg
    simp only [hkind, FaultKind.isExpression]
  obtain ⟨v, hreview, herrors⟩ := review_reports (raises_condition hmapped) hformulas
  have hgives := mapped_gives e source rules
  rw [hmapped] at hgives
  obtain ⟨hcounted, hcounted'⟩ := adds_mapFields e source hmapped t d t' h
  exact ⟨v, mapped, hreview, hgives,
    foretells_of_counted he herrors hreview hcounted hcounted'⟩

def usedMemory : Memory :=
  Memory.empty.afterReading .standard ["pay", "pay +"] ["pay > 5", "pay > "]

def usedEngine : Engine := ⟨[], usedMemory.readers .standard, leaverEngine.clock⟩

/-- A condition that is refused twice, and formulas of which one is refused and one fails. -/
def faultyRules : Rules where
  transfers := []
  conditionals := [⟨"pay > ", []⟩, ⟨"pay > 5", []⟩, ⟨"pay > ", []⟩]
  calculations := [⟨"x", "pay +", .none⟩, ⟨"y", "1 / (pay - pay)", .none⟩, ⟨"z", "pay", .none⟩]
  translations := []
  defaults := []

theorem faultyRules_foretold :
    ∃ v mapped, review [] (Memory.empty.readers .standard) none faultyRules = .ok v ∧
      Gives (afterTransfers usedEngine leaver faultyRules >>=
        afterConditionals usedEngine leaver faultyRules) (.ok mapped) ∧
      Foretells usedEngine faultyRules leaver mapped .zero ⟨0, 0, 0, 2, 2⟩ v := by
  have hcounts : ((mapRecord usedEngine faultyRules none (.object leaver)).run .zero).2 =
      ⟨0, 0, 0, 2, 2⟩ := by decide +kernel
  have hok : ((mapRecord usedEngine faultyRules none (.object leaver)).run .zero).1.isOk := by
    decide +kernel
  rcases hrun : (mapRecord usedEngine faultyRules none (.object leaver)).run .zero with ⟨f | d, t'⟩
  · rw [hrun] at hok
    cases hok
  · rw [hrun] at hcounts
    obtain rfl : t' = ⟨0, 0, 0, 2, 2⟩ := hcounts
    exact review_foretells Memory.under_empty (Memory.under_empty.afterReading _ _) rfl hrun

end Crosswalk.Mapping
