import Crosswalk.Proofs.Formula.Evaluation
import Crosswalk.Proofs.Mapping.Writes

/-!
What a mapping depends on in a source record.

A stage asks the source record for what its rules name and for nothing else. Two records on which
the rules agree are therefore mapped alike: the destination, the fault and the counts are the
same. A transfer, a condition and a translation take a field that is absent for null; a formula
does not, since a field that is absent from the source is looked for in what has been mapped.
-/

namespace Crosswalk.Mapping

variable {e : Engine} {s u : Record} {rules : Rules}

structure Indistinct (e : Engine) (rules : Rules) (s u : Record) : Prop where
  transfers : ∀ t ∈ rules.transfers, transferred e s t = transferred e u t
  conditionals : ∀ k ∈ rules.conditionals,
    conditionHolds e s k.condition = conditionHolds e u k.condition
  calculations : ∀ k ∈ rules.calculations, ∀ mapped,
    calculated e s mapped k = calculated e u mapped k
  translations : ∀ t ∈ rules.translations, translated s t = translated u t

lemma afterWrites_congr {γ : Type} {f g : γ → Run (List Write)} {ks : List γ}
    (h : ∀ k ∈ ks, f k = g k) (d : Record) :
    afterWrites d (writesOf f ks) = afterWrites d (writesOf g ks) := by
  have hmap : ks.mapM f = ks.mapM g := by
    induction ks with
    | nil => rfl
    | cons k ks ih =>
      have hhead := h k (by simp)
      have htail := ih fun j hj => h j (by simp [hj])
      rw [List.mapM_cons, List.mapM_cons, hhead, htail]
  rw [writesOf, writesOf, hmap]

namespace Indistinct

variable (h : Indistinct e rules s u)
include h

lemma afterTransfers_eq : afterTransfers e s rules = afterTransfers e u rules :=
  afterWrites_congr (fun t ht => by rw [transferWrites, transferWrites, h.transfers t ht]) []

lemma afterConditionals_eq (d : Record) :
    afterConditionals e s rules d = afterConditionals e u rules d :=
  afterWrites_congr
    (fun k hk => by rw [conditionalWrites, conditionalWrites, h.conditionals k hk]) d

lemma afterCalculations_eq (d : Record) :
    afterCalculations e s rules d = afterCalculations e u rules d :=
  afterWrites_congr
    (fun k hk => by rw [calculationWrites, calculationWrites, h.calculations k hk d]) d

lemma afterTranslations_eq (d : Record) :
    afterTranslations s rules d = afterTranslations u rules d :=
  afterWrites_congr
    (fun t ht => by rw [translationWrites, translationWrites, h.translations t ht]) d

lemma mapRecord_eq (index : Option Int) :
    mapRecord e rules index (.object s) = mapRecord e rules index (.object u) := by
  have hbefore : beforeDefaults e s rules = beforeDefaults e u rules := by
    simp only [beforeDefaults, h.afterTransfers_eq, h.afterConditionals_eq, h.afterCalculations_eq,
      h.afterTranslations_eq]
  rw [mapRecord, mapRecord, mapFields, mapFields, hbefore]

end Indistinct

/-! ### What is read -/

lemma transferred_congr {t : Transfer} (h : s.value t.source = u.value t.source) :
    transferred e s t = transferred e u t := by
  rw [transferred, transferred, h]

lemma conditionHolds_congr {text : String}
    (h : ∀ c, e.readers.condition text = .ok c → c.holds s = c.holds u) :
    conditionHolds e s text = conditionHolds e u text := by
  have hheld : (e.readers.condition text >>= fun c => c.holds s) =
      e.readers.condition text >>= fun c => c.holds u := by
    rcases hc : e.readers.condition text with f | c
    · rfl
    · exact h c hc
  rw [conditionHolds, conditionHolds, hheld]

lemma calculated_congr {mapped : Record} {k : Calculation}
    (h : ∀ f, e.readers.formula k.formula = .ok f →
      ∀ r ∈ f.refs, amountOf s mapped r = amountOf u mapped r) :
    calculated e s mapped k = calculated e u mapped k := by
  rcases hf : e.readers.formula k.formula with g | f
  · rw [calculated, calculated, hf]
    rfl
  · have hvalue := Formula.evaluate_congr (h f hf)
    rw [calculated, calculated, hf]
    simp only [Fallible.ok_bind, hvalue]

lemma translated_congr {t : Translation} (h : s.value t.source = u.value t.source) :
    translated s t = translated u t := by
  rw [translated, translated, h]

/-- The records agree on what the rules read of them. -/
structure AgreeOn (e : Engine) (rules : Rules) (s u : Record) : Prop where
  transfers : ∀ t ∈ rules.transfers, s.value t.source = u.value t.source
  conditions : ∀ k ∈ rules.conditionals, ∀ c, e.readers.condition k.condition = .ok c →
    s.value c.field = u.value c.field
  formulas : ∀ k ∈ rules.calculations, ∀ f, e.readers.formula k.formula = .ok f →
    ∀ name ∈ f.fieldNames, Table.get? s name = Table.get? u name
  translations : ∀ t ∈ rules.translations, s.value t.source = u.value t.source

lemma AgreeOn.indistinct (h : AgreeOn e rules s u) : Indistinct e rules s u where
  transfers t ht := transferred_congr (h.transfers t ht)
  conditionals k hk := conditionHolds_congr fun c hc => by
    rw [Condition.holds, Condition.holds, h.conditions k hk c hc]
  calculations k hk mapped := calculated_congr fun f hf r hr => by
    have hget := h.formulas k hk f hf r.name (Formula.mem_fieldNames.2 ⟨r, hr, rfl⟩)
    rw [amountOf, amountOf, operand, operand, hget]
  translations t ht := translated_congr (h.translations t ht)

/-- **A mapping depends on nothing that its rules do not read**: no other field of the source record
reaches the destination or changes what is counted. -/
theorem mapRecord_eq_of_agreeOn (h : AgreeOn e rules s u) (index : Option Int) :
    mapRecord e rules index (.object s) = mapRecord e rules index (.object u) :=
  h.indistinct.mapRecord_eq index

/-- Rules that read the pay, and a bonus that may as well be absent as null. -/
def payRules : Rules where
  transfers := [⟨"bonus", "bonus", none, [], false⟩]
  conditionals := [⟨"pay > 5", [⟨"grade", .text "a"⟩]⟩]
  calculations := [⟨"yearly", "pay * 12", .none⟩]
  translations := [⟨"bonus", "level", some [], none, .null⟩]
  defaults := []

/-- A note that no rule reads is of no effect. -/
theorem mapRecord_eq_without_note :
    mapRecord leaverEngine payRules (some 0) (.object [("pay", .int 10)]) =
      mapRecord leaverEngine payRules (some 0)
        (.object [("note", .text "private"), ("pay", .int 10), ("bonus", .null)]) := by
  refine mapRecord_eq_of_agreeOn ⟨?_, ?_, ?_, ?_⟩ (some 0)
  · rintro t (_ | ⟨_, ⟨⟩⟩)
    rfl
  · rintro k (_ | ⟨_, ⟨⟩⟩) c hc
    have hread : leaverEngine.readers.condition "pay > 5" = .ok ⟨"pay", .above, .int 5⟩ := rfl
    obtain rfl := Except.ok.inj (hread.symm.trans hc)
    rfl
  · rintro k (_ | ⟨_, ⟨⟩⟩) f hf name hname
    have hread : leaverEngine.readers.formula "pay * 12" =
        .ok (.binary .mul (.field ⟨"pay", false⟩) (.number (.ofNat 12))) := by decide +kernel
    obtain rfl := Except.ok.inj (hread.symm.trans hf)
    obtain rfl : name = "pay" := List.mem_singleton.1 hname
    rfl
  · rintro t (_ | ⟨_, ⟨⟩⟩)
    rfl

end Crosswalk.Mapping
