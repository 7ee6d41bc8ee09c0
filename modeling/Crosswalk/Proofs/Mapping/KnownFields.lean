import Crosswalk.Proofs.Mapping.Review

/-!
What a review with known fields warrants.

Rules without errors take every source field from the known ones, and a bare name in a formula may
also be a field that transfers or assignments produce. A review does not tell a name that is
qualified, and so never stands for a produced field, from a bare one: a qualified name that is
produced and not known escapes it, and nothing else does.
-/

namespace Crosswalk.Mapping

/-- A transfer or an assignment writes the destination field. -/
def Rules.Produces (rules : Rules) (field : String) : Prop :=
  (∃ t ∈ rules.transfers, t.destination = field) ∨
    ∃ k ∈ rules.conditionals, ∃ a ∈ k.assignments, a.destination = field

def Rules.Refers (r : Readers) (rules : Rules) (ref : FieldRef) : Prop :=
  ∃ k ∈ rules.calculations, ∃ f, r.formula k.formula = .ok f ∧ ref ∈ f.refs

/-- What the rules read has a source: a known field, or for bare names of formulas a produced one. -/
structure Rules.Sourced (r : Readers) (fields : List String) (rules : Rules) : Prop where
  transfers : ∀ t ∈ rules.transfers, t.source ∈ fields
  translations : ∀ t ∈ rules.translations, t.source ∈ fields
  conditions : ∀ k ∈ rules.conditionals, ∀ c, r.condition k.condition = .ok c → c.field ∈ fields
  qualified : ∀ ref, rules.Refers r ref → ref.sourceOnly → ref.name ∈ fields
  bare : ∀ ref, rules.Refers r ref → ¬ ref.sourceOnly →
    ref.name ∈ fields ∨ rules.Produces ref.name

/-- A formula asks the source record for a field that is not known, but that the rules produce. -/
def Rules.Borrows (r : Readers) (fields : List String) (rules : Rules) : Prop :=
  ∃ ref, rules.Refers r ref ∧ ref.sourceOnly ∧ ref.name ∉ fields ∧ rules.Produces ref.name

variable {c : Catalogue} {r : Readers} {rules : Rules} {fields : List String}

lemma mem_produced {field : String} : field ∈ produced rules ↔ rules.Produces field := by
  simp [produced, Rules.Produces]

lemma Rules.Refers.admitted {ref : FieldRef} (h : rules.Refers r ref)
    (hadmitted : rules.Admitted r (some fields)) : ref.name ∈ fields ∨ rules.Produces ref.name := by
  obtain ⟨k, hk, f, hf, href⟩ := h
  rw [← mem_produced]
  exact admits_some.1 (hadmitted.formulas k hk f hf ref href)

lemma Rules.sourced_iff :
    rules.Admitted r (some fields) ∧ ¬ rules.Borrows r fields ↔ rules.Sourced r fields := by
  constructor
  · rintro ⟨hadmitted, hborrows⟩
    refine ⟨fun t ht => by simpa using hadmitted.transfers t ht,
      fun t ht => by simpa using hadmitted.translations t ht,
      fun k hk x hx => by simpa using hadmitted.conditions k hk x hx, fun ref href hsource => ?_,
      fun ref href _ => href.admitted hadmitted⟩
    -- an unknown field with the source named could only be a produced one, which is borrowed
    by_contra hunknown
    exact hborrows ⟨ref, href, hsource, hunknown, (href.admitted hadmitted).resolve_left hunknown⟩
  · intro h
    refine ⟨⟨fun t ht => by simpa using h.transfers t ht, fun k hk x hx => by
      simpa using h.conditions k hk x hx, fun k hk f hf ref href => ?_,
      fun t ht => by simpa using h.translations t ht⟩, ?_⟩
    · rw [admits_some, mem_produced]
      have hrefers : rules.Refers r ref := ⟨k, hk, f, hf, href⟩
      by_cases hsource : ref.sourceOnly
      · exact .inl (h.qualified ref hrefers hsource)
      · exact h.bare ref hrefers hsource
    · rintro ⟨ref, href, hsource, hunknown, -⟩
      exact hunknown (h.qualified ref href hsource)

/-- **What a review with known fields warrants.** Rules are found valid, and borrow nothing, exactly
if all their texts are read, their transformations exist, and all that they read has a source. -/
theorem review_warrants_iff :
    (∃ v, review c r (some fields) rules = .ok v ∧ v.isValid) ∧ ¬ rules.Borrows r fields ↔
      rules.Reads c r ∧ rules.Sourced r fields := by
  rw [review_isValid_iff_admitted, and_assoc, Rules.sourced_iff]

/-- A formula that asks the source record for what a transfer produces. -/
def borrowingRules : Rules where
  transfers := [⟨"a", "b", none, [], false⟩]
  conditionals := []
  calculations := [⟨"c", "source.b", .none⟩]
  translations := []
  defaults := []

lemma formula_borrowing :
    (Readers.within .standard).formula "source.b" = .ok (.field ⟨"b", true⟩) := by decide +kernel

lemma refers_borrowing : borrowingRules.Refers (.within .standard) ⟨"b", true⟩ :=
  ⟨_, List.mem_singleton_self _, _, formula_borrowing, List.mem_singleton_self _⟩

/-- Records with the known field alone have no field `b`, and the review does not say so. -/
theorem borrowed_field_escapes :
    (∃ v, review [] (.within .standard) (some ["a"]) borrowingRules = .ok v ∧ v.isValid) ∧
      ¬ borrowingRules.Sourced (.within .standard) ["a"] := by
  constructor
  · refine ⟨⟨[], []⟩, ?_, rfl⟩
    simp only [review, borrowingRules, collect, formulaErrors, formula_borrowing, readErrors]
    rfl
  · intro h
    have hknown : "b" ∈ ["a"] := h.qualified _ refers_borrowing rfl
    exact absurd hknown (by decide)

end Crosswalk.Mapping
