import Crosswalk.Proofs.Rule.Verdict

/-!
Rules in force, each for itself.

A verdict on a record holds one finding for each rule in force that the record fails, those of global
rules first. A rule that is put among the others therefore adds at most a finding of its own, and
one that is not in force adds nothing.
-/

namespace Crosswalk.Rule

open Fallible

/-- A rule is in force for the records of a kind that a tenant maps. -/
structure InForce (kind : String) (tenant : Option String) (r : Rule) : Prop where
  active : r.isActive
  kind : everyKind ∈ r.appliesTo ∨ kind ∈ r.appliesTo
  owner : r.tenant = none ∨ r.tenant = tenant

/-- What a rule reports of a record that fails it. -/
structure Reports (record : Record) (r : Rule) (f : Finding) : Prop where
  field : f.field = r.target
  code : f.code = r.category.name
  message : Message.render r.message r (record.value r.target) = .ok f.message
  value : f.value = record.value r.target
  severity : f.severity = r.severity

variable {kind : String} {tenant : Option String} {rules before after : List Rule} {r : Rule}
  {record : Record} {f : Finding} {v v' : Verdict}

lemma isFor_iff : r.isFor kind tenant ↔ InForce kind tenant r := by
  have hkind : r.appliesToKind kind ↔ everyKind ∈ r.appliesTo ∨ kind ∈ r.appliesTo := by
    rw [appliesToKind, List.any_eq_true]
    constructor
    · rintro ⟨k, hk, h⟩
      rcases Bool.or_eq_true_iff.1 h with h | h
      · exact .inl (of_decide_eq_true h ▸ hk)
      · exact .inr (of_decide_eq_true h ▸ hk)
    · rintro (h | h)
      · exact ⟨_, h, by simp⟩
      · exact ⟨_, h, by simp⟩
  rw [isFor, Bool.and_eq_true, Bool.and_eq_true, hkind, Bool.or_eq_true, isGlobal,
    Option.isNone_iff_eq_none, decide_eq_true_eq]
  exact ⟨fun ⟨⟨h, h'⟩, h''⟩ => ⟨h, h', h''⟩, fun ⟨h, h', h''⟩ => ⟨⟨h, h'⟩, h''⟩⟩

instance : DecidablePred (InForce kind tenant) := fun _ => decidable_of_iff _ isFor_iff

lemma finding_eq_ok : r.finding record = .ok f ↔ Reports record r f := by
  rw [finding, bind_eq_ok]
  constructor
  · rintro ⟨s, hs, h⟩
    obtain rfl := Except.ok.inj h
    exact ⟨rfl, rfl, hs, rfl, rfl⟩
  · rintro ⟨hfield, hcode, hmessage, hvalue, hseverity⟩
    refine ⟨f.message, hmessage, ?_⟩
    rw [← hvalue, ← hfield, ← hcode, ← hseverity]
    rfl

/-! ### The rules that count -/

def Counts (kind : String) (tenant : Option String) (record : Record) (r : Rule) : Prop :=
  InForce kind tenant r ∧ ¬ r.satisfiedBy record

instance : DecidablePred (Counts kind tenant record) := fun _ => inferInstanceAs (Decidable (_ ∧ _))

/-- Rules with the global ones first, otherwise in their order. -/
def globalFirst (rules : List Rule) : List Rule :=
  rules.filter isGlobal ++ rules.filter fun r => !r.isGlobal

/-- The rules in force that the record fails, global ones first. -/
def failed (kind : String) (tenant : Option String) (record : Record) (rules : List Rule) :
    List Rule :=
  globalFirst (rules.filter fun r => Counts kind tenant record r)

lemma filter_select (rules : List Rule) :
    (select rules kind tenant).filter (fun r => !r.satisfiedBy record) =
      failed kind tenant record rules := by
  have hcounts : ∀ r, decide (Counts kind tenant record r) =
      (!r.satisfiedBy record && r.isFor kind tenant) := fun r => by
    rw [Bool.eq_iff_iff, decide_eq_true_eq, Bool.and_eq_true, isFor_iff, Bool.not_eq_true',
      ← Bool.not_eq_true, Counts, and_comm]
  unfold select failed globalFirst
  dsimp only
  simp only [List.filter_append, List.filter_filter, hcounts]
  congr 2 <;> funext r <;> cases r.isGlobal <;> simp

lemma findings_select (rules : List Rule) :
    Verdict.findings (select rules kind tenant) record =
      (failed kind tenant record rules).mapM fun r => r.finding record := by
  rw [findings_eq, filter_select]

lemma globalFirst_insert (r : Rule) (before after : List Rule) : ∃ pre post,
    globalFirst (before ++ after) = pre ++ post ∧
      globalFirst (before ++ r :: after) = pre ++ r :: post := by
  simp only [globalFirst, List.filter_append]
  cases hg : r.isGlobal with
  | true =>
    refine ⟨_, _, List.append_assoc _ _ _, ?_⟩
    rw [List.filter_cons_of_pos hg, List.filter_cons_of_neg (by simp [hg]), List.append_assoc,
      List.cons_append]
  | false =>
    refine ⟨_, _, (List.append_assoc _ _ _).symm, ?_⟩
    rw [List.filter_cons_of_neg (by simp [hg]), List.filter_cons_of_pos (by simp [hg]),
      List.append_assoc, List.append_assoc, List.append_assoc]

lemma failed_insert (before after : List Rule) (h : Counts kind tenant record r) : ∃ pre post,
    failed kind tenant record (before ++ after) = pre ++ post ∧
      failed kind tenant record (before ++ r :: after) = pre ++ r :: post := by
  have hr : (r :: after).filter (fun r => decide (Counts kind tenant record r)) =
      r :: after.filter fun r => Counts kind tenant record r :=
    List.filter_cons_of_pos (decide_eq_true h)
  rw [failed, failed, List.filter_append, List.filter_append, hr]
  exact globalFirst_insert r _ _

lemma failed_insert_of_not (h : ¬ Counts kind tenant record r) :
    failed kind tenant record (before ++ r :: after) =
      failed kind tenant record (before ++ after) := by
  have hr : (r :: after).filter (fun r => decide (Counts kind tenant record r)) =
      after.filter fun r => Counts kind tenant record r :=
    List.filter_cons_of_neg (by simpa using h)
  rw [failed, failed, List.filter_append, List.filter_append, hr]

/-! ### Verdicts -/

/-- A verdict says what failed rules report, one finding for each in their order. -/
structure Accounts (record : Record) (failed : List Rule) (v : Verdict) : Prop where
  findings : ∃ fs, List.Forall₂ (Reports record) failed fs ∧
    v.errors = fs.filter (·.severity = .error) ∧ v.warnings = fs.filter (·.severity = .warning)
  valid : v.valid = false ↔ v.errors ≠ []

/-- The second verdict has one more finding than the first, at some place of its severity. -/
structure Gains (f : Finding) (v v' : Verdict) : Prop where
  own : ∃ pre post, v.ofSeverity f.severity = pre ++ post ∧
    v'.ofSeverity f.severity = pre ++ f :: post
  other : ∀ severity, severity ≠ f.severity → v'.ofSeverity severity = v.ofSeverity severity

lemma accounts_of_reports {rules : List Rule} {fs : List Finding}
    (h : List.Forall₂ (Reports record) rules fs) :
    Accounts record rules (Verdict.ofFindings fs) where
  findings := ⟨fs, h, Verdict.errors_ofFindings fs, Verdict.warnings_ofFindings fs⟩
  valid := by
    rw [Verdict.valid_ofFindings, ← Bool.not_eq_true, List.isEmpty_iff]

lemma gains_ofFindings (pre post : List Finding) (f : Finding) :
    Gains f (Verdict.ofFindings (pre ++ post)) (Verdict.ofFindings (pre ++ f :: post)) where
  own := by
    refine ⟨pre.filter (·.severity = f.severity), post.filter (·.severity = f.severity), ?_, ?_⟩
    · rw [Verdict.ofSeverity_ofFindings, List.filter_append]
    · rw [Verdict.ofSeverity_ofFindings, List.filter_append, List.filter_cons_of_pos (by simp)]
  other severity hne := by
    rw [Verdict.ofSeverity_ofFindings, Verdict.ofSeverity_ofFindings, List.filter_append,
      List.filter_append, List.filter_cons_of_neg (by simpa using hne.symm)]

lemma ofRules_select_eq_ok : Verdict.ofRules (select rules kind tenant) record = .ok v ↔
    ∃ fs, (failed kind tenant record rules).mapM (fun r => r.finding record) = .ok fs ∧
      Verdict.ofFindings fs = v := by
  rw [Verdict.ofRules, bind_eq_ok, findings_select]
  simp only [pure_ok, Except.ok.injEq]

lemma accounts_select (h : Verdict.ofRules (select rules kind tenant) record = .ok v) :
    Accounts record (failed kind tenant record rules) v := by
  obtain ⟨fs, hfs, rfl⟩ := ofRules_select_eq_ok.1 h
  refine accounts_of_reports ?_
  simpa only [mapM_eq_ok_iff, finding_eq_ok] using hfs

lemma mapM_finding_insert {pre post : List Rule} {fs : List Finding} :
    (pre ++ r :: post).mapM (fun r => r.finding record) = .ok fs ↔ ∃ gs f hs,
      pre.mapM (fun r => r.finding record) = .ok gs ∧ Reports record r f ∧
        post.mapM (fun r => r.finding record) = .ok hs ∧ gs ++ f :: hs = fs := by
  simp only [List.mapM_append, List.mapM_cons, bind_eq_ok, finding_eq_ok, pure_ok, Except.ok.injEq]
  constructor
  · rintro ⟨gs, hgs, _, ⟨f, hf, hs, hhs, rfl⟩, rfl⟩
    exact ⟨gs, f, hs, hgs, hf, hhs, rfl⟩
  · rintro ⟨gs, f, hs, hgs, hf, hhs, rfl⟩
    exact ⟨gs, hgs, _, ⟨f, hf, hs, hhs, rfl⟩, rfl⟩

lemma ofRules_insert (h : Verdict.ofRules (select (before ++ after) kind tenant) record = .ok v)
    (hr : Counts kind tenant record r) : ∃ pre post, v = Verdict.ofFindings (pre ++ post) ∧
      ∀ v', Verdict.ofRules (select (before ++ r :: after) kind tenant) record = .ok v' ↔
        ∃ f, Reports record r f ∧ v' = Verdict.ofFindings (pre ++ f :: post) := by
  obtain ⟨fs, hfs, rfl⟩ := ofRules_select_eq_ok.1 h
  obtain ⟨pre, post, hfailed, hfailed'⟩ := failed_insert before after hr
  rw [hfailed, List.mapM_append] at hfs
  obtain ⟨gs, hgs, hfs⟩ := bind_eq_ok.1 hfs
  obtain ⟨hs, hhs, hfs⟩ := bind_eq_ok.1 hfs
  obtain rfl := Except.ok.inj hfs
  refine ⟨gs, hs, rfl, fun v' => ?_⟩
  rw [ofRules_select_eq_ok, hfailed']
  simp only [mapM_finding_insert, hgs, hhs, Except.ok.injEq]
  constructor
  · rintro ⟨_, ⟨_, f, _, rfl, hf, rfl, rfl⟩, rfl⟩
    exact ⟨f, hf, rfl⟩
  · rintro ⟨f, hf, rfl⟩
    exact ⟨_, ⟨_, f, _, rfl, hf, rfl, rfl⟩, rfl⟩

/-- What the verdict on a record says of rules, and what one more rule among them makes of it. -/
structure EachForItself (kind : String) (tenant : Option String) (record : Record)
    (rules : List Rule) (v : Verdict) : Prop where
  accounts : Accounts record (failed kind tenant record rules) v
  unchanged : ∀ before after r, rules = before ++ after → ¬ Counts kind tenant record r →
    Verdict.ofRules (select (before ++ r :: after) kind tenant) record = .ok v
  gains : ∀ before after r, rules = before ++ after → Counts kind tenant record r → ∀ v',
    Verdict.ofRules (select (before ++ r :: after) kind tenant) record = .ok v' →
      ∃ f, Reports record r f ∧ Gains f v v'
  returns : ∀ before after r f, rules = before ++ after → Counts kind tenant record r →
    Reports record r f →
      ∃ v', Verdict.ofRules (select (before ++ r :: after) kind tenant) record = .ok v'

/-- **Each rule in force stands for itself.** The verdict holds one finding for every rule that is
in force and that the record fails, global rules first and else in order; one more rule at any place
adds its own finding if it is in force and failed, and changes nothing if not. -/
theorem select_eachForItself (h : Verdict.ofRules (select rules kind tenant) record = .ok v) :
    EachForItself kind tenant record rules v where
  accounts := accounts_select h
  unchanged := by
    rintro before after r rfl hr
    rw [Verdict.ofRules, findings_select] at h ⊢
    rwa [failed_insert_of_not hr]
  gains := by
    rintro before after r rfl hr v' h'
    obtain ⟨pre, post, rfl, hinsert⟩ := ofRules_insert h hr
    obtain ⟨f, hf, rfl⟩ := (hinsert v').1 h'
    exact ⟨f, hf, gains_ofFindings pre post f⟩
  returns := by
    rintro before after r f rfl hr hf
    obtain ⟨pre, post, rfl, hinsert⟩ := ofRules_insert h hr
    exact ⟨_, (hinsert _).2 ⟨f, hf, rfl⟩⟩

/-- A rule for all kinds of records that a field must not be empty. -/
def presence (tenant : Option String) (field : String) (severity : Severity) : Rule where
  id := field
  tenant := tenant
  name := "presence"
  description := none
  category := .requiredField
  appliesTo := [everyKind]
  field := some field
  logic := ⟨.notEmpty, none, .null, none, none, none, none⟩
  message := "no \x7bfield\x7d"
  severity := severity
  isActive := true
  createdAt := .midnight ⟨2025, 7, 1⟩
  updatedAt := .midnight ⟨2025, 7, 1⟩

/-- The rule of the tenant stands before that of all, and a foreign one between them. -/
def presences : List Rule :=
  [presence (some "a") "x" .error, presence (some "b") "y" .error, presence none "z" .warning]

def presencesVerdict : Verdict :=
  ⟨false, [⟨"x", "REQUIRED_FIELD", "no x", .null, .error⟩],
    [⟨"z", "REQUIRED_FIELD", "no z", .null, .warning⟩]⟩

theorem presences_eachForItself :
    Verdict.ofRules (select presences "CENSUS" (some "a")) [] = .ok presencesVerdict ∧
      EachForItself "CENSUS" (some "a") [] presences presencesVerdict :=
  ⟨rfl, select_eachForItself rfl⟩

end Crosswalk.Rule
