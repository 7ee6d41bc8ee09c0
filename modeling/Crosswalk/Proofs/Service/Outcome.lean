import Crosswalk.Proofs.Service.Application

/-!
The outcome of a batch accounts for every record of it.

Verdicts are put back to the positions of the records they are on, and issues are then sorted by
position. The errors that end up at a position are those of the record there and stand in the order
mapping, rules, limits.
-/

namespace Crosswalk.Service

open Batch (Options Outcome Metrics Warning)
open Mapping (Configuration destinationAt destinationsFrom failuresFrom failureAt)
open Fallible ByPosition

variable (e : Environment) (s : Store) (tenant : Option String) (c : Configuration)
  (options : Options) (inputs : List Value)

/-- The rules that records are checked by. -/
def rulesInForce : List Rule :=
  if options.skipValidation then [] else s.rulesFor c.kind.name tenant

def limitsInForce : Bool :=
  !options.skipValidation && options.checkLimits && c.kind = .contribution

def limitsFound : Except Fault (List (Int × Verdict)) :=
  if limitsInForce c options then limitVerdicts e options (mappedBy e c inputs).records else .ok []

def rulesFound : Except Fault (List (Int × Verdict)) :=
  if options.skipValidation then .ok []
  else ruleVerdicts (s.rulesFor c.kind.name tenant) (mappedBy e c inputs).records

/-- What of a severity is found on the record at a position: by the rules, then by the limits. -/
def findingsAt (limits : List (Int × Verdict)) (severity : Severity) (i : Nat) (record : Record) :
    Except Fault (List Finding) :=
  return (← (Rule.broken severity (rulesInForce s tenant c options) record).mapM
      (·.finding record)) ++
    ((limits.lookup (i : Int)).map (·.ofSeverity severity)).getD []

/-- The issues of the value at a position, if there is one: `failed` of what could not be mapped,
or else what is found on its destination. -/
def issuesAt {α : Type} (limits : List (Int × Verdict)) (failed : Fault → List α)
    (found : Finding → α) (severity : Severity) (i : Nat) : Except Fault (List α) :=
  match inputs[i]? with
  | none => .ok []
  | some v =>
    match destinationAt e.engine c.rules i v with
    | .error f => .ok (failed f)
    | .ok record => return (← findingsAt s tenant c options limits severity i record).map found

def errorOf (i : Int) (f : Finding) : Batch.Failure :=
  ⟨i, .validationError, f.code, f.message, some f.field, f.value⟩

def warningOf (i : Int) (f : Finding) : Warning :=
  ⟨i, f.code, f.message, some f.field, f.value, .validationWarning⟩

def errorsAt (limits : List (Int × Verdict)) (i : Nat) : Except Fault (List Batch.Failure) :=
  issuesAt e s tenant c options inputs limits (fun f => [failureAt i f]) (errorOf i) .error i

def warningsAt (limits : List (Int × Verdict)) (i : Nat) : Except Fault (List Warning) :=
  issuesAt e s tenant c options inputs limits (fun _ => []) (warningOf i) .warning i

/-- An outcome says of a batch what happened to each of its values. -/
structure Accounts (limits : List (Int × Verdict)) (o : Outcome) : Prop where
  limits_at : limits.map (·.1) =
    if limitsInForce c options then
      (destinationsFrom e.engine c.rules 0 inputs).map fun p => (p.1 : Int)
    else []
  errors_sorted : o.errors.Pairwise fun x y => x.index ≤ y.index
  errors_at : ∀ i : Nat, errorsAt e s tenant c options inputs limits i =
    .ok (o.errors.filter fun x => x.index = (i : Int))
  errors_within : ∀ x ∈ o.errors, ∃ i < inputs.length, x.index = (i : Int)
  warnings_sorted : o.warnings.Pairwise fun x y => x.index ≤ y.index
  warnings_at : ∀ i : Nat, warningsAt e s tenant c options inputs limits i =
    .ok (o.warnings.filter fun x => x.index = (i : Int))
  warnings_within : ∀ x ∈ o.warnings, ∃ i < inputs.length, x.index = (i : Int)
  data : o.data =
    inputs.zipIdx.filterMap fun (v, i) => (destinationAt e.engine c.rules i v).toOption
  total : o.metrics.total = inputs.length
  failed : o.metrics.failed = o.errors.countP fun x => x.category = .mappingFailed
  successful : o.metrics.successful = o.metrics.total - o.metrics.failed
  successful_data : o.metrics.successful = o.data.length
  success : o.success ↔ o.errors = []

variable {e s tenant c options inputs} {vs limits : List (Int × Verdict)}

/-! ### Verdicts at a position -/

lemma ruleVerdicts_eq (rules : List Rule) (records : List (Nat × Record)) :
    ruleVerdicts rules records =
      records.mapM fun p => return ((p.1 : Int), ← Verdict.ofRules rules p.2) := by
  induction records with
  | nil => rfl
  | cons p records ih =>
    rw [ruleVerdicts, Verdict.ofRecords] at ih ⊢
    rw [List.mapM_cons, ← ih, List.map_cons, List.mapM_cons]
    rcases Verdict.ofRules rules p.2 with f | v
    · rfl
    · simp

lemma verdictsOn_eq : verdictsOn e s tenant c options inputs = do
    return (← rulesFound e s tenant c options inputs) ++ (← limitsFound e c options inputs) := by
  unfold verdictsOn verdicts rulesFound limitsFound limitsInForce
  by_cases hs : options.skipValidation
  · simp [hs]
  · rcases ruleVerdicts (s.rulesFor c.kind.name tenant) (mappedBy e c inputs).records
      with f | byRules
    · simp [hs]
    · by_cases hl : options.checkLimits && c.kind = .contribution
      · simp [hs, hl]
      · simp [hs, hl]

lemma verdictsOn_ok (h : verdictsOn e s tenant c options inputs = .ok vs) :
    ∃ byRules limits, rulesFound e s tenant c options inputs = .ok byRules ∧
      limitsFound e c options inputs = .ok limits ∧ vs = byRules ++ limits := by
  rw [verdictsOn_eq] at h
  obtain ⟨byRules, hr, h⟩ := bind_eq_ok.1 h
  obtain ⟨limits, hl, h⟩ := bind_eq_ok.1 h
  exact ⟨byRules, limits, hr, hl, (Except.ok.inj h).symm⟩

lemma position_rulesFound (h : rulesFound e s tenant c options inputs = .ok vs) :
    ∀ p ∈ vs, ∃ q ∈ (mappedBy e c inputs).records, p.1 = (q.1 : Int) := by
  unfold rulesFound at h
  split at h
  · obtain rfl := Except.ok.inj h
    simp
  · rw [ruleVerdicts_eq] at h
    intro p hp
    obtain ⟨q, hq, h⟩ := mem_of_mapM h p hp
    obtain ⟨v, -, h⟩ := bind_eq_ok.1 h
    obtain rfl := Except.ok.inj h
    exact ⟨q, hq, rfl⟩

lemma pairwise_records :
    ((mappedBy e c inputs).records.map fun p => (p.1 : Int)).Pairwise (· ≠ ·) := by
  rw [List.pairwise_map]
  exact Mapping.pairwise_destinationsFrom.imp fun h => Int.ne_of_lt h

lemma positions_limitsFound (h : limitsFound e c options inputs = .ok limits) : limits.map (·.1) =
    if limitsInForce c options then (mappedBy e c inputs).records.map fun p => (p.1 : Int)
    else [] := by
  unfold limitsFound at h
  split at h
  · rw [limitVerdicts,
      Contribution.checkBatch_eq (by simpa [Function.comp_def] using pairwise_records)] at h
    rw [if_pos ‹_›, Contribution.positions_checkAll h, List.map_map]
    rfl
  · obtain rfl := Except.ok.inj h
    rw [if_neg ‹_›]
    rfl

lemma pairwise_limitsFound (h : limitsFound e c options inputs = .ok limits) :
    limits.Pairwise fun p q => p.1 ≠ q.1 := by
  have hp := positions_limitsFound h
  rw [← List.pairwise_map, hp]
  split
  · exact pairwise_records
  · exact .nil

lemma position_limitsFound (h : limitsFound e c options inputs = .ok limits) :
    ∀ p ∈ limits, ∃ q ∈ (mappedBy e c inputs).records, p.1 = (q.1 : Int) := by
  intro p hp
  have hmem : p.1 ∈ limits.map (·.1) := List.mem_map_of_mem hp
  rw [positions_limitsFound h] at hmem
  split at hmem
  · simpa [eq_comm] using hmem
  · simp at hmem

/-- What stands at the position of a mapped record is what is found on it. -/
lemma findings_at {byRules : List (Int × Verdict)} {i : Nat} {record : Record}
    (hr : rulesFound e s tenant c options inputs = .ok byRules)
    (hl : limitsFound e c options inputs = .ok limits)
    (hat : (mappedBy e c inputs).records.filter (fun p => (p.1 : Int) = i) = [(i, record)])
    (severity : Severity) : findingsAt s tenant c options limits severity i record =
      .ok (((byRules ++ limits).filter (·.1 = (i : Int))).flatMap
        fun p => p.2.ofSeverity severity) := by
  -- a position has at most one verdict of the limits
  have hlimits : (limits.filter (·.1 = (i : Int))).flatMap (fun p => p.2.ofSeverity severity) =
      ((limits.lookup (i : Int)).map (·.ofSeverity severity)).getD [] := by
    rw [filter_fst (pairwise_limitsFound hl)]
    rcases limits.lookup (i : Int) <;> simp
  -- the verdict of the rules at a position has the findings of the rules that are broken
  have hrules :
      (Rule.broken severity (rulesInForce s tenant c options) record).mapM (·.finding record) =
      .ok ((byRules.filter (·.1 = (i : Int))).flatMap fun p => p.2.ofSeverity severity) := by
    unfold rulesFound at hr
    unfold rulesInForce
    split at hr
    · obtain rfl := Except.ok.inj hr
      simp [Rule.broken, *]
    · rw [ruleVerdicts_eq] at hr
      have hr := mapM_filter (p := fun p => (p.1 : Int) = i) (q := fun p => p.1 = (i : Int))
        (fun p q h => by
          obtain ⟨v, -, h⟩ := bind_eq_ok.1 h
          obtain rfl := Except.ok.inj h
          rfl) hr
      rw [hat, List.mapM_cons] at hr
      obtain ⟨p, hp, hr⟩ := bind_eq_ok.1 hr
      obtain ⟨v, hv, hp⟩ := bind_eq_ok.1 hp
      obtain rfl := Except.ok.inj hp
      obtain hr : [((i : Int), v)] = byRules.filter (fun p => p.1 = (i : Int)) := by simpa using hr
      rw [if_neg ‹_›, Rule.broken_findings hv, ← hr]
      simp
  rw [findingsAt, hrules, List.filter_append, List.flatMap_append, hlimits]
  rfl

lemma position_verdictsOn (h : verdictsOn e s tenant c options inputs = .ok vs) :
    ∀ p ∈ vs, ∃ q ∈ (mappedBy e c inputs).records, p.1 = (q.1 : Int) := by
  obtain ⟨byRules, limits, hr, hl, rfl⟩ := verdictsOn_ok h
  intro p hp
  rcases List.mem_append.1 hp with hp | hp
  · exact position_rulesFound hr p hp
  · exact position_limitsFound hl p hp

lemma nothing_at (h : verdictsOn e s tenant c options inputs = .ok vs) {i : Nat}
    (hat : (mappedBy e c inputs).records.filter (fun p => (p.1 : Int) = i) = []) :
    vs.filter (·.1 = (i : Int)) = [] := by
  rw [List.filter_eq_nil_iff] at hat ⊢
  intro p hp
  obtain ⟨q, hq, hpq⟩ := position_verdictsOn h p hp
  rw [hpq]
  exact hat q hq

/-! ### Issues at a position -/

/-- The issues at a position, after failures and findings have been joined. -/
lemma issuesAt_eq {α : Type} {failed : Fault → List α} {found : Int → Finding → α}
    {severity : Severity}
    (hv : verdictsOn e s tenant c options inputs = .ok vs)
    (hl : limitsFound e c options inputs = .ok limits) (i : Nat) :
    issuesAt e s tenant c options inputs limits failed (found i) severity i = .ok
      ((inputs[i]?.toList.flatMap fun v =>
          match destinationAt e.engine c.rules i v with
          | .error f => failed f
          | .ok _ => []) ++
        (vs.filter (·.1 = (i : Int))).flatMap
          fun p => (p.2.ofSeverity severity).map (found p.1)) := by
  have hat : (mappedBy e c inputs).records.filter (fun p => (p.1 : Int) = i) =
      (inputs[i]?.bind fun v => (destinationAt e.engine c.rules i v).toOption.map (i, ·)).toList :=
    Mapping.filter_destinationsFrom i
  unfold issuesAt
  generalize inputs[i]? = input at hat ⊢
  -- a position has no value, one that is not mapped, or a record
  rcases input with _ | v
  · rw [nothing_at hv hat]
    rfl
  rcases h : destinationAt e.engine c.rules i v with f | record
  · rw [nothing_at hv (by rw [hat]; simp [h, Except.toOption])]
    simp [h]
  · obtain ⟨byRules, limits', hr, hl', rfl⟩ := verdictsOn_ok hv
    obtain rfl := Except.ok.inj (hl.symm.trans hl')
    replace hat :
        (mappedBy e c inputs).records.filter (fun p => (p.1 : Int) = i) = [(i, record)] := by
      rw [hat]
      simp [h, Except.toOption]
    have hfound := findings_at hr hl hat severity
    -- the verdicts at this position all have it for their own
    have hmap : ((byRules ++ limits).filter (·.1 = (i : Int))).flatMap
        (fun p => (p.2.ofSeverity severity).map (found p.1)) =
        (((byRules ++ limits).filter (·.1 = (i : Int))).flatMap
          fun p => p.2.ofSeverity severity).map (found i) := by
      rw [List.map_flatMap]
      refine List.flatMap_congr fun p hp => ?_
      rw [show p.1 = i by simpa using (List.mem_filter.1 hp).2]
    rw [hmap]
    simp [h, hfound]

lemma errors_outcomeOf (vs : List (Int × Verdict)) : (outcomeOf e c options inputs vs).errors =
    (failuresFrom e.engine c.rules 0 inputs ++
      vs.flatMap fun p => (p.2.ofSeverity .error).map (errorOf p.1)).mergeSort
        fun x y => decide (x.index ≤ y.index) := rfl

lemma warnings_outcomeOf (vs : List (Int × Verdict)) : (outcomeOf e c options inputs vs).warnings =
    (vs.flatMap fun p => (p.2.ofSeverity .warning).map (warningOf p.1)).mergeSort
      fun x y => decide (x.index ≤ y.index) := rfl

lemma errors_at (hv : verdictsOn e s tenant c options inputs = .ok vs)
    (hl : limitsFound e c options inputs = .ok limits) (i : Nat) :
    errorsAt e s tenant c options inputs limits i =
      .ok ((outcomeOf e c options inputs vs).errors.filter fun x => x.index = (i : Int)) := by
  rw [errorsAt, issuesAt_eq hv hl, errors_outcomeOf, filter_mergeSort, List.filter_append,
    Mapping.filter_failuresFrom, filter_flatMap (p := Prod.fst) (fun p x hx => ?_)]
  · congr 2
    rcases inputs[i]? with _ | v
    · rfl
    · rcases h : destinationAt e.engine c.rules i v <;> simp [Mapping.failure?, h]
  · obtain ⟨f, -, rfl⟩ := List.mem_map.1 hx
    rfl

lemma warnings_at (hv : verdictsOn e s tenant c options inputs = .ok vs)
    (hl : limitsFound e c options inputs = .ok limits) (i : Nat) :
    warningsAt e s tenant c options inputs limits i =
      .ok ((outcomeOf e c options inputs vs).warnings.filter fun x => x.index = (i : Int)) := by
  rw [warningsAt, issuesAt_eq hv hl, warnings_outcomeOf, filter_mergeSort,
    filter_flatMap (p := Prod.fst) (fun p x hx => ?_)]
  · congr 1
    rcases inputs[i]? with _ | v
    · rfl
    · rcases h : destinationAt e.engine c.rules i v <;> simp [h]
  · obtain ⟨f, -, rfl⟩ := List.mem_map.1 hx
    rfl

lemma position_within (hv : verdictsOn e s tenant c options inputs = .ok vs) :
    ∀ p ∈ vs, ∃ i < inputs.length, p.1 = (i : Int) := by
  intro p hp
  obtain ⟨q, hq, hpq⟩ := position_verdictsOn hv p hp
  obtain ⟨v, hv, -⟩ := Mapping.mem_destinationsFrom.1 hq
  exact ⟨q.1, (List.getElem?_eq_some_iff.1 hv).1, hpq⟩

lemma failure_within {x : Batch.Failure} (hx : x ∈ failuresFrom e.engine c.rules 0 inputs) :
    x.category = .mappingFailed ∧ ∃ i < inputs.length, x.index = (i : Int) := by
  simp only [failuresFrom, List.mem_filterMap, Prod.exists, List.mk_mem_zipIdx_iff_getElem?] at hx
  obtain ⟨v, i, hv, hx⟩ := hx
  obtain ⟨f, rfl⟩ := Mapping.failure?_eq_some hx
  exact ⟨rfl, i, (List.getElem?_eq_some_iff.1 hv).1, rfl⟩

lemma mem_errors {x : Batch.Failure} (hx : x ∈ (outcomeOf e c options inputs vs).errors) :
    x ∈ failuresFrom e.engine c.rules 0 inputs ∨ ∃ p ∈ vs, ∃ f, x = errorOf p.1 f := by
  rw [errors_outcomeOf, List.mem_mergeSort, List.mem_append, List.mem_flatMap] at hx
  refine hx.imp_right fun ⟨p, hp, hx⟩ => ?_
  obtain ⟨f, -, rfl⟩ := List.mem_map.1 hx
  exact ⟨p, hp, f, rfl⟩

lemma countP_errors (vs : List (Int × Verdict)) :
    (outcomeOf e c options inputs vs).errors.countP (fun x => x.category = .mappingFailed) =
      (failuresFrom e.engine c.rules 0 inputs).length := by
  rw [errors_outcomeOf, (List.mergeSort_perm _ _).countP_eq, List.countP_append,
    List.countP_eq_length.2 fun x hx => by simpa using (failure_within hx).1, List.countP_eq_zero.2]
  · rfl
  · intro x hx
    obtain ⟨p, -, hx⟩ := List.mem_flatMap.1 hx
    obtain ⟨f, -, rfl⟩ := List.mem_map.1 hx
    simp [errorOf]

lemma isError_of_mem {x : Batch.Failure} (hx : x ∈ (outcomeOf e c options inputs vs).errors) :
    x.category.isError := by
  rcases mem_errors hx with hx | ⟨p, -, f, rfl⟩
  · rw [(failure_within hx).1]
    rfl
  · rfl

lemma success_outcomeOf (vs : List (Int × Verdict)) :
    (outcomeOf e c options inputs vs).success ↔ (outcomeOf e c options inputs vs).errors = [] := by
  have hs : (outcomeOf e c options inputs vs).success =
      !(failuresFrom e.engine c.rules 0 inputs ++
        vs.flatMap fun p => (p.2.ofSeverity .error).map (errorOf p.1)).any
          (·.category.isError) := rfl
  rw [hs, ← (List.mergeSort_perm _ _).any_eq, ← errors_outcomeOf, Bool.not_eq_true',
    List.any_eq_false]
  constructor
  · intro h
    rw [List.eq_nil_iff_forall_not_mem]
    exact fun x hx => h x hx (isError_of_mem hx)
  · intro h
    simp [h]

lemma data_outcomeOf (vs : List (Int × Verdict)) : (outcomeOf e c options inputs vs).data =
    inputs.zipIdx.filterMap fun (v, i) => (destinationAt e.engine c.rules i v).toOption := by
  have hd : (outcomeOf e c options inputs vs).data =
      (destinationsFrom e.engine c.rules 0 inputs).map (·.2) := rfl
  rw [hd, destinationsFrom, List.map_filterMap]
  refine List.filterMap_congr fun p _ => ?_
  simp [Option.map_map, Function.comp_def]

lemma successful_outcomeOf (vs : List (Int × Verdict)) :
    (outcomeOf e c options inputs vs).metrics.successful =
      (outcomeOf e c options inputs vs).data.length := by
  have hlen : (destinationsFrom e.engine c.rules 0 inputs).length +
      (failuresFrom e.engine c.rules 0 inputs).length = inputs.length :=
    Mapping.length_destinationsFrom_add 0 inputs
  have hs : (outcomeOf e c options inputs vs).metrics.successful =
      (inputs.length : Int) - (failuresFrom e.engine c.rules 0 inputs).length := rfl
  have hd : (outcomeOf e c options inputs vs).data.length =
      (destinationsFrom e.engine c.rules 0 inputs).length := List.length_map _
  omega

/-- **The outcome accounts for the batch**, whatever mixture of failures, broken rules and exceeded
limits it has. -/
theorem outcomeOf_accounts (hv : verdictsOn e s tenant c options inputs = .ok vs)
    (hl : limitsFound e c options inputs = .ok limits) :
    Accounts e s tenant c options inputs limits (outcomeOf e c options inputs vs) where
  limits_at := positions_limitsFound hl
  errors_sorted := by
    rw [errors_outcomeOf]
    exact pairwise_mergeSort _ _
  errors_at := errors_at hv hl
  -- an error is one of mapping or a finding, and either is at a value of the batch
  errors_within x hx := by
    rcases mem_errors hx with hx | ⟨p, hp, f, rfl⟩
    · exact (failure_within hx).2
    · exact position_within hv p hp
  warnings_sorted := by
    rw [warnings_outcomeOf]
    exact pairwise_mergeSort _ _
  warnings_at := warnings_at hv hl
  warnings_within x hx := by
    rw [warnings_outcomeOf, List.mem_mergeSort] at hx
    obtain ⟨p, hp, hx⟩ := List.mem_flatMap.1 hx
    obtain ⟨f, -, rfl⟩ := List.mem_map.1 hx
    exact position_within hv p hp
  data := data_outcomeOf vs
  total := rfl
  failed := by
    rw [countP_errors]
    rfl
  successful := rfl
  successful_data := successful_outcomeOf vs
  success := success_outcomeOf vs

/-- **What an application answers.** -/
theorem apply_accounts {t : Mapping.Tally} {id : String} {a : Answer} {s' : Store}
    (h : (apply e s t id tenant inputs options).1 = .ok (a, s')) :
    ∃ c o limits, prepare e s id tenant inputs.length = .ok c ∧ c.isActive ∧
      limitsFound e c options inputs = .ok limits ∧ a = .outcome o ∧
      Accounts e s tenant c options inputs limits o := by
  obtain ⟨c, vs, hc, hv, rfl, -⟩ := apply_ok.1 h
  obtain ⟨byRules, limits, -, hl, -⟩ := verdictsOn_ok hv
  exact ⟨c, _, limits, hc, (prepare_ok hc).2, hl, rfl, outcomeOf_accounts hv hl⟩

/-- A batch with a value that is no record, and with a record that breaks a rule. -/
theorem small_batch_accounts : ∃ a s',
    (apply smallEnvironment smallStore .zero "m" (some "t") [.null, .object []] smallOptions).1 =
      .ok (a, s') ∧
    ∃ c o limits,
      prepare smallEnvironment smallStore "m" (some "t") [Value.null, .object []].length = .ok c ∧
      c.isActive ∧ limitsFound smallEnvironment c smallOptions [.null, .object []] = .ok limits ∧
      a = .outcome o ∧
      Accounts smallEnvironment smallStore (some "t") c smallOptions [.null, .object []] limits o :=
  ⟨_, _, rfl, apply_accounts (t := .zero) rfl⟩

end Crosswalk.Service
