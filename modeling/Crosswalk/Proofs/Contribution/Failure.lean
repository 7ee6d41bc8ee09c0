import Crosswalk.Proofs.Contribution.Running
import Crosswalk.Proofs.Value.Dated

/-!
Which contributions have no verdict.

A record is in trouble if one of its dates has no moment, if the employee or an amount is an integer
that is too long, or if a message would have to write such an integer. Amounts that can be written
may have a total that cannot, so this depends on the records before it.
-/

namespace Crosswalk

open Fallible

/-! ### Orders of numbers -/

namespace Contribution

open Numeral (IsLong)

/-- Whether a total passes the part of a limit from which employees are warned. -/
def nears (limit total : Int) (ratio : Number) : Except Fault Bool := do
  Order.greater.numbers (.int total) (← Number.mul (.int limit) ratio)

/-- The part of a limit cannot be taken, or no total can be compared with it. -/
def NoThreshold (limit : Int) : Number → Prop
  | .int _ => False
  | .float _ => (Binary64.ofInt limit).isInfinite
  | .decimal d => ∀ e, Decimal.mul (.ofInt limit) d = .ok e → e.isNaN

/-- Whether the employee of a record has a birth date and may catch up in a year. -/
def catchesUp (clock : Clock) (record : Record) (year : Nat) : Bool :=
  match (record.value "dateOfBirth").moment? clock.year with
  | .ok (some t) => catchUpAge ≤ t.date.ageOn ⟨year, 12, 31⟩
  | _ => false

def electiveLimitOf (clock : Clock) (record : Record) (year : Nat) (plan : PlanLimits) : Int :=
  let limits := limitsOf year
  let limit :=
    if catchesUp clock record year then limits.elective + limits.catchUp else limits.elective
  ((limitSet plan.employee).map (min limit)).getD limit

variable {clock : Clock} {record : Record} {year : Nat} {plan : PlanLimits} {ratio : Number} {soFar : Totals}

/-- A finding on the elective limit cannot be made, or not be written. -/
def ElectiveBreaks (limit soFar proposed : Int) (ratio : Number) : Prop :=
  if limit < soFar + proposed then IsLong limit ∨ IsLong soFar ∨ IsLong proposed
  else NoThreshold limit ratio ∨
    (nears limit (soFar + proposed) ratio = .ok true ∧ (IsLong limit ∨ IsLong (soFar + proposed)))

/-- The finding on the limit of all additions cannot be written. -/
def AdditionsBreak (limit soFar proposed : Int) : Prop :=
  limit < soFar + proposed ∧ (IsLong limit ∨ IsLong soFar)

def MatchBreaks (plan : PlanLimits) (matching : Int) : Prop :=
  ∃ limit, limitSet plan.matching = some limit ∧ limit < matching ∧ IsLong limit

def Breaks (clock : Clock) (record : Record) (year : Nat) (soFar : Totals) (plan : PlanLimits)
    (ratio : Number) : Prop :=
  LongIn record (electiveFields ++ employerFields) ∨
    (record.value "dateOfBirth").Undatable clock.year ∨
    ElectiveBreaks (electiveLimitOf clock record year plan) soFar.elective
      (centsIn record electiveFields) ratio ∨
    AdditionsBreak (limitsOf year).additions soFar.additions
      (centsIn record electiveFields + centsIn record employerFields) ∨
    MatchBreaks plan (wholeCents (record.value "employerMatch"))

open Fault (Foreign foreign_of_integerTooLong foreign_ofDecimal)

lemma foreign_integerText (n : Int) : Foreign (Value.integerText n) :=
  foreign_of_integerTooLong (Value.raises_integerText n)

lemma foreign_centsOf (record : Record) (fields : List String) : Foreign (centsOf record fields) :=
  foreign_of_integerTooLong raises_centsOf

lemma foreign_moment (v : Value) (present : Nat) : Foreign (v.moment? present) :=
  raises_mono (fun f hf => by rcases hf with rfl | rfl <;> rfl) (Value.raises_moment v present)

lemma foreign_nears (limit total : Int) (ratio : Number) : Foreign (nears limit total ratio) := by
  refine raises_bind ?_ fun x _ => ?_
  · cases ratio with
    | int n => simp [Number.mul, Number.combine]
    | float x =>
      refine raises_bind ?_ fun _ _ => by simp
      unfold Number.floatOfInt
      dsimp only
      split <;> simp [Fault.integerTooLargeForFloat, FaultKind.isOwn]
    | decimal d => exact raises_bind (foreign_ofDecimal _) fun _ _ => by simp
  · unfold Order.numbers
    split
    · simp
    · split <;> simp [Fault.ofSignal, FaultKind.isOwn]

lemma foreign_electiveLimit : Foreign (electiveLimit clock record year plan) := by
  refine raises_bind (raises_bind (foreign_moment _ _) fun t _ => ?_) fun _ _ => by simp
  cases t <;> simp

lemma foreign_electiveFinding (limit soFar proposed : Int) (ratio : Number) :
    Foreign (electiveFinding? limit soFar proposed ratio) := by
  unfold electiveFinding?
  split
  · refine raises_bind (foreign_integerText _) fun _ _ => ?_
    refine raises_bind (foreign_integerText _) fun _ _ => ?_
    exact raises_bind (foreign_integerText _) fun _ _ => by simp
  · rw [← bind_assoc]
    refine raises_bind (foreign_nears _ _ _) fun b _ => ?_
    cases b with
    | false => simp
    | true =>
      refine raises_bind (foreign_integerText _) fun _ _ => ?_
      exact raises_bind (foreign_integerText _) fun _ _ => by simp

lemma foreign_additionsFinding (limit soFar proposed : Int) :
    Foreign (additionsFinding? limit soFar proposed) := by
  unfold additionsFinding?
  split
  · refine raises_bind (foreign_integerText _) fun _ _ => ?_
    exact raises_bind (foreign_integerText _) fun _ _ => by simp
  · simp

lemma foreign_matchFinding (plan : PlanLimits) (matching : Int) :
    Foreign (matchFinding? plan matching) := by
  unfold matchFinding?
  split
  · simp
  · split
    · exact raises_bind (foreign_integerText _) fun _ _ => by simp
    · simp

lemma foreign_negativeFinding (record : Record) (field : String) :
    Foreign (negativeFinding? record field) := by
  refine raises_bind (foreign_of_integerTooLong (Value.raises_amount _)) fun d _ => ?_
  split
  · simp
  · split <;> simp

lemma foreign_verdict : Foreign (verdict clock record year soFar plan ratio) := by
  refine raises_bind ?_ fun _ _ => by simp
  refine raises_bind (foreign_centsOf _ _) fun elective _ => ?_
  refine raises_bind (foreign_centsOf _ _) fun employer _ => ?_
  refine raises_bind foreign_electiveLimit fun limit _ => ?_
  refine raises_bind (foreign_electiveFinding _ _ _ _) fun first _ => ?_
  refine raises_bind (foreign_additionsFinding _ _ _) fun second _ => ?_
  refine raises_bind (foreign_of_integerTooLong (raises_cents _)) fun matching _ => ?_
  refine raises_bind (foreign_matchFinding _ _) fun third _ => ?_
  exact raises_bind (raises_mapM fun f _ => foreign_negativeFinding _ f) fun negatives _ => by simp

lemma foreign_judge (s : Setting) (earlier : List Record) (record : Record) :
    Foreign (judge s earlier record) := by
  refine raises_bind (raises_bind (foreign_moment _ _) fun t _ => ?_) fun year _ =>
    raises_bind ?_ fun employee _ => foreign_verdict
  · split <;> simp
  · unfold employee?
    split
    · exact raises_bind (foreign_of_integerTooLong (Value.raises_toText _)) fun _ _ => by simp
    · simp

lemma foreign_judgeAll (s : Setting) (earlier : List Record) (records : List (Int × Record)) :
    Foreign (judgeAll s earlier records) := by
  induction records generalizing earlier with
  | nil => simp [judgeAll]
  | cons p records ih =>
    exact raises_bind (foreign_judge _ _ _) fun _ _ => raises_bind (ih _) fun _ _ => by simp

lemma foreign_checkBatch (s : Setting) (records : List (Int × Record)) :
    Foreign (checkBatch s records) := by
  rw [checkBatch, checkAll_eq (tracks_nil s)]
  exact raises_bind (foreign_judgeAll _ _ _) fun _ _ => by simp

end Contribution

end Crosswalk
