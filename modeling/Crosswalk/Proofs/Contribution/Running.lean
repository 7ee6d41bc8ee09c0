import Crosswalk.Contribution.Batch
import Crosswalk.Proofs.Table
import Crosswalk.Proofs.Value.LongInteger

/-!
The totals that a contribution is judged against.

They are the baseline of the employee with the cents of the earlier records of the same employee and
plan year. The totals that run along through a batch are these after every record, so each record is
judged by what stands before it alone.
-/

namespace Crosswalk

open Fallible

namespace Contribution

/-! ### Cents -/

def wholeCents (v : Value) : Int :=
  match v.amount? with
  | .ok (some d) => d.trunc?.getD 0
  | _ => 0

def centsIn (record : Record) (fields : List String) : Int :=
  total (fields.map fun f => wholeCents (record.value f))

def LongIn (record : Record) (fields : List String) : Prop :=
  ∃ f ∈ fields, (record.value f).isLong

variable {record : Record} {fields : List String}

@[simp] lemma fails_cents (v : Value) : Fails (cents v) ↔ v.isLong := by
  rw [cents, fails_bind_total, Value.fails_amount]
  rintro (_ | d) <;> simp

lemma raises_cents (v : Value) : Raises (· = .integerTooLong) (cents v) :=
  raises_bind (Value.raises_amount v) fun d _ => by cases d <;> simp

lemma cents_eq {v : Value} (h : ¬ v.isLong) : cents v = .ok (wholeCents v) := by
  obtain ⟨d, hd⟩ := not_fails.1 fun hf => h ((Value.fails_amount v).1 hf)
  rcases d with _ | d <;> simp [cents, wholeCents, hd]

@[simp] lemma fails_centsOf : Fails (centsOf record fields) ↔ LongIn record fields := by
  simp [centsOf, fails_bind, fails_mapM, LongIn]

lemma raises_centsOf : Raises (· = .integerTooLong) (centsOf record fields) :=
  raises_bind (raises_mapM fun _ _ => raises_cents _) fun _ _ => by simp

lemma centsOf_eq (h : ¬ LongIn record fields) :
    centsOf record fields = .ok (centsIn record fields) := by
  rw [centsOf, mapM_eq_ok fun f hf => cents_eq fun hl => h ⟨f, hf, hl⟩]
  rfl

/-! ### Totals -/

@[simp] lemma total_nil : total [] = 0 := rfl

@[simp] lemma total_concat (ns : List Int) (n : Int) : total (ns ++ [n]) = total ns + n := by
  simp [total]

namespace Totals

def add (t u : Totals) : Totals := ⟨t.elective + u.elective, t.employer + u.employer⟩

end Totals

def added (record : Record) : Totals :=
  ⟨centsIn record electiveFields, centsIn record employerFields⟩

variable (s : Setting)

def isOf (employee : String) (year : Nat) (record : Record) : Bool :=
  match employee? record, planYear s.clock record with
  | .ok (some e), .ok y => e = employee && y = year
  | _, _ => false

def baseline (employee : String) : Totals := (Table.get? s.baselines employee).getD .zero

/-- The totals of an employee and plan year after some records. -/
def totalsAfter (earlier : List Record) (employee : String) (year : Nat) : Totals :=
  let own := earlier.filter (isOf s employee year)
  (baseline s employee).add
    ⟨total (own.map fun r => centsIn r electiveFields),
      total (own.map fun r => centsIn r employerFields)⟩

/-- The totals before a record: without an employee they are zero. -/
def totalsBefore (earlier : List Record) (employee : Option String) (year : Nat) : Totals :=
  match employee with
  | none => .zero
  | some e => totalsAfter s earlier e year

/-- The verdict on a record after earlier ones. -/
def judge (earlier : List Record) (record : Record) : Except Fault Verdict := do
  let year ← planYear s.clock record
  let employee ← employee? record
  verdict s.clock record year (totalsBefore s earlier employee year) s.plan s.ratio

def judgeAll (earlier : List Record) : List (Int × Record) → Except Fault (List (Int × Verdict))
  | [] => .ok []
  | (i, record) :: rest => do
    let v ← judge s earlier record
    return (i, v) :: (← judgeAll (earlier ++ [record]) rest)

variable {s} {running : Running} {earlier : List Record}

lemma isOf_iff {record : Record} :
    isOf s employee year record = true ↔
      employee? record = .ok (some employee) ∧ planYear s.clock record = .ok year := by
  unfold isOf
  split
  case h_1 e y he hy => simp [he, hy]
  case h_2 hno =>
    simp only [Bool.false_eq_true, false_iff]
    exact fun ⟨he, hy⟩ => hno _ _ he hy

@[simp] lemma totalsAfter_nil (employee : String) (year : Nat) :
    totalsAfter s [] employee year = baseline s employee := by
  simp [totalsAfter, Totals.add]

lemma totalsAfter_of {employee : String} {year : Nat} (h : isOf s employee year record) :
    totalsAfter s (earlier ++ [record]) employee year =
      (totalsAfter s earlier employee year).add (added record) := by
  simp [totalsAfter, Totals.add, added, h, Int.add_assoc]

lemma totalsAfter_of_not {employee : String} {year : Nat} (h : ¬ isOf s employee year record) :
    totalsAfter s (earlier ++ [record]) employee year = totalsAfter s earlier employee year := by
  simp [totalsAfter, h]

/-! ### Totals that run along -/

def Tracks (s : Setting) (running : Running) (earlier : List Record) : Prop :=
  ∀ employee year, running.soFar s.baselines employee year = totalsAfter s earlier employee year

def Running.keep (running : Running) (s : Setting) (record : Record) : Running :=
  match employee? record, planYear s.clock record with
  | .ok (some employee), .ok year =>
    ((employee, year), (running.soFar s.baselines employee year).add (added record)) :: running
  | _, _ => running

lemma tracks_nil (s : Setting) : Tracks s [] [] := fun employee year => by
  rw [totalsAfter_nil]
  rfl

lemma soFar_cons (employee : String) (year : Nat) (t : Totals) (e : String) (y : Nat) :
    Running.soFar (((employee, year), t) :: running) s.baselines e y =
      if e = employee ∧ y = year then t else running.soFar s.baselines e y := by
  unfold Running.soFar
  rw [lookup_cons_ite]
  by_cases h : e = employee ∧ y = year
  · rw [if_pos h, if_pos (Prod.ext_iff.2 h)]
  · rw [if_neg h, if_neg (h ∘ Prod.ext_iff.1)]

lemma Tracks.keep (h : Tracks s running earlier) (record : Record) :
    Tracks s (running.keep s record) (earlier ++ [record]) := by
  intro e y
  unfold Running.keep
  split
  case h_1 employee year he hy =>
    rw [soFar_cons]
    -- the record counts for its own employee and plan year alone
    split
    case isTrue hey =>
      obtain ⟨rfl, rfl⟩ := hey
      rw [totalsAfter_of (isOf_iff.2 ⟨he, hy⟩), h]
    case isFalse hey =>
      rw [totalsAfter_of_not fun hof => hey ?_, h]
      obtain ⟨he', hy'⟩ := isOf_iff.1 hof
      exact ⟨Option.some.inj (Except.ok.inj (he'.symm.trans he)),
        Except.ok.inj (hy'.symm.trans hy)⟩
  case h_2 hno =>
    rw [totalsAfter_of_not fun hof => hno _ _ (isOf_iff.1 hof).1 (isOf_iff.1 hof).2, h]

lemma not_long_of_verdict {clock : Clock} {year : Nat} {t : Totals} {plan : PlanLimits}
    {ratio : Number} {v : Verdict} (h : verdict clock record year t plan ratio = .ok v) :
    ¬ LongIn record electiveFields ∧ ¬ LongIn record employerFields := by
  obtain ⟨fs, h, -⟩ := bind_eq_ok.1 h
  obtain ⟨elective, he, h⟩ := bind_eq_ok.1 h
  obtain ⟨employer, hm, h⟩ := bind_eq_ok.1 h
  exact ⟨fun hl => by simpa [he] using fails_centsOf.2 hl,
    fun hl => by simpa [hm] using fails_centsOf.2 hl⟩

lemma addTo_eq {t : Totals} (he : ¬ LongIn record electiveFields)
    (hm : ¬ LongIn record employerFields) :
    addTo t record = .ok (t.add (added record)) := by
  simp [addTo, centsOf_eq he, centsOf_eq hm, Totals.add, added]

lemma checkNext_eq (h : Tracks s running earlier) (record : Record) :
    checkNext s running record = (·, running.keep s record) <$> judge s earlier record := by
  rw [checkNext, judge, Running.keep]
  rcases hy : planYear s.clock record with f | year
  · rfl
  rcases he : employee? record with f | employee
  · simp
  rw [ok_bind, ok_bind, ok_bind, ok_bind]
  -- a record of no employee is judged by no totals, and keeps none
  cases employee with
  | none =>
    rcases hv : verdict s.clock record year .zero s.plan s.ratio with f | v
    · simp [totalsBefore, hv]
    · obtain ⟨hl, hm⟩ := not_long_of_verdict hv
      simp [totalsBefore, hv, addTo_eq hl hm]
  | some employee =>
    dsimp only
    rw [h employee year]
    rcases hv : verdict s.clock record year (totalsAfter s earlier employee year) s.plan s.ratio with f | v
    · simp [totalsBefore, hv]
    · obtain ⟨hl, hm⟩ := not_long_of_verdict hv
      simp [totalsBefore, hv, addTo_eq hl hm]

/-- **Each record of a batch is judged by the records before it alone.** -/
theorem checkAll_eq (h : Tracks s running earlier) (records : List (Int × Record)) :
    checkAll s running records = judgeAll s earlier records := by
  induction records generalizing running earlier with
  | nil => rfl
  | cons p records ih =>
    obtain ⟨i, record⟩ := p
    rw [checkAll, judgeAll, checkNext_eq h]
    rcases judge s earlier record with f | v
    · rfl
    · rw [map_ok, ok_bind, ok_bind, ← ih (h.keep record)]

end Contribution

end Crosswalk
