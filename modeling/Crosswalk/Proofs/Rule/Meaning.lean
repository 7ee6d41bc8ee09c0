import Crosswalk.Proofs.Number.Order
import Crosswalk.Proofs.Schema.Format
import Crosswalk.Proofs.Value.Amount
import Crosswalk.Proofs.Value.LongInteger
import Crosswalk.Rule.Check

/-!
What the logic of a rule says of a value, and where its check has no answer.

Amounts are ordered as the numbers they denote, and an infinite bound is no bound on its side. A logic
that shows no problem may still have no answer: bounds that are infinite or not a number have no
amount, and an integer that is too long has none and no text. A value without an answer counts as
one that does not satisfy the rule.
-/

namespace Crosswalk

open Fallible

namespace Binary64

/-- The bound is at most a number: minus infinity is so for every number, and infinity for none. -/
def AtMost (low : Binary64) (q : ℚ) : Prop :=
  match low with
  | .finite .. => low.written ≤ q
  | .infinite neg => neg = true
  | .nan => False

/-- The bound is at least a number: infinity is so for every number, and minus infinity for none. -/
def AtLeast (high : Binary64) (q : ℚ) : Prop :=
  match high with
  | .finite .. => q ≤ high.written
  | .infinite neg => neg = false
  | .nan => False

lemma atMost_iff {low : Binary64} (h : low.isFinite) (q : ℚ) : low.AtMost q ↔ low.written ≤ q := by
  cases low <;> simp_all [AtMost, isFinite]

lemma atLeast_iff {high : Binary64} (h : high.isFinite) (q : ℚ) :
    high.AtLeast q ↔ q ≤ high.written := by
  cases high <;> simp_all [AtLeast, isFinite]

end Binary64

namespace Rule.Logic

/-- The bounds are numbers of the format. -/
def HasCanonicalBounds (l : Logic) : Prop :=
  (∀ low ∈ l.low, low.Canonical) ∧ ∀ high ∈ l.high, high.Canonical

/-- **A logic that has been read** has bounds of the format. -/
theorem hasCanonicalBounds_of_read {data : Table Value} {l : Logic} (hdata : Field.InFormat data)
    (h : Logic.codec.read (.object data) = .ok l) : l.HasCanonicalBounds := by
  obtain ⟨r, ⟨o, f, v, low, high, p, vs, ⟨⟩⟩, hr, hread, rfl⟩ := Schema.codec_eq_ok.1 h
  cases hr
  simp only [Schema.read_field_eq_ok] at hread
  obtain ⟨-, -, -, hlow, hhigh, -⟩ := hread
  exact ⟨Field.canonical_of_read_optional hdata hlow, Field.canonical_of_read_optional hdata hhigh⟩

/-- What a logic says of a value. -/
def Means (l : Logic) (v : Value) : Prop :=
  match l.operator with
  | .equals => l.equals v
  | .notEquals => ¬ l.equals v
  | .greaterThan => ∃ x y, v.HasAmount x ∧ l.value.HasAmount y ∧ y < x
  | .lessThan => ∃ x y, v.HasAmount x ∧ l.value.HasAmount y ∧ x < y
  | .between => ∃ x, v.HasAmount x ∧
      (∃ low ∈ l.low, low.AtMost x) ∧ ∃ high ∈ l.high, high.AtLeast x
  | .isIn => l.lists v
  | .notIn => ¬ l.lists v
  | .matchesPattern => v.isMissing = false ∧ ∃ pattern p text, named? l.pattern = some pattern ∧
      Pattern.read pattern = .ok p ∧ v.key = .ok text ∧ p.search text
  | .notEmpty => v.isBlank = false

/-- The check of a value has no answer: an integer is too long for an amount or a text, or a number
is compared with a bound that has no amount. -/
def Falters (l : Logic) (v : Value) : Prop :=
  match l.operator with
  | .greaterThan | .lessThan => v.isLong
  | .between => v.isLong ∨ ∃ x, v.HasAmount x ∧ ∃ low ∈ l.low, ∃ high ∈ l.high,
      low.isFinite = false ∨ low.written ≤ x ∧ high.isFinite = false
  | .matchesPattern => v.isMissing = false ∧ v.hasLongKey
  | _ => False

/-- An answer is given unless the check falters, and says what is meant. -/
structure Answers (answer : Except Fault Bool) (falters means : Prop) : Prop where
  fails_iff : Fails answer ↔ falters
  true_iff : ∀ b, answer = .ok b → (b = true ↔ means)

variable {l : Logic} {v : Value}

lemma answers_ok {b : Bool} {means : Prop} (h : b = true ↔ means) :
    Answers (.ok b) False means where
  fails_iff := fails_ok b
  true_iff b' hb := by
    cases hb
    exact h

/-! ### Order -/

lemma hasAmount_iff {d : Decimal} (h : v.amount? = .ok (some d)) (q : ℚ) :
    v.HasAmount q ↔ q = d.toRat := by
  simp [Value.HasAmount, h, eq_comm]

lemma not_hasAmount (h : v.amount? = .ok none) (q : ℚ) : ¬ v.HasAmount q := by
  simp [Value.HasAmount, h]

lemma answers_inOrder {y : Decimal} (hy : l.value.amount? = .ok (some y)) (o : Ordering) :
    Answers (l.inOrder o v) v.isLong
      (∃ x z, v.HasAmount x ∧ l.value.HasAmount z ∧ compare x z = o) := by
  rw [← Value.fails_amount, inOrder]
  rcases hv : v.amount? with f | _ | x
  · exact ⟨by simp, by simp⟩
  · exact ⟨by simp [hy], by simp [hy, not_hasAmount hv, eq_comm]⟩
  · have hcompare :=
      Decimal.compare?_finite (Value.isFinite_of_amount hv) (Value.isFinite_of_amount hy)
    exact ⟨by simp [hy], by simp [hy, hasAmount_iff hv, hasAmount_iff hy, hcompare, eq_comm]⟩

/-! ### Bounds -/

lemma atMost_eq_true {x y : Decimal} (hx : x.isFinite) (hy : y.isFinite) :
    atMost x y = true ↔ x.toRat ≤ y.toRat := by
  simp [atMost, Decimal.compare?_finite hx hy, compare_gt_iff_gt]

variable {low high : Binary64} {x : Decimal}

/-- A number is compared with the lower bound, and with the upper one if it is not below. -/
lemma isBetween_eq (hlow : l.low = some low) (hhigh : l.high = some high) (hl : low.Canonical)
    (hh : high.Canonical) (hv : v.amount? = .ok (some x)) :
    l.isBetween v =
      if low.isFinite then
        if low.written ≤ x.toRat then
          if high.isFinite then .ok (decide (x.toRat ≤ high.written))
          else .error (incomparable "decimal.Decimal" "NoneType")
        else .ok false
      else .error (incomparable "NoneType" "decimal.Decimal") := by
  have hx := Value.isFinite_of_amount hv
  rw [isBetween, hv, hlow, hhigh, ok_bind]
  dsimp only
  rcases hlf : low.isFinite
  · simp [Value.amount_float_eq_none hlf]
  obtain ⟨y, hy, hyvalue⟩ := Value.hasAmount_float hl hlf
  have hlow' := atMost_eq_true (Value.isFinite_of_amount hy) hx
  rw [hy, ok_bind, ← hyvalue, if_pos rfl]
  dsimp only
  -- a number below the lower bound is never compared with the upper one
  by_cases hle : y.toRat ≤ x.toRat
  · rw [if_pos hle, if_neg (by simp [hlow'.2 hle])]
    rcases hhf : high.isFinite
    · simp [Value.amount_float_eq_none hhf]
    obtain ⟨z, hz, hzvalue⟩ := Value.hasAmount_float hh hhf
    rw [hz, ok_bind, ← hzvalue, if_pos rfl]
    dsimp only
    rw [pure_ok, Except.ok.injEq, Bool.eq_iff_iff,
      atMost_eq_true hx (Value.isFinite_of_amount hz), decide_eq_true_iff]
  · rw [if_neg hle, if_pos (by simpa using mt hlow'.1 hle)]
    rfl

lemma answers_isBetween (hlow : l.low = some low) (hhigh : l.high = some high) (hl : low.Canonical)
    (hh : high.Canonical) :
    Answers (l.isBetween v)
      (v.isLong ∨ ∃ x, v.HasAmount x ∧
        (low.isFinite = false ∨ low.written ≤ x ∧ high.isFinite = false))
      (∃ x, v.HasAmount x ∧ low.AtMost x ∧ high.AtLeast x) := by
  rw [← Value.fails_amount]
  rcases hv : v.amount? with f | _ | x
  · exact ⟨by simp [isBetween, hv], by simp [isBetween, hv]⟩
  · exact ⟨by simp [isBetween, hv, not_hasAmount hv], by simp [isBetween, hv, not_hasAmount hv]⟩
  · simp only [hasAmount_iff hv, isBetween_eq hlow hhigh hl hh hv, exists_eq_left, fails_ok, false_or]
    rcases hlf : low.isFinite
    · exact ⟨by simp, by simp⟩
    rw [Binary64.atMost_iff hlf]
    by_cases hle : low.written ≤ x.toRat
    · rcases hhf : high.isFinite
      · exact ⟨by simp [hle], by simp [hle]⟩
      · exact ⟨by simp [hle], by simp [hle, Binary64.atLeast_iff hhf]⟩
    · exact ⟨by simp [hle], by simp [hle]⟩

/-! ### Patterns -/

lemma answers_isFound {pattern : String} {p : Pattern} (hname : named? l.pattern = some pattern)
    (hread : Pattern.read pattern = .ok p) :
    Answers (l.isFound v) (v.isMissing = false ∧ v.hasLongKey)
      (v.isMissing = false ∧ ∃ pattern p text, named? l.pattern = some pattern ∧
        Pattern.read pattern = .ok p ∧ v.key = .ok text ∧ p.search text) := by
  rw [isFound, hname, ← Value.fails_key]
  rcases hmissing : v.isMissing
  · rcases hkey : v.key with f | text
    · exact ⟨by simp, by simp⟩
    · refine ⟨by simp [hread], fun b hb => ?_⟩
      obtain rfl : p.search text = b := by simpa [hread] using hb
      simp [hread]
  · exact ⟨by simp, by simp⟩

/-! ### Logics without problems -/

lemma amount_of_threshold {message : String}
    (h : (do
      let threshold ← l.value.amount?
      return if threshold.isNone then [message] else [] : Except Fault (List String)) = .ok []) :
    ∃ y, l.value.amount? = .ok (some y) := by
  obtain ⟨y?, hy, h⟩ := bind_eq_ok.1 h
  rcases y? with _ | y
  · simp at h
  · exact ⟨y, hy⟩

lemma pattern_of_problems (h : l.patternProblems = .ok []) :
    ∃ pattern p, named? l.pattern = some pattern ∧ Pattern.read pattern = .ok p := by
  unfold patternProblems at h
  split at h
  case h_1 => simp at h
  case h_2 pattern hname =>
    split at h
    case h_1 p hread => exact ⟨pattern, p, hname, hread⟩
    case h_2 => simp at h
    case h_3 => simp at h

lemma bounds_of_problems {message : String}
    (h : (Except.ok (if l.low.isNone ∨ l.high.isNone then [message] else []) :
      Except Fault (List String)) = .ok []) :
    ∃ low high, l.low = some low ∧ l.high = some high := by
  rcases hlow : l.low with _ | low
  · simp [hlow] at h
  rcases hhigh : l.high with _ | high
  · simp [hhigh] at h
  · exact ⟨low, high, rfl, rfl⟩

theorem answers_check (h : l.problems = .ok []) (hbounds : l.HasCanonicalBounds) (v : Value) :
    Answers (l.check v) (l.Falters v) (l.Means v) := by
  unfold problems at h
  unfold check Falters Means
  -- a logic without problems has what its operator asks for
  rcases hop : l.operator <;> rw [hop] at h <;> dsimp only at h ⊢
  case equals => exact answers_ok Iff.rfl
  case notEquals => exact answers_ok (by simp)
  case greaterThan =>
    obtain ⟨y, hy⟩ := amount_of_threshold h
    simpa only [compare_gt_iff_gt] using answers_inOrder hy .gt
  case lessThan =>
    obtain ⟨y, hy⟩ := amount_of_threshold h
    simpa only [compare_lt_iff_lt] using answers_inOrder hy .lt
  case between =>
    obtain ⟨low, high, hlow, hhigh⟩ := bounds_of_problems h
    simpa [hlow, hhigh] using
      answers_isBetween hlow hhigh (hbounds.1 low hlow) (hbounds.2 high hhigh)
  case isIn => exact answers_ok Iff.rfl
  case notIn => exact answers_ok (by simp)
  case matchesPattern =>
    obtain ⟨pattern, p, hname, hread⟩ := pattern_of_problems h
    exact answers_isFound hname hread
  case notEmpty => exact answers_ok (by simp)

end Rule.Logic

namespace Rule

/-- What a rule makes of a record: the fallback is taken where its check falters, and else the record
satisfies it if it is as the logic says. -/
structure Decides (r : Rule) (record : Record) : Prop where
  fallback : Fails (r.logic.check (record.value r.target)) ↔
    r.logic.Falters (record.value r.target)
  verdict : r.satisfiedBy record = true ↔
    ¬ r.logic.Falters (record.value r.target) ∧ r.logic.Means (record.value r.target)

/-- **A rule whose logic shows no problem decides every record by its operator, unless its check
falters.** Then the record fails the rule, whatever the operator says. -/
theorem decides_of_problems {r : Rule} (h : r.logic.problems = .ok [])
    (hbounds : r.logic.HasCanonicalBounds) (record : Record) : r.Decides record := by
  have hanswers := Logic.answers_check h hbounds (record.value r.target)
  refine ⟨hanswers.fails_iff, ?_⟩
  rw [← hanswers.fails_iff, satisfiedBy]
  rcases hcheck : r.logic.check (record.value r.target) with f | b
  · simp
  · simpa using hanswers.true_iff b hcheck

def within (low high : Binary64) : Rule where
  id := "r"
  tenant := none
  name := "n"
  description := none
  category := .range
  appliesTo := [everyKind]
  field := some "value"
  logic := ⟨.between, none, .null, some low, some high, none, none⟩
  message := "m"
  severity := .error
  isActive := true
  createdAt := .midnight ⟨2025, 7, 1⟩
  updatedAt := .midnight ⟨2025, 7, 1⟩

def hundred : Binary64 := .finite false (100 * 2 ^ 46) (-46)

lemma canonical_hundred : hundred.Canonical :=
  ⟨by decide, by decide, by decide, .inl (by decide)⟩

lemma canonical_within {low high : Binary64} (hl : low.Canonical) (hh : high.Canonical) :
    (within low high).logic.HasCanonicalBounds := by
  simp [within, Logic.HasCanonicalBounds, hl, hh]

theorem within_decides :
    (within (.zero false) hundred).logic.problems = .ok [] ∧
      (within (.zero false) hundred).logic.HasCanonicalBounds ∧
      (within (.zero false) hundred).Decides [("value", .int 50)] :=
  ⟨rfl, canonical_within (Binary64.canonical_zero false) canonical_hundred,
    decides_of_problems rfl (canonical_within (Binary64.canonical_zero false) canonical_hundred) _⟩

lemma written_hundred : hundred.written = 100 := by
  have hdigits : Binary64.shortest (100 * 2 ^ 46) (-46) = (1, 2) := by decide +kernel
  rw [hundred, Binary64.written, hdigits]
  norm_num [Binary64.signed]

/-- Fifty lies between minus infinity and a hundred, and fails the rule that says so. -/
theorem unbounded_within_falters :
    (within (.infinite true) hundred).logic.problems = .ok [] ∧
      (within (.infinite true) hundred).logic.HasCanonicalBounds ∧
      (within (.infinite true) hundred).logic.Means (.int 50) ∧
      Fails ((within (.infinite true) hundred).logic.check (.int 50)) ∧
      (within (.infinite true) hundred).satisfiedBy [("value", .int 50)] = false := by
  have hcheck : (within (.infinite true) hundred).logic.check (.int 50) =
      .error (Logic.incomparable "NoneType" "decimal.Decimal") := rfl
  refine ⟨rfl, canonical_within trivial canonical_hundred, ?_, ⟨_, hcheck⟩, rfl⟩
  refine ⟨50, ⟨.ofInt 50, rfl, ?_⟩, ⟨_, rfl, rfl⟩, hundred, rfl, ?_⟩
  · norm_num [Decimal.ofInt, Decimal.toRat, Binary64.signed]
  · rw [Binary64.atLeast_iff rfl, written_hundred]
    norm_num

end Rule

end Crosswalk
