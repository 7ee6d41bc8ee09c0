import Crosswalk.Proofs.Condition.Failure
import Crosswalk.Proofs.Condition.Parse
import Crosswalk.Proofs.Number.Exact
import Crosswalk.Proofs.Schema.Format
import Crosswalk.Proofs.Value.Key

/-!
Comparisons of a field with an integer.

Equality falls back on texts where order has nothing to compare, so the two might contradict each other.
They do not: what is no amount stands under a text that no integer has, and of an amount equality and
order say how the number it denotes is ordered to the integer.
-/

namespace Crosswalk

open Fallible Numeral

namespace Comparison

def accepts (k : Comparison) (o : Ordering) : Bool :=
  match k with
  | .equal => o = .eq
  | .notEqual => o ≠ .eq
  | .above => o = .gt
  | .below => o = .lt

/-- What a comparison with an integer says of an amount, or of a value without one. -/
def verdict (k : Comparison) (n : Int) : Option Decimal → Bool
  | some d => k.accepts (compare d.toRat n)
  | none => k = .notEqual

lemma existsUnique_accepts (o : Ordering) : ∃! k, k ≠ notEqual ∧ k.accepts o := by
  cases o
  · exact ⟨.below, by decide, fun k hk => by cases k <;> simp_all [accepts]⟩
  · exact ⟨.equal, by decide, fun k hk => by cases k <;> simp_all [accepts]⟩
  · exact ⟨.above, by decide, fun k hk => by cases k <;> simp_all [accepts]⟩

end Comparison

namespace Condition

variable {n : Int} {v : Value} {d : Decimal}

lemma amount_int (hn : ¬ IsLong n) : (Literal.int n).value.amount? = .ok (some (.ofInt n)) := by
  simp [Literal.value, Value.amount?, Value.integerText_eq, hn]

lemma hasLongKey_int (hn : ¬ IsLong n) : (Literal.int n).value.hasLongKey = false := by
  simp [Literal.value, Value.hasLongKey, Value.holdsLong, hn]

lemma compare?_ofInt (hv : v.amount? = .ok (some d)) (n : Int) :
    Decimal.compare? d (.ofInt n) = some (compare d.toRat n) := by
  rw [Decimal.compare?_finite (Value.isFinite_of_amount hv) rfl, Decimal.toRat_ofInt]

lemma equals_amount (hn : ¬ IsLong n) (hv : v.amount? = .ok (some d)) :
    equals (.int n) v = .ok (decide (compare d.toRat n = .eq)) := by
  have hnull : v ≠ .null := by
    rintro rfl
    cases hv
  rw [equals.eq_3 _ _ (by simp) hnull]
  simp [Literal.isNumber, hv, amount_int hn, compare?_ofInt hv]

/-- **Equality has only its texts to go by, and they differ.** -/
lemma equals_none (hn : ¬ IsLong n) (hfloat : ∀ x, v = .float x → x.Canonical)
    (hv : v.amount? = .ok none) (hkey : v.hasLongKey = false) :
    equals (.int n) v = .ok false := by
  by_cases hnull : v = .null
  · subst hnull
    rfl
  obtain ⟨s, hs⟩ := not_fails.1 (mt (Value.fails_key v).1 (by simp [hkey]))
  obtain ⟨t, ht⟩ := not_fails.1 (mt (Value.fails_integerText n).1 hn)
  have hne : s ≠ t := by
    rintro rfl
    exact Value.key_ne_integerText hfloat hv ht hs
  have hliteral : (Literal.int n).value.key = .ok t := ht
  rw [equals.eq_3 _ _ (by simp) hnull]
  simp [Literal.isNumber, hv, sameKey, hs, hliteral, hne]

lemma equals_none_ne (hn : ¬ IsLong n) (hfloat : ∀ x, v = .float x → x.Canonical)
    (hv : v.amount? = .ok none) : equals (.int n) v ≠ .ok true := by
  by_cases hkey : v.hasLongKey = false
  · simp [equals_none hn hfloat hv hkey]
  · obtain ⟨f, hf⟩ : Fails (equals (.int n) v) :=
      (fails_equals (hasLongKey_int hn)).2 ⟨by simp, by simp [Value.isAmount, hv], by simpa using hkey⟩
    simp [hf]

lemma inOrder_amount (hn : ¬ IsLong n) (hv : v.amount? = .ok (some d)) (c : Comparison)
    (o : Ordering) : inOrder c o (.int n) v = .ok (decide (compare d.toRat n = o)) := by
  simp [inOrder, hv, amount_int hn, compare?_ofInt hv]

lemma inOrder_none {l : Literal} (hv : v.amount? = .ok none) (c : Comparison) (o : Ordering) :
    inOrder c o l v = .ok false := by
  simp [inOrder, hv]

/-! ### The four comparisons -/

variable {r : Record} {field : String}

lemma holds_amount (hn : ¬ IsLong n) (hv : (r.value field).amount? = .ok (some d))
    (k : Comparison) : holds ⟨field, k, .int n⟩ r = .ok (k.accepts (compare d.toRat n)) := by
  cases k with
  | equal => exact equals_amount hn hv
  | notEqual => simp [holds, equals_amount hn hv, Comparison.accepts]
  | above => exact inOrder_amount hn hv _ _
  | below => exact inOrder_amount hn hv _ _

lemma holds_none (hn : ¬ IsLong n) (hfloat : ∀ x, r.value field = .float x → x.Canonical)
    (hv : (r.value field).amount? = .ok none) (hkey : (r.value field).hasLongKey = false)
    (k : Comparison) : holds ⟨field, k, .int n⟩ r = .ok (decide (k = .notEqual)) := by
  cases k with
  | equal => exact equals_none hn hfloat hv hkey
  | notEqual => simp [holds, equals_none hn hfloat hv hkey]
  | above => exact inOrder_none hv _ _
  | below => exact inOrder_none hv _ _

lemma holds_notEqual (field : String) (l : Literal) (r : Record) :
    holds ⟨field, .notEqual, l⟩ r = (! ·) <$> holds ⟨field, .equal, l⟩ r := by
  unfold holds
  dsimp only
  cases equals l (r.value field) <;> rfl

lemma not_isAmount_of_hasLongKey (hfloat : ∀ x, v = .float x → x.Canonical)
    (hlong : v.hasLongKey) : ¬ v.isAmount := by
  cases v with
  | float x => simp [hasLongKey_float (hfloat x rfl)] at hlong
  | int m =>
    have hm : (Value.int m).isLong := by
      simpa [Value.hasLongKey, Value.holdsLong, Value.isLong] using hlong
    obtain ⟨f, hf⟩ := (Value.fails_amount _).2 hm
    simp [Value.isAmount, hf]
  | _ => simp_all [Value.hasLongKey, Value.holdsLong, Value.isAmount, Value.amount?]

lemma fails_holds_int (hn : ¬ IsLong n) (hfloat : ∀ x, r.value field = .float x → x.Canonical)
    (k : Comparison) : Fails (holds ⟨field, k, .int n⟩ r) ↔
      if k.isOrder then (r.value field).isLong else (r.value field).hasLongKey := by
  have hliteral : (Literal.int n).value.isAmount := by simp [Value.isAmount, amount_int hn]
  rw [fails_holds (c := ⟨field, k, .int n⟩) (hasLongKey_int hn), Breaks]
  split
  · exact ⟨fun h => h.resolve_right fun h => h.2 hliteral, .inl⟩
  · simpa [Literal.isNumber] using not_isAmount_of_hasLongKey hfloat

/-- The comparisons of a field with an integer go together. -/
structure Agrees (field : String) (n : Int) (r : Record) : Prop where
  /-- They depend on nothing but the amount of the value. -/
  amount : (r.value field).hasLongKey = false → ∃ a, (r.value field).amount? = .ok a ∧
    ∀ k : Comparison, holds ⟨field, k, .int n⟩ r = .ok (k.verdict n a)
  /-- Of an amount, equality or one of the two orders holds and the others do not. -/
  one : ∀ d, (r.value field).amount? = .ok (some d) →
    ∃! k, k ≠ .notEqual ∧ holds ⟨field, k, .int n⟩ r = .ok true
  /-- Of a value without an amount none of them holds. -/
  neither : (r.value field).amount? = .ok none →
    ∀ k ≠ .notEqual, holds ⟨field, k, .int n⟩ r ≠ .ok true
  /-- Inequality is the negation of equality, and breaks where that does. -/
  negation : holds ⟨field, .notEqual, .int n⟩ r = (! ·) <$> holds ⟨field, .equal, .int n⟩ r
  /-- They break at integers that are too long to be written, and at nothing else. -/
  breaks : ∀ k : Comparison, Fails (holds ⟨field, k, .int n⟩ r) ↔
    if k.isOrder then (r.value field).isLong else (r.value field).hasLongKey

/-- **Equality and order never contradict each other**: the comparisons of a field with an integer that
a condition is read with say of every value how its amount is ordered to the integer. -/
theorem agrees_of_parse {l : Limits} {text : String} {c : Condition}
    (hread : parse l text = .ok c) (hint : c.literal = .int n) (hr : Field.InFormat r)
    (field : String) : Agrees field n r := by
  have hn : ¬ IsLong n := by
    have hkey := hasLongKey_of_parse hread
    simpa [hint, Literal.value, Value.hasLongKey, Value.holdsLong] using hkey
  -- binary numbers of the format have exact amounts
  have hfloat : ∀ x, r.value field = .float x → x.Canonical := by
    intro x hx
    rcases hget : Table.get? r field with _ | v
    · simp [Record.value, hget, Value.ofOption] at hx
    · rw [Record.value, hget] at hx
      exact hr _ (Table.mem_of_get? hget) x hx
  refine ⟨fun hkey => ?_, fun d hv => ?_, fun hv k hk hholds => ?_,
    holds_notEqual field _ r, fails_holds_int hn hfloat⟩
  · -- only an integer that is too long has no answer
    rcases hv : (r.value field).amount? with f | _ | d
    · have hlong := Value.hasLongKey_of_isLong ((Value.fails_amount _).1 ⟨f, hv⟩)
      simp [hkey] at hlong
    · exact ⟨none, rfl, holds_none hn hfloat hv hkey⟩
    · exact ⟨some d, rfl, holds_amount hn hv⟩
  · simpa [holds_amount hn hv] using Comparison.existsUnique_accepts (compare d.toRat n)
  · -- a value without an amount satisfies no comparison but the difference
    cases k with
    | equal => exact equals_none_ne hn hfloat hv hholds
    | notEqual => exact hk rfl
    | above => cases (inOrder_none hv .above .gt).symm.trans hholds
    | below => cases (inOrder_none hv .below .lt).symm.trans hholds

/-- A week with its hours as a padded text, and a truth value, which is no amount. -/
def week : Record := [("hours", .text " 7.00"), ("paid", .bool true)]

/-- Seven is written with zeros on either side. -/
theorem seven_agrees :
    parse .standard "source.hours > 007" = .ok ⟨"hours", .above, .int 7⟩ ∧ Field.InFormat week ∧
      (week.value "hours").amount? = .ok (some (.finite false 700 (-2))) ∧
      Agrees "hours" 7 week ∧ Agrees "paid" 7 week := by
  have hread : parse .standard "source.hours > 007" = .ok ⟨"hours", .above, .int 7⟩ := by
    decide +kernel
  have hformat : Field.InFormat week := by simp [Field.InFormat, week]
  exact ⟨hread, hformat, rfl, agrees_of_parse hread rfl hformat "hours",
    agrees_of_parse hread rfl hformat "paid"⟩

end Condition

end Crosswalk
