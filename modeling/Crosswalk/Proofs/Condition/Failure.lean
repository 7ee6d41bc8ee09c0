import Crosswalk.Condition
import Crosswalk.Proofs.Value.LongInteger

/-!
When a comparison has no result.

An order needs an amount on the side of the literal as soon as the value has one, and both kinds of
comparison stumble over an integer that is too long to be written.
-/

namespace Crosswalk

open Fallible

namespace Value

def isAmount (v : Value) : Bool :=
  match v.amount? with
  | .ok (some _) => true
  | _ => false

end Value

namespace Condition

/-- The comparison of the value with the literal has no result. -/
def Breaks (c : Condition) (v : Value) : Prop :=
  if c.comparison.isOrder then v.isLong ∨ (v.isAmount ∧ ¬ c.literal.value.isAmount)
  else c.literal ≠ .null ∧ ¬ (c.literal.isNumber ∧ v.isAmount) ∧ v.hasLongKey

variable {l : Literal} {v : Value}

lemma fails_sameKey {w : Value} (hw : w.hasLongKey = false) :
    Fails (sameKey v w) ↔ v.hasLongKey := by
  have hk : ¬ Fails w.key := by simp [hw]
  simp [sameKey, fails_bind, hk]

lemma fails_inOrder (hl : l.value.hasLongKey = false) (c : Comparison) (o : Ordering) :
    Fails (inOrder c o l v) ↔ v.isLong ∨ (v.isAmount ∧ ¬ l.value.isAmount) := by
  have hlong : ¬ l.value.isLong := fun h => by simp [Value.hasLongKey_of_isLong h] at hl
  have hf := Value.fails_amount v
  have hg := Value.fails_amount l.value
  rcases hv : v.amount? with f | _ | x
  · simp_all [inOrder, Value.isAmount]
  · simp_all [inOrder, Value.isAmount]
  · rcases hw : l.value.amount? with f | _ | y <;> simp_all [inOrder, Value.isAmount]

lemma fails_equals (hl : l.value.hasLongKey = false) : Fails (equals l v) ↔
    l ≠ .null ∧ ¬ (l.isNumber ∧ v.isAmount) ∧ v.hasLongKey := by
  have hlong : ¬ l.value.isLong := fun h => by simp [Value.hasLongKey_of_isLong h] at hl
  have hs := fails_sameKey (v := v) hl
  have hf := Value.fails_amount v
  have hg := Value.fails_amount l.value
  by_cases hnull : l = .null
  · subst hnull
    simp [equals]
  by_cases hvn : v = .null
  · subst hvn
    cases l <;> simp_all [equals, Value.hasLongKey, Value.holdsLong]
  rw [equals.eq_3 _ _ hnull hvn]
  -- two numbers are compared by their amounts, everything else by keys
  by_cases hn : l.isNumber
  · rcases hv : v.amount? with f | _ | x
    · have hk : v.hasLongKey := Value.hasLongKey_of_isLong (hf.1 (by simp [hv]))
      simp [hnull, hn, hk, Value.isAmount, hv]
    · simp [hnull, hn, hs, Value.isAmount, hv]
    · rcases hw : l.value.amount? with f | _ | y <;> simp_all [Value.isAmount]
  · simp [hnull, hn, hs]

/-- **When a condition has no truth value.** -/
theorem fails_holds {c : Condition} (hl : c.literal.value.hasLongKey = false) (r : Record) :
    Fails (c.holds r) ↔ c.Breaks (r.value c.field) := by
  unfold holds Breaks
  dsimp only
  rcases c.comparison with _ | _ | _ | _
  · exact fails_equals hl
  · simpa [fails_bind, Comparison.isOrder] using fails_equals hl
  · exact fails_inOrder hl _ _
  · exact fails_inOrder hl _ _

/-! ### Faults of comparisons -/

abbrev Stumbles {α : Type} (x : Except Fault α) : Prop :=
  Raises (fun f => f.kind.isExpression = false) x

lemma not_isExpression_of_eq {f : Fault} (h : f = .integerTooLong) :
    f.kind.isExpression = false := by
  rw [h]
  rfl

lemma stumbles_key (v : Value) : Stumbles v.key :=
  raises_mono (fun _ => not_isExpression_of_eq) v.raises_key

lemma stumbles_amount (v : Value) : Stumbles v.amount? :=
  raises_mono (fun _ => not_isExpression_of_eq) v.raises_amount

lemma stumbles_sameKey (v w : Value) : Stumbles (sameKey v w) :=
  raises_bind (stumbles_key v) fun _ _ => raises_bind (stumbles_key w) fun _ _ => by simp

lemma stumbles_equals (l : Literal) (v : Value) : Stumbles (equals l v) := by
  unfold equals
  split
  · simp
  · simp
  · split
    · refine raises_bind (stumbles_amount _) fun x _ => ?_
      split
      · refine raises_bind (stumbles_amount _) fun y _ => ?_
        split <;> simp
      · exact stumbles_sameKey _ _
    · exact stumbles_sameKey _ _

lemma stumbles_inOrder (c : Comparison) (o : Ordering) (l : Literal) (v : Value) :
    Stumbles (inOrder c o l v) := by
  refine raises_bind (stumbles_amount _) fun x _ => ?_
  split
  · simp
  · refine raises_bind (stumbles_amount _) fun y _ => ?_
    split
    · simp [incomparable, FaultKind.isExpression]
    · simp

lemma stumbles_holds (c : Condition) (r : Record) : Stumbles (c.holds r) := by
  unfold holds
  dsimp only
  split
  · exact stumbles_equals _ _
  · exact raises_bind (stumbles_equals _ _) fun _ _ => by simp
  · exact stumbles_inOrder _ _ _ _
  · exact stumbles_inOrder _ _ _ _

end Condition

end Crosswalk
