import Mathlib.Data.List.Induction
import Crosswalk.Execution.Log
import Crosswalk.Proofs.Table

/-!
What a log says of the errors of a run: how often each code occurs, and the first of them.
-/

namespace Crosswalk.Execution

lemma countCodes_concat (errors : List Batch.Failure) (x : Batch.Failure) :
    countCodes (errors ++ [x]) =
      (countCodes errors).put x.code ((Table.get? (countCodes errors) x.code).getD 0 + 1) := by
  simp [countCodes]

/-- **The counts are those of the codes.** -/
theorem get?_countCodes (errors : List Batch.Failure) (code : String) :
    Table.get? (countCodes errors) code =
      if errors.countP (fun x => x.code = code) = 0 then none
      else some ((errors.countP fun x => x.code = code : Nat) : Int) := by
  induction errors using List.reverseRecOn with
  | nil => rfl
  | append_singleton errors x ih =>
    rw [countCodes_concat, Table.get?_put, List.countP_append, List.countP_singleton]
    by_cases h : code = x.code
    · subst h
      rw [if_pos rfl, ih]
      split <;> simp [*]
    · rw [if_neg h, ih]
      simp [Ne.symm h]

lemma nodup_countCodes (errors : List Batch.Failure) : (countCodes errors).keys.Nodup := by
  induction errors using List.reverseRecOn with
  | nil => exact .nil
  | append_singleton errors x ih =>
    rw [countCodes_concat]
    exact Table.nodup_keys_put ih _ _

lemma sample_of_nonneg {α : Type} {size : Int} (h : 0 ≤ size) (xs : List α) :
    sample size xs = xs.take size.toNat := by
  rw [sample, if_neg (by omega)]

end Crosswalk.Execution
