import Crosswalk.Contribution.Batch
import Crosswalk.Proofs.ByPosition

/-!
Checking contributions in order: which verdict stands at which position.
-/

namespace Crosswalk.Contribution

open Fallible

lemma lastOfEach_eq {α : Type} {es : List (Int × α)} (h : es.Pairwise fun p q => p.1 ≠ q.1) :
    lastOfEach es = es := by
  -- the fold has put `done` aside already
  suffices hs : ∀ done : List (Int × α), (done ++ es).Pairwise (fun p q => p.1 ≠ q.1) →
      es.foldl (fun es e =>
        if es.any fun f => f.1 = e.1 then es.map fun f => if f.1 = e.1 then e else f
        else es ++ [e]) done = done ++ es from hs [] h
  clear h
  induction es with
  | nil => simp
  | cons e es ih =>
    intro done h
    have hnew : ¬ (done.any fun f => decide (f.1 = e.1)) = true := by
      simp only [List.any_eq_true, decide_eq_true_eq, not_exists, not_and]
      exact fun f hf => (List.pairwise_append.1 h).2.2 f hf e (by simp)
    rw [List.foldl_cons, if_neg hnew, ih _ (by simpa using h)]
    simp

variable {s : Setting} {running : Running} {records : List (Int × Record)}
  {vs : List (Int × Verdict)}

lemma positions_checkAll (h : checkAll s running records = .ok vs) :
    vs.map (·.1) = records.map (·.1) := by
  induction records generalizing running vs with
  | nil =>
    obtain rfl : [] = vs := by simpa [checkAll] using h
    rfl
  | cons p records ih =>
    obtain ⟨i, r⟩ := p
    obtain ⟨⟨v, running'⟩, -, h⟩ := bind_eq_ok.1 h
    obtain ⟨ws, hw, h⟩ := bind_eq_ok.1 h
    obtain rfl : (i, v) :: ws = vs := by simpa using h
    simp [ih hw]

lemma checkBatch_eq (h : (records.map (·.1)).Pairwise (· ≠ ·)) :
    checkBatch s records = checkAll s [] records := by
  rw [checkBatch]
  rcases hv : checkAll s [] records with f | vs
  · rfl
  · rw [← positions_checkAll hv, List.pairwise_map] at h
    rw [ok_bind, lastOfEach_eq h]
    rfl

end Crosswalk.Contribution
