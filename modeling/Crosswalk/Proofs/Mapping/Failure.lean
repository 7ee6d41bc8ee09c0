import Crosswalk.Proofs.Condition.Failure
import Crosswalk.Proofs.Condition.Parse
import Crosswalk.Proofs.Formula.Evaluation
import Crosswalk.Proofs.Mapping.Batch
import Crosswalk.Proofs.Readers

/-!
Which records have no destination.

Transfers and defaults always have a result. A condition stops a record if its integer literal is
too long to be read or if its comparison breaks, a calculation if it asks for an integer that is too
long, and a translation if its key is too long. Every other fault is taken for a false condition or
a calculation that writes nothing.
-/

namespace Crosswalk.Mapping

open Fallible

variable (e : Engine) (source : Record)

variable {e source}

/-! ### Conditions -/

lemma fails_fulfils (text : String) : Fails (fulfils e source text) ↔
    ∃ f, (e.readers.condition text >>= fun c => c.holds source) = .error f ∧
      f.kind.isExpression = false := by
  unfold fulfils
  rcases e.readers.condition text >>= fun c => c.holds source with f | b
  · by_cases hf : f.kind.isExpression <;> simp [hf]
  · simp

lemma fails_afterEntries {γ : Type} {d : Record} {f : γ → Except Fault (List Write)}
    {rules : List γ} :
    Fails (afterEntries d f rules) ↔ ∃ k ∈ rules, Fails (f k) := by
  simp [afterEntries, entriesOf, fails_bind, fails_mapM]

variable {rules : Rules}

end Crosswalk.Mapping
