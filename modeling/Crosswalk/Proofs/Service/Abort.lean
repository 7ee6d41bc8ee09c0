import Crosswalk.Proofs.Contribution.Failure
import Crosswalk.Proofs.Rule.Message
import Crosswalk.Proofs.Service.Outcome
import Crosswalk.Service.Step

/-!
When an application ends without an answer.

It is refused if there is no live configuration, if it is inactive, or if the batch is too large.
Past this point a record that cannot be mapped only fails by itself, but a record without a verdict
ends the whole call.
-/

namespace Crosswalk

open Fallible

namespace Service

open Batch (Options)
open Mapping (Configuration)
open Fault (Foreign foreign_of_integerTooLong)

variable (e : Environment) (s : Store) (tenant : Option String) (c : Configuration)
  (options : Options) (inputs : List Value)

variable {e s tenant c options inputs} {id : String} {t : Mapping.Tally}

/-! ### Verdicts -/

lemma foreign_ruleVerdicts (rules : List Rule) (records : List (Nat × Record)) :
    Foreign (ruleVerdicts rules records) := by
  rw [ruleVerdicts_eq]
  refine raises_mapM fun p _ => raises_bind ?_ fun _ _ => by simp
  exact foreign_of_integerTooLong (Rule.raises_ofRules rules p.2)

lemma foreign_verdictsOn : Foreign (verdictsOn e s tenant c options inputs) := by
  rw [verdictsOn_eq]
  refine raises_bind ?_ fun _ _ => raises_bind ?_ fun _ _ => by simp
  · unfold rulesFound
    split
    · simp
    · exact foreign_ruleVerdicts _ _
  · unfold limitsFound
    split
    · exact Contribution.foreign_checkBatch _ _
    · simp

/-! ### Refusals -/

def payrollDraft : Value := .object
  [("name", .text "name"), ("source_system", .text "a"), ("destination_system", .text "b"),
    ("mapping_type", .text "CONTRIBUTION"),
    ("mapping_rules", .object [("field_mappings", .list [.object
      [("source_field", .text "payrollDate"), ("destination_field", .text "payrollDate")]])])]

def payrollOperations : List (Circumstances × Operation) :=
  [(smallEnvironment.toCircumstances, .createMapping payrollDraft (some "t") none)]

end Service

end Crosswalk
