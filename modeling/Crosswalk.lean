import Crosswalk.Frame
import Crosswalk.Proofs.Condition.Parse
import Crosswalk.Proofs.Contribution.Failure
import Crosswalk.Proofs.Execution.Log
import Crosswalk.Proofs.Formula.Evaluation
import Crosswalk.Proofs.Mapping.Absence
import Crosswalk.Proofs.Mapping.Agreement
import Crosswalk.Proofs.Mapping.Failure
import Crosswalk.Proofs.Number.Binary64
import Crosswalk.Proofs.Rule.Message
import Crosswalk.Proofs.Service.Abort
import Crosswalk.Proofs.Service.DryRun
import Crosswalk.Proofs.Service.Isolation
import Crosswalk.Proofs.Service.Outcome
import Crosswalk.Proofs.Service.Trail
import Crosswalk.Proofs.Value.LongInteger
import Crosswalk.Remote.Request
import Crosswalk.Service.Step
import Crosswalk.Proofs.Formula.Derivation
import Crosswalk.Proofs.Service.Unaudited
import Crosswalk.Proofs.Number.Decimal
import Crosswalk.Proofs.Formula.Machine
import Crosswalk.Proofs.Schema.Codec
import Crosswalk.Proofs.Schema.Record
import Crosswalk.Proofs.Schema.Merge
import Crosswalk.Proofs.Mapping.KnownFields
import Crosswalk.Proofs.Service.Validity
import Crosswalk.Proofs.Rule.Selection
import Crosswalk.Proofs.Contribution.Standing
import Crosswalk.Proofs.Rule.Meaning
import Crosswalk.Proofs.Memory
import Crosswalk.Proofs.Remote.Rules
import Crosswalk.Proofs.Service.Update
import Crosswalk.Proofs.Restored
import Crosswalk.Proofs.Mapping.Default
import Crosswalk.Proofs.Contribution.Verdict
import Crosswalk.Proofs.Service.Listing
import Crosswalk.Proofs.Service.Runs
import Crosswalk.Proofs.Formula.Exact
import Crosswalk.Proofs.Condition.Integer
import Crosswalk.Proofs.Condition.Reread
import Crosswalk.Proofs.Value.AmountText
import Crosswalk.Proofs.Transformation.Shift
import Crosswalk.Proofs.Transformation.Numeric
import Crosswalk.Proofs.Transformation.Text
import Crosswalk.Proofs.Rule.Equality
import Crosswalk.Proofs.Formula.Names
