import Crosswalk.Rule.Check
import Crosswalk.Rule.Finding
import Crosswalk.Rule.Message

/-!
Validating records against rules: each rule for itself, in order.

The rules for a kind of record and a tenant are the active ones that apply to the kind, global ones first.
-/

namespace Crosswalk

namespace Rule

/-- Whether a rule is to be used for records of a kind that a tenant maps. -/
def isFor (r : Rule) (kind : String) (tenant : Option String) : Bool :=
  r.isActive && r.appliesToKind kind && (r.isGlobal || r.tenant = tenant)

/-- The rules to be used, global ones first. -/
def select (rules : List Rule) (kind : String) (tenant : Option String) : List Rule :=
  let chosen := rules.filter fun r => r.isFor kind tenant
  chosen.filter isGlobal ++ chosen.filter fun r => !r.isGlobal

/-- The finding of a rule that a record does not satisfy. -/
def finding? (r : Rule) (record : Record) : Except Fault (Option Finding) :=
  if r.satisfiedBy record then .ok none
  else do
    let v := record.value r.target
    return some ⟨r.target, r.category.name, ← Message.render r.message r v, v, r.severity⟩

end Rule

namespace Verdict

/-- The findings of rules on a record. -/
def findings (rules : List Rule) (record : Record) : Except Fault (List Finding) :=
  return (← rules.mapM fun r => r.finding? record).reduceOption

def ofRules (rules : List Rule) (record : Record) : Except Fault Verdict :=
  return ofFindings (← findings rules record)

/-- The verdicts on records, in their order. -/
def ofRecords (rules : List Rule) (records : List Record) : Except Fault (List Verdict) :=
  records.mapM (ofRules rules)

end Verdict

end Crosswalk
