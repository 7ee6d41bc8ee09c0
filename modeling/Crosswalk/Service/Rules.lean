import Crosswalk.Service.Configurations

/-!
Operations on validation rules. A tenant reaches its own rules only, and global ones are reached without a
tenant.
-/

namespace Crosswalk.Service

variable (e : Environment) (s : Store)

/-- Refuses a rule whose logic has problems. -/
def checkLogic (r : Rule) : Except Failure Unit := do
  let problems ← Failure.ofFault r.logic.problems
  if problems.isEmpty then return ()
  else throw (invalidRules (problems.map fun p => "validation rule '" ++ r.name ++ "': " ++ p))

/-- The rule of an identity that a tenant owns. -/
def findRule (id : String) (tenant : Option String) : Except Failure Rule :=
  match (s.rule? id).filter fun r => r.tenant = tenant with
  | some r => .ok r
  | none => .error (.fault ⟨.ruleNotFound, "Validation rule " ++ id ++ " not found"⟩)

/-- The rule that data asks for. -/
def newRule (data : Value) (tenant : Option String) : Except Failure Rule := do
  let draft ← readData Rule.Draft.codec "model_dump" data
  let r ← Failure.ofReading (draft.build e.fresh tenant)
  checkLogic r
  return r

/-- Keeps a new rule. -/
def createRule (data : Value) (tenant user : Option String) : Work Answer := do
  let r ← newRule e data tenant
  Work.write fun s => return s.putRule r
  record e tenant user .create ruleEntity r.id (.ok none) (some <$> ruleRow r)
  return .rule r

/-- A rule without and with the changes that data asks for. -/
def changedRule (id : String) (data : Value) (tenant : Option String) :
    Except Failure (Rule × Rule) := do
  let changes ← readChanges Rule.Changes.codec data
  let old ← findRule s id tenant
  match changes with
  | none => throw (noFields data "model_dump")
  | some changes =>
    let r ← Failure.ofReading (old.merge data changes e.fresh)
    checkLogic r
    return (old, r)

/-- Changes a rule. -/
def updateRule (id : String) (data : Value) (tenant user : Option String) : Work Answer := do
  let (old, r) ← changedRule e (← get) id data tenant
  Work.write fun s => s.replaceRule r
  record e tenant user .update ruleEntity id (some <$> ruleRow old) (some <$> ruleRow r)
  return .rule r

/-- The rule that is left of a deleted one. -/
def deletedRule (old : Rule) : Rule := { old with isActive := false, updatedAt := e.fresh.now }

/-- Deletes a rule by switching it off. -/
def deleteRule (id : String) (tenant user : Option String) : Work Answer := do
  let old ← findRule (← get) id tenant
  let r := deletedRule e old
  Work.write fun s => s.replaceRule r
  record e tenant user .delete ruleEntity id (some <$> ruleRow old) (.ok none)
  return .rule r

def listRules (tenant kind : Option String) : Answer := .rules (s.rulesOf tenant kind)

end Crosswalk.Service
