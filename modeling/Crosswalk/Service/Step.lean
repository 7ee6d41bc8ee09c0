import Crosswalk.Service.Application
import Crosswalk.Service.Rules

/-!
The service: operations on a store, one after the other.

Between operations the service keeps the store, what the engine has counted, and the formulas and conditions
it has read.
-/

namespace Crosswalk.Service

inductive Operation where
  | createMapping (data : Value) (tenant user : Option String)
  | updateMapping (id : String) (data : Value) (tenant user : Option String)
  | deleteMapping (id : String) (tenant user : Option String)
  | activateMapping (id : String) (tenant user : Option String)
  | deactivateMapping (id : String) (tenant user : Option String)
  | getMapping (id : String) (tenant : Option String)
  | listMappings (tenant kind : Option String) (includeInactive : Bool)
  | createRule (data : Value) (tenant user : Option String)
  | updateRule (id : String) (data : Value) (tenant user : Option String)
  | deleteRule (id : String) (tenant user : Option String)
  | listRules (tenant kind : Option String)
  | executionLogs (id : String) (tenant : Option String) (limit : Option Int)
  | apply (id : String) (tenant : Option String) (inputs : List Value) (options : Batch.Options)
  | testMapping (id : String) (tenant : Option String) (inputs : List Value) (options : Batch.Options)

structure State where
  store : Store
  tally : Mapping.Tally
  memory : Memory

def State.initial : State := ⟨.empty, .zero, .empty⟩

/-- What an operation gives, and the store and the counts after it. -/
def perform (e : Environment) (s : Store) (t : Mapping.Tally) :
    Operation → (Except Failure Answer × Store) × Mapping.Tally
  | .createMapping data tenant user => ((createMapping e data tenant user).run s, t)
  | .updateMapping id data tenant user => ((updateMapping e id data tenant user).run s, t)
  | .deleteMapping id tenant user => ((deleteMapping e id tenant user).run s, t)
  | .activateMapping id tenant user => ((setActive e true id tenant user).run s, t)
  | .deactivateMapping id tenant user => ((setActive e false id tenant user).run s, t)
  | .getMapping id tenant => ((getMapping s id tenant, s), t)
  | .listMappings tenant kind includeInactive => ((listMappings s tenant kind includeInactive, s), t)
  | .createRule data tenant user => ((createRule e data tenant user).run s, t)
  | .updateRule id data tenant user => ((updateRule e id data tenant user).run s, t)
  | .deleteRule id tenant user => ((deleteRule e id tenant user).run s, t)
  | .listRules tenant kind => ((.ok (listRules s tenant kind), s), t)
  | .executionLogs id tenant limit => ((executionLogs e s id tenant limit, s), t)
  | .apply id tenant inputs options => runBatch e s t id tenant inputs options
  | .testMapping id tenant inputs options =>
    runBatch e s t id tenant inputs { options with dryRun := true }

/-- The rules of a configuration that a batch runs through, if one of its values is a record. -/
def rulesApplied (e : Environment) (s : Store) (id : String) (tenant : Option String)
    (inputs : List Value) : Option Mapping.Rules :=
  if inputs.any fun v => v.fields?.isSome then
    ((prepare e s id tenant inputs.length).toOption).map (·.rules)
  else none

/-- The mapping rules whose texts an operation reads. -/
def rulesRead (e : Environment) (s : Store) : Operation → Option Mapping.Rules
  | .createMapping data _ _ =>
    ((readData Mapping.Draft.codec "mapping_rules" data).toOption).map (·.rules)
  | .updateMapping id data tenant _ => do
    let _ ← s.configuration? id tenant
    let changes ← (Mapping.Changes.codec.read data).toOption
    changes.rules.toOption
  | .apply id tenant inputs _ => rulesApplied e s id tenant inputs
  | .testMapping id tenant inputs _ => rulesApplied e s id tenant inputs
  | _ => none

/-- The memory after the texts of some rules have been read. -/
def remember (m : Memory) (l : Limits) (rules : Mapping.Rules) : Memory :=
  m.afterReading l (rules.calculations.map (·.formula)) (rules.conditionals.map (·.condition))

/-- Texts are read from memory where they can be, and under the limits in force otherwise. -/
def Circumstances.environment (c : Circumstances) (m : Memory) : Environment :=
  ⟨c, m.readers c.settings.limits⟩

/-- The service after an operation, and the answer or why there is none. -/
def step (c : Circumstances) (st : State) (op : Operation) : State × Except Failure Answer :=
  let e := c.environment st.memory
  let ((answer, store), tally) := perform e st.store st.tally op
  let memory :=
    match rulesRead e st.store op with
    | some rules => remember st.memory c.settings.limits rules
    | none => st.memory
  (⟨store, tally, memory⟩, answer)

/-- The states after operations in order, and what they answered. -/
def run (st : State) : List (Circumstances × Operation) → State × List (Except Failure Answer)
  | [] => (st, [])
  | (c, op) :: ops =>
    let (st, answer) := step c st op
    let (st, answers) := run st ops
    (st, answer :: answers)

end Crosswalk.Service
