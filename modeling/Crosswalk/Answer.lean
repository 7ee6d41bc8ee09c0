import Crosswalk.Audit
import Crosswalk.Execution.Log

/-!
What operations answer, and why they fail.
-/

namespace Crosswalk

inductive Answer where
  | nothing
  | configuration (c : Mapping.Configuration)
  | configurations (cs : List Mapping.Configuration)
  | rule (r : Rule)
  | rules (rs : List Rule)
  | outcome (o : Batch.Outcome)
  | log (l : Execution.Log)
  | logs (ls : List Execution.Log)
  | summaries (ss : List Execution.Summary)

inductive Failure where
  | fault (f : Fault)
  | refused (issues : List Issue)
  /-- What was to be kept has been kept, and the event of it could not be made. -/
  | unrecorded (f : Fault)

namespace Failure

def ofFault {α : Type} : Except Fault α → Except Failure α
  | .ok x => .ok x
  | .error f => .error (.fault f)

def ofReading {α : Type} : Reading α → Except Failure α
  | .ok x => .ok x
  | .error is => .error (.refused is)

end Failure

/-- Codecs that only give back do not need what is fresh. -/
def Fresh.unused : Fresh := ⟨"", .midnight ⟨1, 1, 1⟩⟩

namespace Mapping.Configuration

def value (style : Style) (c : Configuration) : Value := (codec .unused).dump style c

end Mapping.Configuration

namespace Rule

def value (style : Style) (r : Rule) : Value := (codec .unused).dump style r

end Rule

namespace Answer

/-- An answer as a value. -/
def value : Answer → Value
  | .nothing => .null
  | .configuration c => c.value .plain
  | .configurations cs => .list (cs.map fun c => c.value .plain)
  | .rule r => r.value .plain
  | .rules rs => .list (rs.map fun r => r.value .plain)
  | .outcome o => Batch.Outcome.codec.dump .plain o
  | .log l => (Execution.Log.codec .unused).dump .plain l
  | .logs ls => .list (ls.map ((Execution.Log.codec .unused).dump .plain))
  | .summaries ss => .list (ss.map (Execution.Summary.codec.dump .plain))

end Answer

end Crosswalk
