import Crosswalk.Batch.Outcome
import Crosswalk.Mapping.Stage

/-!
Mapping a batch: every record by itself, so that a record that fails does not stop the others.
-/

namespace Crosswalk.Mapping

/-- The destination records with their positions, and an error for each record that failed. -/
structure Mapped where
  records : List (Nat × Record)
  errors : List Batch.Failure

def Mapped.data (m : Mapped) : List Record := m.records.map (·.2)

/-- The error of a record that could not be mapped. -/
def failureAt (index : Nat) (f : Fault) : Batch.Failure where
  index := index
  category := .mappingFailed
  code := Batch.Category.mappingFailed.name
  message := if f.message.isEmpty then f.kind.name else f.message
  field := none
  value := .null

/-- The outcome of one record with the counts after it. -/
def mapCounted (e : Engine) (rules : Rules) (index : Nat) (input : Value) (t : Tally) :
    Except Fault Record × Tally :=
  let (result, t) := (mapRecord e rules (some index) input).run t
  (result, { t with records := t.records + 1 })

/-- Maps records whose first stands at position `index`. -/
def mapFrom (e : Engine) (rules : Rules) (index : Nat) (inputs : List Value) (t : Tally) :
    Mapped × Tally :=
  match inputs with
  | [] => (⟨[], []⟩, t)
  | input :: inputs =>
    let (result, t) := mapCounted e rules index input t
    let (rest, t) := mapFrom e rules (index + 1) inputs t
    match result with
    | .ok r => ({ rest with records := (index, r) :: rest.records }, t)
    | .error f => ({ rest with errors := failureAt index f :: rest.errors }, t)

def mapBatch (e : Engine) (rules : Rules) (inputs : List Value) (t : Tally) : Mapped × Tally :=
  mapFrom e rules 0 inputs t

end Crosswalk.Mapping
