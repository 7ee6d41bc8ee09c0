import Crosswalk.Proofs.Contribution.Batch
import Crosswalk.Proofs.Mapping.Batch
import Crosswalk.Proofs.Rule.Verdict
import Crosswalk.Proofs.Service.Work
import Crosswalk.Service.Application

/-!
How an application ends.

A batch that may be applied has destinations and failures, whatever has been counted before. It ends
in the outcome that the verdicts on the destinations make, or in the fault for which there are none.
-/

namespace Crosswalk.Service

open Batch (Options Outcome)
open Mapping (Configuration Mapped destinationAt destinationsFrom failuresFrom)
open Fallible

variable (e : Environment) (s : Store) (tenant : Option String) (c : Configuration)
  (options : Options) (inputs : List Value)

def mappedBy : Mapped :=
  ⟨destinationsFrom e.engine c.rules 0 inputs, failuresFrom e.engine c.rules 0 inputs⟩

def verdictsOn : Except Fault (List (Int × Verdict)) :=
  verdicts e s tenant c options (mappedBy e c inputs).records

def outcomeOf (vs : List (Int × Verdict)) : Outcome :=
  outcome e inputs.length options.dryRun (mappedBy e c inputs) vs

def storeAfter (vs : List (Int × Verdict)) : Store :=
  if options.dryRun then s else keepRun e s c options (outcomeOf e c options inputs vs)

variable {e s tenant options inputs} {t : Mapping.Tally} {id : String}

lemma runBatch_fst : (runBatch e s t id tenant inputs options).1 =
    match prepare e s id tenant inputs.length with
    | .error f => (.error f, s)
    | .ok c =>
      match verdictsOn e s tenant c options inputs with
      | .error g => (.error (.fault g), s)
      | .ok vs =>
        (.ok (.outcome (outcomeOf e c options inputs vs)), storeAfter e s c options inputs vs) := by
  unfold runBatch
  rcases prepare e s id tenant inputs.length with f | c
  · rfl
  · -- the tally is counted along with the mapping, and does not tell its result
    have hm : (Mapping.mapBatch e.engine c.rules inputs t).1 = mappedBy e c inputs :=
      Mapping.mapBatch_fst e.engine c.rules inputs t
    dsimp only
    rw [hm, finish, Work.run_get_bind, Work.run_lift_bind, ← verdictsOn]
    rcases verdictsOn e s tenant c options inputs with g | vs
    · rfl
    · dsimp only [Failure.ofFault, storeAfter]
      split <;> rfl

lemma apply_fst : (apply e s t id tenant inputs options).1 = do
    let c ← prepare e s id tenant inputs.length
    let vs ← Failure.ofFault (verdictsOn e s tenant c options inputs)
    return (.outcome (outcomeOf e c options inputs vs), storeAfter e s c options inputs vs) := by
  have hr : (apply e s t id tenant inputs options).1 =
      (runBatch e s t id tenant inputs options).1.1.map
        fun a => (a, (runBatch e s t id tenant inputs options).1.2) := rfl
  rw [hr, runBatch_fst]
  rcases prepare e s id tenant inputs.length with f | c
  · rfl
  · dsimp only
    rw [ok_bind]
    rcases verdictsOn e s tenant c options inputs with g | vs <;> rfl

lemma apply_ok {a : Answer} {s' : Store} : (apply e s t id tenant inputs options).1 = .ok (a, s') ↔
    ∃ c vs, prepare e s id tenant inputs.length = .ok c ∧
      verdictsOn e s tenant c options inputs = .ok vs ∧
      a = .outcome (outcomeOf e c options inputs vs) ∧ s' = storeAfter e s c options inputs vs := by
  rw [apply_fst]
  rcases prepare e s id tenant inputs.length with f | c
  · simp
  · rcases hv : verdictsOn e s tenant c options inputs with f | vs
    · simp [Failure.ofFault, hv]
    · simp [Failure.ofFault, hv, eq_comm]

lemma apply_error {f : Failure} : (apply e s t id tenant inputs options).1 = .error f ↔
    prepare e s id tenant inputs.length = .error f ∨
      ∃ c g, prepare e s id tenant inputs.length = .ok c ∧
        verdictsOn e s tenant c options inputs = .error g ∧ f = .fault g := by
  rw [apply_fst]
  rcases prepare e s id tenant inputs.length with f | c
  · simp
  · rcases hv : verdictsOn e s tenant c options inputs with g | vs
    · simp [Failure.ofFault, hv, eq_comm]
    · simp [Failure.ofFault, hv]

lemma prepare_ok {c : Configuration} {size : Nat} (h : prepare e s id tenant size = .ok c) :
    findConfiguration s id tenant = .ok c ∧ c.isActive := by
  obtain ⟨d, hd, h⟩ := bind_eq_ok.1 h
  obtain ⟨b, hb, hd⟩ := bind_eq_ok.1 hd
  split at hd
  · obtain rfl := Except.ok.inj hd
    dsimp only at h
    split at h
    · simp at h
    · obtain rfl := Except.ok.inj h
      exact ⟨hb, by assumption⟩
  · simp at hd

/-! ### A small service -/

def smallConfiguration : Configuration where
  id := "m"
  tenant := "t"
  name := "name"
  description := none
  sourceSystem := "a"
  destinationSystem := "b"
  kind := .contribution
  rules := .empty
  template := none
  isActive := true
  version := 1
  createdBy := none
  updatedBy := none
  createdAt := .midnight ⟨2025, 1, 1⟩
  updatedAt := .midnight ⟨2025, 1, 1⟩
  deletedAt := none

/-- A rule that nothing without the field `ssn` satisfies. -/
def smallRule : Rule where
  id := "r"
  tenant := none
  name := "name"
  description := none
  category := .requiredField
  appliesTo := [Rule.everyKind]
  field := none
  logic := ⟨.notEmpty, some "ssn", .null, none, none, none, none⟩
  message := "{field} is empty"
  severity := .error
  isActive := true
  createdAt := .midnight ⟨2025, 1, 1⟩
  updatedAt := .midnight ⟨2025, 1, 1⟩

def smallStore : Store := ⟨[("m", smallConfiguration)], [("r", smallRule)], [], []⟩

def smallEnvironment : Environment where
  settings := .standard
  catalogue := []
  recorder := .of .standard none none
  warningRatio := .int 1
  auditWorks := true
  id := "x"
  now := .midnight ⟨2025, 1, 1⟩
  readerYear := 2025
  elapsed := .zero false
  finishedAt := .midnight ⟨2025, 1, 1⟩
  recordedAt := .midnight ⟨2025, 1, 1⟩
  memory := 0
  readers := .within .standard

def smallOptions : Options := { Options.standard with checkLimits := true }

end Crosswalk.Service
