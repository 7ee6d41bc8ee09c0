import Crosswalk.Mapping.Batch
import Crosswalk.Proofs.ByPosition
import Crosswalk.Proofs.Mapping.Stage

/-!
What a batch is mapped to, position by position.

The value at a position has its destination among the records, or else an error among the errors,
and nothing of another position changes which.
-/

namespace Crosswalk.Mapping

open ByPosition Fallible

variable (e : Engine) (rules : Rules)

def destinationAt (i : Nat) (v : Value) : Except Fault Record := destinationOf e rules (some i) v

/-- The destinations of values, the first at position `n`, with their positions. -/
def destinationsFrom (n : Nat) (inputs : List Value) : List (Nat × Record) :=
  (inputs.zipIdx n).filterMap fun (v, i) => (destinationAt e rules i v).toOption.map (i, ·)

def failure? (i : Nat) (v : Value) : Option Batch.Failure :=
  match destinationAt e rules i v with
  | .ok _ => none
  | .error f => some (failureAt i f)

def failuresFrom (n : Nat) (inputs : List Value) : List Batch.Failure :=
  (inputs.zipIdx n).filterMap fun (v, i) => failure? e rules i v

lemma destinationsFrom_cons (n : Nat) (v : Value) (inputs : List Value) :
    destinationsFrom e rules n (v :: inputs) =
      match destinationAt e rules n v with
      | .ok r => (n, r) :: destinationsFrom e rules (n + 1) inputs
      | .error _ => destinationsFrom e rules (n + 1) inputs := by
  simp only [destinationsFrom, List.zipIdx_cons, List.filterMap_cons]
  rcases destinationAt e rules n v <;> rfl

lemma failuresFrom_cons (n : Nat) (v : Value) (inputs : List Value) :
    failuresFrom e rules n (v :: inputs) =
      match destinationAt e rules n v with
      | .ok _ => failuresFrom e rules (n + 1) inputs
      | .error f => failureAt n f :: failuresFrom e rules (n + 1) inputs := by
  simp only [failuresFrom, failure?, List.zipIdx_cons, List.filterMap_cons]
  rcases destinationAt e rules n v <;> rfl

/-- **A batch is mapped value by value.** -/
theorem mapFrom_fst (n : Nat) (inputs : List Value) (t : Tally) :
    (mapFrom e rules n inputs t).1 =
      ⟨destinationsFrom e rules n inputs, failuresFrom e rules n inputs⟩ := by
  induction inputs generalizing n t with
  | nil => rfl
  | cons v inputs ih =>
    have hv : (mapCounted e rules n v t).1 = destinationAt e rules n v :=
      mapRecord_gives e rules _ v t
    rw [destinationsFrom_cons, failuresFrom_cons, ← hv, mapFrom]
    rcases mapCounted e rules n v t with ⟨_ | _, u⟩ <;> simp [ih]

lemma mapBatch_fst (inputs : List Value) (t : Tally) :
    (mapBatch e rules inputs t).1 =
      ⟨destinationsFrom e rules 0 inputs, failuresFrom e rules 0 inputs⟩ :=
  mapFrom_fst e rules 0 inputs t

variable {e rules} {inputs : List Value}

lemma mem_destinationsFrom {i : Nat} {r : Record} : (i, r) ∈ destinationsFrom e rules 0 inputs ↔
    ∃ v, inputs[i]? = some v ∧ destinationAt e rules i v = .ok r := by
  simp only [destinationsFrom, List.mem_filterMap, Option.map_eq_some_iff, Prod.exists,
    List.mk_mem_zipIdx_iff_getElem?]
  constructor
  · rintro ⟨v, j, hv, r', hr, h⟩
    obtain ⟨rfl, rfl⟩ := Prod.mk.inj h
    exact ⟨v, hv, toOption_eq_some.1 hr⟩
  · rintro ⟨v, hv, hr⟩
    exact ⟨v, i, hv, r, toOption_eq_some.2 hr, rfl⟩

lemma failure?_eq_some {i : Nat} {v : Value} {x : Batch.Failure}
    (h : failure? e rules i v = some x) :
    ∃ f, x = failureAt i f := by
  unfold failure? at h
  split at h
  · simp at h
  · exact ⟨_, (Option.some.inj h).symm⟩

lemma pairwise_destinationsFrom :
    (destinationsFrom e rules 0 inputs).Pairwise fun p q => (p.1 : Int) < q.1 := by
  refine pairwise_numbered (fun p b hb => ?_) inputs
  obtain ⟨r, -, rfl⟩ := Option.map_eq_some_iff.1 hb
  rfl

lemma filter_destinationsFrom (i : Nat) :
    (destinationsFrom e rules 0 inputs).filter (fun p => (p.1 : Int) = i) =
      (inputs[i]?.bind fun v => (destinationAt e rules i v).toOption.map (i, ·)).toList := by
  refine filter_numbered (fun p b hb => ?_) inputs i
  obtain ⟨r, -, rfl⟩ := Option.map_eq_some_iff.1 hb
  rfl

lemma filter_failuresFrom (i : Nat) :
    (failuresFrom e rules 0 inputs).filter (fun x => x.index = (i : Int)) =
    (inputs[i]?.bind fun v => failure? e rules i v).toList := by
  refine filter_numbered (fun p b hb => ?_) inputs i
  obtain ⟨f, rfl⟩ := failure?_eq_some hb
  rfl

lemma length_destinationsFrom_add (n : Nat) (inputs : List Value) :
    (destinationsFrom e rules n inputs).length + (failuresFrom e rules n inputs).length =
      inputs.length := by
  induction inputs generalizing n with
  | nil => rfl
  | cons v inputs ih =>
    have ih := ih (n + 1)
    rw [destinationsFrom_cons, failuresFrom_cons]
    rcases destinationAt e rules n v <;> simp only [List.length_cons] <;> omega

end Crosswalk.Mapping
