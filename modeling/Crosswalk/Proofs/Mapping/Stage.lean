import Crosswalk.Mapping.Stage
import Crosswalk.Proofs.Fallible

/-!
The destination of a record, without the counts.

A stage counts what it meets, and its writes do not depend on what has been counted before.
`Run.Gives x r` says this of a computation, and goes through sequences and lists, so each stage
gives the writes of a function that counts nothing. `destination` puts those together.
-/

namespace Crosswalk.Mapping

open Fallible

variable {α β : Type}

/-- The result of a computation that starts with no counts. -/
def Run.result (x : Run α) : Except Fault α := (x.run .zero).1

/-- The result of a computation, whatever has been counted before. -/
def Run.Gives (x : Run α) (r : Except Fault α) : Prop := ∀ t, (x.run t).1 = r

namespace Run

variable {x : Run α} {r : Except Fault α}

lemma Gives.result (h : x.Gives r) : x.result = r := h .zero

lemma gives_pure (a : α) : Gives (pure a) (.ok a) := fun _ => rfl

lemma gives_throw (f : Fault) : Gives (throw f : Run α) (.error f) := fun _ => rfl

lemma run_bind (x : Run α) (k : α → Run β) (t : Tally) :
    (x >>= k).run t = match x.run t with
      | (.ok a, u) => (k a).run u
      | (.error f, u) => (.error f, u) := by
  simp only [ExceptT.run, bind, ExceptT.bind, ExceptT.mk, StateT.bind, ExceptT.bindCont]
  rcases x t with ⟨_ | _, u⟩ <;> rfl

lemma gives_bind {k : α → Run β} {s : α → Except Fault β} (hx : x.Gives r)
    (hk : ∀ a, (k a).Gives (s a)) : (x >>= k).Gives (r >>= s) := by
  intro t
  rw [run_bind, ← hx t]
  rcases x.run t with ⟨f | a, u⟩
  · rfl
  · exact hk a u

lemma gives_count (f : Tally → Tally) (h : x.Gives r) : (count f >>= fun _ => x).Gives r :=
  fun t => h (f t)

lemma gives_bind_ok {k : α → Run β} {a : α} {s : Except Fault β} (hx : x.Gives (.ok a))
    (hk : (k a).Gives s) : (x >>= k).Gives s := by
  intro t
  have h := hx t
  rw [run_bind]
  rcases hr : x.run t with ⟨f | b, u⟩
  · simp [hr] at h
  · obtain rfl : b = a := by simpa [hr] using h
    exact hk u

lemma gives_map (g : α → β) (h : x.Gives r) :
    (x >>= fun a => pure (g a)).Gives (r >>= fun a => pure (g a)) :=
  gives_bind h fun a => gives_pure (g a)

lemma gives_mapM {f : α → Run β} {g : α → Except Fault β} (h : ∀ a, (f a).Gives (g a))
    (xs : List α) : (xs.mapM f).Gives (xs.mapM g) := by
  induction xs with
  | nil => exact gives_pure []
  | cons a xs ih =>
    rw [List.mapM_cons, List.mapM_cons]
    exact gives_bind (h a) fun b => gives_bind ih fun bs => gives_pure (b :: bs)

end Run

open Run

/-! ### Stages -/

variable (e : Engine) (source : Record)

/-- The value that a transfer writes: the transformed one, or the raw one where that fails. -/
def transferredValue (t : Transfer) : Value :=
  let v := source.value t.source
  if v.isMissing then .null
  else
    match t.transformation with
    | none => v
    | some "" => v
    | some name => (e.catalogue.transform e.clock name v t.parameters).toOption.getD v

/-- Whether a condition holds; one that is refused does not. -/
def fulfils (text : String) : Except Fault Bool :=
  match e.readers.condition text >>= fun c => c.holds source with
  | .ok b => .ok b
  | .error f => if f.kind.isExpression then .ok false else .error f

def conditionalEntries (c : Conditional) : Except Fault (List Write) := do
  if ← fulfils e source c.condition then return c.assignments.map fun a => (a.destination, a.value)
  else return []

/-- A calculation that fails on its formula or on arithmetic writes nothing. -/
def calculationEntries (mapped : Record) (c : Calculation) : Except Fault (List Write) :=
  match calculated e source mapped c with
  | .ok v => .ok [(c.destination, v)]
  | .error f => if f.kind.isExpression || f.kind.isArithmetic then .ok [] else .error f

def translationEntries (t : Translation) : Except Fault (List Write) :=
  return [(t.destination, ← translated source t)]

def transferredRecord (rules : Rules) : Record :=
  Table.putAll [] (rules.transfers.map fun t => (t.destination, transferredValue e source t))

def entriesOf {γ : Type} (f : γ → Except Fault (List Write)) (rules : List γ) :
    Except Fault (List Write) :=
  return (← rules.mapM f).flatten

def afterEntries {γ : Type} (d : Record) (f : γ → Except Fault (List Write)) (rules : List γ) :
    Except Fault Record :=
  return Table.putAll d (← entriesOf f rules)

def assignedRecord (rules : Rules) : Except Fault Record :=
  afterEntries (transferredRecord e source rules) (conditionalEntries e source) rules.conditionals

/-- The destination before defaults are written. -/
def undefaulted (rules : Rules) : Except Fault Record := do
  let d ← assignedRecord e source rules
  let d ← afterEntries d (calculationEntries e source d) rules.calculations
  afterEntries d (translationEntries source) rules.translations

/-- The destination of a source record. -/
def destination (rules : Rules) : Except Fault Record :=
  return withDefaults rules.defaults (← undefaulted e source rules)

def destinationOf (rules : Rules) (index : Option Int) (input : Value) : Except Fault Record :=
  (mapRecord e rules index input).result

lemma transferred_gives (t : Transfer) :
    (transferred e source t).Gives (.ok (transferredValue e source t)) := by
  unfold transferred transferredValue
  dsimp only
  by_cases hm : (source.value t.source).isMissing
  · simp only [hm, if_true]
    exact gives_pure _
  simp only [hm, if_false, Bool.false_eq_true]
  rcases t.transformation with _ | name
  · exact gives_pure _
  by_cases hn : name = ""
  · subst hn
    exact gives_pure _
  · -- a transformation that fails is counted, and leaves the raw value
    rcases h : e.catalogue.transform e.clock name (source.value t.source) t.parameters with f | w
    · simp only [h]
      exact gives_count _ (gives_pure _)
    · simp only [h]
      exact gives_count _ (gives_pure _)

lemma transferWrites_gives (t : Transfer) :
    (transferWrites e source t).Gives (.ok [(t.destination, transferredValue e source t)]) :=
  gives_map _ (transferred_gives e source t)

lemma conditionHolds_gives (text : String) :
    (conditionHolds e source text).Gives (fulfils e source text) := by
  unfold conditionHolds fulfils
  rcases e.readers.condition text >>= fun c => c.holds source with f | b
  · dsimp only
    split_ifs
    · exact gives_count _ (gives_pure false)
    · exact gives_throw f
  · exact gives_pure b

lemma conditionalWrites_gives (c : Conditional) :
    (conditionalWrites e source c).Gives (conditionalEntries e source c) := by
  refine gives_bind (conditionHolds_gives e source c.condition) fun b => ?_
  cases b
  · exact gives_pure _
  · exact gives_pure _

lemma calculationWrites_gives (mapped : Record) (c : Calculation) :
    (calculationWrites e source mapped c).Gives (calculationEntries e source mapped c) := by
  unfold calculationWrites calculationEntries
  rcases calculated e source mapped c with f | v
  · dsimp only
    split_ifs
    · exact gives_count _ (gives_pure [])
    · exact gives_throw f
  · exact gives_pure _

lemma translationWrites_gives (t : Translation) :
    (translationWrites source t).Gives (translationEntries source t) := by
  have h : (liftM (translated source t) : Run Value).Gives (translated source t) := by
    intro _
    cases translated source t <;> rfl
  exact gives_map _ h

lemma afterWrites_gives {γ : Type} {f : γ → Run (List Write)} {g : γ → Except Fault (List Write)}
    (h : ∀ c, (f c).Gives (g c)) (d : Record) (rules : List γ) :
    (afterWrites d (writesOf f rules)).Gives (afterEntries d g rules) :=
  gives_map _ (gives_map _ (gives_mapM h rules))

lemma afterTransfers_gives (rules : Rules) :
    (afterTransfers e source rules).Gives (.ok (transferredRecord e source rules)) := by
  have h := afterWrites_gives (transferWrites_gives e source) [] rules.transfers
  rwa [afterEntries, entriesOf, mapM_eq_ok fun t _ => rfl, ok_bind, pure_ok, ok_bind, pure_ok,
    ← List.flatMap_def, ← List.map_eq_flatMap] at h

lemma beforeDefaults_gives (rules : Rules) :
    (beforeDefaults e source rules).Gives (undefaulted e source rules) := by
  refine gives_bind_ok (afterTransfers_gives e source rules) ?_
  refine gives_bind (afterWrites_gives (conditionalWrites_gives e source) _ _) fun d => ?_
  refine gives_bind (afterWrites_gives (calculationWrites_gives e source d) _ _) fun d => ?_
  exact afterWrites_gives (translationWrites_gives source) _ _

/-- **Mapping gives the destination** of a record, whatever has been counted before. -/
theorem mapFields_gives (rules : Rules) :
    (mapFields e source rules).Gives (destination e source rules) :=
  gives_map _ (beforeDefaults_gives e source rules)

lemma mapRecord_gives (rules : Rules) (index : Option Int) (input : Value) :
    (mapRecord e rules index input).Gives (destinationOf e rules index input) := by
  have h : ∃ r, (mapRecord e rules index input).Gives r := by
    cases input with
    | object fs => exact ⟨_, mapFields_gives e fs rules⟩
    | _ => exact ⟨_, gives_throw _⟩
  obtain ⟨r, hr⟩ := h
  rwa [destinationOf, hr.result]

@[simp] lemma destinationOf_object (rules : Rules) (index : Option Int)
    (fs : List (String × Value)) :
    destinationOf e rules index (.object fs) = destination e fs rules :=
  (mapFields_gives e fs rules).result

end Crosswalk.Mapping
