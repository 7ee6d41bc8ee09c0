import Crosswalk.Proofs.Condition.Failure
import Crosswalk.Proofs.Mapping.Stage

/-!
What mapping a record adds to the counts of errors.

`Run.Adds m n x` says that a computation that has a result adds `m` to the errors of conditions
and `n` to those of formulas, whatever has been counted before. It goes through sequences and
lists as counting does, so a mapping adds one for each condition that is not read and one for each
calculation that has no value.
-/

namespace Crosswalk.Mapping

variable {α β : Type}

/-- Where the computation has a result, it adds to the errors of conditions and of formulas. -/
def Run.Adds (m n : Nat) (x : Run α) : Prop :=
  ∀ t a u, x.run t = (.ok a, u) →
    u.conditionErrors = t.conditionErrors + m ∧ u.formulaErrors = t.formulaErrors + n

namespace Run

variable {x : Run α} {m n m' n' : Nat}

lemma adds_pure (a : α) : Adds 0 0 (pure a : Run α) := by
  intro t b u h
  cases h
  exact ⟨rfl, rfl⟩

lemma adds_throw (f : Fault) : Adds m n (throw f : Run α) := by
  intro t b u h
  cases h

lemma adds_bind_of {k : α → Run β} (hx : Adds m n x)
    (hk : ∀ t a u, x.run t = (.ok a, u) → Adds m' n' (k a)) :
    Adds (m + m') (n + n') (x >>= k) := by
  intro t b w h
  rw [run_bind] at h
  rcases hr : x.run t with ⟨f | a, u⟩
  · rw [hr] at h
    cases h
  · rw [hr] at h
    obtain ⟨hfirst, hfirst'⟩ := hx t a u hr
    obtain ⟨hsecond, hsecond'⟩ := hk t a u hr u b w h
    omega

lemma adds_bind {k : α → Run β} (hx : Adds m n x) (hk : ∀ a, Adds m' n' (k a)) :
    Adds (m + m') (n + n') (x >>= k) :=
  adds_bind_of hx fun _ a _ _ => hk a

lemma adds_bind_gives {k : α → Run β} {a : α} (hg : x.Gives (.ok a)) (hx : Adds m n x)
    (hk : Adds m' n' (k a)) : Adds (m + m') (n + n') (x >>= k) := by
  refine adds_bind_of hx fun t b u hb => ?_
  have hresult := hg t
  rw [hb] at hresult
  obtain rfl : b = a := Except.ok.inj hresult
  exact hk

lemma adds_map (g : α → β) (hx : Adds m n x) : Adds m n (x >>= fun a => pure (g a)) :=
  adds_bind hx fun a => adds_pure (g a)

lemma adds_count {f : Tally → Tally} (hf : ∀ t, (f t).conditionErrors = t.conditionErrors + m ∧
      (f t).formulaErrors = t.formulaErrors + n) (a : α) :
    Adds m n (count f >>= fun _ => pure a) := by
  intro t b u h
  cases h
  exact hf t

lemma adds_mapM {f : α → Run β} {p q : α → Bool}
    (hf : ∀ a, Adds (if p a then 1 else 0) (if q a then 1 else 0) (f a)) (xs : List α) :
    Adds (xs.countP p) (xs.countP q) (xs.mapM f) := by
  induction xs with
  | nil => exact adds_pure []
  | cons a xs ih =>
    rw [List.countP_cons, List.countP_cons, Nat.add_comm, Nat.add_comm (xs.countP q),
      List.mapM_cons]
    exact adds_bind (hf a) fun b => adds_bind ih fun bs => adds_pure (b :: bs)

end Run

open Run

variable (e : Engine) (source : Record)

def refused (k : Conditional) : Bool := !(e.readers.condition k.condition).isOk

def dropped (mapped : Record) (k : Calculation) : Bool := !(calculated e source mapped k).isOk

/-! ### Stages -/

lemma adds_afterWrites {γ : Type} {f : γ → Run (List Write)} {p q : γ → Bool}
    (hf : ∀ k, Adds (if p k then 1 else 0) (if q k then 1 else 0) (f k)) (d : Record)
    (rules : List γ) : Adds (rules.countP p) (rules.countP q) (afterWrites d (writesOf f rules)) :=
  adds_map _ (adds_map _ (adds_mapM hf rules))

lemma adds_transferred (t : Transfer) : Adds 0 0 (transferred e source t) := by
  unfold transferred
  dsimp only
  split
  · exact adds_pure _
  split
  · exact adds_pure _
  · exact adds_pure _
  · split
    · exact adds_count (fun _ => ⟨rfl, rfl⟩) _
    · exact adds_count (fun _ => ⟨rfl, rfl⟩) _

lemma adds_afterTransfers (rules : Rules) : Adds 0 0 (afterTransfers e source rules) := by
  have hwrites := fun t => adds_map (fun v => [(t.destination, v)]) (adds_transferred e source t)
  have h := adds_afterWrites (p := fun _ => false) (q := fun _ => false) hwrites [] rules.transfers
  rwa [List.countP_false] at h

lemma adds_conditionHolds (text : String) :
    Adds (if !(e.readers.condition text).isOk then 1 else 0) 0 (conditionHolds e source text) := by
  unfold conditionHolds
  rcases e.readers.condition text with f | c
  · change Adds 1 0 (if f.kind.isExpression then _ else throw f)
    split
    · exact adds_count (fun _ => ⟨rfl, rfl⟩) _
    · exact adds_throw f
  · -- what a comparison fails on ends the record
    rw [Fallible.ok_bind]
    rcases hheld : c.holds source with f | b
    · have hkind := Condition.stumbles_holds c source f hheld
      simp only [hkind]
      exact adds_throw f
    · exact adds_pure b

lemma adds_conditionalWrites (k : Conditional) :
    Adds (if refused e k then 1 else 0) 0 (conditionalWrites e source k) := by
  have hholds := adds_conditionHolds e source k.condition
  have hwrites : ∀ b : Bool, Adds 0 0
      (if b then return k.assignments.map fun a => (a.destination, a.value) else return [] :
        Run (List Write)) := by
    rintro (_ | _)
    · exact adds_pure _
    · exact adds_pure _
  exact adds_bind hholds hwrites

lemma adds_afterConditionals (rules : Rules) (d : Record) :
    Adds (rules.conditionals.countP (refused e)) 0 (afterConditionals e source rules d) := by
  have h := adds_afterWrites (q := fun _ => false) (adds_conditionalWrites e source) d
    rules.conditionals
  rwa [List.countP_false] at h

lemma adds_calculationWrites (mapped : Record) (k : Calculation) :
    Adds 0 (if dropped e source mapped k then 1 else 0) (calculationWrites e source mapped k) := by
  unfold dropped calculationWrites
  rcases calculated e source mapped k with f | v
  · change Adds 0 1 (if f.kind.isExpression || f.kind.isArithmetic then _ else throw f)
    split
    · exact adds_count (fun _ => ⟨rfl, rfl⟩) _
    · exact adds_throw f
  · exact adds_pure _

lemma adds_afterCalculations (rules : Rules) (mapped : Record) :
    Adds 0 (rules.calculations.countP (dropped e source mapped))
      (afterCalculations e source rules mapped) := by
  have h := adds_afterWrites (p := fun _ => false) (adds_calculationWrites e source mapped) mapped
    rules.calculations
  rwa [List.countP_false] at h

lemma adds_translationWrites (t : Translation) : Adds 0 0 (translationWrites source t) := by
  have h : Adds 0 0 (liftM (translated source t) : Run Value) := by
    rcases translated source t with f | v
    · exact adds_throw f
    · exact adds_pure v
  exact adds_map _ h

lemma adds_afterTranslations (rules : Rules) (d : Record) :
    Adds 0 0 (afterTranslations source rules d) := by
  have h := adds_afterWrites (p := fun _ => false) (q := fun _ => false)
    (adds_translationWrites source) d rules.translations
  rwa [List.countP_false] at h

/-- **What a mapping adds to the errors**: the conditions that are not read, and the calculations
that have no value on what the first two stages leave. -/
theorem adds_mapFields {rules : Rules} {mapped : Record}
    (h : assignedRecord e source rules = .ok mapped) :
    Adds (rules.conditionals.countP (refused e))
      (rules.calculations.countP (dropped e source mapped)) (mapFields e source rules) := by
  have hgiven : Gives (afterConditionals e source rules (transferredRecord e source rules))
      (.ok mapped) := h ▸ afterWrites_gives (conditionalWrites_gives e source) _ _
  have hlast := adds_bind (adds_afterCalculations e source rules mapped)
    (adds_afterTranslations source rules)
  have hbefore : Adds (0 + (rules.conditionals.countP (refused e) + (0 + 0)))
      (0 + (0 + (rules.calculations.countP (dropped e source mapped) + 0)))
      (beforeDefaults e source rules) :=
    adds_bind_gives (afterTransfers_gives e source rules) (adds_afterTransfers e source rules)
      (adds_bind_gives hgiven (adds_afterConditionals e source rules _) hlast)
  simp only [Nat.zero_add, Nat.add_zero] at hbefore
  exact adds_map (withDefaults rules.defaults) hbefore

end Crosswalk.Mapping
