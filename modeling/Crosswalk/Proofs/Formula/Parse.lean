import Crosswalk.Formula.Parse
import Crosswalk.Proofs.Fallible

/-!
A text that does not read as a formula is refused with a fault of formulas, whatever it holds.
-/

namespace Crosswalk

open Fallible

/-- The computation has no other faults than those of formulas. -/
abbrev Formula.Refuses {α : Type} (x : Except Fault α) : Prop :=
  Raises (fun f => f.kind = .expression) x

lemma Limits.raises_check (l : Limits) (kind : FaultKind) (what text : String) :
    Raises (fun f => f.kind = kind) (l.check kind what text) := by
  unfold check
  split <;> simp

lemma Limits.check_eq_ok (l : Limits) {kind : FaultKind} {what text : String} {u : Unit} :
    l.check kind what text = .ok u ↔ (text.length : Int) ≤ l.length := by
  unfold check
  split
  · simpa using ‹_›
  · simpa using Int.not_lt.1 ‹_›

namespace Formula

variable {α : Type}

@[simp] lemma refuses_refuse (message : String) : Refuses (refuse message : Except Fault α) := by
  simp [refuse]

@[simp] lemma refuses_unexpected (t : Token) : Refuses (unexpected t : Except Fault α) :=
  refuses_refuse _

lemma refuses_tokensFrom (fuel pos : Nat) (cs : List Char) : Refuses (tokensFrom fuel pos cs) := by
  induction fuel generalizing pos cs with
  | zero => cases cs <;> simp [tokensFrom]
  | succ fuel ih =>
    cases cs with
    | nil => simp [tokensFrom]
    | cons c rest =>
      rw [tokensFrom]
      split
      · exact ih _ _
      · split
        · exact refuses_refuse _
        · exact raises_bind (ih _ _) fun _ _ => by simp

lemma refuses_tokens (cs : List Char) : Refuses (tokens cs) := by
  unfold tokens
  split
  · exact refuses_refuse _
  · exact refuses_tokensFrom _ _ _

lemma refuses_fieldRef (t : Token) : Refuses (fieldRef t) := by
  unfold fieldRef
  dsimp only
  split
  · simp
  · split <;> simp

variable (maxDepth : Int)

mutual

lemma refuses_factor (fuel depth : Nat) (ts : List Token) :
    Refuses (factor maxDepth fuel depth ts) := by
  -- all that fails in a factor is refused by the parser itself
  cases fuel with
  | zero => simp [factor]
  | succ fuel =>
    rw [factor.eq_def]
    dsimp only
    split
    · simp
    · split
      · simp
      · split
        · simp
        · exact raises_bind (refuses_fieldRef _) fun _ _ => by simp
        · split
          · simp
          · exact raises_bind (refuses_factor fuel _ _) fun _ _ => by simp
        · refine raises_bind (refuses_sum fuel _ _) fun p _ => ?_
          split
          · split
            · simp
            · simp
          · simp
        · simp

lemma refuses_term (fuel depth : Nat) (ts : List Token) :
    Refuses (term maxDepth fuel depth ts) := by
  cases fuel with
  | zero => simp [term]
  | succ fuel =>
    rw [term]
    exact raises_bind (refuses_factor fuel _ _) fun p _ => refuses_termRest fuel _ _ _

lemma refuses_termRest (fuel depth : Nat) (left : Formula) (ts : List Token) :
    Refuses (termRest maxDepth fuel depth left ts) := by
  cases fuel with
  | zero => simp [termRest]
  | succ fuel =>
    cases ts with
    | nil => simp [termRest]
    | cons t rest =>
      rw [termRest]
      split
      · simp
      · exact raises_bind (refuses_factor fuel _ _) fun p _ => refuses_termRest fuel _ _ _

lemma refuses_sum (fuel depth : Nat) (ts : List Token) :
    Refuses (sum maxDepth fuel depth ts) := by
  cases fuel with
  | zero => simp [sum]
  | succ fuel =>
    rw [sum]
    exact raises_bind (refuses_term fuel _ _) fun p _ => refuses_sumRest fuel _ _ _

lemma refuses_sumRest (fuel depth : Nat) (left : Formula) (ts : List Token) :
    Refuses (sumRest maxDepth fuel depth left ts) := by
  cases fuel with
  | zero => simp [sumRest]
  | succ fuel =>
    cases ts with
    | nil => simp [sumRest]
    | cons t rest =>
      rw [sumRest]
      split
      · simp
      · exact raises_bind (refuses_term fuel _ _) fun p _ => refuses_sumRest fuel _ _ _

end

/-- **Every text is read or refused.** -/
theorem refuses_parse (l : Limits) (text : String) : Refuses (parse l text) := by
  refine raises_bind (l.raises_check _ _ _) fun _ _ => ?_
  refine raises_bind (refuses_tokens _) fun ts _ => ?_
  unfold ofTokens
  split
  · simp
  · refine raises_bind (refuses_sum _ _ _ _) fun (f, rest) _ => ?_
    cases rest <;> simp

end Formula

end Crosswalk
