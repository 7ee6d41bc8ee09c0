import Crosswalk.Proofs.Formula.Derivation
import Crosswalk.Proofs.Formula.Evaluation
import Crosswalk.Proofs.Number.Decimal

/-!
Evaluating a text.

Next to its value, an evaluation shows the fields it asks for and the stack it works on. With a number
for every field, the fields are those of the formula from left to right, up to the first operator that
fails, and the stack has the operands of every operator that is applied.
-/

namespace Crosswalk.Formula

open Fallible

/-! ### The stack of results -/

/-- How many results a node takes. -/
def arity : Formula → Nat
  | .number _ => 0
  | .field _ => 0
  | .signed _ _ => 1
  | .binary _ _ _ => 2

namespace Machine

def Underflows (m : Machine) : Prop :=
  ∃ f todo, m.todo = (f, true) :: todo ∧ m.results.length < f.arity

/-- With `k` results, every node to visit has its operands, and the last one leaves one result. -/
def Balanced : List (Formula × Bool) → Nat → Prop
  | [], k => k = 1
  | (_, false) :: todo, k => Balanced todo (k + 1)
  | (f, true) :: todo, k => f.arity ≤ k ∧ Balanced todo (k - f.arity + 1)

variable {resolve : Resolver} {m m' : Machine}

lemma not_underflows (h : Balanced m.todo m.results.length) : ¬ m.Underflows := by
  rintro ⟨f, todo, htodo, hlt⟩
  rw [htodo] at h
  exact absurd h.1 (Nat.not_le.2 hlt)

/-- A step keeps the balance. -/
lemma balanced_step (h : Balanced m.todo m.results.length)
    (hstep : step resolve m = (m', .ok ())) : Balanced m'.todo m'.results.length := by
  -- a node comes up twice: to have its operands visited, and to take their results
  obtain ⟨todo, results, calls⟩ := m
  rcases todo with _ | ⟨⟨f, marked⟩, todo⟩
  · cases hstep
    exact h
  cases f with
  | number d =>
    cases hstep
    cases marked with
    | false => exact h
    | true => exact h.2
  | field r =>
    simp only [step] at hstep
    split at hstep <;> cases hstep
    cases marked with
    | false => exact h
    | true => exact h.2
  | signed s operand =>
    cases marked with
    | false =>
      cases hstep
      exact ⟨Nat.le_add_left 1 _, h⟩
    | true =>
      obtain ⟨harity, h⟩ := h
      rcases results with _ | ⟨x, results⟩
      · cases harity
      · simp only [step] at hstep
        split at hstep <;> cases hstep
        exact h
  | binary o left right =>
    cases marked with
    | false =>
      cases hstep
      exact ⟨Nat.le_add_left 2 _, h⟩
    | true =>
      obtain ⟨harity, h⟩ := h
      rcases results with _ | ⟨y, _ | ⟨x, results⟩⟩
      · cases harity
      · simp [arity] at harity
      · simp only [step] at hstep
        split at hstep <;> cases hstep
        exact h

lemma balanced_run {n : Nat} (h : Balanced m.todo m.results.length)
    (hrun : run resolve n m = (m', .ok ())) : Balanced m'.todo m'.results.length := by
  induction n generalizing m with
  | zero =>
    simp only [run] at hrun
    cases hrun
    exact h
  | succ n ih =>
    unfold run at hrun
    split at hrun
    · next hn _ =>
      cases hn
      split at hrun
      next m'' hstep => exact ih (balanced_step h hstep) hrun
      next hne => exact absurd hrun (by simpa using hne m')
    · cases hrun
      exact h

lemma balanced_start (f : Formula) : Balanced (start f).todo (start f).results.length := rfl

/-- **No node is reached without its operands**, whatever the fields give. -/
theorem run_start_not_underflows (resolve : Resolver) (f : Formula) {n : Nat}
    (h : run resolve n (start f) = (m, .ok ())) : ¬ m.Underflows :=
  not_underflows (balanced_run (balanced_start f) h)

end Machine

/-! ### Numbers for all fields -/

def total (resolve : FieldRef → Decimal) : Resolver := fun r => .ok (resolve r)

variable {resolve : FieldRef → Decimal}

def LiteralsFinite : Formula → Prop
  | .number d => d.isFinite
  | .field _ => True
  | .signed _ operand => operand.LiteralsFinite
  | .binary _ left right => left.LiteralsFinite ∧ right.LiteralsFinite

lemma isFinite_literal (t : Token) : (literal t).isFinite := by
  unfold literal
  split <;> rfl

namespace Grammar

mutual

lemma Factor.literalsFinite : (d : Factor) → d.formula.LiteralsFinite
  | .number t _ => isFinite_literal t
  | .field _ _ => trivial
  | .signed _ _ _ _ operand => operand.literalsFinite
  | .group _ _ _ _ inner => inner.literalsFinite

lemma Term.literalsFinite : (d : Term) → d.formula.LiteralsFinite
  | .mk head rest => rest.literalsFinite head.literalsFinite

lemma Factors.literalsFinite :
    (d : Factors) → {left : Formula} → left.LiteralsFinite → (d.formula left).LiteralsFinite
  | .done, _, h => h
  | .more _ _ _ _ head rest, _, h => rest.literalsFinite ⟨h, head.literalsFinite⟩

lemma Sum.literalsFinite : (d : Sum) → d.formula.LiteralsFinite
  | .mk head rest => rest.literalsFinite head.literalsFinite

lemma Terms.literalsFinite :
    (d : Terms) → {left : Formula} → left.LiteralsFinite → (d.formula left).LiteralsFinite
  | .done, _, h => h
  | .more _ _ _ _ head rest, _, h => rest.literalsFinite ⟨h, head.literalsFinite⟩

end

end Grammar

lemma literalsFinite_of_parse {l : Limits} {text : String} {f : Formula}
    (h : parse l text = .ok f) : f.LiteralsFinite := by
  obtain ⟨d, -, rfl⟩ := (parse_eq_ok l text f).1 h
  exact d.literalsFinite

lemma Sign.isFinite_of_apply {s : Sign} {x z : Decimal} (hx : x.isFinite)
    (h : s.apply x = .ok z) : z.isFinite := by
  cases s with
  | plus => exact Decimal.isFinite_of_plus hx h
  | minus => exact Decimal.isFinite_of_minus hx h

lemma Operator.isFinite_of_apply {o : Operator} {x y z : Decimal} (hx : x.isFinite)
    (hy : y.isFinite) (h : o.apply x y = .ok z) : z.isFinite := by
  cases o with
  | add => exact Decimal.isFinite_of_add hx hy h
  | sub => exact Decimal.isFinite_of_sub hx hy h
  | mul => exact Decimal.isFinite_of_mul hx hy h
  | div => exact Decimal.isFinite_of_div hx hy h

lemma isFinite_of_value {resolve : Resolver} (hr : ∀ r d, resolve r = .ok d → d.isFinite)
    {f : Formula} (hf : f.LiteralsFinite) {d : Decimal} (h : f.value resolve = .ok d) :
    d.isFinite := by
  induction f generalizing d with
  | number x =>
    cases h
    exact hf
  | field r => exact hr r d h
  | signed s operand ih =>
    obtain ⟨x, hx, h⟩ := bind_eq_ok.1 h
    exact Sign.isFinite_of_apply (ih hf hx) (Fault.ofDecimal_eq_ok.1 h)
  | binary o left right ihl ihr =>
    obtain ⟨x, hx, h⟩ := bind_eq_ok.1 h
    obtain ⟨y, hy, h⟩ := bind_eq_ok.1 h
    exact Operator.isFinite_of_apply (ihl hf.1 hx) (ihr hf.2 hy) (Fault.ofDecimal_eq_ok.1 h)

lemma raises_value_total (f : Formula) :
    Raises (·.kind.isArithmetic) (f.value (total resolve)) := by
  have hfields : ∀ r, Raises (fun _ => False) (total resolve r) := fun r => by simp [total]
  exact raises_mono (fun g hg => hg.resolve_right id) (raises_value hfields f)

/-! ### The fields that are asked for -/

/-- The first operator of a formula that fails does so when the fields `cs` have been asked for. -/
inductive StopsAfter (resolve : Resolver) : Formula → List FieldRef → Prop
  | sign {s operand x e} (value : operand.value resolve = .ok x) (fails : s.apply x = .error e) :
    StopsAfter resolve (.signed s operand) operand.refs
  | operand {s operand cs} (stops : StopsAfter resolve operand cs) :
    StopsAfter resolve (.signed s operand) cs
  | operator {o left right x y e} (left_value : left.value resolve = .ok x)
    (right_value : right.value resolve = .ok y) (fails : o.apply x y = .error e) :
    StopsAfter resolve (.binary o left right) (left.refs ++ right.refs)
  | left {o left right cs} (stops : StopsAfter resolve left cs) :
    StopsAfter resolve (.binary o left right) cs
  | right {o left right x cs} (left_value : left.value resolve = .ok x)
    (stops : StopsAfter resolve right cs) :
    StopsAfter resolve (.binary o left right) (left.refs ++ cs)

lemma asked_of_value {resolve : Resolver} {f : Formula} {d : Decimal}
    (h : f.value resolve = .ok d) : f.asked resolve = f.refs := by
  induction f generalizing d with
  | number x => rfl
  | field r => rfl
  | signed s operand ih =>
    obtain ⟨x, hx, -⟩ := bind_eq_ok.1 h
    exact ih hx
  | binary o left right ihl ihr =>
    obtain ⟨x, hx, h⟩ := bind_eq_ok.1 h
    obtain ⟨y, hy, -⟩ := bind_eq_ok.1 h
    rw [asked, refs, ihl hx, hx, ihr hy]

lemma stopsAfter_asked {f : Formula} {g : Fault} (h : f.value (total resolve) = .error g) :
    StopsAfter (total resolve) f (f.asked (total resolve)) := by
  induction f generalizing g with
  | number x => cases h
  | field r => cases h
  | signed s operand ih =>
    rw [asked]
    rcases hx : operand.value (total resolve) with g' | x
    · exact .operand (ih hx)
    · rw [asked_of_value hx]
      rcases ha : s.apply x with e | z
      · exact .sign hx ha
      · simp [value, hx, ha, Fault.ofDecimal] at h
  | binary o left right ihl ihr =>
    rw [asked]
    rcases hx : left.value (total resolve) with g' | x
    · simpa using StopsAfter.left (ihl hx)
    · -- the left operand has a value, so all of its fields have been asked for
      rw [asked_of_value hx]
      rcases hy : right.value (total resolve) with g' | y
      · exact .right hx (ihr hy)
      · rw [asked_of_value hy]
        rcases ha : o.apply x y with e | z
        · exact .operator hx hy ha
        · simp [value, hx, hy, ha, Fault.ofDecimal] at h

/-! ### Texts -/

/-- What the evaluation of a formula gives, and how, with a number for every field. -/
structure Agrees (resolve : FieldRef → Decimal) (f : Formula)
    (out : Except Fault Decimal × List FieldRef) : Prop where
  /-- The recursion's value, where a failure of arithmetic is one of the formula. -/
  value : out.1 = (f.value (total resolve)).mapError evaluationFault
  finite : ∀ d, out.1 = .ok d → d.isFinite
  refused : ∀ g, out.1 = .error g → g.kind = .expression
  calls : ∀ d, out.1 = .ok d → out.2 = f.refs
  stops : ∀ g, out.1 = .error g → StopsAfter (total resolve) f out.2
  operands : ∀ n m, Machine.run (total resolve) n (.start f) = (m, .ok ()) → ¬ m.Underflows
  one_result : ∀ d, out.1 = .ok d →
    Machine.run (total resolve) (2 * f.size) (.start f) = (⟨[], [d], f.refs⟩, .ok ())

lemma run_start_of_value {resolve : Resolver} {f : Formula} {d : Decimal}
    (h : f.value resolve = .ok d) :
    Machine.run resolve (2 * f.size) (.start f) = (⟨[], [d], f.refs⟩, .ok ()) := by
  obtain ⟨n, hn⟩ := Nat.exists_eq_add_of_lt (cost_lt f)
  rw [Machine.start, show 2 * f.size = n + 1 + f.cost by omega, Machine.run_visit _ _ _ h,
    Machine.run_done, asked_of_value h, List.nil_append]

lemma evaluateLogged_agrees (hr : ∀ r, (resolve r).isFinite) {f : Formula}
    (hf : f.LiteralsFinite) : Agrees resolve f (f.evaluateLogged (total resolve)) := by
  have hfields : ∀ r d, total resolve r = .ok d → d.isFinite :=
    fun r d hd => Except.ok.inj hd ▸ hr r
  rw [evaluateLogged_eq]
  refine ⟨rfl, fun d hd => isFinite_of_value hfields hf (mapError_eq_ok.1 hd), fun g hg => ?_,
    fun d hd => asked_of_value (mapError_eq_ok.1 hd), fun g hg => ?_,
    fun n m h => Machine.run_start_not_underflows _ f h,
    fun d hd => run_start_of_value (mapError_eq_ok.1 hd)⟩
  · obtain ⟨g', hg', rfl⟩ := mapError_eq_error.1 hg
    simp [evaluationFault, raises_value_total f g' hg']
  · obtain ⟨g', hg', -⟩ := mapError_eq_error.1 hg
    exact stopsAfter_asked hg'

/-- **The machine computes what the recursion does** for every text: the same finite value or a fault
of formulas, from the same fields in the same order, with one result in the end. Without a formula it
asks for no field. -/
theorem evaluateText_agrees (hr : ∀ r, (resolve r).isFinite) (l : Limits) (text : String) :
    (∀ f, parse l text = .ok f → Agrees resolve f (evaluateText l (total resolve) text)) ∧
      ∀ g, parse l text = .error g →
        evaluateText l (total resolve) text = (.error g, []) ∧ g.kind = .expression := by
  refine ⟨fun f hf => ?_, fun g hg => ⟨?_, refuses_parse l text g hg⟩⟩
  · rw [evaluateText, hf]
    exact evaluateLogged_agrees hr (literalsFinite_of_parse hf)
  · rw [evaluateText, hg]

/-- An operator that fails ends the calls. -/
theorem quotient_by_difference_agrees :
    (evaluateText .standard (total fun _ => .ofNat 2) "a / (b - c) + d").2 =
        [⟨"a", false⟩, ⟨"b", false⟩, ⟨"c", false⟩] ∧
      ∃ f, parse .standard "a / (b - c) + d" = .ok f ∧
        Agrees (fun _ => .ofNat 2) f
          (evaluateText .standard (total fun _ => .ofNat 2) "a / (b - c) + d") := by
  have hread : parse .standard "a / (b - c) + d" = .ok (.binary .add
      (.binary .div (.field ⟨"a", false⟩)
        (.binary .sub (.field ⟨"b", false⟩) (.field ⟨"c", false⟩)))
      (.field ⟨"d", false⟩)) := by decide +kernel
  exact ⟨by decide +kernel, _, hread, (evaluateText_agrees (fun _ => rfl) _ _).1 _ hread⟩

end Crosswalk.Formula
