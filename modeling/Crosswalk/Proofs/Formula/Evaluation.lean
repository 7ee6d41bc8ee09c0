import Crosswalk.Formula.Evaluate
import Crosswalk.Proofs.Fallible

/-!
The machine that evaluates formulas computes their value.

Visiting a formula takes `cost` steps. They leave the value on top of the results, if there is one,
and the calls are the fields that an evaluation from left to right asks for, `asked`. From a marked
node downwards the stacks below are arbitrary, which is what lets the two operands of a node follow
one another. The value is therefore a matter of the fields that occur in the formula.
-/

namespace Crosswalk.Formula

open Fallible

variable {resolve : Resolver}

def cost : Formula → Nat
  | .number _ => 1
  | .field _ => 1
  | .signed _ operand => operand.cost + 2
  | .binary _ left right => left.cost + right.cost + 2

variable (resolve) in
/-- The fields that an evaluation from left to right asks for, up to what fails first. -/
def asked : Formula → List FieldRef
  | .number _ => []
  | .field r => [r]
  | .signed _ operand => operand.asked
  | .binary _ left right =>
    left.asked ++
      match left.value resolve with
      | .ok _ => right.asked
      | .error _ => []

lemma cost_lt (f : Formula) : f.cost < 2 * f.size := by
  induction f with
  | number d => simp [cost, size]
  | field r => simp [cost, size]
  | signed s operand ih => simp only [cost, size]; omega
  | binary o left right ihl ihr => simp only [cost, size]; omega

namespace Machine

variable {todo : List (Formula × Bool)} {rs : List Decimal} {cs : List FieldRef}

lemma step_field_ok {r : FieldRef} {d : Decimal} (h : resolve r = .ok d) :
    step resolve ⟨(.field r, false) :: todo, rs, cs⟩ = (⟨todo, d :: rs, cs ++ [r]⟩, .ok ()) := by
  simp [step, h]

lemma step_field_stop {r : FieldRef} {g : Fault} (h : resolve r = .error g) :
    step resolve ⟨(.field r, false) :: todo, rs, cs⟩ = (⟨todo, rs, cs ++ [r]⟩, .error g) := by
  simp [step, h]

lemma step_signed_ok {s : Sign} {operand : Formula} {x d : Decimal}
    (h : Fault.ofDecimal (s.apply x) = .ok d) :
    step resolve ⟨(.signed s operand, true) :: todo, x :: rs, cs⟩ =
      (⟨todo, d :: rs, cs⟩, .ok ()) := by
  rcases ha : s.apply x with e | y <;> simp_all [step, Fault.ofDecimal]

lemma step_signed_stop {s : Sign} {operand : Formula} {x : Decimal} {g : Fault}
    (h : Fault.ofDecimal (s.apply x) = .error g) :
    step resolve ⟨(.signed s operand, true) :: todo, x :: rs, cs⟩ = (⟨todo, rs, cs⟩, .error g) := by
  rcases ha : s.apply x with e | y <;> simp_all [step, Fault.ofDecimal]

lemma step_binary_ok {o : Operator} {left right : Formula} {x y d : Decimal}
    (h : Fault.ofDecimal (o.apply x y) = .ok d) :
    step resolve ⟨(.binary o left right, true) :: todo, y :: x :: rs, cs⟩ =
      (⟨todo, d :: rs, cs⟩, .ok ()) := by
  rcases ha : o.apply x y with e | z <;> simp_all [step, Fault.ofDecimal]

lemma step_binary_stop {o : Operator} {left right : Formula} {x y : Decimal} {g : Fault}
    (h : Fault.ofDecimal (o.apply x y) = .error g) :
    step resolve ⟨(.binary o left right, true) :: todo, y :: x :: rs, cs⟩ =
      (⟨todo, rs, cs⟩, .error g) := by
  rcases ha : o.apply x y with e | z <;> simp_all [step, Fault.ofDecimal]

lemma run_succ {n : Nat} {m : Machine} {x : Formula × Bool}
    (h : step resolve ⟨x :: todo, rs, cs⟩ = (m, .ok ())) :
    run resolve (n + 1) ⟨x :: todo, rs, cs⟩ = run resolve n m := by
  simp [run, h]

lemma run_stop {n : Nat} {m : Machine} {x : Formula × Bool} {g : Fault}
    (h : step resolve ⟨x :: todo, rs, cs⟩ = (m, .error g)) :
    run resolve (n + 1) ⟨x :: todo, rs, cs⟩ = (m, .error g) := by
  simp [run, h]

lemma run_done (n : Nat) : run resolve n ⟨[], rs, cs⟩ = (⟨[], rs, cs⟩, .ok ()) := by
  cases n <;> rfl

variable (todo rs cs)

lemma run_visit {f : Formula} {d : Decimal} (h : f.value resolve = .ok d) (n : Nat) :
    run resolve (n + f.cost) ⟨(f, false) :: todo, rs, cs⟩ =
      run resolve n ⟨todo, d :: rs, cs ++ f.asked resolve⟩ := by
  -- on the formula: its operands are visited first, and leave their values on top
  induction f generalizing d n todo rs cs with
  | number x =>
    simp only [value, Except.ok.injEq] at h
    subst h
    rw [cost, asked, List.append_nil]
    exact run_succ rfl
  | field r => exact run_succ (step_field_ok h)
  | signed s operand ih =>
    obtain ⟨x, hx, hd⟩ := bind_eq_ok.1 h
    rw [cost, ← Nat.add_assoc, run_succ rfl, Nat.add_right_comm, ih _ _ _ hx]
    exact run_succ (step_signed_ok hd)
  | binary o left right ihl ihr =>
    obtain ⟨x, hx, h⟩ := bind_eq_ok.1 h
    obtain ⟨y, hy, hd⟩ := bind_eq_ok.1 h
    rw [cost, show n + (left.cost + right.cost + 2) = n + 1 + right.cost + left.cost + 1 by omega,
      run_succ rfl, ihl _ _ _ hx, ihr _ _ _ hy, run_succ (step_binary_ok hd)]
    simp [asked, hx]

/-- A formula without a value stops the run with its fault. -/
lemma run_visit_stop {f : Formula} {g : Fault} (h : f.value resolve = .error g) (n : Nat) :
    ∃ m, run resolve (n + f.cost) ⟨(f, false) :: todo, rs, cs⟩ = (m, .error g) ∧
      m.calls = cs ++ f.asked resolve := by
  induction f generalizing n todo rs cs with
  | number x => simp [value] at h
  | field r => exact ⟨_, run_stop (step_field_stop h), rfl⟩
  | signed s operand ih =>
    rw [cost, ← Nat.add_assoc, run_succ rfl, Nat.add_right_comm]
    rcases hx : operand.value resolve with g' | x
    · simp only [value, hx, error_bind, Except.error.injEq] at h
      subst h
      exact ih _ _ _ hx _
    · simp only [value, hx, ok_bind] at h
      rw [run_visit _ _ _ hx]
      exact ⟨_, run_stop (step_signed_stop h), rfl⟩
  | binary o left right ihl ihr =>
    rw [cost, show n + (left.cost + right.cost + 2) = n + 1 + right.cost + left.cost + 1 by omega,
      run_succ rfl]
    -- the first part without a value stops the run, and nothing behind it is asked for
    rcases hx : left.value resolve with g' | x
    · simp only [value, hx, error_bind, Except.error.injEq] at h
      subst h
      simpa [asked, hx] using ihl _ rs cs hx (n + 1 + right.cost)
    · rw [run_visit _ _ _ hx]
      rcases hy : right.value resolve with g' | y
      · simp only [value, hx, hy, ok_bind, error_bind, Except.error.injEq] at h
        subst h
        simpa [asked, hx] using ihr _ (x :: rs) (cs ++ left.asked resolve) hy (n + 1)
      · simp only [value, hx, hy, ok_bind] at h
        rw [run_visit _ _ _ hy]
        exact ⟨_, run_stop (step_binary_stop h), by simp [asked, hx]⟩

end Machine

/-- **The machine gives the value** of a formula, and asks for its fields from left to right. -/
theorem evaluateLogged_eq (resolve : Resolver) (f : Formula) :
    evaluateLogged resolve f =
      ((f.value resolve).mapError evaluationFault, f.asked resolve) := by
  obtain ⟨n, hn⟩ := Nat.exists_eq_add_of_lt (cost_lt f)
  rw [evaluateLogged, Machine.start, show 2 * f.size = n + 1 + f.cost by omega]
  rcases h : f.value resolve with g | d
  · obtain ⟨m, hm, hc⟩ := Machine.run_visit_stop [] [] [] h (n + 1)
    simp [hm, hc, Except.mapError]
  · simp [Machine.run_visit _ _ _ h, Machine.run_done, Except.mapError]

lemma evaluate_eq (resolve : Resolver) (f : Formula) :
    f.evaluate resolve = (f.value resolve).mapError evaluationFault := by
  rw [evaluate, evaluateLogged_eq]

/-! ### Faults of fields -/

lemma raises_value {P : Fault → Prop} (hr : ∀ r, Raises P (resolve r)) (f : Formula) :
    Raises (fun g => g.kind.isArithmetic ∨ P g) (f.value resolve) := by
  induction f with
  | number d => simp [value]
  | field r => exact raises_mono (fun g => .inr) (hr r)
  | signed s operand ih =>
    refine raises_bind ih fun x _ => ?_
    exact raises_mono (fun g => .inl) (Fault.raises_ofDecimal _)
  | binary o left right ihl ihr =>
    refine raises_bind ihl fun x _ => raises_bind ihr fun y _ => ?_
    exact raises_mono (fun g => .inl) (Fault.raises_ofDecimal _)

lemma addName_eraseDups (names : List String) (name : String) :
    addName names.eraseDups name = (names ++ [name]).eraseDups := by
  rw [addName, List.eraseDups_append]
  by_cases h : name ∈ names <;> simp [h, List.removeAll, List.eraseDups_cons]

lemma namesFrom_visit (f : Formula) (n : Nat) (todo : List Formula) (names : List String) :
    namesFrom (n + f.size) (f :: todo) names.eraseDups =
      namesFrom n todo (names ++ f.refs.map (·.name)).eraseDups := by
  induction f generalizing n todo names with
  | number d => rw [refs, List.map_nil, List.append_nil]; rfl
  | field r => rw [size, namesFrom, addName_eraseDups]; rfl
  | signed s operand ih => rw [size, ← Nat.add_assoc, namesFrom, ih, refs]
  | binary o left right ihl ihr =>
    rw [size, show n + (left.size + right.size + 1) = n + right.size + left.size + 1 by omega,
      namesFrom, ihl, ihr, refs, List.map_append, List.append_assoc]

lemma fieldNames_eq (f : Formula) : f.fieldNames = (f.refs.map (·.name)).eraseDups := by
  have h := namesFrom_visit f 0 [] []
  rwa [Nat.zero_add] at h

lemma mem_fieldNames {f : Formula} {name : String} :
    name ∈ f.fieldNames ↔ ∃ r ∈ f.refs, r.name = name := by
  simp [fieldNames_eq]

/-! ### Dependence on fields -/

lemma value_congr {resolve' : Resolver} {f : Formula} (h : ∀ r ∈ f.refs, resolve r = resolve' r) :
    f.value resolve = f.value resolve' := by
  induction f with
  | number d => rfl
  | field r => exact h r (List.mem_singleton_self r)
  | signed s operand ih => rw [value, value, ih h]
  | binary o left right ihl ihr =>
    have hleft := ihl fun r hr => h r (List.mem_append_left _ hr)
    have hright := ihr fun r hr => h r (List.mem_append_right _ hr)
    rw [value, value, hleft, hright]

lemma evaluate_congr {resolve' : Resolver} {f : Formula}
    (h : ∀ r ∈ f.refs, resolve r = resolve' r) : f.evaluate resolve = f.evaluate resolve' := by
  rw [evaluate_eq, evaluate_eq, value_congr h]

end Crosswalk.Formula
