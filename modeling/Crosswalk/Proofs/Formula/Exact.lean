import Crosswalk.Proofs.Formula.Machine
import Crosswalk.Proofs.Number.Exact
import Crosswalk.Proofs.Value.Rounding

/-!
Formulas whose value is exact.

A formula denotes a rational number, whatever digits arithmetic keeps. If arithmetic can hold the number
at every operator, none of them rounds, by induction over the tree, so what the evaluation gives is the
number itself. Division is left out, as its result is made in another way.
-/

namespace Crosswalk.Formula

open Decimal (Kept Gives)

def Sign.onRat : Sign → ℚ → ℚ
  | .plus, x => x
  | .minus, x => -x

def Operator.onRat : Operator → ℚ → ℚ → ℚ
  | .add, x, y => x + y
  | .sub, x, y => x - y
  | .mul, x, y => x * y
  | .div, x, y => x / y

section

variable (resolve : FieldRef → Decimal)

/-- The number that a formula denotes. -/
def exact : Formula → ℚ
  | .number d => d.toRat
  | .field r => (resolve r).toRat
  | .signed s operand => s.onRat operand.exact
  | .binary o left right => o.onRat left.exact right.exact

end

def operations : Formula → List Formula
  | .number _ => []
  | .field _ => []
  | .signed s operand => .signed s operand :: operand.operations
  | .binary o left right => .binary o left right :: (left.operations ++ right.operations)

def divides : Formula → Bool
  | .number _ => false
  | .field _ => false
  | .signed _ operand => operand.divides
  | .binary o left right => o = .div || left.divides || right.divides

variable {resolve : FieldRef → Decimal} {x y : Decimal}

lemma Sign.gives_apply {s : Sign} (hx : x.isFinite) (h : Kept (s.onRat x.toRat)) :
    Gives (s.apply x) (s.onRat x.toRat) := by
  cases s with
  | plus => exact Decimal.gives_plus hx h
  | minus => exact Decimal.gives_minus hx h

lemma Operator.gives_apply {o : Operator} (ho : o ≠ .div) (hx : x.isFinite) (hy : y.isFinite)
    (h : Kept (o.onRat x.toRat y.toRat)) : Gives (o.apply x y) (o.onRat x.toRat y.toRat) := by
  cases o with
  | add => exact Decimal.gives_add hx hy h
  | sub => exact Decimal.gives_sub hx hy h
  | mul => exact Decimal.gives_mul hx hy h
  | div => exact absurd rfl ho

lemma value_exact (hr : ∀ r, (resolve r).isFinite) {f : Formula} (hf : f.LiteralsFinite)
    (hdiv : f.divides = false) (h : ∀ g ∈ f.operations, Kept (g.exact resolve)) :
    ∃ d, f.value (total resolve) = .ok d ∧ d.isFinite ∧ d.toRat = f.exact resolve := by
  -- on the formula: at every operator the operands are exact and the result can be held
  induction f with
  | number d => exact ⟨d, rfl, hf, rfl⟩
  | field r => exact ⟨resolve r, rfl, hr r, rfl⟩
  | signed s operand ih =>
    simp only [operations, List.forall_mem_cons] at h
    obtain ⟨x, hx, hxfin, hxvalue⟩ := ih hf hdiv h.2
    obtain ⟨z, hz, hzfin, hzvalue⟩ := Sign.gives_apply (s := s) hxfin (by rw [hxvalue]; exact h.1)
    refine ⟨z, ?_, hzfin, by rw [hzvalue, hxvalue, exact]⟩
    rw [value, hx, Fallible.ok_bind, hz]
    rfl
  | binary o left right ihl ihr =>
    simp only [operations, List.forall_mem_cons, List.forall_mem_append] at h
    simp only [divides, Bool.or_eq_false_iff, decide_eq_false_iff_not] at hdiv
    obtain ⟨x, hx, hxfin, hxvalue⟩ := ihl hf.1 hdiv.1.2 h.2.1
    obtain ⟨y, hy, hyfin, hyvalue⟩ := ihr hf.2 hdiv.2 h.2.2
    obtain ⟨z, hz, hzfin, hzvalue⟩ := Operator.gives_apply hdiv.1.1 hxfin hyfin
      (by rw [hxvalue, hyvalue]; exact h.1)
    refine ⟨z, ?_, hzfin, by rw [hzvalue, hxvalue, hyvalue, exact]⟩
    rw [value, hx, Fallible.ok_bind, hy, Fallible.ok_bind, hz]
    rfl

/-- **Evaluation without division is exact** where arithmetic can hold the number at every operator, and
an amount that is calculated so is what the rounding policy makes of the exact number. -/
theorem evaluateText_exact {l : Limits} {text : String} {f : Formula} (hf : parse l text = .ok f)
    (hdiv : f.divides = false) (hr : ∀ r, (resolve r).isFinite)
    (h : ∀ g ∈ f.operations, Kept (g.exact resolve)) :
    ∃ d, (evaluateText l (total resolve) text).1 = .ok d ∧ d.isFinite ∧
      d.toRat = f.exact resolve ∧
      ∀ (r : Rounding) (y : Decimal), r.apply d = .ok y → r.Makes (f.exact resolve) y.toRat := by
  obtain ⟨d, hd, hfin, hvalue⟩ := value_exact hr (literalsFinite_of_parse hf) hdiv h
  refine ⟨d, ?_, hfin, hvalue, fun r y hy => ?_⟩
  · rw [evaluateText, hf]
    dsimp only
    rw [evaluateLogged_eq, hd]
    rfl
  · rw [← hvalue]
    exact r.makes_of_apply hfin hy

def longFields (r : FieldRef) : Decimal :=
  .ofNat (if r.name = "a" then 10 ^ 29 + 1 else 10 ^ 29)

/-- Fields may have more digits than arithmetic keeps. -/
theorem difference_of_long_exact :
    ∃ f, parse .standard "(a - b) * 0.1" = .ok f ∧ f.divides = false ∧
      (∀ r, (longFields r).isFinite) ∧ (∀ g ∈ f.operations, Kept (g.exact longFields)) ∧
      ∃ d, (evaluateText .standard (total longFields) "(a - b) * 0.1").1 = .ok d ∧ d.isFinite ∧
        d.toRat = f.exact longFields ∧
        ∀ (r : Rounding) (y : Decimal), r.apply d = .ok y →
          r.Makes (f.exact longFields) y.toRat := by
  have hread : parse .standard "(a - b) * 0.1" = .ok (.binary .mul
      (.binary .sub (.field ⟨"a", false⟩) (.field ⟨"b", false⟩))
      (.number (.finite false 1 (-1)))) := by decide +kernel
  have hr : ∀ r, (longFields r).isFinite := fun _ => rfl
  -- the difference of the fields is 1, and a tenth of it is left
  have hkept : ∀ g ∈ operations (.binary .mul
      (.binary .sub (.field ⟨"a", false⟩) (.field ⟨"b", false⟩)) (.number (.finite false 1 (-1)))),
      Kept (g.exact longFields) := by
    have hone := Decimal.kept_of_place (n := 1) (k := 0) (by decide) (by decide) (by decide)
    have htenth := Decimal.kept_of_place (n := 1) (k := -1) (by decide) (by decide) (by decide)
    have ha : longFields ⟨"a", false⟩ = .ofNat (10 ^ 29 + 1) := rfl
    have hb : longFields ⟨"b", false⟩ = .ofNat (10 ^ 29) := rfl
    norm_num [operations, exact, Operator.onRat, ha, hb, Decimal.ofNat, Decimal.toRat,
      Binary64.signed] at hone htenth ⊢
    exact ⟨htenth, hone⟩
  exact ⟨_, hread, rfl, hr, hkept, evaluateText_exact hread rfl hr hkept⟩

end Crosswalk.Formula
