import Crosswalk.Formula.Parse

/-!
Evaluating formulas.

`Machine` walks a tree with a stack of nodes to visit and a stack of results; `calls` are the fields that
it has asked for. A node with operands is put back, marked, below its operands. `value` is the same
by recursion. Every failure of arithmetic is reported as one of the formula.
-/

namespace Crosswalk.Formula

abbrev Resolver := FieldRef → Except Fault Decimal

structure Machine where
  /-- Nodes to visit; a marked node has its operands among the results. -/
  todo : List (Formula × Bool)
  results : List Decimal
  calls : List FieldRef

namespace Machine

def start (f : Formula) : Machine := ⟨[(f, false)], [], []⟩

/-- The machine after a step, or with the fault that stopped it. -/
def step (resolve : Resolver) (m : Machine) : Machine × Except Fault Unit :=
  match m.todo with
  | [] => (m, .ok ())
  | (f, marked) :: todo =>
    match f, marked, m.results with
    | .number d, _, results => ({ m with todo, results := d :: results }, .ok ())
    | .field r, _, results =>
      let m := { m with todo, calls := m.calls ++ [r] }
      match resolve r with
      | .ok d => ({ m with results := d :: results }, .ok ())
      | .error e => (m, .error e)
    | .signed _ operand, false, _ =>
      ({ m with todo := (operand, false) :: (f, true) :: todo }, .ok ())
    | .binary _ left right, false, _ =>
      ({ m with todo := (left, false) :: (right, false) :: (f, true) :: todo }, .ok ())
    | .signed s _, true, x :: results =>
      match s.apply x with
      | .ok d => ({ m with todo, results := d :: results }, .ok ())
      | .error e => ({ m with todo, results }, .error (.ofSignal e))
    | .binary o _ _, true, y :: x :: results =>
      match o.apply x y with
      | .ok d => ({ m with todo, results := d :: results }, .ok ())
      | .error e => ({ m with todo, results }, .error (.ofSignal e))
    | _, true, _ => ({ m with todo }, .ok ())

/-- Runs until nothing is left to visit or a step fails. -/
def run (resolve : Resolver) (fuel : Nat) (m : Machine) : Machine × Except Fault Unit :=
  match fuel, m.todo with
  | fuel + 1, _ :: _ =>
    match step resolve m with
    | (m, .ok ()) => run resolve fuel m
    | stopped => stopped
  | _, _ => (m, .ok ())

end Machine

/-- A failure of arithmetic as a failure of the formula. -/
def evaluationFault (f : Fault) : Fault :=
  if f.kind.isArithmetic then ⟨.expression, "Formula evaluation failed: " ++ f.kind.name⟩ else f

/-- The value of a formula, and the fields that were asked for in order. -/
def evaluateLogged (resolve : Resolver) (f : Formula) : Except Fault Decimal × List FieldRef :=
  match (Machine.start f).run resolve (2 * f.size) with
  | (m, .ok ()) => (.ok (m.results.headD .zero), m.calls)
  | (m, .error e) => (.error (evaluationFault e), m.calls)

def evaluate (resolve : Resolver) (f : Formula) : Except Fault Decimal :=
  (evaluateLogged resolve f).1

/-- Reads a formula and evaluates it. -/
def evaluateText (l : Limits) (resolve : Resolver) (text : String) :
    Except Fault Decimal × List FieldRef :=
  match parse l text with
  | .ok f => f.evaluateLogged resolve
  | .error e => (.error e, [])

/-- The value by recursion, operands from left to right. -/
def value (resolve : Resolver) : Formula → Except Fault Decimal
  | .number d => .ok d
  | .field r => resolve r
  | .signed s operand => do Fault.ofDecimal (s.apply (← value resolve operand))
  | .binary o left right => do
    let x ← value resolve left
    Fault.ofDecimal (o.apply x (← value resolve right))

end Crosswalk.Formula
