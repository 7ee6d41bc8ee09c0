import Crosswalk.Condition.Parse

/-!
How formulas and conditions are read while records are mapped.

`Readers.within` reads every text afresh under given limits. A `Memo` remembers the texts that it has
read last, whatever the limits were then; refused texts are not remembered.
-/

namespace Crosswalk

structure Readers where
  formula : String → Except Fault Formula
  condition : String → Except Fault Condition

def Readers.within (l : Limits) : Readers := ⟨Formula.parse l, Condition.parse l⟩

/-- Texts with what they were read as, the latest first. -/
structure Memo (α : Type) where
  entries : List (String × α)

namespace Memo

variable {α : Type}

def empty : Memo α := ⟨[]⟩

/-- How many texts are remembered. -/
def capacity : Nat := 1024

/-- Reads a text, from memory if it is there. -/
def read (parse : String → Except Fault α) (m : Memo α) (text : String) : Except Fault α × Memo α :=
  match List.lookup text m.entries with
  | some x => (.ok x, ⟨(text, x) :: m.entries.filter fun e => e.1 ≠ text⟩)
  | none =>
    match parse text with
    | .ok x => (.ok x, ⟨((text, x) :: m.entries).take capacity⟩)
    | .error f => (.error f, m)

/-- The memo after reading some texts in order. -/
def afterReading (parse : String → Except Fault α) (m : Memo α) (texts : List String) : Memo α :=
  texts.foldl (fun m s => (m.read parse s).2) m

end Memo

/-- The memos of formulas and of conditions. -/
structure Memory where
  formulas : Memo Formula
  conditions : Memo Condition

namespace Memory

def empty : Memory := ⟨.empty, .empty⟩

/-- Reads from memory where it can, and under the given limits otherwise. -/
def readers (m : Memory) (l : Limits) : Readers where
  formula s := (m.formulas.read (Formula.parse l) s).1
  condition s := (m.conditions.read (Condition.parse l) s).1

def afterReading (m : Memory) (l : Limits) (formulas conditions : List String) : Memory :=
  ⟨m.formulas.afterReading (Formula.parse l) formulas,
    m.conditions.afterReading (Condition.parse l) conditions⟩

end Memory

/-- The text of a value that is to be read, a formula or a condition. -/
def readableText (kind : FaultKind) (what : String) (v : Value) : Except Fault String :=
  match v with
  | .text s => .ok s
  | v =>
    match v.unhashable? with
    | some f => .error f
    | none => .error ⟨kind, what ++ " must be a string"⟩

def Formula.ofValue (l : Limits) (v : Value) : Except Fault Formula := do
  Formula.parse l (← readableText .expression "Formula" v)

def Condition.ofValue (l : Limits) (v : Value) : Except Fault Condition := do
  Condition.parse l (← readableText .conditionForm "Condition" v)

end Crosswalk
