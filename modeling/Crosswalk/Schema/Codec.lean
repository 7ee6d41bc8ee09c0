import Crosswalk.Fault
import Crosswalk.Number.DecimalText
import Crosswalk.Schema.Issue
import Crosswalk.Value

/-!
Codecs: how a type is read from values and given back as one.

`dump` gives everything back. `dumpGiven` leaves out the fields of records that the value it was read from
did not have. A row is a dump of what a JSON text can hold, and free values go into it to a bounded depth
only.
-/

namespace Crosswalk

/-- How a dump is written. -/
structure Style where
  /-- Keys in camel case. -/
  camelKeys : Bool
  /-- Only what a JSON text can hold. -/
  json : Bool
deriving DecidableEq

namespace Style

def plain : Style := ⟨false, false⟩

/-- The style of stored rows and of audit events. -/
def row : Style := ⟨false, true⟩

end Style

structure Codec (α : Type) where
  read : Value → Reading α
  dump : Style → α → Value
  dumpGiven : Style → Value → α → Value
  /-- How deep the free values inside go. -/
  depth : α → Nat

namespace Value

mutual

/-- The value with what a JSON text cannot hold replaced by its text, or by null. -/
def forJson : Value → Value
  | .float (.finite s m e) => .float (.finite s m e)
  | .float _ => .null
  | .decimal d => .text d.text
  | .moment t => .text t.rowText
  | .date d => .text d.iso
  | .list vs => .list (allForJson vs)
  | .tuple vs => .list (allForJson vs)
  | .object fs => .object (fieldsForJson fs)
  | v => v

def allForJson : List Value → List Value
  | [] => []
  | v :: vs => forJson v :: allForJson vs

def fieldsForJson : List (String × Value) → List (String × Value)
  | [] => []
  | (k, v) :: fs => (k, forJson v) :: fieldsForJson fs

end

mutual

/-- How deep a value goes: one level for itself and those of its deepest part. -/
def depth : Value → Nat
  | .list vs => depthOfAll vs + 1
  | .tuple vs => depthOfAll vs + 1
  | .object fs => depthOfFields fs + 1
  | _ => 1

def depthOfAll : List Value → Nat
  | [] => 0
  | v :: vs => max (depth v) (depthOfAll vs)

def depthOfFields : List (String × Value) → Nat
  | [] => 0
  | (_, v) :: fs => max (depth v) (depthOfFields fs)

end

/-- The items of a list or a tuple. -/
def items? : Value → Option (List Value)
  | .list vs => some vs
  | .tuple vs => some vs
  | _ => none

def fields? : Value → Option (Table Value)
  | .object fs => some fs
  | _ => none

end Value

namespace Codec

variable {α : Type}

/-- A codec of a type without records inside. -/
def leaf (read : Value → Reading α) (dump : Style → α → Value) : Codec α :=
  ⟨read, dump, fun style _ x => dump style x, fun _ => 0⟩

/-- Any value at all. -/
def any : Codec Value :=
  { leaf .ok fun style v => if style.json then v.forJson else v with depth := Value.depth }

/-- Null, or what the codec reads. -/
def nullable (c : Codec α) : Codec (Option α) where
  read
    | .null => .ok none
    | v => (c.read v).map some
  dump style
    | none => .null
    | some x => c.dump style x
  dumpGiven style v
    | none => .null
    | some x => c.dumpGiven style v x
  depth
    | none => 0
    | some x => c.depth x

/-- The depth of the deepest of some items. -/
def deepest (c : Codec α) (xs : List α) : Nat := xs.foldr (fun x d => max (c.depth x) d) 0

/-- Reads the items of a list from position `i` on. -/
def readItems (c : Codec α) (i : Nat) : List Value → Reading (List α)
  | [] => .ok []
  | v :: vs => Reading.both List.cons ((c.read v).under (toString i)) (readItems c (i + 1) vs)

def list (c : Codec α) : Codec (List α) where
  read v :=
    match v.items? with
    | some vs => readItems c 0 vs
    | none => Reading.refuse .listType
  dump style xs := .list (xs.map (c.dump style))
  dumpGiven style v xs := .list (List.zipWith (c.dumpGiven style) (v.items?.getD []) xs)
  depth := c.deepest

/-- Reads the entries of a table. -/
def readEntries (c : Codec α) : Table Value → Reading (Table α)
  | [] => .ok []
  | (k, v) :: fs => Reading.both (fun x xs => (k, x) :: xs) ((c.read v).under k) (readEntries c fs)

def table (c : Codec α) : Codec (Table α) where
  read v :=
    match v.fields? with
    | some fs => readEntries c fs
    | none => Reading.refuse .tableType
  dump style t := .object (t.map fun e => (e.1, c.dump style e.2))
  dumpGiven style v t :=
    .object (List.zipWith (fun f e => (e.1, c.dumpGiven style f.2 e.2)) (v.fields?.getD []) t)
  depth t := c.deepest (t.map (·.2))

/-- One of the members of a list, written by its name. -/
def choice (members : List α) (name : α → String) : Codec α :=
  leaf
    (fun
      | .text s =>
        match members.find? fun x => name x = s with
        | some x => .ok x
        | none => Reading.refuse .choice
      | _ => Reading.refuse .choice)
    fun _ x => .text (name x)

/-- Rewrites a value before it is read. -/
def prepared (prepare : Value → Value) (c : Codec α) : Codec α where
  read v := c.read (prepare v)
  dump := c.dump
  dumpGiven style v := c.dumpGiven style (prepare v)
  depth := c.depth

/-- Refuses what has been read if it fails a test. -/
def checked (test : α → Bool) (c : Codec α) : Codec α where
  read v :=
    match c.read v with
    | .ok x => if test x then .ok x else Reading.refuse .rejected
    | .error is => .error is
  dump := c.dump
  dumpGiven := c.dumpGiven
  depth := c.depth

/-- How deep free values may go in a row. -/
def maxDepth : Nat := 255

/-- Whether something goes too deep for a row. -/
def isTooDeep (c : Codec α) (x : α) : Bool := decide (maxDepth < c.depth x)

/-- What is stored of something and sent in its place. -/
def row (c : Codec α) (x : α) : Except Fault Value :=
  if c.isTooDeep x then .error .tooDeep else .ok (c.dump .row x)

end Codec

end Crosswalk
