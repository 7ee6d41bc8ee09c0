import Crosswalk.Schema.Codec
import Crosswalk.Text.KeyStyle

/-!
Schemas of records: their fields in order.

A field is read from its key in camel case or, where that is absent, from its name in snake case. Other keys
are passed over. The values of the fields are nested pairs, which a record type builds from and gives back.
-/

namespace Crosswalk

structure Field (α : Type) where
  name : String
  camelKey : String
  codec : Codec α
  /-- What the field is where it is not given; a field without must be given. -/
  default : Option α

namespace Field

variable {α : Type}

def key (f : Field α) (style : Style) : String := if style.camelKeys then f.camelKey else f.name

/-- The value of the field with the key that it stands at. -/
def given? (f : Field α) (r : Table Value) : Option (String × Value) :=
  match Table.get? r f.camelKey with
  | some v => some (f.camelKey, v)
  | none => (Table.get? r f.name).map fun v => (f.name, v)

def read (f : Field α) (r : Table Value) : Reading α :=
  match f.given? r with
  | some (k, v) => (f.codec.read v).under k
  | none =>
    match f.default with
    | some x => .ok x
    | none => (Reading.refuse .missing).under f.camelKey

/-- A field that must be given. -/
def required (name : String) (c : Codec α) : Field α := ⟨name, Text.camelCase name, c, none⟩

/-- A field with a default. -/
def defaulted (name : String) (c : Codec α) (x : α) : Field α := ⟨name, Text.camelCase name, c, some x⟩

/-- A field with a default and one key only. -/
def plain (name : String) (c : Codec α) (x : α) : Field α := ⟨name, name, c, some x⟩

/-- A field that may be null or absent. -/
def optional (name : String) (c : Codec α) : Field (Option α) :=
  ⟨name, Text.camelCase name, c.nullable, some none⟩

end Field

/-- Fields in order; the index is the type of their values. -/
inductive Schema : Type → Type 1 where
  | done : Schema Unit
  | field {α ρ : Type} (f : Field α) (rest : Schema ρ) : Schema (α × ρ)

namespace Schema

def read {ρ : Type} : Schema ρ → Table Value → Reading ρ
  | .done, _ => .ok ()
  | .field f rest, r => Reading.both Prod.mk (f.read r) (rest.read r)

def dump {ρ : Type} : Schema ρ → Style → ρ → Table Value
  | .done, _, _ => []
  | .field f rest, style, (x, xs) => (f.key style, f.codec.dump style x) :: rest.dump style xs

/-- The fields that `r` gives. -/
def dumpGiven {ρ : Type} : Schema ρ → Style → Table Value → ρ → Table Value
  | .done, _, _, _ => []
  | .field f rest, style, r, (x, xs) =>
    match f.given? r with
    | some (_, v) => (f.key style, f.codec.dumpGiven style v x) :: rest.dumpGiven style r xs
    | none => rest.dumpGiven style r xs

/-- The depth of the deepest field. -/
def depth {ρ : Type} : Schema ρ → ρ → Nat
  | .done, _ => 0
  | .field f rest, (x, xs) => max (f.codec.depth x) (rest.depth xs)

/-- The codec of a record type with these fields. -/
def codec {ρ σ : Type} (s : Schema ρ) (build : ρ → σ) (parts : σ → ρ) : Codec σ where
  read v :=
    match v.fields? with
    | some r => (s.read r).map build
    | none => Reading.refuse .recordType
  dump style x := .object (s.dump style (parts x))
  dumpGiven style v x := .object (s.dumpGiven style (v.fields?.getD []) (parts x))
  depth x := s.depth (parts x)

end Schema

/-- What a change does to a field. -/
inductive Change (α : Type) where
  | keep
  | clear
  | set (x : α)

namespace Change

variable {α : Type}

def ofOption : Option α → Change α
  | none => .clear
  | some x => .set x

def toOption : Change α → Option α
  | .set x => some x
  | _ => none

end Change

/-- A field of a change: absent to keep, null to clear. -/
def Field.changing {α : Type} (name : String) (c : Codec α) : Field (Change α) :=
  let c := c.nullable
  ⟨name, Text.camelCase name,
    { read := fun v => (c.read v).map Change.ofOption
      dump := fun style x => c.dump style x.toOption
      dumpGiven := fun style v x => c.dumpGiven style v x.toOption
      depth := fun x => c.depth x.toOption },
    some .keep⟩

/-- A record read again with changes: over its dump is put what the changes give of the data that they were
read from, and then some marks. -/
def Codec.merge {α β : Type} (c : Codec α) (changing : Codec β) (old : α) (data : Value) (changes : β)
    (marks : Table Value) : Reading α :=
  let stored := (c.dump .plain old).fields?.getD []
  let changed := (changing.dumpGiven .plain data changes).fields?.getD []
  c.read (.object ((stored.putAll changed).putAll marks))

end Crosswalk
