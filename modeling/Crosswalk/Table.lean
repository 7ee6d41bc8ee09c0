/-!
Tables with text keys, in the order in which the keys were first put in.
-/

namespace Crosswalk

/-- Keys with their values. Only the first entry of a key counts. -/
abbrev Table (α : Type) := List (String × α)

namespace Table

variable {α β : Type}

def get? (t : Table α) (key : String) : Option α := List.lookup key t

def has (t : Table α) (key : String) : Bool := (t.get? key).isSome

def keys (t : Table α) : List String := t.map (·.1)

/-- The table with `value` at `key`: in the place that the key has, or at the end. -/
def put (t : Table α) (key : String) (value : α) : Table α :=
  if t.has key then t.map fun e => if e.1 = key then (key, value) else e
  else t ++ [(key, value)]

def erase (t : Table α) (key : String) : Table α := t.filter fun e => e.1 ≠ key

/-- Puts in the entries of `other` one by one. -/
def putAll (t other : Table α) : Table α := other.foldl (fun t e => t.put e.1 e.2) t

/-- The table of a list of entries, where a later value of a key wins. -/
def ofEntries (entries : List (String × α)) : Table α := putAll [] entries

def mapValues (f : α → β) (t : Table α) : Table β := t.map fun e => (e.1, f e.2)

end Table

end Crosswalk
