import Crosswalk.Answer
import Crosswalk.Store
import Crosswalk.Value.Text

/-!
Queries of remote tables: the calls that build one, in order.
-/

namespace Crosswalk.Remote

structure Call where
  name : String
  arguments : List Value
  options : Table Value

abbrev Query := List Call

def from_ (table : String) : Query := [⟨"from_", [.text table], []⟩]

namespace Query

def call (q : Query) (name : String) (arguments : List Value) : Query := q ++ [⟨name, arguments, []⟩]

def selectAll (q : Query) : Query := q.call "select" [.text "*"]

def insert (q : Query) (row : Value) : Query := q.call "insert" [row]

def update (q : Query) (row : Value) : Query := q.call "update" [row]

/-- Rows with a value in a column. -/
def equal (q : Query) (column : String) (v : Value) : Query := q.call "eq" [.text column, v]

/-- Rows with null in a column. -/
def null (q : Query) (column : String) : Query := q.call "is_" [.text column, .text "null"]

/-- Rows that have one of some values in a column of lists. -/
def overlaps (q : Query) (column : String) (vs : List Value) : Query :=
  q.call "overlaps" [.text column, .list vs]

/-- Rows without a tenant, and those of one. -/
def visibleTo (q : Query) (tenant : String) : Query :=
  q.call "or_" [.text ("tenant_id.is.null,tenant_id.eq." ++ tenant)]

def order (q : Query) (column : String) (descending : Bool) : Query :=
  q ++ [⟨"order", [.text column], [("desc", .bool descending)]⟩]

def limit (q : Query) (n : Value) : Query := q.call "limit" [n]

end Query

end Crosswalk.Remote
