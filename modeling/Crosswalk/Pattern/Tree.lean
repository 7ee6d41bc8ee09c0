import Crosswalk.Number.Width

/-!
Trees of patterns.

A pattern is a sequence of nodes. Characters are numbers, because an escape can name one that no text
has. A group may turn options on and off for what it holds; the options of the whole pattern stand in
`Pattern`.
-/

namespace Crosswalk

namespace Pattern

structure Options where
  ignoreCase : Bool := false
  multiLine : Bool := false
  dotAll : Bool := false
  verbose : Bool := false
  ascii : Bool := false
  unicode : Bool := false
  template : Bool := false
deriving DecidableEq

namespace Options

/-- The options of `a` or `b`. -/
def union (a b : Options) : Options where
  ignoreCase := a.ignoreCase || b.ignoreCase
  multiLine := a.multiLine || b.multiLine
  dotAll := a.dotAll || b.dotAll
  verbose := a.verbose || b.verbose
  ascii := a.ascii || b.ascii
  unicode := a.unicode || b.unicode
  template := a.template || b.template

/-- The options of `a` that are not in `b`. -/
def without (a b : Options) : Options where
  ignoreCase := a.ignoreCase && !b.ignoreCase
  multiLine := a.multiLine && !b.multiLine
  dotAll := a.dotAll && !b.dotAll
  verbose := a.verbose && !b.verbose
  ascii := a.ascii && !b.ascii
  unicode := a.unicode && !b.unicode
  template := a.template && !b.template

def inter (a b : Options) : Options := a.without (a.without b)

def isEmpty (a : Options) : Bool := a = {}

/-- The options inside a group. ASCII and Unicode replace each other. -/
def within (outer on off : Options) : Options :=
  let outer := if on.ascii || on.unicode then { outer with ascii := false, unicode := false } else outer
  (outer.union on).without off

/-- The option of a letter. -/
def ofLetter? : Char → Option Options
  | 'i' => some { ignoreCase := true }
  | 'm' => some { multiLine := true }
  | 's' => some { dotAll := true }
  | 'x' => some { verbose := true }
  | 'a' => some { ascii := true }
  | 't' => some { template := true }
  | 'u' => some { unicode := true }
  | _ => none

end Options

inductive Anchor where
  | lineStart
  | lineEnd
  | textStart
  | textEnd
  | wordEdge
  | noWordEdge
deriving DecidableEq

inductive CharKind where
  | digit
  | space
  | word
deriving DecidableEq

inductive SetItem where
  | char (c : Nat)
  | range (low high : Nat)
  | kind (k : CharKind) (negated : Bool)
deriving DecidableEq

inductive Eagerness where
  | greedy
  | lazy
  | possessive
deriving DecidableEq

inductive Node where
  | char (c : Nat)
  | any
  | set (negated : Bool) (items : List SetItem)
  | anchor (a : Anchor)
  | branch (alternatives : List (List Node))
  | repeated (e : Eagerness) (min : Nat) (max : Option Nat) (body : List Node)
  | group (index : Option Nat) (on off : Options) (body : List Node)
  | atomic (body : List Node)
  | look (ahead negated : Bool) (body : List Node)
  | backref (group : Nat)
  | conditional (group : Nat) (yes no : List Node)

namespace Node

def isAnchor : Node → Bool
  | .anchor _ => true
  | _ => false

def isRepeated : Node → Bool
  | .repeated .. => true
  | _ => false

end Node

/-- Least and greatest lengths of a match. -/
structure Width where
  low : Nat
  high : Nat
deriving DecidableEq

/-- The bound of lengths that are told apart. -/
def maxWidth : Nat := 2 ^ 64

def Width.cap (w : Width) : Width := ⟨min w.low maxWidth, min w.high maxWidth⟩

mutual

/-- The lengths that a node can match; `groups` holds those of the groups closed before. -/
def nodeWidth (groups : Nat → Width) : Node → Width
  | .char _ | .any | .set .. => ⟨1, 1⟩
  | .anchor _ | .look .. => ⟨0, 0⟩
  | .branch alternatives => branchWidth groups alternatives
  | .repeated _ min max body =>
    let w := width groups body
    ⟨w.low * min,
      match max with
      | some m => w.high * m
      | none => if w.high = 0 then 0 else maxWidth⟩
  | .group _ _ _ body => width groups body
  | .atomic body => width groups body
  | .backref g => groups g
  | .conditional _ yes no =>
    let y := width groups yes
    let n := width groups no
    ⟨min y.low n.low, max y.high n.high⟩

def sumWidth (groups : Nat → Width) : List Node → Width
  | [] => ⟨0, 0⟩
  | n :: ns =>
    let a := nodeWidth groups n
    let b := sumWidth groups ns
    ⟨a.low + b.low, a.high + b.high⟩

def width (groups : Nat → Width) (ns : List Node) : Width :=
  match ns with
  | [] => ⟨0, 0⟩
  | n :: ns =>
    let a := nodeWidth groups n
    let b := sumWidth groups ns
    Width.cap ⟨a.low + b.low, a.high + b.high⟩

def branchWidth (groups : Nat → Width) : List (List Node) → Width
  | [] => ⟨maxWidth, 0⟩
  | a :: as =>
    let v := width groups a
    let w := branchWidth groups as
    ⟨min v.low w.low, max v.high w.high⟩

end

end Pattern

/-- A pattern with the options of the whole and the lengths of its groups. -/
structure Pattern where
  options : Pattern.Options
  nodes : List Pattern.Node
  groupWidths : List Pattern.Width

end Crosswalk
