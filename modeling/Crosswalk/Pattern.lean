import Crosswalk.Pattern.Match
import Crosswalk.Pattern.Parse

/-!
Patterns: regular expressions with groups, look-around, back-references and options.

`Pattern.read` reads a text as a pattern or complains about it; `Pattern.search` tells whether some part
of a text matches.
-/

namespace Crosswalk.Pattern

mutual

/-- The first complaint about a node that reads well but cannot be matched. -/
def nodeFlaw? (template : Bool) (groups : Nat → Width) : Node → Option String
  | .branch alternatives => branchFlaw? template groups alternatives
  | .repeated e _ _ body =>
    if template then
      some <| "internal: unsupported template operator " ++
        match e with
        | .greedy => "MAX_REPEAT"
        | .lazy => "MIN_REPEAT"
        | .possessive => "POSSESSIVE_REPEAT"
    else flaw? template groups body
  | .group _ _ _ body => flaw? template groups body
  | .atomic body => flaw? template groups body
  | .look ahead _ body =>
    let w := width groups body
    if !ahead ∧ 2 ^ 32 - 1 < w.low then some "looks too much behind"
    else if !ahead ∧ w.low ≠ w.high then some "look-behind requires fixed-width pattern"
    else flaw? template groups body
  | .conditional _ yes no => (flaw? template groups yes).or (flaw? template groups no)
  | _ => none

def flaw? (template : Bool) (groups : Nat → Width) : List Node → Option String
  | [] => none
  | n :: ns => (nodeFlaw? template groups n).or (flaw? template groups ns)

def branchFlaw? (template : Bool) (groups : Nat → Width) : List (List Node) → Option String
  | [] => none
  | a :: as => (flaw? template groups a).or (branchFlaw? template groups as)

end

/-- Reads a pattern. -/
def read (s : String) : Except Complaint Pattern := do
  let (p, _) ← whole.run { text := s.toList.toArray }
  let groups (g : Nat) : Width := p.groupWidths.getD (g - 1) ⟨0, 0⟩
  match flaw? p.options.template groups p.nodes with
  | some message => throw (.malformed message)
  | none => return p

/-- The end of a match that starts at `pos`. -/
def matchAt? (p : Pattern) (text : Array Char) (pos : Nat) : Option Cursor :=
  sequence text (depth text.size p.nodes) p.options p.nodes { pos } some

/-- The start and the end of the first match, searched from the left. -/
def find? (p : Pattern) (cs : List Char) : Option (Nat × Nat) :=
  let text := cs.toArray
  (List.range (text.size + 1)).findSome? fun pos => (p.matchAt? text pos).map fun c => (pos, c.pos)

/-- Whether some part of the text matches. -/
def search (p : Pattern) (s : String) : Bool := (p.find? s.toList).isSome

/-- Whether the whole text matches. -/
def fullMatch (p : Pattern) (s : String) : Bool :=
  let text := s.toList.toArray
  (sequence text (depth text.size p.nodes) p.options p.nodes { pos := 0 }
    fun c => if c.pos = text.size then some c else none).isSome

end Crosswalk.Pattern
