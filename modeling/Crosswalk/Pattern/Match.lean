import Crosswalk.Pattern.CharClass

/-!
Matching a pattern against a text.

`sequence` tries the ways to match a sequence of nodes in order of preference, and hands each to what comes
after it, `next`; the first way that `next` accepts is the result. The fuel bounds the depth of nested
nodes and repetitions (`depth`).
-/

namespace Crosswalk.Pattern

/-- A place in the text and the spans of the groups so far. -/
structure Cursor where
  pos : Nat
  groups : List (Nat × Nat × Nat) := []
deriving DecidableEq

abbrev Next := Cursor → Option Cursor

def isWordAt (ascii : Bool) (text : Array Char) (i : Nat) : Bool :=
  (text[i]?).any (CharKind.word.holds ascii)

def Anchor.holds (o : Options) (text : Array Char) (pos : Nat) : Anchor → Bool
  | .textStart => pos = 0
  | .lineStart => pos = 0 || (o.multiLine && text[pos - 1]? = some '\n')
  | .textEnd => pos = text.size
  | .lineEnd =>
    pos = text.size || (text[pos]? = some '\n' && (o.multiLine || pos + 1 = text.size))
  | .wordEdge =>
    !text.isEmpty && (0 < pos && isWordAt o.ascii text (pos - 1)) != isWordAt o.ascii text pos
  | .noWordEdge =>
    !text.isEmpty && (0 < pos && isWordAt o.ascii text (pos - 1)) == isWordAt o.ascii text pos

/-- The end of what a group matched, found again at `pos`. -/
def backrefEnd? (o : Options) (text : Array Char) (span : Nat × Nat) (pos : Nat) : Option Nat :=
  let length := span.2 - span.1
  let same := (List.range length).all fun i =>
    match text[span.1 + i]?, text[pos + i]? with
    | some a, some b =>
      if o.ignoreCase then (sameLetters o.ascii a.toNat).contains b.toNat else a = b
    | _, _ => false
  if same then some (pos + length) else none

def underMax (max : Option Nat) (count : Nat) : Bool := (max.map fun m => decide (count < m)).getD true

mutual

/-- The fuel that matching a node takes on a text of length `len`. -/
def nodeDepth (len : Nat) : Node → Nat
  | .char _ | .any | .set .. | .anchor _ | .backref _ => 1
  | .branch alternatives => branchDepth len alternatives + 1
  | .repeated _ min _ body => depth len body + min + len + 4
  | .group _ _ _ body => depth len body + 2
  | .atomic body => depth len body + 2
  | .look _ _ body => depth len body + 2
  | .conditional _ yes no => depth len yes + depth len no + 2

def depth (len : Nat) : List Node → Nat
  | [] => 1
  | n :: ns => nodeDepth len n + depth len ns + 2

def branchDepth (len : Nat) : List (List Node) → Nat
  | [] => 1
  | a :: as => depth len a + branchDepth len as

end

mutual

def sequence (text : Array Char) (fuel : Nat) (o : Options) (ns : List Node) (s : Cursor)
    (next : Next) : Option Cursor :=
  match fuel, ns with
  | 0, _ => none
  | _ + 1, [] => next s
  | fuel + 1, n :: ns => node text fuel o n s fun s => sequence text fuel o ns s next

def node (text : Array Char) (fuel : Nat) (o : Options) (n : Node) (s : Cursor) (next : Next) :
    Option Cursor :=
  match fuel with
  | 0 => none
  | fuel + 1 =>
    match n with
    | .char _ | .any | .set .. =>
      match text[s.pos]? with
      | none => none
      | some c => if n.holds? o c = some true then next { s with pos := s.pos + 1 } else none
    | .anchor a => if a.holds o text s.pos then next s else none
    | .branch alternatives => alternatives.findSome? fun a => sequence text fuel o a s next
    | .repeated .greedy min max body => greedy text fuel o min max body 0 none s next
    | .repeated .lazy min max body => reluctant text fuel o min max body 0 none s next
    | .repeated .possessive min max body =>
      (possessive text fuel o min max body 0 none s).bind next
    | .group index on off body =>
      sequence text fuel (o.within on off) body s fun t =>
        match index with
        | none => next t
        | some g => next { t with groups := (g, s.pos, t.pos) :: t.groups }
    | .atomic body => (sequence text fuel o body s some).bind next
    | .look true negated body =>
      match sequence text fuel o body s some with
      | some t => if negated then none else next { t with pos := s.pos }
      | none => if negated then next s else none
    | .look false negated body =>
      -- the body has one length, so it can only start at one place
      let back := (width (fun g =>
        match List.lookup g s.groups with
        | some (i, j) => ⟨j - i, j - i⟩
        | none => ⟨0, 0⟩) body).low
      let found :=
        if s.pos < back then none
        else sequence text fuel o body { s with pos := s.pos - back } some
      match found with
      | some t => if negated then none else next { t with pos := s.pos }
      | none => if negated then next s else none
    | .backref g =>
      match List.lookup g s.groups with
      | none => none
      | some span => (backrefEnd? o text span s.pos).bind fun p => next { s with pos := p }
    | .conditional g yes no =>
      sequence text fuel o (if (List.lookup g s.groups).isSome then yes else no) s next

/-- As many repetitions as possible first. After the least number, a repetition that matched nothing is
the last one. -/
def greedy (text : Array Char) (fuel : Nat) (o : Options) (min : Nat) (max : Option Nat)
    (body : List Node) (count : Nat) (last : Option Nat) (s : Cursor) (next : Next) :
    Option Cursor :=
  match fuel with
  | 0 => none
  | fuel + 1 =>
    if count < min then
      sequence text fuel o body s fun t => greedy text fuel o min max body (count + 1) last t next
    else
      let more :=
        if underMax max count ∧ last ≠ some s.pos then
          sequence text fuel o body s fun t =>
            greedy text fuel o min max body (count + 1) (some s.pos) t next
        else none
      match more with
      | some t => some t
      | none => next s

/-- As few repetitions as possible first. -/
def reluctant (text : Array Char) (fuel : Nat) (o : Options) (min : Nat) (max : Option Nat)
    (body : List Node) (count : Nat) (last : Option Nat) (s : Cursor) (next : Next) :
    Option Cursor :=
  match fuel with
  | 0 => none
  | fuel + 1 =>
    if count < min then
      sequence text fuel o body s fun t => reluctant text fuel o min max body (count + 1) last t next
    else
      match next s with
      | some t => some t
      | none =>
        if underMax max count ∧ last ≠ some s.pos then
          sequence text fuel o body s fun t =>
            reluctant text fuel o min max body (count + 1) (some s.pos) t next
        else none

/-- As many repetitions as possible, each matched in its first way. -/
def possessive (text : Array Char) (fuel : Nat) (o : Options) (min : Nat) (max : Option Nat)
    (body : List Node) (count : Nat) (last : Option Nat) (s : Cursor) : Option Cursor :=
  match fuel with
  | 0 => none
  | fuel + 1 =>
    if count < min then
      match sequence text fuel o body s some with
      | some t => possessive text fuel o min max body (count + 1) last t
      | none => none
    else if underMax max count ∧ last ≠ some s.pos then
      match sequence text fuel o body s some with
      | some t => possessive text fuel o min max body (count + 1) (some s.pos) t
      | none => some s
    else some s

end

end Crosswalk.Pattern
