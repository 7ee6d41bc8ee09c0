import Crosswalk.Number.Numeral
import Crosswalk.Pattern.Escape

/-!
Reading a pattern from its text.

`alternatives?` reads branches between bars, and `items` the nodes of one branch, nearest last. Both end
at a closing parenthesis or at the end of the text. The fuel bounds how often they call each other; every
call takes a symbol, so the length of the text is enough.
-/

namespace Crosswalk.Pattern

open Text

/-- One more than the largest count of a repetition. -/
def maxRepeat : Nat := 4294967295

/-- One more than the largest number of a group. -/
def maxGroups : Nat := 1073741823

def Escape.node : Escape → Node
  | .char c => .char c
  | .kind k negated => .set false [.kind k negated]
  | .anchor a => .anchor a
  | .backref g => .backref g

def Escape.setItem : Escape → SetItem
  | .char c => .char c
  | .kind k negated => .kind k negated
  | _ => .char 0

/-- A member of a set and the symbol it was written with. -/
def setMember (s : Symbol) : Reading Escape :=
  match s with
  | [_, c] => setEscape c
  | c :: _ => return .char c.toNat
  | [] => return .char 0

/-- Reads the members of a set up to its closing bracket. `start` is the place behind the opening one. -/
def setItems (start : Nat) (fuel : Nat) (items : List SetItem) : Reading (List SetItem) :=
  let unterminated : Reading (List SetItem) := do
    let r ← get
    complain "unterminated character set" (r.place - start)
  match fuel with
  | 0 => unterminated
  | fuel + 1 => do
    match ← take with
    | none => unterminated
    | some s =>
      if s = [']'] ∧ !items.isEmpty then return items
      else
        let low ← setMember s
        if ← accept '-' then
          match ← take with
          | none => unterminated
          | some t =>
            if t = [']'] then return items ++ [low.setItem, .char 45]
            else
              let high ← setMember t
              let bad : Reading (List SetItem) :=
                complain ("bad character range " ++ String.ofList (s ++ '-' :: t))
                  (s.length + 1 + t.length)
              match low, high with
              | .char a, .char b => if b < a then bad else setItems start fuel (items ++ [.range a b])
              | _, _ => bad
        else setItems start fuel (items ++ [low.setItem])

/-- A set whose opening bracket was taken. -/
def charSet : Reading Node := do
  let r ← get
  let start := r.place - 1
  let negated ← accept '^'
  return .set negated (← setItems start (r.text.size + 1) [])

/-- The counts of a repetition whose first symbol was taken; none if a brace stands for itself. -/
def counts? (c : Char) : Reading (Option (Nat × Option Nat)) := do
  match c with
  | '?' => return some (0, some 1)
  | '*' => return some (0, none)
  | '+' => return some (1, none)
  | _ =>
    let r ← get
    let here := r.place
    if r.ahead = some ['\x7d'] then return none
    let low ← takeWhile Char.isDigit r.text.size
    let high ← if ← accept ',' then takeWhile Char.isDigit r.text.size else pure low
    if !(← accept '\x7d') then
      returnTo here
      return none
    let min := numberIn 10 low
    let tooLarge : Complaint := .fault ⟨.overflow, "the repetition number is too large"⟩
    if maxRepeat ≤ min then throw tooLarge
    if high.isEmpty then return some (min, none)
    let max := numberIn 10 high
    if maxRepeat ≤ max then throw tooLarge
    if max < min then
      let r ← get
      complain "min repeat greater than max repeat" (r.place - here)
    return some (min, some max)

/-- A group by itself is repeated as what it holds. -/
def repeatedBody : Node → List Node
  | .group none on off body =>
    if on.isEmpty && off.isEmpty then body else [.group none on off body]
  | n => [n]

/-- Puts a repetition on the last of the nodes. -/
def repetition (c : Char) (nodes : List Node) : Reading (List Node) := do
  let here := (← get).place
  match ← counts? c with
  | none => return .char c.toNat :: nodes
  | some (min, max) =>
    let offset := (← get).place - here + 1
    match nodes with
    | [] => complain "nothing to repeat" offset
    | n :: before =>
      if n.isAnchor then complain "nothing to repeat" offset
      else if n.isRepeated then complain "multiple repeat" offset
      else
        let eagerness ← do
          if ← accept '?' then pure Eagerness.lazy
          else if ← accept '+' then pure .possessive
          else pure .greedy
        return .repeated eagerness min max (repeatedBody n) :: before

def isName (cs : List Char) : Bool :=
  match cs with
  | [] => false
  | c :: _ => isWord c && !isDigit c && cs.all isWord

def checkName (name : List Char) : Reading Unit :=
  if isName name then return ()
  else complain ("bad character in group name " ++ quoted (String.ofList name)) (name.length + 1)

/-- The number of a named group. -/
def groupNamed (name : List Char) : Reading Nat := do
  match List.lookup (String.ofList name) (← get).groupNames with
  | some g => return g
  | none => complain ("unknown group name " ++ quoted (String.ofList name)) (name.length + 1)

/-- Opens a group and gives it the next number. -/
def openGroup (name : Option (List Char)) : Reading Nat := do
  let r ← get
  let g := r.groupCount
  match name with
  | none => set { r with groups := r.groups ++ [none] }
  | some name =>
    let key := String.ofList name
    match List.lookup key r.groupNames with
    | some old =>
      complain ("redefinition of group name " ++ quoted key ++ s!" as group {g}; was group {old}")
        (name.length + 1)
    | none => set { r with groups := r.groups ++ [none], groupNames := (key, g) :: r.groupNames }
  return g

def closeGroup (g : Nat) (body : List Node) : Reading Unit :=
  modify fun r => { r with groups := r.groups.set (g - 1) (some (width r.widths body)) }

/-- Takes one more letter of a list of options, or says what is missing. -/
def optionSymbol (missing : String) : Reading Symbol := do
  match ← take with
  | none => complain missing 0
  | some s => return s

def checkOptionLetter (s : Symbol) (missing : String) : Reading Options :=
  match s with
  | [c] =>
    match Options.ofLetter? c with
    | some o => return o
    | none =>
      if c = 'L' then return {}
      else complain (if isWord c && !isDigit c && c != '_' then "unknown flag" else missing) 1
  | _ => complain missing s.length

/-- Options to turn on, up to `)`, `-` or `:`. -/
def optionsOn (fuel : Nat) (s : Symbol) (on : Options) : Reading (Symbol × Options) :=
  match fuel with
  | 0 => return (s, on)
  | fuel + 1 => do
    if s = ['L'] then complain "bad inline flags: cannot use 'L' flag with a str pattern" 0
    let o ← checkOptionLetter s "missing -, : or )"
    let on := on.union o
    if (o.ascii || o.unicode) && on.ascii && on.unicode then
      complain "bad inline flags: flags 'a', 'u' and 'L' are incompatible" 0
    let s ← optionSymbol "missing -, : or )"
    if s = [')'] ∨ s = ['-'] ∨ s = [':'] then return (s, on)
    let _ ← checkOptionLetter s "missing -, : or )"
    optionsOn fuel s on

/-- Options to turn off, up to `:`. -/
def optionsOff (fuel : Nat) (s : Symbol) (off : Options) : Reading Options :=
  match fuel with
  | 0 => return off
  | fuel + 1 => do
    let o ← checkOptionLetter s "missing flag"
    if s = ['L'] ∨ o.ascii ∨ o.unicode then
      complain "bad inline flags: cannot turn off flags 'a', 'u' and 'L'" 0
    let off := off.union o
    let s ← optionSymbol "missing :"
    if s = [':'] then return off
    let _ ← checkOptionLetter s "missing :"
    optionsOff fuel s off

/-- Reads options that begin with the symbol `s`. None if they are meant for the whole pattern. -/
def inlineOptions? (s : Symbol) : Reading (Option (Options × Options)) := do
  let fuel := (← get).text.size + 1
  let (s, on) ← if s = ['-'] then pure (s, {}) else optionsOn fuel s {}
  if s = [')'] then
    modify fun r => { r with options := r.options.union on }
    return none
  if on.template then complain "bad inline flags: cannot turn on global flag" 1
  let off ←
    if s = ['-'] then do
      let s ← optionSymbol "missing flag"
      let _ ← checkOptionLetter s "missing flag"
      optionsOff fuel s {}
    else pure {}
  if off.template then complain "bad inline flags: cannot turn off global flag" 1
  if !(on.inter off).isEmpty then complain "bad inline flags: flag turned on and off" 1
  return some (on, off)

/-- Passes over a comment. -/
def groupComment (start : Nat) (fuel : Nat) : Reading Unit :=
  match fuel with
  | 0 => return ()
  | fuel + 1 => do
    let r ← get
    if r.ahead.isNone then complain "missing ), unterminated comment" (r.place - start)
    else if (← take) = some [')'] then return ()
    else groupComment start fuel

/-- Passes over a comment of the verbose form, to the end of the line. -/
def lineComment (fuel : Nat) : Reading Unit :=
  match fuel with
  | 0 => return ()
  | fuel + 1 => do
    match ← take with
    | none => return ()
    | some s => if s = ['\n'] then return () else lineComment fuel

/-- The closing parenthesis of a group that began at `start`. -/
def closing (start : Nat) : Reading Unit := do
  if !(← accept ')') then
    let r ← get
    complain "missing ), unterminated subpattern" (r.place - start)

/-- The number of the group that a condition names. -/
def conditionGroup (name : List Char) : Reading Nat := do
  if isName name then groupNamed name
  else
    let text := String.ofList name
    match Numeral.integer name with
    | .ok n =>
      if n < 0 then complain ("bad character in group name " ++ quoted text) (name.length + 1)
      else
        let g := n.toNat
        if g = 0 then complain "bad group number" (name.length + 1)
        else if maxGroups ≤ g then
          complain ("invalid group reference " ++ toString g) (name.length + 1)
        else
          modify fun r =>
            if (List.lookup g r.conditions).isSome then r
            else { r with conditions := r.conditions ++ [(g, r.place - name.length - 1)] }
          return g
    | .error _ => complain ("bad character in group name " ++ quoted text) (name.length + 1)

/-- A reference to a group by name, behind `(?P=`. -/
def namedBackref : Reading Node := do
  let name ← takeName ')' "group name" ((← get).text.size + 1) []
  checkName name
  let g ← groupNamed name
  if ((← get).closed? g).isNone then complain "cannot refer to an open group" (name.length + 1)
  checkLookBehind g
  return .backref g

/-- What an opening parenthesis begins. -/
inductive Opening where
  /-- Nothing that matches: a comment, or options for the whole pattern. -/
  | passed
  | whole (n : Node)
  | capture (name : Option (List Char))
  | plain (on off : Options)
  | atomic
  | look (ahead negated : Bool)
  | conditional (group : Nat)

/-- Reads what stands behind an opening parenthesis at `start`. `first` tells that nothing stands
before it. -/
def opening (start : Nat) (first : Bool) : Reading Opening := do
  if !(← accept '?') then return .capture none
  match ← take with
  | none => complain "unexpected end of pattern" 0
  | some ['P'] =>
    if ← accept '<' then
      let name ← takeName '>' "group name" ((← get).text.size + 1) []
      checkName name
      return .capture (some name)
    else if ← accept '=' then return .whole (← namedBackref)
    else
      match ← take with
      | none => complain "unexpected end of pattern" 0
      | some s => complain ("unknown extension ?P" ++ String.ofList s) (s.length + 2)
  | some [':'] => return .plain {} {}
  | some ['#'] =>
    groupComment start ((← get).text.size + 1)
    return .passed
  | some ['='] => return .look true false
  | some ['!'] => return .look true true
  | some ['<'] =>
    match ← take with
    | none => complain "unexpected end of pattern" 0
    | some ['='] => return .look false false
    | some ['!'] => return .look false true
    | some s => complain ("unknown extension ?<" ++ String.ofList s) (s.length + 2)
  | some ['('] =>
    let name ← takeName ')' "group name" ((← get).text.size + 1) []
    let g ← conditionGroup name
    checkLookBehind g
    return .conditional g
  | some ['>'] => return .atomic
  | some s =>
    let isOption :=
      match s with
      | [c] => c = '-' || c = 'L' || (Options.ofLetter? c).isSome
      | _ => false
    if !isOption then complain ("unknown extension ?" ++ String.ofList s) (s.length + 1)
    match ← inlineOptions? s with
    | some (on, off) => return .plain on off
    | none =>
      if !first then
        let r ← get
        complain "global flags not at the start of the expression" (r.place - start)
      return .passed

def isVerboseSpace (c : Char) : Bool := c = ' ' || (9 ≤ c.toNat && c.toNat ≤ 13)

mutual

/-- The nodes of alternatives between bars. -/
def alternatives (fuel : Nat) (verbose top : Bool) (before : List (List Node)) :
    Reading (List Node) :=
  match fuel with
  | 0 => complain "pattern too long" 0
  | fuel + 1 => do
    let ns ← items fuel verbose (top && before.isEmpty) []
    let all := before ++ [ns.reverse]
    if ← accept '|' then
      let r ← get
      let verbose := if top then r.options.verbose else verbose
      alternatives fuel verbose top all
    else
      match all with
      | [ns] => return ns
      | _ => return [.branch all]

/-- The nodes of one alternative, the last one first. -/
def items (fuel : Nat) (verbose first : Bool) (nodes : List Node) : Reading (List Node) :=
  match fuel with
  | 0 => complain "pattern too long" 0
  | fuel + 1 => do
    match (← get).ahead with
    | none => return nodes
    | some s =>
      if s = ['|'] ∨ s = [')'] then return nodes
      else
        readAhead
        match s with
        | [_, c] => items fuel verbose first ((← escape c).node :: nodes)
        | c :: _ =>
          if verbose && isVerboseSpace c then items fuel verbose first nodes
          else if verbose && c = '#' then
            lineComment ((← get).text.size + 1)
            items fuel verbose first nodes
          else if c = '[' then items fuel verbose first ((← charSet) :: nodes)
          else if c = '*' ∨ c = '+' ∨ c = '?' ∨ c = '\x7b' then
            items fuel verbose first (← repetition c nodes)
          else if c = '.' then items fuel verbose first (.any :: nodes)
          else if c = '^' then items fuel verbose first (.anchor .lineStart :: nodes)
          else if c = '$' then items fuel verbose first (.anchor .lineEnd :: nodes)
          else if c = '(' then
            let start := (← get).place - 1
            match ← opening start (first && nodes.isEmpty) with
            | .passed =>
              let r ← get
              items fuel (verbose || (first && r.options.verbose)) first nodes
            | .whole n => items fuel verbose first (n :: nodes)
            | o => items fuel verbose first ((← groupBody fuel verbose start o) :: nodes)
          else items fuel verbose first (.char c.toNat :: nodes)
        | [] => return nodes

/-- The group that an opening parenthesis at `start` begins. -/
def groupBody (fuel : Nat) (verbose : Bool) (start : Nat) (o : Opening) : Reading Node :=
  match fuel with
  | 0 => complain "pattern too long" 0
  | fuel + 1 => do
    match o with
    | .look ahead negated =>
      let outer := (← get).lookBehind
      if !ahead ∧ outer.isNone then modify fun r => { r with lookBehind := some r.groupCount }
      let body ← alternatives fuel verbose false []
      if !ahead ∧ outer.isNone then modify fun r => { r with lookBehind := none }
      closing start
      return .look ahead negated body
    | .conditional g =>
      let yes ← items fuel verbose false []
      let no ←
        if ← accept '|' then do
          let no ← items fuel verbose false []
          if (← get).ahead = some ['|'] then
            complain "conditional backref with more than two branches" 0
          pure no
        else pure []
      closing start
      return .conditional g yes.reverse no.reverse
    | .atomic =>
      let body ← alternatives fuel verbose false []
      closing start
      return .atomic body
    | .capture name =>
      let g ← openGroup name
      let body ← alternatives fuel verbose false []
      closing start
      closeGroup g body
      return .group (some g) {} {} body
    | .plain on off =>
      let body ← alternatives fuel ((verbose || on.verbose) && !off.verbose) false []
      closing start
      return .group none on off body
    | .whole n => return n
    | .passed => return .group none {} {} []

end

/-- The whole pattern: its text must end where the outermost alternatives end. -/
def whole : Reading Pattern := do
  readAhead
  let nodes ← alternatives (4 * (← get).text.size + 4) false true []
  let r ← get
  if r.options.ascii && r.options.unicode then
    throw (.fault ⟨.badValue, "ASCII and UNICODE flags are incompatible"⟩)
  if r.ahead.isSome then complain "unbalanced parenthesis" 0
  for (g, place) in r.conditions do
    if r.groupCount ≤ g then
      throw (placed r.text ("invalid group reference " ++ toString g) place)
  return { options := r.options, nodes, groupWidths := r.groups.map fun w => w.getD ⟨0, 0⟩ }

end Crosswalk.Pattern
