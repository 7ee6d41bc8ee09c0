import Crosswalk.Number.Width
import Crosswalk.Text.Piece
import Crosswalk.Transformation.Parameters

/-!
Transformations of texts.

All of them take the text of the value. Formats of numbers such as a tax number apply to values of the
right count of digits, and leave others as they are.
-/

namespace Crosswalk.Transformation

open Text
open Value (toChars)

def ofChars (cs : List Char) : Value := .text (String.ofList cs)

/-- A transformation that maps the characters of a value's text. -/
def onChars (f : List Char → List Char) (v : Value) : Except Fault Value :=
  return ofChars (f (← v.toChars))

def digitsOfValue (v : Value) : Except Fault (List Char) := return digitsOf (← v.toChars)

/-- Groups of digits of the given lengths, with `sep` between them. -/
def hyphenated (lengths : List Nat) (ds : List Char) : List Char :=
  match lengths with
  | [] => ds
  | n :: more => ds.take n ++ '-' :: hyphenated more (ds.drop n)

/-- Writes exactly nine digits in groups. -/
def nineDigits (lengths : List Nat) (v : Value) : Except Fault Value := do
  let ds ← digitsOfValue v
  return if ds.length = 9 then ofChars (hyphenated lengths ds) else v

/-- `XXX-XX-XXXX` -/
def formatSsn : Value → Except Fault Value := nineDigits [3, 2]

/-- `XX-XXXXXXX` -/
def formatEin : Value → Except Fault Value := nineDigits [2]

/-- `(XXX) XXX-XXXX` -/
def nationalForm (ds : List Char) : List Char :=
  '(' :: ds.take 3 ++ ") ".toList ++ (ds.drop 3).take 3 ++ '-' :: ds.drop 6

/-- A telephone number of ten digits, with `+1` in front if the country code was given. -/
def formatPhoneNumber (v : Value) : Except Fault Value := do
  let ds ← digitsOfValue v
  return if ds.length = 10 then ofChars (nationalForm ds)
    else if ds.length = 11 ∧ ds.head? = some '1' then
      ofChars ("+1 ".toList ++ nationalForm (ds.drop 1))
    else v

/-- Small letters, and a capital at the start of each part between spaces. -/
def titleCase (cs : List Char) : List Char :=
  joinWith [' '] <| (splitOn [' '] (lower cs)).map fun word => upper (word.take 1) ++ word.drop 1

/-- An operation is asked of a value whose type lacks it. -/
def lacks (v : Value) (operation : String) : Fault :=
  ⟨.noAttribute, "'" ++ v.fullTypeName ++ "' object has no attribute '" ++ operation ++ "'"⟩

/-- The texts of the items that are not missing, with a separator between them. -/
def concatenate (v : Value) (p : Parameters) : Except Fault Value := do
  let joined (vs : List Value) : Except Fault Value := do
    match p.getD "separator" (.text " ") with
    | .text sep =>
      let parts ← (vs.filter fun v => !v.isMissing).mapM toChars
      return ofChars (joinWith sep.toList parts)
    | other => throw (lacks other "join")
  match v with
  | .list vs => joined vs
  | .tuple vs => joined vs
  | _ => return .null

/-- The item at a position counted from the end if it is negative. -/
def itemAt? (vs : List Value) (i : Int) : Option Value :=
  if 0 ≤ i then vs[i.toNat]?
  else if -i ≤ vs.length then vs[vs.length - (-i).toNat]?
  else none

/-- The parts of a text between delimiters; null splits at blanks. -/
def partsAt (delimiter : Value) (cs : List Char) : Except Fault (List (List Char)) :=
  match delimiter with
  | .null => .ok (words cs)
  | .text "" => .error ⟨.badValue, "empty separator"⟩
  | .text d => .ok (splitOn d.toList cs)
  | other => .error ⟨.wrongType, "must be str or None, not " ++ other.fullTypeName⟩

/-- The parts of a text between delimiters, or one of them. -/
def split (v : Value) (p : Parameters) : Except Fault Value := do
  let cs ← v.toChars
  let parts := (← partsAt (p.getD "delimiter" (.text " ")) cs).map ofChars
  match p.value "index" with
  | .null => return .list parts
  | index => return Value.ofOption (itemAt? parts (← index.toInteger))

/-- The characters from `start` up to `end`. -/
def substring (v : Value) (p : Parameters) : Except Fault Value := do
  let start ← p.integer "start" 0
  let cs ← v.toChars
  let stop ←
    match p.value "end" with
    | .null => pure none
    | stop => some <$> stop.toInteger
  return ofChars (slice cs start stop)

/-- Pads a text to a length with the first character of `char`. -/
def pad (side : Nat → Char → List Char → List Char) (v : Value) (p : Parameters) :
    Except Fault Value := do
  let cs ← v.toChars
  let length ← p.integer "length" 0
  let fill := ((← (p.getD "char" (.text "0")).toChars).head?).getD '0'
  if !fitsSigned 64 length then throw .integerTooLarge
  return ofChars (side length.toNat fill cs)

def padLeft : Value → Parameters → Except Fault Value := pad Text.padLeft

def padRight : Value → Parameters → Except Fault Value := pad Text.padRight

/-- Replaces a text: everywhere, or its first occurrence. -/
def replaceText (v : Value) (p : Parameters) : Except Fault Value := do
  let search := p.getEither "pattern" "search" .null
  if !search.isTruthy then return v
  let cs ← v.toChars
  let wrong (n : String) (w : Value) : Fault :=
    let given := if w.isNull then "None" else w.fullTypeName
    ⟨.wrongType, "replace() argument " ++ n ++ " must be str, not " ++ given⟩
  match search, p.getD "replacement" (.text "") with
  | .text s, .text r =>
    let limit := if (p.getD "global" (.bool true)).isTruthy then none else some 1
    return ofChars (replace s.toList r.toList limit cs)
  | .text _, r => throw (wrong "2" r)
  | s, _ => throw (wrong "1" s)

/-- The mask of `n` characters, or why there is none: the mask must be a text. -/
def maskOf (mask : Value) (n : Int) (atStart : Bool) : Except Fault (List Char) :=
  let added (v : Value) : Fault :=
    if atStart then ⟨.wrongType, "can only concatenate str (not \"" ++ v.fullTypeName ++ "\") to str"⟩
    else
      match v with
      | .list _ | .tuple _ =>
        ⟨.wrongType, "can only concatenate " ++ v.typeName ++ " (not \"str\") to " ++ v.typeName⟩
      | _ => Number.mismatch "+" v (.text "")
  let repeated (r : Except Fault (List Char)) := if fitsSigned 64 n then r else .error .tooManyTimes
  match mask with
  | .text s => repeated (.ok (List.replicate n.toNat s.toList).flatten)
  | .list vs => repeated (.error (added (.list vs)))
  | .tuple vs => repeated (.error (added (.tuple vs)))
  | other =>
    match Number.ofValue? other with
    | none => .error (Number.mismatch "*" other (.int n))
    | some x =>
      match x.mul (.int n) with
      | .ok y => .error (added y.value)
      | .error f => .error f

/-- Hides all characters but a few at one end. -/
def mask (v : Value) (p : Parameters) : Except Fault Value := do
  let cs ← v.toChars
  let visible ← (p.getEither "visible_chars" "visible" (.int 4)).toInteger
  let hidden := (cs.length : Int) - visible
  if hidden ≤ 0 then return ofChars cs
  let atStart := (p.getD "position" (.text "end")).equals (.text "start")
  let cover ← maskOf (p.getEither "mask_char" "char" (.text "*")) hidden atStart
  return ofChars <|
    if atStart then slice cs 0 (some visible) ++ cover else cover ++ slice cs hidden none

/-- Digits of any script. -/
def extractDigits : Value → Except Fault Value := onChars digitsOf

/-- Letters of the Latin alphabet. -/
def extractLetters : Value → Except Fault Value := onChars fun cs => cs.filter Char.isAlpha

end Crosswalk.Transformation
