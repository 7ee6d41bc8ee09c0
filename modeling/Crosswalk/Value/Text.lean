import Crosswalk.Fault
import Crosswalk.Number.DecimalText
import Crosswalk.Number.Shortest
import Crosswalk.Text.Quoted
import Crosswalk.Value

/-!
The text of a value, and its written form inside lists and objects.

An integer of more than 4300 digits has no text.
-/

namespace Crosswalk.Value

open Text

def integerText (n : Int) : Except Fault String :=
  let s := toString n.natAbs
  if Numeral.maxIntegerDigits < s.length then .error .integerTooLong
  else .ok (if n < 0 then "-" ++ s else s)

def boolText (b : Bool) : String := if b then "True" else "False"

/-- The written form of an offset in microseconds. -/
def writtenOffset (o : Int) : String :=
  if o = 0 then "datetime.timezone.utc"
  else
    let days := Int.fdiv o Moment.perDay
    let rest := (Int.fmod o Moment.perDay).toNat
    let s := rest / Moment.perSecond
    let u := rest % Moment.perSecond
    let parts :=
      (if days = 0 then [] else ["days=" ++ toString days]) ++
      (if s = 0 then [] else ["seconds=" ++ toString s]) ++
      (if u = 0 then [] else ["microseconds=" ++ toString u])
    "datetime.timezone(datetime.timedelta(" ++ ", ".intercalate parts ++ "))"

def writtenMoment (t : Moment) : String :=
  let base := [t.date.year, t.date.month, t.date.day, t.hour, t.minute].map toString
  let seconds :=
    if t.micro ≠ 0 then [toString t.second, toString t.micro]
    else if t.second ≠ 0 then [toString t.second]
    else []
  let zone := (t.offset.map fun o => "tzinfo=" ++ writtenOffset o).toList
  "datetime.datetime(" ++ ", ".intercalate (base ++ seconds ++ zone) ++ ")"

def writtenDate (d : Date) : String :=
  "datetime.date(" ++ ", ".intercalate ([d.year, d.month, d.day].map toString) ++ ")"

mutual

/-- The form of a value inside a list or an object. -/
def written : Value → Except Fault String
  | .null => .ok "None"
  | .bool b => .ok (boolText b)
  | .int n => integerText n
  | .float x => .ok x.text
  | .decimal d => .ok ("Decimal('" ++ d.text ++ "')")
  | .text s => .ok (quoted s)
  | .list vs => return "[" ++ ", ".intercalate (← writtenAll vs) ++ "]"
  | .tuple vs => do
    let parts ← writtenAll vs
    return "(" ++ ", ".intercalate parts ++ (if parts.length = 1 then ",)" else ")")
  | .object fs => return "\x7b" ++ ", ".intercalate (← writtenFields fs) ++ "\x7d"
  | .moment t => .ok (writtenMoment t)
  | .date d => .ok (writtenDate d)

def writtenAll : List Value → Except Fault (List String)
  | [] => .ok []
  | v :: vs => return (← written v) :: (← writtenAll vs)

def writtenFields : List (String × Value) → Except Fault (List String)
  | [] => .ok []
  | (k, v) :: fs => return (quoted k ++ ": " ++ (← written v)) :: (← writtenFields fs)

end

def toText : Value → Except Fault String
  | .decimal d => .ok d.text
  | .text s => .ok s
  | .moment t => .ok (t.isoWith " ")
  | .date d => .ok d.iso
  | v => v.written

def toChars (v : Value) : Except Fault (List Char) := return (← v.toText).toList

end Crosswalk.Value
