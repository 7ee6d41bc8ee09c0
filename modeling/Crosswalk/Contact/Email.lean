import Crosswalk.Text.LetterCase
import Crosswalk.Text.Piece
import Crosswalk.Text.Printable
import Crosswalk.Text.Word

/-!
Email addresses.

An address has a mailbox of atoms between dots, one at-sign and a domain of at least two labels that ends
with a letter. Quoted mailboxes, bracketed addresses and names in front of an address are refused, and
so are domains that are reserved for special use.
-/

namespace Crosswalk.Contact

open Text

def isAsciiChar (c : Char) : Bool := c.toNat < 128

/-- Characters of a mailbox. -/
def isAtomChar (c : Char) : Bool :=
  if isAsciiChar c then
    c.isAlphanum || "_!#$%&*+-/=?^|~\x7b\x7d".toList.contains c || c.toNat = 39 || c.toNat = 96
  else true

/-- Marks that would join the character in front of a text. -/
def isJoiningMark (c : Char) : Bool :=
  let n := c.toNat
  (0x300 ≤ n && n ≤ 0x36f) || (0x1ab0 ≤ n && n ≤ 0x1aff) || (0x1dc0 ≤ n && n ≤ 0x1dff) ||
    (0x20d0 ≤ n && n ≤ 0x20ff) || (0xfe00 ≤ n && n ≤ 0xfe0f) || (0xfe20 ≤ n && n ≤ 0xfe2f)

/-- Texts without control characters, spaces, and marks in front. -/
def isSafe (cs : List Char) : Bool :=
  cs.all (fun c => isPrintable c && c != ' ') && !cs.head?.any isJoiningMark

/-- Parts between dots, none of them empty. -/
def isMailbox (cs : List Char) : Bool :=
  (splitOn ['.'] cs).all (fun atom => !atom.isEmpty && atom.all isAtomChar) && isSafe cs

def isDomainChar (c : Char) : Bool := !isAsciiChar c || c.isAlphanum || c = '-' || c = '.'

/-- Full stops of other scripts count as dots, and letters are small. -/
def foldDomain (cs : List Char) : List Char :=
  lower <| cs.map fun c => if [0x3002, 0xff0e, 0xff61].contains c.toNat then '.' else c

/-- Two characters other than `xn` and two hyphens start no label. -/
def isReservedLabel (label : List Char) : Bool :=
  (label.drop 2).take 2 = ['-', '-'] && label.take 2 != ['x', 'n']

/-- Labels of letters, digits and inner hyphens. -/
def isLabel (label : List Char) : Bool :=
  !label.isEmpty && label.head? != some '-' && label.getLast? != some '-' &&
    !isReservedLabel label &&
    label.all fun c => if isAsciiChar c then c.isAlphanum || c = '-' else isWord c

namespace Ascii

/-- The step by which the threshold of a digit moves. -/
def threshold (k bias : Nat) : Nat := min 26 (max 1 (k - bias))

def digit (n : Nat) : Char := Char.ofNat (if n < 26 then 97 + n else 22 + n)

/-- A number in digits of growing thresholds. -/
def varDigits (fuel k bias q : Nat) : List Char :=
  match fuel with
  | 0 => []
  | fuel + 1 =>
    let t := threshold k bias
    if q < t then [digit q]
    else digit (t + (q - t) % (36 - t)) :: varDigits fuel (k + 36) bias ((q - t) / (36 - t))

def scaleBias (fuel k delta : Nat) : Nat :=
  match fuel with
  | 0 => k
  | fuel + 1 =>
    if 455 < delta then scaleBias fuel (k + 36) (delta / 35) else k + 36 * delta / (delta + 38)

def adapt (delta points : Nat) (first : Bool) : Nat :=
  let delta := if first then delta / 700 else delta / 2
  scaleBias 100 0 (delta + delta / points)

/-- One pass over a label for the code point `n`: the digits, and delta, bias and handled points. -/
def pass (n : Nat) (basic : Nat) : List Char → List Char × Nat × Nat × Nat →
    List Char × Nat × Nat × Nat
  | [], state => state
  | c :: cs, (out, delta, bias, handled) =>
    if c.toNat < n then pass n basic cs (out, delta + 1, bias, handled)
    else if c.toNat = n then
      pass n basic cs (out ++ varDigits 20 36 bias delta, 0,
        adapt delta (handled + 1) (handled = basic), handled + 1)
    else pass n basic cs (out, delta, bias, handled)

def passes (fuel n basic : Nat) (label : List Char) (state : List Char × Nat × Nat × Nat) :
    List Char :=
  match fuel with
  | 0 => state.1
  | fuel + 1 =>
    let above := (label.map Char.toNat).filter (n ≤ ·)
    match above.min? with
    | none => state.1
    | some m =>
      let (out, delta, bias, handled) := state
      let (out, delta, bias, handled) :=
        pass m basic label (out, delta + (m - n) * (handled + 1), bias, handled)
      passes fuel (m + 1) basic label (out, delta + 1, bias, handled)

/-- The ASCII form of a label. -/
def label (cs : List Char) : List Char :=
  if cs.all isAsciiChar then cs
  else
    let basic := cs.filter isAsciiChar
    let start := if basic.isEmpty then [] else basic ++ ['-']
    "xn--".toList ++ passes (cs.length + 1) 128 basic.length cs (start, 0, 72, basic.length)

end Ascii

/-- Top domains that no mail is sent to. -/
def specialDomains : List String := ["arpa", "invalid", "local", "localhost", "onion", "test"]

/-- The labels of a valid domain in ASCII. -/
def domainLabels? (cs : List Char) : Option (List (List Char)) :=
  if cs.isEmpty ∨ !cs.all isDomainChar ∨ !isSafe cs then none
  else
    let labels := splitOn ['.'] (foldDomain cs)
    if !labels.all isLabel then none
    else
      let labels := labels.map Ascii.label
      let last := labels.getLastD []
      if labels.length < 2 ∨ labels.any (fun l => 63 < l.length) ∨
          253 < (joinWith ['.'] labels).length ∨ !last.getLast?.any Char.isAlpha ∨
          specialDomains.contains (String.ofList last) then none
      else some labels

/-- The bytes that a text takes in UTF-8. -/
def byteLength (cs : List Char) : Nat := (String.ofList cs).utf8ByteSize

def isEmail (cs : List Char) : Bool :=
  let mailbox := cs.takeWhile (· != '@')
  let domain := cs.drop (mailbox.length + 1)
  isMailbox mailbox &&
    match domainLabels? domain with
    | none => false
    | some labels =>
      byteLength cs ≤ 254 &&
        (!mailbox.all isAsciiChar || mailbox.length + 1 + (joinWith ['.'] labels).length ≤ 254)

end Crosswalk.Contact
