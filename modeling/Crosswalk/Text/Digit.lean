import Crosswalk.Text.Ranges

/-!
Decimal digits of any script.

Every script's ten digits are consecutive, so the table lists the zeros outside ASCII.
-/

namespace Crosswalk.Text

/-- The zeros of the scripts with decimal digits. -/
def zeros : List Nat := tableNumbers <|
  "19c 1dc 1j4 1uu 1ye 21y 25i 292 2cm 2g6 2jq 2na 2qu 2ts 2xc 2zk 37k 39s 4ps 4r4 4zq 53k 58g " ++
  "58w 5e8 5gw 5kw 5lc wtc xcg xds xjk xkg xn4 xyo 1eds 1fhc 1h68 1ht2 1hww 1hyu 1i34 1ib4 1ikw " ++
  "1iog 1iz4 1j28 1j5c 1jhc 1jkg 1k5s 1kcw 1kf4 1zkw 1znk 1zrk 2l72 2l7c 2l7m 2l7w 2l86 2n28 " ++
  "2ne8 2onk 2sc0"

/-- The value of a decimal digit. -/
def digitValue? (c : Char) : Option Nat :=
  let n := c.toNat
  if n < 128 then (if 48 ≤ n ∧ n ≤ 57 then some (n - 48) else none)
  else (zeros.find? fun z => z ≤ n && n < z + 10).map (n - ·)

def isDigit (c : Char) : Bool := (digitValue? c).isSome

/-- The digits of a text, in order. -/
def digitsOf (cs : List Char) : List Char := cs.filter isDigit

end Crosswalk.Text
