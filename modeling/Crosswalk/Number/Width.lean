/-!
Powers of integers, and integers of a width: those that a number of bits can hold.
-/

namespace Crosswalk

-- powers are those of the core library, whatever else is imported
attribute [instance (2000), default_instance 20000] instPowNat

/-- Whether `bits` bits with a sign hold an integer. -/
def fitsSigned (bits : Nat) (n : Int) : Bool := decide (-2 ^ (bits - 1) ≤ n ∧ n < 2 ^ (bits - 1))

end Crosswalk
