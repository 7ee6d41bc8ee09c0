import Crosswalk.Proofs.Fallible
import Crosswalk.Value.Amount
import Crosswalk.Value.Convert

/-!
Integers that are too long to be written.

An integer of more than 4300 digits has no text. A value has no text exactly when such an integer
stands in it at any depth, and no amount exactly when it is one.
-/

namespace Crosswalk

open Fallible

/-- The integer has more digits than a text of an integer may have. -/
def Numeral.IsLong (n : Int) : Prop := 10 ^ Numeral.maxIntegerDigits ≤ n.natAbs

instance (n : Int) : Decidable (Numeral.IsLong n) := inferInstanceAs (Decidable (_ ≤ _))

namespace Value

open Numeral (IsLong)

/-- The value is an integer that is too long. -/
def isLong : Value → Bool
  | .int n => IsLong n
  | _ => false

mutual

/-- An integer that is too long stands in the value. -/
def holdsLong : Value → Bool
  | .int n => IsLong n
  | .list vs => holdsLongAmong vs
  | .tuple vs => holdsLongAmong vs
  | .object fs => holdsLongInFields fs
  | _ => false

def holdsLongAmong : List Value → Bool
  | [] => false
  | v :: vs => holdsLong v || holdsLongAmong vs

def holdsLongInFields : List (String × Value) → Bool
  | [] => false
  | (_, v) :: fs => holdsLong v || holdsLongInFields fs

end

lemma digits_lt_iff (n : Int) :
    Numeral.maxIntegerDigits < (toString n.natAbs).length ↔ IsLong n := by
  have h : (toString n.natAbs).length ≤ Numeral.maxIntegerDigits ↔
      n.natAbs < 10 ^ Numeral.maxIntegerDigits := Nat.length_repr_le_iff (by decide)
  rw [IsLong, ← Nat.not_le, h, Nat.not_lt]

lemma integerText_eq (n : Int) : integerText n =
    if IsLong n then .error .integerTooLong
    else .ok (if n < 0 then "-" ++ toString n.natAbs else toString n.natAbs) := by
  simp only [integerText, digits_lt_iff]

@[simp] lemma fails_integerText (n : Int) : Fails (integerText n) ↔ IsLong n := by
  rw [integerText_eq]
  split <;> simp [*]

lemma raises_integerText (n : Int) : Raises (· = .integerTooLong) (integerText n) := by
  rw [integerText_eq]
  split <;> simp

/-! ### Written forms -/

mutual

lemma fails_written (v : Value) : Fails v.written ↔ v.holdsLong := by
  cases v with
  | int n => simp [written, holdsLong]
  | list vs => simp [written, holdsLong, fails_bind, fails_writtenAll vs]
  | tuple vs => simp [written, holdsLong, fails_bind, fails_writtenAll vs]
  | object fs => simp [written, holdsLong, fails_bind, fails_writtenFields fs]
  | _ => simp [written, holdsLong]

lemma fails_writtenAll (vs : List Value) : Fails (writtenAll vs) ↔ holdsLongAmong vs := by
  cases vs with
  | nil => simp [writtenAll, holdsLongAmong]
  | cons v vs =>
    have hv := fails_written v
    rcases h : v.written with f | s
    · simp [writtenAll, holdsLongAmong, h, ← hv]
    · simp [writtenAll, holdsLongAmong, h, ← hv, fails_bind, fails_writtenAll vs]

lemma fails_writtenFields (fs : List (String × Value)) :
    Fails (writtenFields fs) ↔ holdsLongInFields fs := by
  match fs with
  | [] => simp [writtenFields, holdsLongInFields]
  | (k, v) :: fs =>
    have hv := fails_written v
    rcases h : v.written with f | s
    · simp [writtenFields, holdsLongInFields, h, ← hv]
    · simp [writtenFields, holdsLongInFields, h, ← hv, fails_bind, fails_writtenFields fs]

end

mutual

lemma raises_written (v : Value) : Raises (· = .integerTooLong) v.written := by
  cases v with
  | int n => exact raises_integerText n
  | list vs =>
    rw [written]
    exact raises_bind (raises_writtenAll vs) fun _ _ => by simp
  | tuple vs =>
    rw [written]
    exact raises_bind (raises_writtenAll vs) fun _ _ => by simp
  | object fs =>
    rw [written]
    exact raises_bind (raises_writtenFields fs) fun _ _ => by simp
  | _ => simp [written]

lemma raises_writtenAll (vs : List Value) : Raises (· = .integerTooLong) (writtenAll vs) := by
  cases vs with
  | nil => simp [writtenAll]
  | cons v vs =>
    rw [writtenAll]
    refine raises_bind (raises_written v) fun _ _ => ?_
    exact raises_bind (raises_writtenAll vs) fun _ _ => by simp

lemma raises_writtenFields (fs : List (String × Value)) :
    Raises (· = .integerTooLong) (writtenFields fs) := by
  match fs with
  | [] => simp [writtenFields]
  | (k, v) :: fs =>
    rw [writtenFields]
    refine raises_bind (raises_written v) fun _ _ => ?_
    exact raises_bind (raises_writtenFields fs) fun _ _ => by simp

end

/-! ### Texts, keys and amounts -/

@[simp] lemma fails_toText (v : Value) : Fails v.toText ↔ v.holdsLong := by
  cases v <;> first | exact fails_written _ | simp [toText, holdsLong]

lemma raises_toText (v : Value) : Raises (· = .integerTooLong) v.toText := by
  cases v <;> first | exact raises_written _ | simp [toText]

@[simp] lemma fails_toChars (v : Value) : Fails v.toChars ↔ v.holdsLong := by
  simp [toChars, fails_bind]

lemma raises_toChars (v : Value) : Raises (· = .integerTooLong) v.toChars :=
  raises_bind (raises_toText v) fun _ _ => by simp

/-- The text under which the value stands in a table would hold an integer that is too long. -/
def hasLongKey : Value → Bool
  | .float x => x.toInt?.any fun n => IsLong n
  | v => v.holdsLong

lemma hasLongKey_of_isLong {v : Value} (h : v.isLong) : v.hasLongKey := by
  cases v <;> simp_all [isLong, hasLongKey, holdsLong]

@[simp] lemma fails_key (v : Value) : Fails v.key ↔ v.hasLongKey := by
  cases v with
  | float x =>
    rcases h : x.toInt? with _ | n
    · simp [key, hasLongKey, h, holdsLong]
    · simp [key, hasLongKey, h]
  | bool b => simp [key, hasLongKey, holdsLong]
  | _ => simp [key, hasLongKey]

lemma raises_key (v : Value) : Raises (· = .integerTooLong) v.key := by
  cases v with
  | float x =>
    rw [key]
    split
    · exact raises_integerText _
    · exact raises_toText _
  | bool b => simp [key]
  | _ =>
    simp only [key]
    exact raises_toText _

@[simp] lemma fails_amount (v : Value) : Fails v.amount? ↔ v.isLong := by
  cases v <;> simp [amount?, isLong, fails_bind]

lemma raises_amount (v : Value) : Raises (· = .integerTooLong) v.amount? := by
  cases v with
  | int n => exact raises_bind (raises_integerText n) fun _ _ => by simp
  | _ => simp [amount?]

end Value

end Crosswalk
