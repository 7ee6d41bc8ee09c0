import Crosswalk.Proofs.Number.Text
import Crosswalk.Proofs.Table
import Crosswalk.Proofs.Value.LongInteger

/-!
Values that are not a number, and null in their place.

Among numbers of either kind there is one that is none. Like null it is missing and has no amount,
but unlike null it has a text of its own, which is the text of no number.
-/

namespace Crosswalk

open Fallible

namespace Value

/-- The binary or decimal number that is none. -/
def isNaN : Value → Bool
  | .float x => x.isNaN
  | .decimal d => d.isNaN
  | _ => false

/-- The value, or null if it is not a number. -/
def nulled (v : Value) : Value := if v.isNaN then .null else v

variable {v : Value}

lemma isNaN_iff : v.isNaN ↔ v = .float .nan ∨ v = .decimal .nan := by
  constructor
  · intro h
    cases v with
    | float x =>
      cases x with
      | nan => exact .inl rfl
      | _ => cases h
    | decimal d =>
      cases d with
      | nan => exact .inr rfl
      | _ => cases h
    | _ => cases h
  · rintro (rfl | rfl) <;> rfl

lemma isMissing_of_isNaN (h : v.isNaN) : v.isMissing := by
  obtain rfl | rfl := isNaN_iff.1 h <;> rfl

lemma nulled_of_isNaN (h : v.isNaN) : v.nulled = .null := if_pos h

lemma nulled_of_not_isNaN (h : ¬ v.isNaN) : v.nulled = v := if_neg h

lemma nulled_of_not_isMissing (h : ¬ v.isMissing) : v.nulled = v :=
  nulled_of_not_isNaN fun hv => h (isMissing_of_isNaN hv)

lemma apply_nulled {β : Type} {f : Value → β} (hfloat : f (.float .nan) = f .null)
    (hdecimal : f (.decimal .nan) = f .null) (v : Value) : f v.nulled = f v := by
  by_cases h : v.isNaN
  · rw [nulled_of_isNaN h]
    obtain rfl | rfl := isNaN_iff.1 h
    · exact hfloat.symm
    · exact hdecimal.symm
  · rw [nulled_of_not_isNaN h]

@[simp] lemma isMissing_nulled (v : Value) : v.nulled.isMissing = v.isMissing :=
  apply_nulled (f := isMissing) rfl rfl v

@[simp] lemma isEmpty_nulled (v : Value) : v.nulled.isEmpty = v.isEmpty :=
  apply_nulled (f := isEmpty) rfl rfl v

@[simp] lemma amount_nulled (v : Value) : v.nulled.amount? = v.amount? :=
  apply_nulled (f := amount?) rfl rfl v

lemma amount_of_isNaN (h : v.isNaN) : v.amount? = .ok none := by
  rw [← amount_nulled, nulled_of_isNaN h]
  rfl

lemma exists_key_of_isNaN (h : v.isNaN) : ∃ s, v.key = .ok s ∧ (s = "nan" ∨ s = "NaN") := by
  obtain rfl | rfl := isNaN_iff.1 h
  · exact ⟨"nan", rfl, .inl rfl⟩
  · exact ⟨"NaN", rfl, .inr rfl⟩

lemma numerical_integerText {n : Int} {s : String} (h : integerText n = .ok s) : Numerical s := by
  rw [integerText_eq] at h
  split_ifs at h with hlong hneg
  · obtain rfl := Except.ok.inj h
    exact .append (by decide) (numerical_digits _)
  · obtain rfl := Except.ok.inj h
    exact numerical_digits _

lemma numerical_key_int {n : Int} {s : String} (h : (Value.int n).key = .ok s) : Numerical s :=
  numerical_integerText h

lemma numerical_key_float {x : Binary64} (hx : x.isNaN = false) {s : String}
    (h : (Value.float x).key = .ok s) : Numerical s := by
  rw [key] at h
  split at h
  · exact numerical_integerText h
  · obtain rfl := Except.ok.inj h
    exact Binary64.numerical_text hx

end Value

namespace Record

/-- The record with null for every field that is not a number. -/
def nulled (r : Record) : Record := Table.mapValues Value.nulled r

lemma get?_nulled (r : Record) (name : String) :
    Table.get? r.nulled name = (Table.get? r name).map Value.nulled :=
  Table.get?_mapValues _ _ _

@[simp] lemma value_nulled (r : Record) (name : String) :
    r.nulled.value name = (r.value name).nulled := by
  rw [value, value, get?_nulled]
  cases Table.get? r name <;> rfl

end Record

end Crosswalk
