import Mathlib.Tactic.Common
import Crosswalk.Number.Decimal

/-!
Arithmetic stays among the finite numbers.

Every operation on finite decimals ends with `fit`, which gives a finite number or reports an
overflow. A number that is put on another exponent stays finite as well.
-/

namespace Crosswalk.Decimal

variable {z : Decimal}

lemma isFinite_of_fit {s : Bool} {c : Nat} {e : Int} (h : fit s c e = .ok z) : z.isFinite := by
  unfold fit at h
  dsimp only at h
  repeat' split at h
  all_goals cases h
  all_goals rfl

lemma isFinite_of_addFinite {s t : Bool} {a b : Nat} {e f : Int}
    (h : addFinite s a e t b f = .ok z) : z.isFinite := by
  unfold addFinite at h
  dsimp only at h
  repeat' split at h
  all_goals exact isFinite_of_fit h

lemma isFinite_of_divFinite {s : Bool} {a b : Nat} {e f : Int}
    (h : divFinite s a e b f = .ok z) : z.isFinite := by
  unfold divFinite at h
  dsimp only at h
  split at h
  · exact isFinite_of_fit h
  · exact isFinite_of_fit h

lemma isFinite_iff {x : Decimal} : x.isFinite ↔ ∃ s c e, x = .finite s c e := by
  cases x <;> simp [isFinite]

variable {x y : Decimal}

lemma isFinite_of_add (hx : x.isFinite) (hy : y.isFinite) (h : x.add y = .ok z) : z.isFinite := by
  obtain ⟨s, a, e, rfl⟩ := isFinite_iff.1 hx
  obtain ⟨t, b, f, rfl⟩ := isFinite_iff.1 hy
  exact isFinite_of_addFinite h

lemma isFinite_flip : x.flip.isFinite = x.isFinite := by
  cases x <;> rfl

lemma isFinite_of_sub (hx : x.isFinite) (hy : y.isFinite) (h : x.sub y = .ok z) : z.isFinite :=
  isFinite_of_add hx (isFinite_flip.trans hy) h

lemma isFinite_of_mul (hx : x.isFinite) (hy : y.isFinite) (h : x.mul y = .ok z) : z.isFinite := by
  obtain ⟨s, a, e, rfl⟩ := isFinite_iff.1 hx
  obtain ⟨t, b, f, rfl⟩ := isFinite_iff.1 hy
  exact isFinite_of_fit h

lemma isFinite_of_div (hx : x.isFinite) (hy : y.isFinite) (h : x.div y = .ok z) : z.isFinite := by
  obtain ⟨s, a, e, rfl⟩ := isFinite_iff.1 hx
  obtain ⟨t, b, f, rfl⟩ := isFinite_iff.1 hy
  rw [div] at h
  split at h
  · split at h <;> cases h
  · split at h
    · exact isFinite_of_fit h
    · exact isFinite_of_divFinite h

lemma isFinite_of_plus (hx : x.isFinite) (h : x.plus = .ok z) : z.isFinite := by
  obtain ⟨s, c, e, rfl⟩ := isFinite_iff.1 hx
  exact isFinite_of_fit h

lemma isFinite_of_minus (hx : x.isFinite) (h : x.minus = .ok z) : z.isFinite := by
  obtain ⟨s, c, e, rfl⟩ := isFinite_iff.1 hx
  exact isFinite_of_fit h

lemma isFinite_of_quantize {g : Int} (hx : x.isFinite) (h : x.quantize g = .ok z) :
    z.isFinite := by
  obtain ⟨s, c, e, rfl⟩ := isFinite_iff.1 hx
  rw [quantize] at h
  dsimp only at h
  repeat' split at h
  all_goals cases h
  all_goals rfl

end Crosswalk.Decimal
