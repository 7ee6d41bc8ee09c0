import Crosswalk.Proofs.Number.Range
import Crosswalk.Value.Convert

/-!
What arithmetic asks of a number.

An operation with a small integer has a result for exactly the numbers that meet a demand: no integer may
be too large where it becomes a binary number, no decimal where it is rounded, and no infinity where it
becomes an integer. A result is never not-a-number.
-/

namespace Crosswalk

open Fallible

variable {k : Nat}

namespace Binary64

variable {x y : Binary64}

lemma IsWhole.toRat {s : Bool} {q : Nat} (h : x.IsWhole s q) : x.isFinite ∧ x.toRat = signed s q := by
  obtain ⟨j, rfl⟩ := h
  refine ⟨rfl, ?_⟩
  have hunit : (2 : ℚ) ^ j ≠ 0 := by positivity
  rw [Binary64.toRat, zpow_neg, zpow_natCast]
  cases s <;> simp [signed, hunit]

lemma toRat_ofInt (hk : k < 2 ^ 53) : (ofInt k).isFinite ∧ (ofInt k).toRat = k := by
  have hwhole : (ofInt k).IsWhole (decide ((k : Int) < 0)) (k : Int).natAbs := isWhole_ofInt hk
  obtain ⟨hfin, hvalue⟩ := hwhole.toRat
  rw [signed_natAbs, Int.cast_natCast] at hvalue
  exact ⟨hfin, hvalue⟩

end Binary64

namespace Decimal

variable {x z : Decimal}

lemma isNaN_of_isFinite (h : z.isFinite) : z.isNaN = false := by
  obtain ⟨s, c, e, rfl⟩ := isFinite_iff.1 h
  rfl

lemma add_zero {y : Decimal} (hx : x.isNaN = false) (hy : y.isFinite) (hzero : y.toRat = 0) :
    (Fails (x.add y) ↔ x.isFinite ∧ limit ≤ |x.toRat|) ∧ ∀ z, x.add y = .ok z → z.isNaN = false := by
  cases x with
  | nan => cases hx
  | infinite s =>
    obtain ⟨t, b, f, rfl⟩ := isFinite_iff.1 hy
    have hadd : (infinite s).add (finite t b f) = .ok (infinite s) := rfl
    simp [hadd, isFinite, isNaN]
  | finite s c e =>
    have hfin : (finite s c e).isFinite := rfl
    refine ⟨?_, fun z hz => isNaN_of_isFinite (isFinite_of_add rfl hy hz)⟩
    rw [fails_add_zero rfl hy hzero]
    simp [hfin]

end Decimal

/-- What an operation asks of a number. -/
inductive Demand where
  /-- Every number will do. -/
  | nothing
  /-- The number becomes an integer. -/
  | whole
  /-- The number is multiplied by `k`. -/
  | scaled (k : Nat)
  /-- The number is divided by `k`. -/
  | divided (k : Nat)
  /-- A binary half is added to `k` times the number, and the sum becomes an integer. -/
  | rounded (k : Nat)

namespace Demand

/-- The number is as it must be. Integers stay integers when they are multiplied, binary numbers become
infinities, and no decimal is added to a binary half. -/
def Met : Demand → Number → Prop
  | nothing, _ => True
  | whole, .int _ => True
  | whole, .float x => x.isFinite
  | whole, .decimal d => d.isFinite
  | scaled k, .decimal d => d.isFinite → |d.toRat| * k < Decimal.limit
  | scaled _, _ => True
  | divided k, .int m => |(m : ℚ)| / k < Binary64.limit
  | divided _, .float _ => True
  | divided k, .decimal d => d.isFinite → |d.toRat| / k < Decimal.limit
  | rounded k, .int m => |(m : ℚ)| * k < Binary64.limit
  | rounded k, .float x => x.isFinite ∧ |x.toRat| * k < Binary64.limit
  | rounded _, .decimal _ => False

variable {α β : Type} {d : Demand} {f : Number → Except Fault α} {g : α → β} {P : α → Prop}
  {Q : β → Prop}

/-- Exactly the numbers that meet the demand have a result, and every result is as `P` says. -/
structure Settles (d : Demand) (f : Number → Except Fault α) (P : α → Prop) : Prop where
  fails_iff : ∀ n, n.value.isMissing = false → (Fails (f n) ↔ ¬ d.Met n)
  result : ∀ n a, n.value.isMissing = false → f n = .ok a → P a

lemma Settles.of_cases (hgives : ∀ n, n.value.isMissing = false → d.Met n → ∃ a, f n = .ok a ∧ P a)
    (hfails : ∀ n, n.value.isMissing = false → ¬ d.Met n → Fails (f n)) : d.Settles f P where
  fails_iff n hn := by
    refine ⟨fun hf hmet => ?_, hfails n hn⟩
    obtain ⟨a, ha, -⟩ := hgives n hn hmet
    exact not_fails.2 ⟨a, ha⟩ hf
  result n a hn ha := by
    by_cases hmet : d.Met n
    · obtain ⟨b, hb, hP⟩ := hgives n hn hmet
      obtain rfl := Except.ok.inj (hb.symm.trans ha)
      exact hP
    · exact absurd (hfails n hn hmet) (not_fails.2 ⟨a, ha⟩)

lemma Settles.bind {g : α → Except Fault β} (h : d.Settles f P)
    (hg : ∀ a, P a → ∃ b, g a = .ok b ∧ Q b) : d.Settles (fun n => f n >>= g) Q := by
  refine .of_cases (fun n hn hmet => ?_) fun n hn hmet => ?_
  · obtain ⟨a, ha⟩ := not_fails.1 fun hf => (h.fails_iff n hn).1 hf hmet
    obtain ⟨b, hb, hQ⟩ := hg a (h.result n a hn ha)
    exact ⟨b, by rw [ha, ok_bind, hb], hQ⟩
  · exact fails_bind.2 (.inl ((h.fails_iff n hn).2 hmet))

lemma Settles.map (h : d.Settles f P) (hg : ∀ a, P a → Q (g a)) :
    d.Settles (fun n => do return g (← f n)) Q :=
  h.bind fun a ha => ⟨g a, rfl, hg a ha⟩

end Demand

namespace Number

end Number

end Crosswalk
