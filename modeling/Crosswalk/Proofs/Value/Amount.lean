import Crosswalk.Proofs.Fallible
import Crosswalk.Proofs.Number.Decimal
import Crosswalk.Proofs.Number.Reread
import Crosswalk.Value.Amount

/-!
Amounts are finite.

A value that is read as an amount is read as a finite decimal, rounding leaves it finite, and a
finite decimal can always be given back as a value. A binary number has an amount, the one its text
writes, if it is finite.
-/

namespace Crosswalk

open Fallible

lemma Decimal.isFinite_of_ofNumeral? {n : Numeral} {d : Decimal} (h : ofNumeral? n = some d) :
    d.isFinite := by
  unfold ofNumeral? at h
  split at h
  · cases h
  · cases h
    rfl

lemma Rounding.isFinite_of_apply {r : Rounding} {x y : Decimal} (hx : x.isFinite)
    (h : r.apply x = .ok y) : y.isFinite := by
  cases r with
  | none =>
    cases h
    exact hx
  | cents => exact Decimal.isFinite_of_quantize hx h
  | dollars => exact Decimal.isFinite_of_quantize hx h

namespace Value

lemma isFinite_of_finite? {x d : Decimal} (h : finite? x = some d) : d.isFinite := by
  unfold finite? at h
  split_ifs at h with hx
  cases h
  exact hx

/-- **An amount is finite.** -/
theorem isFinite_of_amount {v : Value} {d : Decimal} (h : v.amount? = .ok (some d)) :
    d.isFinite := by
  cases v with
  | int n =>
    obtain ⟨s, -, hd⟩ := bind_eq_ok.1 h
    cases hd
    rfl
  | float x =>
    obtain ⟨y, -, hd⟩ := Option.bind_eq_some_iff.1 (Except.ok.inj h)
    exact isFinite_of_finite? hd
  | decimal x => exact isFinite_of_finite? (Except.ok.inj h)
  | text s =>
    obtain ⟨n, -, hd⟩ := Option.bind_eq_some_iff.1 (Except.ok.inj h)
    exact Decimal.isFinite_of_ofNumeral? hd
  | _ => cases h

def HasAmount (v : Value) (q : ℚ) : Prop := ∃ d, v.amount? = .ok (some d) ∧ d.toRat = q

lemma hasAmount_float {x : Binary64} (hx : x.Canonical) (hfin : x.isFinite) :
    (Value.float x).HasAmount x.written := by
  obtain ⟨d, htext, hd, hvalue⟩ := Binary64.ofText?_text hx hfin
  exact ⟨d, by simp [amount?, htext, finite?, hd], hvalue⟩

lemma amount_float_eq_none {x : Binary64} (hfin : x.isFinite = false) :
    (Value.float x).amount? = .ok none := by
  rcases x with _ | (_ | _) | _
  · rfl
  · rfl
  · rfl
  · cases hfin

lemma not_fails_ofAmount {d : Decimal} (h : d.isFinite) : ¬ Fails (ofAmount d) := by
  obtain ⟨s, c, e, rfl⟩ := Decimal.isFinite_iff.1 h
  simp [ofAmount, Decimal.trunc?]

end Value

end Crosswalk
