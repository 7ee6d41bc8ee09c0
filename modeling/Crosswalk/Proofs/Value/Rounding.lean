import Crosswalk.Proofs.Number.Nearest
import Crosswalk.Proofs.Value.Amount

/-!
What rounding makes of an amount.

Cents and dollars are the nearest multiples of their units. They are given as long as 28 digits can
write them, and then rounding is a matter of the number alone: it keeps the order and the sign, moves an
amount by at most half a unit and changes nothing the second time.
-/

namespace Crosswalk

open Decimal (digitCount precision)

namespace Rounding

/-- The place of the last digit that a policy leaves, if it takes any off. -/
def place? : Rounding → Option Int
  | .none => .none
  | .cents => some (-2)
  | .dollars => some 0

def Makes (r : Rounding) (q p : ℚ) : Prop :=
  match r.place? with
  | .none => p = q
  | some g => ∃ n : ℤ, IsNearest (10 ^ g) q n ∧ p = n * 10 ^ g

variable {r : Rounding} {g : Int} {x y : Decimal}

lemma apply_eq_quantize (hr : r.place? = some g) (x : Decimal) : r.apply x = x.quantize g := by
  cases r <;> cases hr <;> rfl

lemma apply_finite (hr : r.place? = some g) (s : Bool) (c : Nat) (e : Int) :
    r.apply (.finite s c e) =
      if (precision : Int) < digitCount (Decimal.inUnits c e g) then .error .invalidOperation
      else .ok (.finite s (Decimal.inUnits c e g) g) := by
  rw [apply_eq_quantize hr, Decimal.quantize_finite]

lemma nearest_of_apply (hr : r.place? = some g) (hx : x.isFinite) (h : r.apply x = .ok y) :
    ∃ s c, y = .finite s c g ∧ digitCount c ≤ precision ∧
      IsNearest (10 ^ g) x.toRat (Binary64.signed s c) := by
  obtain ⟨s, c, e, rfl⟩ := Decimal.isFinite_iff.1 hx
  rw [apply_finite hr] at h
  split_ifs at h with hlong
  cases h
  exact ⟨s, _, rfl, not_lt.1 hlong, Decimal.isNearest_inUnits s c e g⟩

/-- **A policy makes of an amount what it makes of the number.** -/
theorem makes_of_apply (hx : x.isFinite) (h : r.apply x = .ok y) : r.Makes x.toRat y.toRat := by
  unfold Makes
  rcases hr : r.place? with _ | g
  · obtain rfl : r = .none := by cases r <;> simp_all [place?]
    cases h
    rfl
  · obtain ⟨s, c, rfl, -, hnear⟩ := nearest_of_apply hr hx h
    exact ⟨_, hnear, rfl⟩

lemma ofAmount_whole (s : Bool) (c : Nat) :
    Value.ofAmount (.finite s c 0) = .ok (.int (Binary64.signed s c)) := by
  simp [Value.ofAmount, Decimal.trunc?, Decimal.isIntegral, Decimal.wholePart]

/-- What a policy that leaves digits down to the place `g` does to an amount. -/
structure RoundsAt (r : Rounding) (g : Int) (x : Decimal) : Prop where
  /-- The nearest multiple of the unit is given, at the place of the unit, or it is too long. -/
  nearest : ∃ n : ℤ, IsNearest (10 ^ g) x.toRat n ∧
    (r.apply x = .error .invalidOperation ↔ (precision : Int) < digitCount n.natAbs) ∧
    (digitCount n.natAbs ≤ precision → ∃ s, r.apply x = .ok (.finite s n.natAbs g) ∧
      (Decimal.finite s n.natAbs g).toRat = n * 10 ^ g)
  again : ∀ y, r.apply x = .ok y → r.apply y = .ok y
  odd : r.apply x.flip = Decimal.flip <$> r.apply x
  monotone : ∀ x' y y', x'.isFinite → x.toRat ≤ x'.toRat → r.apply x = .ok y →
    r.apply x' = .ok y' → y.toRat ≤ y'.toRat
  half : ∀ y, r.apply x = .ok y → |x.toRat - y.toRat| ≤ 10 ^ g / 2
  /-- What has no digits behind the point is given back as an integer. -/
  whole : g = 0 → ∀ y, r.apply x = .ok y →
    ∃ n : Int, Value.ofAmount y = .ok (.int n) ∧ (n : ℚ) = y.toRat

/-- **Cents and dollars are the nearest multiples of their units**, a tie away from zero, as far as 28
digits reach. -/
theorem rounds_at_place (hr : r.place? = some g) (hx : x.isFinite) : r.RoundsAt g x := by
  have hu : (0 : ℚ) < 10 ^ g := by positivity
  obtain ⟨s, c, e, rfl⟩ := Decimal.isFinite_iff.1 hx
  -- each part follows from the digits being the nearest multiple of the unit
  constructor
  case nearest =>
    refine ⟨_, Decimal.isNearest_inUnits s c e g, ?_⟩
    rw [apply_finite hr, Binary64.natAbs_signed]
    constructor
    · split_ifs with hlong <;> simp [hlong]
    · intro hshort
      exact ⟨s, if_neg (not_lt.2 hshort), rfl⟩
  case again =>
    intro y hy
    obtain ⟨t, b, rfl, hshort, -⟩ := nearest_of_apply hr hx hy
    rw [apply_finite hr, Decimal.inUnits_self, if_neg (not_lt.2 hshort)]
  case odd =>
    rw [Decimal.flip, apply_finite hr, apply_finite hr]
    split_ifs <;> rfl
  case monotone =>
    intro x' y y' hx' hle hy hy'
    obtain ⟨t, b, rfl, -, hnear⟩ := nearest_of_apply hr hx hy
    obtain ⟨t', b', rfl, -, hnear'⟩ := nearest_of_apply hr hx' hy'
    exact mul_le_mul_of_nonneg_right (by exact_mod_cast hnear.mono hu hnear' hle) hu.le
  case half =>
    intro y hy
    obtain ⟨t, b, rfl, -, hnear⟩ := nearest_of_apply hr hx hy
    exact hnear.abs_sub_le_half hu
  case whole =>
    rintro rfl y hy
    obtain ⟨t, b, rfl, -, -⟩ := nearest_of_apply hr hx hy
    exact ⟨_, ofAmount_whole t b, by rw [Decimal.toRat, zpow_zero, mul_one]⟩

/-- A tie below zero goes down. -/
theorem cents_below_zero :
    Rounding.place? .cents = some (-2) ∧ (Decimal.finite true 250005 (-3)).isFinite ∧
      Rounding.cents.apply (.finite true 250005 (-3)) = .ok (.finite true 25001 (-2)) ∧
      Rounding.cents.RoundsAt (-2) (.finite true 250005 (-3)) :=
  ⟨rfl, rfl, rfl, rounds_at_place rfl rfl⟩

end Rounding

end Crosswalk
