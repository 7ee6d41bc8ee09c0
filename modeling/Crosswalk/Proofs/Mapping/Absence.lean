import Crosswalk.Proofs.Condition.Parse
import Crosswalk.Proofs.Mapping.Dependence
import Crosswalk.Proofs.Readers

/-!
Mapping a record with null for what is not a number.

A transfer, a calculation, a translation and a default take what is not a number for null. A
condition does not where it asks for equality: null equals null alone, and what is not a number
equals the text that it is written with.
-/

namespace Crosswalk

open Fallible

namespace Condition

/-- The condition asks whether what is not a number is null, or the text that it is written with. -/
def TellsApart (c : Condition) (v : Value) : Prop :=
  v.isNaN ∧ c.comparison.isOrder = false ∧
    (c.literal = .null ∨ ∃ s, v.key = .ok s ∧ c.literal = .text s)

variable {l : Literal} {v : Value}

lemma key_eq_iff {s : String} (hs : s = "nan" ∨ s = "NaN") (hl : l.value.isNaN = false) :
    l.value.key = .ok s ↔ l = .text s := by
  have hnumerical : ¬ Numerical s := by rcases hs with rfl | rfl <;> decide
  cases l with
  | null =>
    refine iff_of_false (fun h => ?_) (by simp)
    have hnone : "None" = s := Except.ok.inj h
    rcases hs with rfl | rfl <;> exact absurd hnone (by decide)
  | bool b =>
    refine iff_of_false (fun h => ?_) (by simp)
    have hbool : (if b then "true" else "false") = s := Except.ok.inj h
    rcases hs with rfl | rfl <;> cases b <;> exact absurd hbool (by decide)
  | int n => exact iff_of_false (fun h => hnumerical (Value.numerical_key_int h)) (by simp)
  | float x => exact iff_of_false (fun h => hnumerical (Value.numerical_key_float hl h)) (by simp)
  | text t =>
    have hkey : (Literal.text t).value.key = .ok t := rfl
    simp [hkey]

lemma equals_of_isNaN (hv : v.isNaN) (hnull : l ≠ .null) : equals l v = sameKey v l.value := by
  have hv' : v ≠ .null := by
    rintro rfl
    cases hv
  -- without an amount the texts are compared, whether the literal is a number or not
  rw [equals.eq_3 _ _ hnull hv', Value.amount_of_isNaN hv]
  split <;> rfl

lemma equals_null_eq_iff (hv : v.isNaN) (hlong : l.value.hasLongKey = false)
    (hl : l.value.isNaN = false) :
    equals l .null = equals l v ↔ ¬ (l = .null ∨ ∃ s, v.key = .ok s ∧ l = .text s) := by
  by_cases hnull : l = .null
  · subst hnull
    obtain rfl | rfl := Value.isNaN_iff.1 hv <;> simp [equals, Value.isNull]
  obtain ⟨s, hs, hnan⟩ := Value.exists_key_of_isNaN hv
  obtain ⟨t, ht⟩ : ∃ t, l.value.key = .ok t := not_fails.1 (by simp [hlong])
  have hsame : sameKey v l.value = .ok (decide (s = t)) := by
    rw [sameKey, hs, ht]
    rfl
  have hiff : t = s ↔ l = .text s := by simpa [ht] using key_eq_iff hnan hl
  rw [equals.eq_2 _ hnull, equals_of_isNaN hv hnull, hsame]
  simp [hnull, hs, ← hiff, eq_comm (a := t)]

lemma not_eq_not_iff {x y : Except Fault Bool} :
    (return !(← x) : Except Fault Bool) = (return !(← y)) ↔ x = y := by
  rcases x with f | b <;> rcases y with g | d <;> simp

lemma inOrder_nulled (c : Comparison) (o : Ordering) (l : Literal) (v : Value) :
    inOrder c o l v.nulled = inOrder c o l v := by
  rw [inOrder, inOrder, Value.amount_nulled]

/-- **When a condition tells what is not a number from null.** -/
theorem holds_nulled_iff {c : Condition} (hlong : c.literal.value.hasLongKey = false)
    (hl : c.literal.value.isNaN = false) (r : Record) :
    c.holds r.nulled = c.holds r ↔ ¬ c.TellsApart (r.value c.field) := by
  by_cases hv : (r.value c.field).isNaN
  swap
  · have hsame : c.holds r.nulled = c.holds r := by
      rw [holds, holds, Record.value_nulled, Value.nulled_of_not_isNaN hv]
    exact iff_of_true hsame fun h => hv h.1
  have hequals := equals_null_eq_iff hv hlong hl
  rw [holds, holds, Record.value_nulled, TellsApart]
  cases c.comparison with
  | equal => simpa [hv, Comparison.isOrder, Value.nulled_of_isNaN hv] using hequals
  | notEqual =>
    rw [not_eq_not_iff, Value.nulled_of_isNaN hv, hequals]
    simp [hv, Comparison.isOrder]
  | above => simp [inOrder_nulled, Comparison.isOrder]
  | below => simp [inOrder_nulled, Comparison.isOrder]

end Condition

namespace Mapping

variable (e : Engine) (source : Record)

/-! ### Stages -/

lemma transferred_nulled (t : Transfer) :
    transferred e source.nulled t = transferred e source t := by
  by_cases hm : (source.value t.source).isMissing
  · rw [transferred, transferred, Record.value_nulled]
    simp only [Value.isMissing_nulled, hm, if_true]
  · refine transferred_congr ?_
    rw [Record.value_nulled, Value.nulled_of_not_isMissing hm]

lemma translated_nulled (t : Translation) : translated source.nulled t = translated source t := by
  by_cases hm : (source.value t.source).isMissing
  · rw [translated, translated, Record.value_nulled]
    simp only [Value.isMissing_nulled, hm, if_true]
  · refine translated_congr ?_
    rw [Record.value_nulled, Value.nulled_of_not_isMissing hm]

lemma amountOf_nulled (mapped : Record) (r : FieldRef) :
    amountOf source.nulled mapped r = amountOf source mapped r := by
  rw [amountOf, amountOf, operand, operand, Record.get?_nulled]
  rcases Table.get? source r.name with _ | v
  · rfl
  · simp only [Option.map_some, Value.amount_nulled]

lemma calculated_nulled (mapped : Record) (k : Calculation) :
    calculated e source.nulled mapped k = calculated e source mapped k :=
  calculated_congr fun _ _ r _ => amountOf_nulled source mapped r

lemma fires_nulled (p : DefaultPolicy) (v : Value) : p.fires v.nulled = p.fires v := by
  cases p with
  | always => rfl
  | ifNull => exact Value.isMissing_nulled v
  | ifEmpty => exact Value.isEmpty_nulled v

/-- What null in the place of what is not a number changes: nothing but the conditions that tell the
two apart. -/
structure TakenForNull (e : Engine) (rules : Rules) (source : Record) : Prop where
  transfers : ∀ t, transferred e source.nulled t = transferred e source t
  conditions : ∀ text c, e.readers.condition text = .ok c →
    (c.holds source.nulled = c.holds source ↔ ¬ c.TellsApart (source.value c.field))
  calculations : ∀ mapped k, calculated e source.nulled mapped k = calculated e source mapped k
  translations : ∀ t, translated source.nulled t = translated source t
  defaults : ∀ (p : DefaultPolicy) (v : Value), p.fires v.nulled = p.fires v
  mapped : (∀ k ∈ rules.conditionals, ∀ c, e.readers.condition k.condition = .ok c →
      ¬ c.TellsApart (source.value c.field)) →
    ∀ index, mapRecord e rules index (.object source.nulled) =
      mapRecord e rules index (.object source)

/-- **What is not a number is taken for null** by everything but the conditions that ask whether it
is null or the text that it is written with. -/
theorem nan_takenForNull {e : Engine} (he : e.readers.Genuine) (rules : Rules) (source : Record) :
    TakenForNull e rules source := by
  have hconditions : ∀ text c, e.readers.condition text = .ok c →
      (c.holds source.nulled = c.holds source ↔ ¬ c.TellsApart (source.value c.field)) := by
    intro text c hc
    obtain ⟨l, hl⟩ := he.condition text
    have hread := hl.symm.trans hc
    exact Condition.holds_nulled_iff (Condition.hasLongKey_of_parse hread)
      (Condition.isNaN_of_parse hread) source
  refine ⟨transferred_nulled e source, hconditions, calculated_nulled e source,
    translated_nulled source, fires_nulled, fun hnone index => ?_⟩
  have hindistinct : Indistinct e rules source.nulled source :=
    ⟨fun t _ => transferred_nulled e source t,
      fun k hk => conditionHolds_congr fun c hc => (hconditions _ c hc).2 (hnone k hk c hc),
      fun k _ mapped => calculated_nulled e source mapped k,
      fun t _ => translated_nulled source t⟩
  exact hindistinct.mapRecord_eq index

/-- A pay and a bonus that are not numbers are mapped as null. -/
theorem payRules_takenForNull :
    TakenForNull leaverEngine payRules [("pay", .float .nan), ("bonus", .decimal .nan)] ∧
      mapRecord leaverEngine payRules none (.object [("pay", .null), ("bonus", .null)]) =
        mapRecord leaverEngine payRules none
          (.object [("pay", .float .nan), ("bonus", .decimal .nan)]) := by
  have h : TakenForNull leaverEngine payRules [("pay", .float .nan), ("bonus", .decimal .nan)] :=
    nan_takenForNull (Readers.genuine_within .standard) _ _
  refine ⟨h, h.mapped ?_ none⟩
  rintro k (_ | ⟨_, ⟨⟩⟩) c hc htells
  have hread : leaverEngine.readers.condition "pay > 5" = .ok ⟨"pay", .above, .int 5⟩ := rfl
  obtain rfl := Except.ok.inj (hread.symm.trans hc)
  cases htells.2.1

def nullRules : Rules := { Rules.empty with conditionals := [⟨"x == null", [⟨"y", .int 1⟩]⟩] }

/-- A condition finds null, but not what is not a number. -/
theorem nullRules_tell_apart :
    ¬ ∀ (e : Engine) (rules : Rules) (index : Option Int) (source : Record), e.readers.Genuine →
      mapRecord e rules index (.object source.nulled) =
        mapRecord e rules index (.object source) := by
  intro h
  have hsame := h leaverEngine nullRules none [("x", .float .nan)]
    (Readers.genuine_within .standard)
  have hnull : (mapRecord leaverEngine nullRules none (.object [("x", .null)])).result =
      .ok [("y", .int 1)] := rfl
  have hnan : (mapRecord leaverEngine nullRules none (.object [("x", .float .nan)])).result =
      .ok [] := rfl
  have hresult := congrArg Run.result hsame
  cases hnull.symm.trans (hresult.trans hnan)

end Mapping

end Crosswalk
