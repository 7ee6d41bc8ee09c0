import Crosswalk.Condition.Parse
import Crosswalk.Proofs.Formula.Parse
import Crosswalk.Proofs.Number.Binary64
import Crosswalk.Proofs.Number.Numeral
import Crosswalk.Proofs.Value.NotANumber

/-!
What conditions are read as.

A literal that is read stands under a text in tables, and a number among them is one. An integer
literal of too many digits is not read, and its fault is the only one that is not a fault of
conditions.
-/

namespace Crosswalk.Condition

open Fallible Text

/-- A literal whose text is not too long, or the fault of an integer literal that is too long. -/
def Reads : Except Fault Literal → Prop
  | .ok l => l.value.hasLongKey = false ∧ l.value.isNaN = false
  | .error f => ∃ n, Numeral.maxIntegerDigits < n ∧ f = .integerTextTooLong n

lemma not_isLong_of_lt {n : Int} (h : n.natAbs < 10 ^ Numeral.maxIntegerDigits) :
    ¬ Numeral.IsLong n := Nat.not_le.2 h

lemma two_pow_le_ten_pow {k l : Nat} (h : k ≤ l) : 2 ^ k ≤ 10 ^ l :=
  (Nat.pow_le_pow_left (by decide) k).trans (Nat.pow_le_pow_right (by decide) h)

lemma reads_integer {neg : Bool} {whole : List Char} (hd : ∀ c ∈ whole, c.isDigit)
    (h : whole.length ≤ Numeral.maxIntegerDigits) :
    Reads (.ok (.int (Binary64.signed neg (Numeral.value whole)))) := by
  have hv : Numeral.value whole < 10 ^ Numeral.maxIntegerDigits :=
    (Numeral.value_lt hd).trans_le (Nat.pow_le_pow_right (by decide) h)
  simp [Reads, Literal.value, Value.hasLongKey, Value.holdsLong, Value.isNaN, not_isLong_of_lt, hv]

lemma hasLongKey_float {x : Binary64} (hx : x.Canonical) :
    (Value.float x).hasLongKey = false := by
  simp only [Value.hasLongKey, Option.any_eq_false, decide_eq_false_iff_not]
  intro n hn
  refine not_isLong_of_lt ((Binary64.natAbs_lt_of_toInt? hx hn).trans_le ?_)
  exact two_pow_le_ten_pow (by decide)

lemma reads_float {x : Binary64} (hx : x.Canonical) (hnan : x.isNaN = false) :
    Reads (.ok (.float x)) := ⟨hasLongKey_float hx, hnan⟩

lemma reads_unsigned? {negative : Bool} {cs rest : List Char} {x : Except Fault Literal}
    (h : unsigned? negative cs = some (x, rest)) : Reads x := by
  unfold unsigned? at h
  dsimp only [Formula.run] at h
  split at h
  · simp at h
  · split at h
    · obtain ⟨rfl, -⟩ := Prod.mk.inj (Option.some.inj h)
      exact reads_float (Binary64.ofDigits_canonical _ _ _) (Binary64.isNaN_ofDigits _ _ _)
    · split at h
      · obtain ⟨rfl, -⟩ := Prod.mk.inj (Option.some.inj h)
        exact ⟨_, by assumption, rfl⟩
      · obtain ⟨rfl, -⟩ := Prod.mk.inj (Option.some.inj h)
        exact reads_integer (List.all_eq_true.1 List.all_takeWhile) (by omega)

lemma reads_number? {cs rest : List Char} {x : Except Fault Literal}
    (h : number? cs = some (x, rest)) : Reads x := by
  unfold number? at h
  split at h
  · exact reads_unsigned? h
  · exact reads_unsigned? h

lemma reads_ofName (name : List Char) : Reads (.ok (ofName name)) := by
  unfold ofName
  split <;> exact ⟨rfl, rfl⟩

lemma reads_literal? {cs rest : List Char} {x : Except Fault Literal}
    (h : literal? cs = some (x, rest)) : Reads x := by
  unfold literal? at h
  split at h
  · simp at h
  · split at h
    · obtain ⟨p, -, hp⟩ := Option.map_eq_some_iff.1 h
      obtain ⟨rfl, -⟩ := Prod.mk.inj hp
      exact ⟨rfl, rfl⟩
    · split at h
      · obtain rfl := Option.some.inj h
        exact reads_number? (by assumption)
      · obtain ⟨p, -, hp⟩ := Option.map_eq_some_iff.1 h
        obtain ⟨rfl, -⟩ := Prod.mk.inj hp
        exact reads_ofName _

lemma parts?_eq_some {cs field : List Char} {written : String} {comparison : Comparison}
    {x : Except Fault Literal} : parts? cs = some (field, written, comparison, x) ↔
      ∃ r₁ r₂ r₃, field? (skipBlanks cs) = some (field, r₁) ∧
        operator? (skipBlanks r₁) = some (written, comparison, r₂) ∧
        literal? (skipBlanks r₂) = some (x, r₃) ∧ skipBlanks r₃ = [] := by
  unfold parts?
  constructor
  · intro h
    obtain ⟨⟨f, r₁⟩, hfield, h⟩ := Option.bind_eq_some_iff.1 h
    obtain ⟨⟨w, c, r₂⟩, hoperator, h⟩ := Option.bind_eq_some_iff.1 h
    obtain ⟨⟨y, r₃⟩, hliteral, h⟩ := Option.bind_eq_some_iff.1 h
    dsimp only at h
    split at h
    next hrest =>
      cases h
      exact ⟨r₁, r₂, r₃, hfield, hoperator, hliteral, List.isEmpty_iff.1 hrest⟩
    next => cases h
  · rintro ⟨r₁, r₂, r₃, hfield, hoperator, hliteral, hrest⟩
    simp [hfield, hoperator, hliteral, hrest]

lemma parse_eq_ok {l : Limits} {text : String} {c : Condition} : parse l text = .ok c ↔
    (text.length : Int) ≤ l.length ∧ (c.comparison.isOrder → c.literal.isNumber) ∧
      ∃ field written, String.ofList field = c.field ∧
        parts? text.toList = some (field, written, c.comparison, .ok c.literal) := by
  unfold parse
  constructor
  · intro h
    obtain ⟨_, hlength, h⟩ := bind_eq_ok.1 h
    split at h
    · simp [refuse] at h
    next field written comparison x hparts =>
      obtain ⟨y, hy, hread⟩ := bind_eq_ok.1 h
      subst hy
      -- the parts are refused only if something else than a number is ordered to
      split at hread
      · simp [refuse] at hread
      next horder =>
        obtain rfl := Except.ok.inj hread
        exact ⟨(l.check_eq_ok).1 hlength, by simpa using horder, field, written, rfl, hparts⟩
  · rintro ⟨hlength, horder, field, written, hfield, hparts⟩
    have hcheck : l.check .conditionForm "Condition" text = .ok () := (l.check_eq_ok).2 hlength
    simp only [hcheck, hparts, ok_bind, hfield]
    rw [if_neg (by simpa using horder)]
    rfl

lemma reads_of_parse {l : Limits} {text : String} {c : Condition} (h : parse l text = .ok c) :
    Reads (.ok c.literal) := by
  obtain ⟨-, -, field, written, -, hparts⟩ := parse_eq_ok.1 h
  obtain ⟨r₁, r₂, r₃, -, -, hliteral, -⟩ := parts?_eq_some.1 hparts
  exact reads_literal? hliteral

lemma hasLongKey_of_parse {l : Limits} {text : String} {c : Condition} (h : parse l text = .ok c) :
    c.literal.value.hasLongKey = false := (reads_of_parse h).1

lemma isNaN_of_parse {l : Limits} {text : String} {c : Condition} (h : parse l text = .ok c) :
    c.literal.value.isNaN = false := (reads_of_parse h).2

end Crosswalk.Condition
