import Mathlib.Tactic.FinCases
import Crosswalk.Proofs.Number.DecimalText
import Crosswalk.Proofs.Value.Key

/-!
Which texts are amounts, and of what size.

A text is an amount exactly if it is a numeral between blanks and its digits are within reach of a
decimal. The amount is the number that the numeral denotes. Decimals and integers are read from their own
texts as they are.
-/

namespace Crosswalk

open Fallible Text

namespace Numeral

lemma value_append (ds fs : List Char) :
    value (ds ++ fs) = value ds * 10 ^ fs.length + value fs := by
  induction fs using List.reverseRecOn with
  | nil => simp [value]
  | append_singleton fs c ih =>
    rw [← List.append_assoc, value_concat, value_concat, ih, List.length_append,
      List.length_singleton, Nat.pow_succ]
    ring

namespace Writing

variable (w : Writing)

/-- The number that a numeral denotes: its whole part and its fraction, scaled by its exponent. -/
def number : ℚ :=
  (if w.sign = some true then -1 else 1) *
    (value w.whole + value w.places / 10 ^ w.places.length) * 10 ^ w.exponent

def decimal : Decimal := .ofNumeral w.numeral

lemma toRat_decimal : w.decimal.toRat = w.number := by
  have hten : (10 : ℚ) ^ w.places.length ≠ 0 := by positivity
  have hmagnitude : ((value (w.whole ++ w.places) : Nat) : ℚ) * 10 ^ (w.exponent - w.places.length) =
      (value w.whole + value w.places / 10 ^ w.places.length) * 10 ^ w.exponent := by
    rw [value_append, zpow_sub₀ (by norm_num), zpow_natCast]
    push_cast
    field_simp
  rw [decimal, Decimal.ofNumeral, Decimal.toRat, numeral, number]
  dsimp only
  rcases w.sign with _ | _ | _
  · simpa [Binary64.signed] using hmagnitude
  · simpa [Binary64.signed] using hmagnitude
  · simp only [Binary64.signed, beq_self_eq_true, if_true, Int.cast_neg, Int.cast_natCast, neg_mul,
      one_mul, hmagnitude]

lemma Proper.not_isBlank {w : Writing} (h : w.Proper) : ∀ c ∈ w.chars, isBlank c = false := by
  intro c hc
  obtain hdigit | hmark := h.mem_chars hc
  · exact isBlank_of_isDigit hdigit
  · fin_cases hmark <;> decide

end Writing

end Numeral

namespace Value

open Numeral (Writing)

lemma amountOfText?_eq_some {s : String} {d : Decimal} : amountOfText? s = some d ↔
    ∃ w : Writing, w.Proper ∧ w.chars = strip s.toList ∧ w.decimal = d ∧ d.InReach := by
  rw [amountOfText?, Option.bind_eq_some_iff]
  constructor
  · rintro ⟨n, hn, hd⟩
    obtain ⟨w, hw, hchars, rfl⟩ := Numeral.exists_writing hn
    exact ⟨w, hw, hchars, Decimal.ofNumeral?_eq_some.1 hd⟩
  · rintro ⟨w, hw, hchars, hd⟩
    exact ⟨w.numeral, hchars ▸ Numeral.ofChars?_chars hw, Decimal.ofNumeral?_eq_some.2 hd⟩

lemma amountOfText?_of_ofChars? {s : String} {n : Numeral} (h : Numeral.ofChars? s.toList = some n) :
    amountOfText? s = Decimal.ofNumeral? n := by
  obtain ⟨w, hw, hchars, -⟩ := Numeral.exists_writing h
  have hstrip : strip s.toList = s.toList := trimWhile_eq_self (hchars ▸ hw.not_isBlank)
  rw [amountOfText?, hstrip, h, Option.bind_some]

/-- **A decimal is read from its text as it is**, if a text can write it. -/
lemma amountOfText?_text (d : Decimal) : amountOfText? d.text = some d ↔ d.isFinite ∧ d.InReach := by
  rcases d with ⟨s, c, e⟩ | s | _
  · rw [amountOfText?_of_ofChars? (Decimal.ofChars?_text s c e), Decimal.ofNumeral?_eq_some]
    simp [Decimal.ofNumeral, Decimal.isFinite]
  · cases s <;> simp [Decimal.isFinite, Decimal.text, amountOfText?_eq_some, Decimal.InReach]
  · simp [Decimal.isFinite, Decimal.text, amountOfText?_eq_some, Decimal.InReach]

/-- **Texts of numerals are amounts**, and no others are. The amount is the number that the numeral
denotes, with all its digits, so decimals and integers come back from their own texts. -/
theorem numerals_are_amounts :
    (∀ s, ¬ Fails (Value.text s).amount?) ∧
    (∀ s d, (Value.text s).amount? = .ok (some d) ↔
      ∃ w : Writing, w.Proper ∧ w.chars = strip s.toList ∧ w.decimal = d ∧ d.InReach) ∧
    (∀ w : Writing, w.decimal.isFinite ∧ w.decimal.toRat = w.number) ∧
    (∀ d : Decimal, (Value.text d.text).amount? = .ok (some d) ↔ d.isFinite ∧ d.InReach) ∧
    ∀ n, (Value.int n).amount? = integerText n >>= fun s => (Value.text s).amount? := by
  have hread : ∀ s, (Value.text s).amount? = .ok (amountOfText? s) := fun s => rfl
  -- texts, then writings, decimals and integers as texts
  refine ⟨fun s => by simp [hread], fun s d => ?_, fun w => ⟨rfl, w.toRat_decimal⟩, fun d => ?_,
    fun n => ?_⟩
  · rw [hread, Except.ok.injEq]
    exact amountOfText?_eq_some
  · rw [hread, Except.ok.injEq]
    exact amountOfText?_text d
  · rw [amount?]
    rcases h : integerText n with f | s
    · rfl
    · rw [ok_bind, ok_bind, hread, amountOfText?_integerText h]
      rfl

end Value

end Crosswalk
