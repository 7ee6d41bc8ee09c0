import Mathlib.Tactic.Common
import Crosswalk.Number.Shortest

/-!
What texts of numbers are written with.

An integer and a binary number are written with digits, signs, a point and an exponent, and an
infinity with the letters of its name. What is not a number has a text of another kind. The digits
of a natural number can be read back.
-/

namespace Crosswalk

lemma isDigit_of_mem {n : Nat} {c : Char} (hc : c ∈ (toString n).toList) : c.isDigit := by
  rw [Nat.toString_eq_ofList_toDigits, String.toList_ofList] at hc
  exact Nat.isDigit_of_mem_toDigits (by decide) (by decide) hc

lemma eq_of_digits {m n : Nat} (h : (toString m).toList = (toString n).toList) : m = n := by
  have hread := congrArg (fun cs => Nat.ofDigitChars 10 cs 0) h
  simpa [Nat.toString_eq_ofList_toDigits] using hread

def IsNumeral (c : Char) : Prop := c.isDigit ∨ c ∈ ['+', '-', '.', 'e', 'i', 'n', 'f']

def Numerical (s : String) : Prop := ∀ c ∈ s.toList, IsNumeral c

instance : DecidablePred IsNumeral := fun c =>
  inferInstanceAs (Decidable (c.isDigit = true ∨ c ∈ ['+', '-', '.', 'e', 'i', 'n', 'f']))

instance (s : String) : Decidable (Numerical s) := List.decidableBAll IsNumeral s.toList

namespace Numerical

variable {s t : String}

lemma append (hs : Numerical s) (ht : Numerical t) : Numerical (s ++ t) := by
  intro c hc
  rw [String.toList_append, List.mem_append] at hc
  exact hc.elim (hs c) (ht c)

lemma take (hs : Numerical s) (n : Nat) : Numerical (s.take n).toString := by
  intro c hc
  have htake : (s.take n).toString.toList = s.toList.take n := by simp
  exact hs c (List.mem_of_mem_take (htake ▸ hc))

lemma drop (hs : Numerical s) (n : Nat) : Numerical (s.drop n).toString := by
  intro c hc
  have hdrop : (s.drop n).toString.toList = s.toList.drop n := by simp
  exact hs c (List.mem_of_mem_drop (hdrop ▸ hc))

end Numerical

lemma numerical_digits (n : Nat) : Numerical (toString n) := fun _ hc => .inl (isDigit_of_mem hc)

lemma numerical_zeros (n : Nat) : Numerical (String.ofList (List.replicate n '0')) := by
  intro c hc
  rw [String.toList_ofList] at hc
  rw [List.eq_of_mem_replicate hc]
  exact .inl rfl

namespace Binary64

lemma numerical_exponentText (x : Int) : Numerical (exponentText x) := by
  have hdigits := numerical_digits x.natAbs
  unfold exponentText
  refine .append (by split <;> decide) ?_
  split
  · exact .append (by decide) hdigits
  · exact hdigits

lemma numerical_layout {digits : String} (h : Numerical digits) (point : Int) :
    Numerical (layout digits point) := by
  unfold layout
  dsimp only
  split_ifs
  · exact .append (.append (.append (h.take 1) (by decide)) (by decide)) (numerical_exponentText _)
  · exact .append (.append (.append (h.take 1) (.append (by decide) (h.drop 1))) (by decide))
      (numerical_exponentText _)
  · exact .append (.append (by decide) (numerical_zeros _)) h
  · exact .append (.append h (numerical_zeros _)) (by decide)
  · exact .append (.append (h.take _) (by decide)) (h.drop _)

/-- **The text of a binary number** is that of a number. -/
theorem numerical_text {x : Binary64} (hx : x.isNaN = false) : Numerical x.text := by
  cases x with
  | nan => simp [isNaN] at hx
  | infinite s => cases s <;> decide
  | finite s m e =>
    have hsign : Numerical (if s then "-" else "") := by cases s <;> decide
    rw [text]
    dsimp only
    split
    · exact hsign.append (by decide)
    · exact hsign.append (numerical_layout (numerical_digits _) _)

end Binary64

end Crosswalk
