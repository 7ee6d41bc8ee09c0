import Mathlib.Data.List.Infix
import Mathlib.Tactic.Common
import Crosswalk.Text.Piece

/-!
Pieces of texts.

The parts between separators give the text back when the separator is put between them again. A part
holds no separator: one that began in it would have been found there before what follows was read.
-/

namespace Crosswalk.Text

variable {front sep cur cs rest part : List Char}

lemma behind?_eq_some : behind? front cs = some rest ↔ cs = front ++ rest := by
  induction front generalizing cs with
  | nil => simp [behind?]
  | cons f front ih =>
    cases cs with
    | nil => simp [behind?]
    | cons c cs => by_cases h : f = c <;> simp [behind?, h, ih, eq_comm (a := c)]

lemma startsWith_iff : startsWith cs front ↔ front <+: cs := by
  rw [startsWith, Option.isSome_iff_exists]
  simp only [behind?_eq_some, List.IsPrefix, eq_comm (a := cs)]

/-! ### Parts between separators -/

lemma splitFrom_ne_nil (sep cur : List Char) (skip : Nat) (cs : List Char) :
    splitFrom sep cur skip cs ≠ [] := by
  induction cs generalizing cur skip with
  | nil => simp [splitFrom]
  | cons c cs ih =>
    cases skip with
    | zero =>
      rw [splitFrom]
      split_ifs
      · simp
      · exact ih _ _
    | succ k => exact ih cur k

lemma joinWith_cons {parts : List (List Char)} (h : parts ≠ []) :
    joinWith sep (part :: parts) = part ++ sep ++ joinWith sep parts := by
  obtain ⟨p, ps, rfl⟩ := List.exists_cons_of_ne_nil h
  simp [joinWith, List.intercalate]

lemma drop_of_prefix {c : Char} (hsep : sep ≠ []) (h : sep <+: c :: cs) :
    sep ++ cs.drop (sep.length - 1) = c :: cs := by
  obtain ⟨s, sep, rfl⟩ := List.exists_cons_of_ne_nil hsep
  obtain ⟨rest, h⟩ := h
  obtain ⟨rfl, rfl⟩ := List.cons.inj h
  simp

lemma joinWith_splitFrom (hsep : sep ≠ []) (skip : Nat) :
    joinWith sep (splitFrom sep cur skip cs) = cur ++ cs.drop skip := by
  induction cs generalizing cur skip with
  | nil => simp [splitFrom, joinWith, List.intercalate]
  | cons c cs ih =>
    cases skip with
    | zero =>
      rw [splitFrom]
      split_ifs with h
      · rw [joinWith_cons (splitFrom_ne_nil _ _ _ _), ih, List.nil_append, List.append_assoc,
          drop_of_prefix hsep (startsWith_iff.1 h), List.drop_zero]
      · rw [ih]
        simp
    | succ k => exact ih k

/-- **The parts put together again are the text.** -/
theorem joinWith_splitOn (hsep : sep ≠ []) : joinWith sep (splitOn sep cs) = cs :=
  joinWith_splitFrom hsep 0

/-- No separator begins in what has been read of a part, if the text goes on with `rest`. -/
def Clear (sep cur rest : List Char) : Prop := ∀ i < cur.length, ¬ sep <+: cur.drop i ++ rest

lemma clear_nil (sep rest : List Char) : Clear sep [] rest := nofun

lemma Clear.snoc {c : Char} (h : Clear sep cur (c :: cs)) (hc : ¬ sep <+: c :: cs) :
    Clear sep (cur ++ [c]) cs := by
  intro i hi
  rw [List.length_append, List.length_singleton, Nat.lt_succ_iff_lt_or_eq] at hi
  rcases hi with hi | rfl
  · rw [List.drop_append_of_le_length hi.le, List.append_assoc]
    exact h i hi
  · simpa using hc

lemma Clear.not_infix (hsep : sep ≠ []) (h : Clear sep cur rest) : ¬ sep <:+: cur := by
  rintro ⟨before, after, rfl⟩
  have hpos := List.length_pos_of_ne_nil hsep
  refine h before.length (by simp; omega) ?_
  simp

lemma not_infix_splitFrom (hsep : sep ≠ []) {skip : Nat} (h : Clear sep cur (cs.drop skip)) :
    ∀ part ∈ splitFrom sep cur skip cs, ¬ sep <:+: part := by
  induction cs generalizing cur skip with
  | nil => simpa [splitFrom] using h.not_infix hsep
  | cons c cs ih =>
    cases skip with
    | zero =>
      rw [splitFrom]
      split_ifs with hc
      · rw [List.forall_mem_cons]
        exact ⟨h.not_infix hsep, ih (clear_nil sep _)⟩
      · exact ih (h.snoc (mt startsWith_iff.2 hc))
    | succ k => exact ih h

/-- **No part has the separator in it.** -/
theorem not_infix_splitOn (hsep : sep ≠ []) : ∀ part ∈ splitOn sep cs, ¬ sep <:+: part :=
  not_infix_splitFrom hsep (clear_nil sep _)

end Crosswalk.Text
