import Crosswalk.Calendar.Lexeme
import Crosswalk.Proofs.Calendar.Shape

/-!
The lexemes of a text, one after the other.

The fuel is the length of the text, and no run is longer than what is left of it, so the lexemes behind
the first one are those of the rest.
-/

namespace Crosswalk.Calendar

open Text

variable {cs ds rest : List Char} {c : Char}

lemma length_extend (r : Run) (letters : Bool) (token cs : List Char) :
    (extend r letters token cs).2.2.2.length ≤ cs.length := by
  induction cs generalizing r letters token with
  | nil => exact le_rfl
  | cons c cs ih =>
    rw [extend]
    split
    · exact (ih ..).trans (Nat.le_succ _)
    · exact le_rfl

lemma lexemesFrom_eq {fuel more : Nat} (h : cs.length ≤ fuel) (hmore : cs.length ≤ more) :
    lexemesFrom fuel cs = lexemesFrom more cs := by
  induction fuel generalizing more cs with
  | zero =>
    obtain rfl := List.eq_nil_of_length_eq_zero (Nat.le_zero.1 h)
    cases more <;> rfl
  | succ fuel ih =>
    rcases cs with _ | ⟨c, rest⟩
    · cases more <;> rfl
    · obtain ⟨more, rfl⟩ := Nat.exists_eq_succ_of_ne_zero (Nat.ne_zero_of_lt hmore)
      have hfuel : rest.length ≤ fuel := Nat.le_of_succ_le_succ h
      have hrest : rest.length ≤ more := Nat.le_of_succ_le_succ hmore
      simp only [lexemesFrom]
      split
      -- a run takes away at least its first character, as a mark does
      case h_1 r _ =>
        have hlength := length_extend r false [c] rest
        rw [ih (hlength.trans hfuel) (hlength.trans hrest)]
      case h_2 => rw [ih hfuel hrest]

lemma extend_digits (hds : ∀ c ∈ ds, isDigit c)
    (hrest : ∀ c ∈ rest.head?, ¬ isDigit c ∧ c ≠ '.' ∧ c ≠ ',') (token : List Char) :
    extend .number false token (ds ++ rest) = (.number, false, token ++ ds, rest) := by
  induction ds generalizing token with
  | nil =>
    rcases rest with _ | ⟨c, rest⟩
    · simp [extend]
    · -- what comes behind the digits ends the run
      obtain ⟨hdigit, hpoint, hcomma⟩ := hrest c rfl
      have hstop : Run.next? token c .number = none := by simp [Run.next?, hdigit, hpoint, hcomma]
      simp [extend, hstop, Run.hasLetters]
  | cons d ds ih =>
    have hnext : Run.next? token d .number = some .number := by
      simp [Run.next?, hds d (by simp)]
    have hletters : (false || Run.number.hasLetters) = false := rfl
    rw [List.cons_append, extend, hnext]
    dsimp only
    rw [hletters, ih fun c hc => hds c (List.mem_cons_of_mem d hc), List.append_assoc]
    rfl

lemma lexemes_digits (hds : ∀ c ∈ ds, isDigit c) (hne : ds ≠ [])
    (hrest : ∀ c ∈ rest.head?, ¬ isDigit c ∧ c ≠ '.' ∧ c ≠ ',') :
    lexemes (ds ++ rest) = ds :: lexemes rest := by
  obtain ⟨d, ds, rfl⟩ := List.exists_cons_of_ne_nil hne
  have hd : isDigit d := hds d (by simp)
  have hletter : Run.isLetter d = false := by simp [Run.isLetter, hd]
  have hextend := extend_digits (fun c hc => hds c (List.mem_cons_of_mem d hc)) hrest [d]
  rw [lexemes, List.cons_append, List.length_cons, lexemesFrom]
  simp only [hletter, hd, if_true, Bool.false_eq_true, if_false, hextend]
  have hfuel : rest.length ≤ (ds ++ rest).length := by simp
  rw [lexemes, lexemesFrom_eq hfuel le_rfl]
  rfl

lemma lexemes_mark (hletter : Run.isLetter c = false) (hdigit : isDigit c = false)
    (hblank : isBlank c = false) : lexemes (c :: rest) = [c] :: lexemes rest := by
  rw [lexemes, List.length_cons, lexemesFrom]
  simp only [hletter, hdigit, hblank, Bool.false_eq_true, if_false]
  rfl

end Crosswalk.Calendar
