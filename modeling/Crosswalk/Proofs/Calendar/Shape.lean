import Crosswalk.Calendar.Reading
import Crosswalk.Proofs.Calendar.Rfc3339
import Crosswalk.Proofs.Value.Key

/-!
Reading dates in the fixed shapes.

The shapes with slashes and of eight digits are decided first: a text of one of them is the date that its
numbers make, or none. A text in ISO 8601 has none of these shapes, since its first number is too long.
-/

namespace Crosswalk.Calendar

open Text
open FreeForm (natural?)
open Rfc3339 (Writes writes_padded read_padded daysInMonth_le)
open Date (padded)

/-! ### Numbers -/

lemma digitValue?_ascii {c : Char} (h : c.isDigit) : digitValue? c = some (c.toNat - 48) := by
  have hrange : 48 ≤ c.toNat ∧ c.toNat ≤ 57 := by
    simpa [Char.isDigit, UInt32.le_iff_toNat_le] using h
  have hascii : c.toNat < 128 := by omega
  simp only [digitValue?, hascii, hrange, if_true, true_and]

lemma isDigit_ascii {c : Char} (h : c.isDigit) : isDigit c := by
  rw [isDigit, digitValue?_ascii h]
  rfl

def nextDigit (n : Option Nat) (c : Char) : Option Nat := do return (← n) * 10 + (← digitValue? c)

lemma natural?_eq {cs : List Char} (h : cs ≠ []) : natural? cs = cs.foldl nextDigit (some 0) := by
  rw [natural?, if_neg (by simpa using h)]
  rfl

lemma foldl_nextDigit_none (cs : List Char) : cs.foldl nextDigit none = none := by
  induction cs with
  | nil => rfl
  | cons c cs ih => exact ih

lemma isSome_foldl_nextDigit {cs : List Char} {n : Nat} :
    (cs.foldl nextDigit (some n)).isSome ↔ ∀ c ∈ cs, isDigit c := by
  induction cs generalizing n with
  | nil => simp
  | cons c cs ih =>
    rw [List.foldl_cons, List.forall_mem_cons]
    rcases h : digitValue? c with _ | v
    · have hnext : nextDigit (some n) c = none := by simp [nextDigit, h]
      simp [hnext, foldl_nextDigit_none, isDigit, h]
    · have hnext : nextDigit (some n) c = some (n * 10 + v) := by simp [nextDigit, h]
      simp [hnext, ih, isDigit, h]

lemma isSome_natural? {cs : List Char} : (natural? cs).isSome ↔ cs ≠ [] ∧ ∀ c ∈ cs, isDigit c := by
  by_cases hne : cs = []
  · simp [hne, natural?]
  · rw [natural?_eq hne, isSome_foldl_nextDigit, and_iff_right hne]

lemma isDigit_of_natural? {cs : List Char} {n : Nat} (h : natural? cs = some n) :
    ∀ c ∈ cs, isDigit c :=
  (isSome_natural?.1 (h ▸ rfl)).2

lemma foldl_nextDigit_ascii {ds : List Char} (h : ∀ c ∈ ds, c.isDigit) (n : Nat) :
    ds.foldl nextDigit (some n) = some (ds.foldl (fun v c => v * 10 + (c.toNat - 48)) n) := by
  induction ds generalizing n with
  | nil => rfl
  | cons c ds ih =>
    have hnext : nextDigit (some n) c = some (n * 10 + (c.toNat - 48)) := by
      simp [nextDigit, digitValue?_ascii (h c (by simp))]
    rw [List.foldl_cons, hnext, List.foldl_cons]
    exact ih (fun d hd => h d (by simp [hd])) _

variable {width n y m day : Nat} {cs ds ms ys : List Char} {b c : Char}

lemma natural?_writes (h : Writes width n ds) (hwidth : 0 < width) : natural? ds = some n := by
  have hne : ds ≠ [] := by
    rw [← List.length_pos_iff, h.length]
    exact hwidth
  have hvalue : ds.foldl (fun v c => v * 10 + (c.toNat - 48)) 0 = n := h.value
  rw [natural?_eq hne, foldl_nextDigit_ascii h.digits, hvalue]

lemma writes_toString (n : Nat) : Writes (toString n).length n (toString n).toList where
  length := String.length_toList
  digits _ hc := isDigit_of_mem hc
  value := Numeral.value_toString n

lemma length_toString_le (hwidth : 0 < width) (h : n < 10 ^ width) : (toString n).length ≤ width := by
  rw [Nat.toString_eq_ofList_toDigits, String.length_ofList]
  exact Nat.toDigits_length 10 n width hwidth h

lemma length_toString_pos (n : Nat) : 0 < (toString n).length := by
  rw [← String.length_toList, List.length_pos_iff]
  exact Binary64.toString_ne_nil n

/-! ### Texts with slashes or hyphens -/

def IsBar (c : Char) : Prop := c = '/' ∨ c = '-'

lemma IsBar.not_isDigit (h : IsBar c) : ¬ isDigit c := by
  obtain rfl | rfl := h <;> decide

lemma slashedParts?_append (hms : ∀ c ∈ ms, isDigit c) (hds : ∀ c ∈ ds, isDigit c) (hb : IsBar b)
    (hc : IsBar c) : slashedParts? (ms ++ b :: (ds ++ c :: ys)) =
      if ms.length ≤ 2 ∧ ds.length ≤ 2 ∧ ys.length = 4 then
        (natural? ys).bind fun y => (natural? ms).bind fun m =>
          (natural? ds).bind fun day => some (y, m, day)
      else none := by
  have hfirst : (ms ++ b :: (ds ++ c :: ys)).takeWhile isDigit = ms :=
    (Numeral.span_append hms (by simpa using hb.not_isDigit)).1
  have hsecond : (ds ++ c :: ys).takeWhile isDigit = ds :=
    (Numeral.span_append hds (by simpa using hc.not_isDigit)).1
  have hbehind : (b :: (ds ++ c :: ys)).drop (1 + ds.length) = c :: ys := by
    rw [Nat.add_comm, List.drop_succ_cons, List.drop_left]
  have hbars : (decide (b = '/') || decide (b = '-')) = true ∧
      (decide (c = '/') || decide (c = '-')) = true := by simpa [IsBar] using And.intro hb hc
  have hshape : (2 < ms.length ∨ 2 < ds.length ∨ ys.length + 1 ≠ 5) ↔
      ¬ (ms.length ≤ 2 ∧ ds.length ≤ 2 ∧ ys.length = 4) := by omega
  rw [slashedParts?]
  simp only [hfirst, List.drop_left, List.drop_one, List.tail_cons, hsecond, hbehind, List.head?_cons,
    Option.any_some, hbars, Bool.not_true, Bool.false_eq_true, false_or, List.length_cons, hshape,
    ite_not]
  rfl

/-! ### Texts of the fixed shapes -/

/-- The form `YYYYMMDD`, in digits of any script. -/
def Compact (cs : List Char) (y m day : Nat) : Prop :=
  ∃ ys ms ds, cs = ys ++ (ms ++ ds) ∧ ys.length = 4 ∧ ms.length = 2 ∧ ds.length = 2 ∧
    natural? ys = some y ∧ natural? ms = some m ∧ natural? ds = some day

/-- The forms `MM/DD/YYYY` and `MM-DD-YYYY`, where month and day may have one digit. -/
def Slashed (cs : List Char) (y m day : Nat) : Prop :=
  ∃ ms b ds c ys, cs = ms ++ b :: (ds ++ c :: ys) ∧ IsBar b ∧ IsBar c ∧
    ms.length ≤ 2 ∧ ds.length ≤ 2 ∧ ys.length = 4 ∧
    natural? ys = some y ∧ natural? ms = some m ∧ natural? ds = some day

lemma Compact.parts (h : Compact cs y m day) : compactParts? cs = some (y, m, day) := by
  obtain ⟨ys, ms, ds, rfl, hys, hms, hds, hy, hm, hd⟩ := h
  have hlength : (ys ++ (ms ++ ds)).length = 8 := by simp [hys, hms, hds]
  have hyear : (ys ++ (ms ++ ds)).take 4 = ys := List.take_left' hys
  have hrest : (ys ++ (ms ++ ds)).drop 4 = ms ++ ds := List.drop_left' hys
  have hmonth : (ms ++ ds).take 2 = ms := List.take_left' hms
  have hday : (ys ++ (ms ++ ds)).drop 6 = ds := by
    rw [← List.append_assoc]
    exact List.drop_left' (by simp [hys, hms])
  rw [compactParts?, if_neg (not_not.2 hlength), hyear, hrest, hmonth, hday, hy, hm, hd]
  rfl

lemma Slashed.parts (h : Slashed cs y m day) : slashedParts? cs = some (y, m, day) := by
  obtain ⟨ms, b, ds, c, ys, rfl, hb, hc, hms, hds, hys, hy, hm, hd⟩ := h
  rw [slashedParts?_append (isDigit_of_natural? hm) (isDigit_of_natural? hd) hb hc,
    if_pos ⟨hms, hds, hys⟩, hy, hm, hd]
  rfl

lemma compactParts?_eq_none (hc : c ∈ cs) (h : ¬ isDigit c) : compactParts? cs = none := by
  rw [Option.eq_none_iff_forall_not_mem]
  intro p hp
  obtain ⟨-, hp⟩ := (Option.ite_none_left_eq_some (p := cs.length ≠ 8)).1 hp
  obtain ⟨y, hy, hp⟩ := Option.bind_eq_some_iff.1 hp
  obtain ⟨m, hm, hp⟩ := Option.bind_eq_some_iff.1 hp
  obtain ⟨day, hday, -⟩ := Option.bind_eq_some_iff.1 hp
  have hsplit : cs = cs.take 4 ++ ((cs.drop 4).take 2 ++ cs.drop 6) := by
    rw [← List.drop_drop (i := 2) (j := 4), List.take_append_drop, List.take_append_drop]
  rw [hsplit, List.mem_append, List.mem_append] at hc
  exact h (hc.elim (isDigit_of_natural? hy c) (·.elim (isDigit_of_natural? hm c)
    (isDigit_of_natural? hday c)))

/-- **A text of a fixed shape is the date of its numbers**, or none if there is no such date. -/
theorem readTrimmed?_of_shape (h : Compact cs y m day ∨ Slashed cs y m day) (present : Nat) :
    readTrimmed? present cs = (Date.of? y m day).map Moment.midnight := by
  have hparts : (compactParts? cs <|> slashedParts? cs) = some (y, m, day) := by
    obtain h | h := h
    · rw [h.parts]
      rfl
    · have hbar : compactParts? cs = none := by
        obtain ⟨ms, b, ds, c, ys, rfl, hb, -⟩ := id h
        exact compactParts?_eq_none (c := b) (by simp) hb.not_isDigit
      rw [hbar, h.parts]
      rfl
  have hne : cs.isEmpty = false := by
    cases cs with
    | nil => simp [compactParts?, slashedParts?] at hparts
    | cons c cs => rfl
  rw [readTrimmed?, hne, hparts]
  rfl

end Crosswalk.Calendar
