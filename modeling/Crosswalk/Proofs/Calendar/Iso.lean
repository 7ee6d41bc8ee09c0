import Crosswalk.Proofs.Calendar.Ordinal
import Crosswalk.Proofs.Calendar.Shape

/-!
Reading dates in ISO 8601.

A year of four digits in front of a hyphen puts the separator behind the tenth character. What stands
there is a time, and without it the date is its midnight.
-/

namespace Crosswalk.Calendar

open Text
open FreeForm (natural?)
open Rfc3339 (Writes writes_padded daysInMonth_le)
open Date (padded)

variable {d : Date} {y m day : Nat} {ys ms ds rest : List Char}

lemma writes_date (h : d.Valid) : Writes 4 d.year (padded 4 d.year).toList ∧
    Writes 2 d.month (padded 2 d.month).toList ∧ Writes 2 d.day (padded 2 d.day).toList := by
  obtain ⟨-, hyear, -, hmonth, -, hday⟩ := h
  have hlast := daysInMonth_le d.year d.month
  exact ⟨writes_padded (by decide) (Nat.lt_succ_of_le hyear), writes_padded (by decide) (by omega),
    writes_padded (by decide) (by omega)⟩

lemma toList_iso (d : Date) : d.iso.toList = (padded 4 d.year).toList ++
    '-' :: ((padded 2 d.month).toList ++ '-' :: (padded 2 d.day).toList) := by
  simp [Date.iso]

namespace Iso

lemma head_digits {width n : Nat} (h : Writes width n ds) (hwidth : 0 < width) :
    (ds ++ rest).head? ≠ some 'W' := by
  rcases ds with _ | ⟨c, ds⟩
  · have : 0 = width := h.length
    omega
  · intro heq
    have hc : c.isDigit := h.digits c (by simp)
    obtain rfl : c = 'W' := by simpa using heq
    simp at hc

lemma separatorAt?_hyphen (hys : ys.length = 4) (hrest : rest.head? ≠ some 'W')
    (hlength : rest.length ≠ 2) : separatorAt? (ys ++ '-' :: rest) = some 10 := by
  have hlen : (ys ++ '-' :: rest).length ≠ 7 := by
    rw [List.length_append, List.length_cons]
    omega
  have hfour : charAt (ys ++ '-' :: rest) 4 = some '-' := by
    rw [charAt, List.getElem?_append_right hys.le, hys]
    rfl
  have hfive : charAt (ys ++ '-' :: rest) 5 = rest.head? := by
    rw [charAt, List.getElem?_append_right (by omega), hys, List.head?_eq_getElem?]
    rfl
  rw [separatorAt?]
  simp only [hlen, hfour, hfive, hrest, if_true, if_false]

lemma date?_hyphens (hy : Writes 4 y ys) (hm : Writes 2 m ms) (hd : Writes 2 day ds)
    (rest : List Char) (len : Nat) :
    date? (ys ++ '-' :: (ms ++ '-' :: (ds ++ rest))) len = some (y, m, day) := by
  have hweek : (ms ++ '-' :: (ds ++ rest)).head? ≠ some 'W' := head_digits hm (by decide)
  rw [date?, hy.read]
  simp only [Option.bind_eq_bind, Option.bind_some, List.head?_cons, decide_true, hyphen?, if_true,
    hweek, if_false, hm.read, hd.read]
  rfl

lemma toList_iso_append (d : Date) (rest : List Char) : d.iso.toList ++ rest =
    (padded 4 d.year).toList ++
      '-' :: ((padded 2 d.month).toList ++ '-' :: ((padded 2 d.day).toList ++ rest)) := by
  rw [toList_iso]
  simp

lemma length_iso (h : d.Valid) : d.iso.toList.length = 10 := by
  obtain ⟨hy, hm, hd⟩ := writes_date h
  rw [toList_iso, List.length_append, hy.length, List.length_cons, List.length_append, hm.length,
    List.length_cons, hd.length]

lemma separatorAt?_iso (h : d.Valid) (rest : List Char) :
    separatorAt? (d.iso.toList ++ rest) = some 10 := by
  obtain ⟨hy, hm, hd⟩ := writes_date h
  rw [toList_iso_append]
  refine separatorAt?_hyphen hy.length (head_digits hm (by decide)) ?_
  rw [List.length_append, hm.length, List.length_cons]
  omega

lemma date?_iso (h : d.Valid) (rest : List Char) (len : Nat) :
    date? (d.iso.toList ++ rest) len = some (d.year, d.month, d.day) := by
  obtain ⟨hy, hm, hd⟩ := writes_date h
  rw [toList_iso_append]
  exact date?_hyphens hy hm hd rest len

lemma of?_midnight (h : d.Valid) :
    Moment.of? d.year d.month d.day 0 0 0 0 none = some (Moment.midnight d) := by
  have hdate : Date.of? d.year d.month d.day = some d := if_pos h
  rw [Moment.of?, if_pos (by simp [Moment.perSecond]), hdate]
  rfl

lemma moment?_iso (h : d.Valid) : moment? d.iso.toList = some (Moment.midnight d) := by
  have hlength := length_iso h
  have hsep := separatorAt?_iso h []
  have hdate := date?_iso h [] 10
  rw [List.append_nil] at hsep hdate
  rw [moment?, if_neg (by omega), hsep]
  simp only [Option.bind_eq_bind, Option.bind_some, hdate, hlength, lt_irrefl, if_false]
  exact of?_midnight h

lemma moment?_iso_cons (h : d.Valid) (c : Char) (rest : List Char) :
    moment? (d.iso.toList ++ c :: rest) = (time? rest).bind fun (r, offset) =>
      Moment.of? d.year d.month d.day r.hour r.minute r.second r.micro offset := by
  have hlength : (d.iso.toList ++ c :: rest).length = rest.length + 11 := by
    rw [List.length_append, length_iso h, List.length_cons]
    omega
  have hbehind : (d.iso.toList ++ c :: rest).drop 11 = rest := by
    rw [← List.drop_drop (i := 1) (j := 10), List.drop_left' (length_iso h)]
    rfl
  rw [moment?, if_neg (by omega), separatorAt?_iso h]
  simp only [Option.bind_eq_bind, Option.bind_some, date?_iso h, hbehind, hlength]
  rw [if_pos (by omega)]

end Iso

end Crosswalk.Calendar
