import Mathlib.Data.Nat.Digits.Defs
import Crosswalk.Calendar.Rfc3339
import Crosswalk.Proofs.Number.Numeral
import Crosswalk.Proofs.Number.Text

/-!
Moments of rows read again.

The text of a moment in a row has every part in a fixed number of digits, so each part is read as it was
written. It has the hours and minutes of an offset only, so an offset must be of whole minutes to come
back.
-/

namespace Crosswalk

namespace Moment

/-- The parts of a moment are in their ranges, and its offset is less than a day. -/
structure Valid (t : Moment) : Prop where
  date : t.date.Valid
  hour : t.hour < 24
  minute : t.minute < 60
  second : t.second < 60
  micro : t.micro < perSecond
  offset : ∀ o ∈ t.offset, o.natAbs < perDay

def InMinutes (t : Moment) : Prop := ∀ o ∈ t.offset, 60 * perSecond ∣ o.natAbs

end Moment

namespace Calendar.Rfc3339

open Iso (digits? hyphen?)
open Date (padded)

/-! ### Numbers in a fixed number of digits -/

structure Writes (width n : Nat) (ds : List Char) : Prop where
  length : ds.length = width
  digits : ∀ c ∈ ds, c.isDigit
  value : Numeral.value ds = n

lemma writes_padded {width n : Nat} (hwidth : 0 < width) (h : n < 10 ^ width) :
    Writes width n (padded width n).toList := by
  have hlength : (toString n).length ≤ width := by
    rw [Nat.toString_eq_ofList_toDigits, String.length_ofList]
    exact Nat.toDigits_length 10 n width hwidth h
  have hchars : (padded width n).toList =
      List.replicate (width - (toString n).length) '0' ++ (toString n).toList := by
    rw [padded, String.toList_append, String.toList_ofList]
  rw [hchars]
  refine ⟨?_, fun c hc => ?_, ?_⟩
  · rw [List.length_append, List.length_replicate, String.length_toList]
    omega
  · -- zeros, or digits of the number itself
    obtain hc | hc := List.mem_append.1 hc
    · rw [List.eq_of_mem_replicate hc]
      rfl
    · exact isDigit_of_mem hc
  · rw [Numeral.value_zeros_append, Numeral.value_toString]

lemma Writes.read {width n : Nat} {ds : List Char} (h : Writes width n ds) (rest : List Char) :
    digits? width (ds ++ rest) = some (n, rest) := by
  have htake : (ds ++ rest).take width = ds := List.take_left' h.length
  have hdrop : (ds ++ rest).drop width = rest := List.drop_left' h.length
  have hall : ds.all Char.isDigit := List.all_eq_true.2 h.digits
  have hvalue : ds.foldl (fun v c => v * 10 + (c.toNat - 48)) 0 = n := h.value
  rw [digits?, htake, hdrop, if_pos ⟨h.length, hall⟩, hvalue]

lemma read_padded {width n : Nat} (hwidth : 0 < width) (h : n < 10 ^ width) (rest : List Char) :
    digits? width ((padded width n).toList ++ rest) = some (n, rest) :=
  (writes_padded hwidth h).read rest

/-! ### The parts of a moment -/

lemma daysInMonth_le (y m : Nat) : Date.daysInMonth y m ≤ 31 := by
  unfold Date.daysInMonth
  split <;> first | omega | (split <;> omega)

lemma date?_iso {d : Date} (h : d.Valid) (rest : List Char) :
    date? (d.iso.toList ++ rest) = some (d, rest) := by
  obtain ⟨-, hyear, -, hmonth, -, hday⟩ := id h
  have hyear' : d.year < 10 ^ 4 := Nat.lt_succ_of_le hyear
  have hmonth' : d.month < 10 ^ 2 := by omega
  have hday' : d.day < 10 ^ 2 := by
    have := daysInMonth_le d.year d.month
    omega
  have hchars : d.iso.toList ++ rest = (padded 4 d.year).toList ++ ('-' ::
      ((padded 2 d.month).toList ++ ('-' :: ((padded 2 d.day).toList ++ rest)))) := by
    simp [Date.iso]
  rw [hchars, date?, read_padded (by decide) hyear']
  simp only [Option.bind_eq_bind, Option.bind_some, hyphen?, if_true]
  rw [read_padded (by decide) hmonth']
  simp only [Option.bind_some]
  rw [read_padded (by decide) hday']
  simp [Date.of?, h]

/-- What stands behind the seconds is no digit, and does not go on with them. -/
def Ends (zone : List Char) : Prop := ∀ c ∈ zone.head?, ¬ c.isDigit ∧ c ≠ '.' ∧ c ≠ ','

lemma seconds?_written {s micro : Nat} (hs : s < 60) (hmicro : micro < Moment.perSecond)
    {zone : List Char} (hzone : Ends zone) :
    seconds? (':' :: ((padded 2 s).toList ++ ((Moment.fractionText micro).toList ++ zone))) =
      some (s, micro, zone) := by
  have hs' : s < 10 ^ 2 := by omega
  rw [seconds?, read_padded (by decide) hs']
  simp only [Option.bind_eq_bind, Option.bind_some, Moment.fractionText]
  -- without microseconds no fraction is written
  by_cases hzero : micro = 0
  · subst hzero
    rw [if_pos rfl, String.toList_empty, List.nil_append]
    cases zone with
    | nil => rfl
    | cons c zone =>
      obtain ⟨-, hpoint, hcomma⟩ := hzone c rfl
      simp [hpoint, hcomma]
  · have hsix : Writes 6 micro (padded 6 micro).toList := writes_padded (by decide) hmicro
    have hdigits := Numeral.digits_append hsix.digits fun c hc => (hzone c hc).1
    have hne : ((padded 6 micro).toList).isEmpty = false := by
      rw [List.isEmpty_eq_false_iff, ← List.length_pos_iff, hsix.length]
      decide
    have hread : microseconds (padded 6 micro).toList = micro := by
      rw [microseconds, List.take_of_length_le hsix.length.le, hsix.value, hsix.length]
      exact Nat.mul_one micro
    rw [if_neg hzero, String.toList_append]
    simp only [List.cons_append, List.nil_append, show ".".toList = ['.'] from rfl]
    simp only [true_or, if_true, hdigits, hne, hread]
    rfl

def zone : Option Int → List Char
  | none => []
  | some o =>
    if o = 0 then ['Z']
    else
      let minutes := o.natAbs / Moment.perSecond / 60
      (if o < 0 then '-' else '+') ::
        ((padded 2 (minutes / 60)).toList ++ ':' :: (padded 2 (minutes % 60)).toList)

lemma ends_zone (offset : Option Int) : Ends (zone offset) := by
  intro c hc
  cases offset with
  | none => simp [zone] at hc
  | some o =>
    dsimp only [zone] at hc
    split at hc
    · obtain rfl : 'Z' = c := by simpa using hc
      decide
    · split at hc
      · obtain rfl : '-' = c := by simpa using hc
        decide
      · obtain rfl : '+' = c := by simpa using hc
        decide

lemma offset?_signed {c : Char} {sign : Int} {h m : Nat} (hsign : sign? c = some sign)
    (hc : c ≠ 'Z' ∧ c ≠ 'z') (hh : h < 10 ^ 2) (hm : m < 60) :
    offset? (c :: ((padded 2 h).toList ++ ':' :: (padded 2 m).toList)) =
      some (some (sign * ((h * 3600 + m * 60) * Moment.perSecond : Nat))) := by
  have hm' : m < 10 ^ 2 := by omega
  have hminutes : digits? 2 (padded 2 m).toList = some (m, []) := by
    have hread := (writes_padded (by decide) hm').read []
    rwa [List.append_nil] at hread
  rw [offset?]
  · rw [hsign, read_padded (by decide) hh]
    simp [hminutes, hm]
  · exact fun heq => absurd heq hc.1
  · exact fun heq => absurd heq hc.2

lemma offset?_zone {offset : Option Int} (hday : ∀ o ∈ offset, o.natAbs < Moment.perDay)
    (hminutes : ∀ o ∈ offset, 60 * Moment.perSecond ∣ o.natAbs) :
    offset? (zone offset) = some offset := by
  cases offset with
  | none => rfl
  | some o =>
    have hlt : o.natAbs < 86400 * Moment.perSecond := hday o rfl
    obtain ⟨k, hk⟩ := hminutes o rfl
    dsimp only [zone]
    split
    -- an offset of zero is written as `Z`, others by their sign
    case isTrue h => rw [h]; rfl
    case isFalse h =>
      have hcount : o.natAbs / Moment.perSecond / 60 = k := by
        rw [hk, Nat.div_div_eq_div_mul, Nat.mul_comm Moment.perSecond 60]
        exact Nat.mul_div_cancel_left k (by decide)
      have hk' : k < 1440 := by
        simp only [Moment.perSecond] at hk hlt
        omega
      have hhours : k / 60 < 10 ^ 2 := by omega
      have hrest : k % 60 < 60 := Nat.mod_lt k (by decide)
      have hwhole : (k / 60 * 3600 + k % 60 * 60) * Moment.perSecond = o.natAbs := by
        rw [hk, Moment.perSecond]
        omega
      rw [hcount]
      split
      case isTrue hneg =>
        have hback : -1 * (o.natAbs : Int) = o := by omega
        have hminus : sign? '-' = some (-1) := rfl
        rw [offset?_signed hminus (by decide) hhours hrest, hwhole, hback]
      case isFalse hpos =>
        have hback : 1 * (o.natAbs : Int) = o := by omega
        have hplus : sign? '+' = some 1 := rfl
        rw [offset?_signed hplus (by decide) hhours hrest, hwhole, hback]

/-! ### Whole moments -/

lemma toList_rowText (t : Moment) : t.rowText.toList = t.date.iso.toList ++ ('T' ::
    ((padded 2 t.hour).toList ++ (':' :: ((padded 2 t.minute).toList ++ (':' ::
      ((padded 2 t.second).toList ++ ((Moment.fractionText t.micro).toList ++ zone t.offset))))))) := by
  unfold Moment.rowText
  rcases t.offset with _ | o
  · simp [Moment.timeText, zone]
  · dsimp only [zone]
    by_cases hzero : o = 0
    · simp [Moment.timeText, hzero]
    · by_cases hneg : o < 0 <;> simp [Moment.timeText, hzero, hneg]

/-- **A moment is read from its row as it was**, if its offset is of whole minutes. -/
theorem read?_rowText {t : Moment} (h : t.Valid) (hminutes : t.InMinutes) :
    read? t.rowText.toList = some t := by
  have hmoment : moment? t.rowText.toList = some t := by
    have hhour : t.hour < 10 ^ 2 := by have := h.hour; omega
    have hminute : t.minute < 10 ^ 2 := by have := h.minute; omega
    rw [toList_rowText, moment?, date?_iso h.date]
    simp only [Option.bind_eq_bind, Option.bind_some]
    rw [read_padded (by decide) hhour]
    simp only [Option.bind_some]
    rw [read_padded (by decide) hminute]
    simp only [Option.bind_some]
    rw [seconds?_written h.second h.micro (ends_zone t.offset)]
    simp only [Option.bind_some]
    rw [offset?_zone h.offset hminutes]
    have hdate : Date.of? t.date.year t.date.month t.date.day = some t.date := if_pos h.date
    have hof : Moment.of? t.date.year t.date.month t.date.day t.hour t.minute t.second t.micro
        t.offset = some t := by
      rw [Moment.of?, if_pos ⟨h.hour, h.minute, h.second, h.micro, h.offset⟩, hdate]
      rfl
    exact hof
  rw [read?, hmoment]
  rfl

end Calendar.Rfc3339

end Crosswalk
