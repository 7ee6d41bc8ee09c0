import Crosswalk.Proofs.Calendar.FreeForm
import Crosswalk.Value.Dated

/-!
Midnight of a date, read from its texts.

The ISO text and the fixed shapes of a date are its midnight. A text whose year is not written in four
digits has no fixed shape: with three digits it is still read as it was written, and with fewer it is a
date near the present.
-/

namespace Crosswalk

namespace Moment

def startOf (offset : Option Int) (d : Date) : Moment := ⟨d, 0, 0, 0, 0, offset⟩

lemma of?_start {offset : Option Int} (h : offset = none ∨ offset = some 0) (y m d : Nat) :
    of? y m d 0 0 0 0 offset = (Date.of? y m d).map (startOf offset) := by
  rw [of?, if_pos]
  · rfl
  · obtain rfl | rfl := h <;> simp [perSecond, perDay]

lemma toUtc?_start {d : Date} (h : d.Valid) : (startOf (some 0) d).toUtc? = some (midnight d) := by
  have hpos := h.ordinal_bounds.1
  have hticks : (startOf (some 0) d).utcTicks = (d.ordinal - 1 : Nat) * (perDay : Int) := by
    simp [utcTicks, ticks, startOf, timeOfDay]
  have hday : (0 : Int) < perDay := by decide
  have hquot : ((d.ordinal - 1 : Nat) * (perDay : Int)) / perDay + 1 = d.ordinal := by
    rw [Int.mul_ediv_cancel _ hday.ne']
    omega
  rw [toUtc?, hticks, ofTicks?, hquot, Date.ofOrdinal?_ordinal h, Int.mul_emod_left]
  rfl

end Moment

namespace Calendar

open Text
open FreeForm (Plain)
open Rfc3339 (Writes writes_padded daysInMonth_le)
open Date (padded)
open Moment (startOf)

variable {d : Date} {s : String} {present : Nat}

/-! ### Texts without blanks -/

lemma plain_toString (n : Nat) : ∀ c ∈ (toString n).toList, Plain c := fun _ hc =>
  .inl (isDigit_of_mem hc)

lemma plain_padded (width n : Nat) : ∀ c ∈ (padded width n).toList, Plain c := by
  intro c hc
  rw [padded, String.toList_append, String.toList_ofList, List.mem_append] at hc
  obtain hc | hc := hc
  · rw [List.eq_of_mem_replicate hc]
    decide
  · exact plain_toString n c hc

lemma read?_plain (h : ∀ c ∈ s.toList, Plain c) :
    read? present s = readTrimmed? present s.toList := by
  rw [read?, strip, trimWhile_eq_self fun c hc => (h c hc).not_isBlank]

lemma withZuluOffset_append (cs ds : List Char) :
    withZuluOffset (cs ++ ds) = withZuluOffset cs ++ withZuluOffset ds := List.flatMap_append

lemma withZuluOffset_cons {c : Char} (hc : c ≠ 'Z') (cs : List Char) :
    withZuluOffset (c :: cs) = c :: withZuluOffset cs := by
  rw [withZuluOffset, List.flatMap_cons, if_neg hc]
  rfl

lemma withZuluOffset_eq_self {cs : List Char} (h : 'Z' ∉ cs) : withZuluOffset cs = cs := by
  induction cs with
  | nil => rfl
  | cons c cs ih =>
    obtain ⟨hc, hcs⟩ := not_or.1 (List.mem_cons.not.1 h)
    rw [withZuluOffset_cons (Ne.symm hc), ih hcs]

/-! ### Texts of no fixed shape -/

variable {first second rest : List Char} {bar : Char} {w₁ w₂ a b : Nat}

lemma readTrimmed?_shapeless (h₁ : Writes w₁ a first) (h₂ : Writes w₂ b second) (hbar : IsBar bar)
    (rest : List Char) (hshape : 2 < w₁ ∨ rest.length ≠ 4) (present : Nat) :
    readTrimmed? present (first ++ bar :: (second ++ bar :: rest)) =
      (Iso.moment? (withZuluOffset (first ++ bar :: (second ++ bar :: rest)))).or
        (FreeForm.moment? present (first ++ bar :: (second ++ bar :: rest))) := by
  -- a bar is no digit, and the slashed shape needs short numbers and a year of four digits
  have hcompact : compactParts? (first ++ bar :: (second ++ bar :: rest)) = none :=
    compactParts?_eq_none (c := bar) (by simp) hbar.not_isDigit
  have hslashed : slashedParts? (first ++ bar :: (second ++ bar :: rest)) = none := by
    have hlength := h₁.length
    rw [slashedParts?_append (fun c hc => isDigit_ascii (h₁.digits c hc))
      (fun c hc => isDigit_ascii (h₂.digits c hc)) hbar hbar, if_neg (by omega)]
  have hne : (first ++ bar :: (second ++ bar :: rest)).isEmpty = false := by simp
  have hparts : (compactParts? (first ++ bar :: (second ++ bar :: rest)) <|>
      slashedParts? (first ++ bar :: (second ++ bar :: rest))) = none := by
    rw [hcompact, hslashed]
    rfl
  rw [readTrimmed?, hne, hparts]
  cases Iso.moment? (withZuluOffset (first ++ bar :: (second ++ bar :: rest))) <;> rfl

lemma Iso.moment?_eq_none (hlength : first.length ≤ 3) (hbar : IsBar bar) :
    Iso.moment? (first ++ bar :: rest) = none := by
  have hdigit : bar.isDigit = false := by obtain rfl | rfl := hbar <;> rfl
  have hall : ((first ++ bar :: rest).take 4).all Char.isDigit = false := by
    rw [List.all_eq_false]
    exact ⟨bar, FreeForm.mem_take_four hlength, by simp [hdigit]⟩
  have hdate : ∀ len, Iso.date? (first ++ bar :: rest) len = none := by
    intro len
    rw [Iso.date?, Iso.digits?]
    simp [hall]
  rw [Iso.moment?]
  simp [hdate]

/-! ### Printed dates -/

def midnightText : List Char := "T00:00:00.000Z".toList

lemma not_mem_digits {width n : Nat} {ds : List Char} (h : Writes width n ds) : 'Z' ∉ ds :=
  fun hz => by cases h.digits 'Z' hz

lemma not_mem_date (h : d.Valid) : 'Z' ∉ d.iso.toList := by
  obtain ⟨hy, hm, hd⟩ := writes_date h
  rw [toList_iso]
  simp [not_mem_digits hy, not_mem_digits hm, not_mem_digits hd]

lemma date_of?_self (h : d.Valid) : Date.of? d.year d.month d.day = some d := if_pos h

lemma readTrimmed?_iso (h : d.Valid) :
    readTrimmed? present d.iso.toList = some (startOf none d) := by
  obtain ⟨hy, hm, -⟩ := writes_date h
  have hzulu := withZuluOffset_eq_self (not_mem_date h)
  have hread := readTrimmed?_shapeless hy hm (.inr rfl) (padded 2 d.day).toList (.inl (by decide))
    present
  rw [← toList_iso, hzulu, Iso.moment?_iso h] at hread
  exact hread

lemma time?_midnight :
    Iso.time? "00:00:00.000+00:00".toList = some ({ extra := true }, some 0) := by
  have hclock : "00:00:00.000+00:00".toList.takeWhile (fun c => !Iso.isZoneMark c) =
      "00:00:00.000".toList := by decide
  have hzone : "00:00:00.000+00:00".toList.drop "00:00:00.000".toList.length =
      '+' :: "00:00".toList := by decide
  have hread : Iso.reading? true "00:00:00.000".toList = some { extra := true } := rfl
  have hoffset : Iso.reading? false "00:00".toList = some {} := rfl
  rw [Iso.time?, hclock]
  dsimp only
  rw [hzone, if_neg (by decide), List.isEmpty_cons, Bool.not_false, hread]
  change (do let z ← Iso.reading? false "00:00".toList; _) = _
  rw [hoffset]
  rfl

lemma plain_midnightText : ∀ c ∈ midnightText, Plain c := by
  intro c hc
  fin_cases hc <;> decide

lemma withZuluOffset_midnightText :
    withZuluOffset midnightText = 'T' :: "00:00:00.000+00:00".toList := by decide

lemma readTrimmed?_isoStamp (h : d.Valid) :
    readTrimmed? present (d.iso.toList ++ midnightText) = some (startOf (some 0) d) := by
  obtain ⟨hy, hm, -⟩ := writes_date h
  have hzulu : withZuluOffset (d.iso.toList ++ midnightText) =
      d.iso.toList ++ 'T' :: "00:00:00.000+00:00".toList := by
    rw [withZuluOffset_append, withZuluOffset_eq_self (not_mem_date h), withZuluOffset_midnightText]
  have hread := readTrimmed?_shapeless hy hm (.inr rfl) ((padded 2 d.day).toList ++ midnightText)
    (.inl (by decide)) present
  have hmoment : Moment.of? d.year d.month d.day 0 0 0 0 (some 0) = some (startOf (some 0) d) := by
    rw [Moment.of?_start (.inr rfl), date_of?_self h]
    rfl
  rw [← Iso.toList_iso_append, hzulu, Iso.moment?_iso_cons h, time?_midnight, Option.bind_some]
    at hread
  dsimp only at hread
  rw [hread, hmoment]
  rfl

/-! ### Years that are written without leading zeros -/

lemma lt_length_toString {k n : Nat} (h : 10 ^ k ≤ n) : k < (toString n).length := by
  have hwrites := writes_toString n
  have hlt := Numeral.value_lt hwrites.digits
  rw [hwrites.value, hwrites.length] at hlt
  exact (Nat.pow_lt_pow_iff_right (by decide)).1 (h.trans_lt hlt)

lemma padded_eq_toString {width n : Nat} (h : width ≤ (toString n).length) :
    padded width n = toString n := by
  rw [padded, Nat.sub_eq_zero_of_le h, List.replicate_zero]
  exact String.empty_append

/-- The text is read as the date if the year has three digits or more, and else as one near the present. -/
def ReadsFrom100 (present : Nat) (cs : List Char) (offset : Option Int) (d : Date) : Prop :=
  ∃ y m day, (100 ≤ d.year → y = d.year ∧ m = d.month ∧ day = d.day) ∧
    (d.year < 100 → 150 ≤ present → 100 ≤ y) ∧
    readTrimmed? present cs = (Date.of? y m day).map (startOf offset)

/-- `MM/DD/YYYY`, but the year without leading zeros. -/
def usChars (d : Date) : List Char :=
  (padded 2 d.month).toList ++ '/' :: ((padded 2 d.day).toList ++ '/' :: (toString d.year).toList)

/-- A month and a day in front of a year of at most three digits. -/
lemma freeForm_us (h : d.Valid) (hyear : d.year < 1000) :
    ∃ y, (100 ≤ d.year → y = d.year) ∧ (d.year < 100 → 150 ≤ present → 100 ≤ y) ∧
      FreeForm.moment? present (usChars d) = (Date.of? y d.month d.day).map (startOf none) := by
  obtain ⟨-, hm, hd⟩ := writes_date h
  have hy := writes_toString d.year
  have hpos := length_toString_pos d.year
  have hmonth : d.month ≤ 12 := h.2.2.2.1
  have hthree : (toString d.year).length ≤ 3 := length_toString_le (by decide) hyear
  have hlength : (toString d.year).toList.length ≠ 4 := by
    rw [hy.length]
    omega
  have hlexical : FreeForm.moment? present (usChars d) =
      (FreeForm.triple? (padded 2 d.month).toList (padded 2 d.day).toList (toString d.year).toList).bind
        fun n => FreeForm.Found.moment? present { numbers := n } := by
    rw [usChars, FreeForm.moment?_eq_lexical? hm hd (by decide) (.inl rfl) (plain_toString d.year)
      hlength (List.mem_cons_self : '/' ∈ '/' :: (toString d.year).toList) (.inl rfl),
      FreeForm.lexical?_triple hm hd hy (by decide) (by decide) hpos (.inl rfl)]
  rw [hlexical]
  -- three digits are a year as they are, two are one near the present
  by_cases hcentury : 100 ≤ d.year
  · have hlong : 2 < (toString d.year).length := lt_length_toString (k := 2) hcentury
    refine ⟨d.year, fun _ => rfl, fun hlt => absurd hlt (not_lt.2 hcentury), ?_⟩
    rw [FreeForm.triple?_yearLast hm hd hy (by decide) (by decide) hlong, Option.bind_some,
      FreeForm.Found.moment?_eq (FreeForm.resolve?_monthFirst hmonth _ (.inr rfl) _) rfl rfl,
      FreeForm.fullYear_century]
    exact Moment.of?_start (.inl rfl) d.year d.month d.day
  · have hshort : (toString d.year).length ≤ 2 := length_toString_le (by decide) (not_le.1 hcentury)
    refine ⟨FreeForm.fullYear present false d.year, fun hle => absurd hle hcentury,
      fun hlt hpresent => FreeForm.le_fullYear hlt hpresent, ?_⟩
    rw [FreeForm.triple?_short hm hd hy (by decide) (by decide) ⟨hpos, hshort⟩, Option.bind_some,
      FreeForm.Found.moment?_eq (FreeForm.resolve?_monthFirst hmonth _ (.inl rfl) _) rfl rfl]
    exact Moment.of?_start (.inl rfl) _ d.month d.day

lemma readsFrom100_us (h : d.Valid) : ReadsFrom100 present (usChars d) none d := by
  obtain ⟨-, hm, hd⟩ := writes_date h
  have hy := writes_toString d.year
  have hpos := length_toString_pos d.year
  -- four digits make the slashed shape, fewer are left to the free reader
  by_cases hlong : 1000 ≤ d.year
  · refine ⟨d.year, d.month, d.day, fun _ => ⟨rfl, rfl, rfl⟩, fun hlt => by omega, ?_⟩
    have hfour : (toString d.year).length = 4 := by
      have hle : (toString d.year).length ≤ 4 :=
        length_toString_le (by decide) (Nat.lt_succ_of_le h.2.1)
      have hlt := lt_length_toString (k := 3) hlong
      omega
    exact readTrimmed?_of_shape (.inr ⟨_, '/', _, '/', _, rfl, .inl rfl, .inl rfl, hm.length.le,
      hd.length.le, hy.length.trans hfour, natural?_writes hy hpos, natural?_writes hm (by decide),
      natural?_writes hd (by decide)⟩) present
  · have hthree : (toString d.year).length ≤ 3 := length_toString_le (by decide) (not_le.1 hlong)
    have hzulu : withZuluOffset (usChars d) = usChars d := by
      refine withZuluOffset_eq_self ?_
      simp only [usChars, List.mem_append, List.mem_cons, not_mem_digits hm, not_mem_digits hd,
        not_mem_digits hy, false_or, or_false]
      decide
    have hiso : Iso.moment? (usChars d) = none :=
      Iso.moment?_eq_none (hm.length.trans_le (by decide)) (.inl rfl)
    have hread : readTrimmed? present (usChars d) = FreeForm.moment? present (usChars d) := by
      have hshape := readTrimmed?_shapeless hm hd (.inl rfl) (toString d.year).toList
        (.inr (by rw [hy.length]; omega)) present
      rwa [← usChars, hzulu, hiso, Option.none_or] at hshape
    obtain ⟨y, hsame, hnear, hmoment⟩ := freeForm_us h (not_le.1 hlong)
    exact ⟨y, d.month, d.day, fun hle => ⟨hsame hle, rfl, rfl⟩, hnear, hread.trans hmoment⟩

def stampChars (d : Date) : List Char :=
  (toString d.year).toList ++ '-' :: ((padded 2 d.month).toList ++
    '-' :: ((padded 2 d.day).toList ++ midnightText))

lemma plain_day_midnight (day : Nat) : ∀ c ∈ (padded 2 day).toList ++ midnightText, Plain c := by
  intro c hc
  obtain hc | hc := List.mem_append.1 hc
  · exact plain_padded 2 day c hc
  · exact plain_midnightText c hc

lemma freeForm_stampChars (h : d.Valid) (hyear : d.year < 1000) {yearAt : Option Nat} {century : Bool}
    (htriple : FreeForm.triple? (toString d.year).toList (padded 2 d.month).toList
      (padded 2 d.day).toList = some { values := [d.year, d.month, d.day], yearAt, century }) :
    FreeForm.moment? present (stampChars d) =
      (FreeForm.atMidnight [d.year, d.month, d.day] yearAt century).moment? present := by
  obtain ⟨-, hm, hd⟩ := writes_date h
  have hy := writes_toString d.year
  have hpos := length_toString_pos d.year
  have hthree : (toString d.year).length ≤ 3 := length_toString_le (by decide) hyear
  have hlength : ((padded 2 d.day).toList ++ midnightText).length ≠ 4 := by
    rw [List.length_append, hd.length]
    decide
  have hcolon : ':' ∈ '-' :: ((padded 2 d.day).toList ++ midnightText) :=
    List.mem_cons_of_mem _ (List.mem_append_right _ (by decide))
  rw [stampChars, FreeForm.moment?_eq_lexical? hy hm ⟨hpos, hthree⟩ (.inr rfl) (plain_day_midnight d.day)
    hlength hcolon (.inr rfl)]
  exact FreeForm.lexical?_midnight hy hm hd ⟨hpos, by omega⟩ (by decide) (by decide) htriple

/-- A year of at most three digits in front of the month, and midnight behind the day. -/
lemma freeForm_stamp (h : d.Valid) (hyear : d.year < 1000) :
    ∃ y m day, (100 ≤ d.year → y = d.year ∧ m = d.month ∧ day = d.day) ∧
      (d.year < 100 → 150 ≤ present → 100 ≤ y) ∧
      FreeForm.moment? present (stampChars d) = (Date.of? y m day).map (startOf (some 0)) := by
  obtain ⟨-, hm, hd⟩ := writes_date h
  have hy := writes_toString d.year
  have hpos := length_toString_pos d.year
  have hday : d.day < 100 := by
    have := daysInMonth_le d.year d.month
    have := h.2.2.2.2.2
    omega
  by_cases hcentury : 100 ≤ d.year
  · have hlong : 2 < (toString d.year).length := lt_length_toString (k := 2) hcentury
    refine ⟨d.year, d.month, d.day, fun _ => ⟨rfl, rfl, rfl⟩,
      fun hlt => absurd hlt (not_lt.2 hcentury), ?_⟩
    rw [freeForm_stampChars h hyear
        (FreeForm.triple?_yearFirst hy hm hd hlong (by decide) (by decide)),
      FreeForm.Found.moment?_eq FreeForm.resolve?_yearFirst rfl rfl]
    refine (Moment.of?_start (.inr rfl) (FreeForm.fullYear present true d.year) d.month d.day).trans ?_
    rw [FreeForm.fullYear_century]
  · -- two digits may also be taken for a month or a day, with the year elsewhere
    have hshort : (toString d.year).length ≤ 2 := length_toString_le (by decide) (not_le.1 hcentury)
    obtain ⟨y, m, day, hsmall, hresolve⟩ := FreeForm.resolve?_short (b := d.month)
      (not_le.1 hcentury) hday
    refine ⟨FreeForm.fullYear present false y, m, day, fun hle => absurd hle hcentury,
      fun _ hpresent => FreeForm.le_fullYear hsmall hpresent, ?_⟩
    rw [freeForm_stampChars h hyear
        (FreeForm.triple?_short hy hm hd ⟨hpos, hshort⟩ (by decide) (by decide)),
      FreeForm.Found.moment?_eq hresolve rfl rfl]
    exact Moment.of?_start (.inr rfl) _ m day

lemma readsFrom100_stamp (h : d.Valid) : ReadsFrom100 present (stampChars d) (some 0) d := by
  obtain ⟨-, hm, hd⟩ := writes_date h
  have hy := writes_toString d.year
  -- with four digits the stamp is one of ISO, with fewer it is left to the free reader
  by_cases hlong : 1000 ≤ d.year
  · have hiso : stampChars d = d.iso.toList ++ midnightText := by
      rw [Iso.toList_iso_append, padded_eq_toString (lt_length_toString (k := 3) hlong), stampChars]
    refine ⟨d.year, d.month, d.day, fun _ => ⟨rfl, rfl, rfl⟩, fun hlt => by omega, ?_⟩
    rw [hiso, readTrimmed?_isoStamp h, date_of?_self h]
    rfl
  · have hthree : (toString d.year).length ≤ 3 := length_toString_le (by decide) (not_le.1 hlong)
    have hlength : ((padded 2 d.day).toList ++ midnightText).length ≠ 4 := by
      rw [List.length_append, hd.length]
      decide
    have hzulu : withZuluOffset (stampChars d) = (toString d.year).toList ++
        '-' :: withZuluOffset ((padded 2 d.month).toList ++
          '-' :: ((padded 2 d.day).toList ++ midnightText)) := by
      rw [stampChars, withZuluOffset_append, withZuluOffset_eq_self (not_mem_digits hy),
        withZuluOffset_cons (by decide)]
    have hiso : Iso.moment? (withZuluOffset (stampChars d)) = none := by
      rw [hzulu]
      exact Iso.moment?_eq_none (hy.length.trans_le hthree) (.inr rfl)
    have hread : readTrimmed? present (stampChars d) = FreeForm.moment? present (stampChars d) := by
      have hshape := readTrimmed?_shapeless hy hm (.inr rfl) _ (.inr hlength) present
      rwa [← stampChars, hiso, Option.none_or] at hshape
    obtain ⟨y, m, day, hsame, hnear, hmoment⟩ := freeForm_stamp h (not_le.1 hlong)
    exact ⟨y, m, day, hsame, hnear, hread.trans hmoment⟩

end Calendar

end Crosswalk
