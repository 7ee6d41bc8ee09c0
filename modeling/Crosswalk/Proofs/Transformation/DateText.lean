import Crosswalk.Proofs.Calendar.Midnight
import Crosswalk.Transformation.Catalogue

/-!
Dates that are written and read again.

Every text of a date in a fixed shape is midnight of the date, and so is what most transformations write.
Two of them write the year without leading zeros, and what they write is read again from year 100 on only.
-/

namespace Crosswalk

open Calendar
open Date (padded)
open FreeForm (Plain plain_dated)
open Moment (startOf)
open Rfc3339 (Writes writes_padded)
open Text (strip)

variable {d : Date} {s : String} {v : Value} {offset : Option Int} {present : Nat}

namespace Date

lemma of?_eq_some {y m day : Nat} : of? y m day = some d ↔ d = ⟨y, m, day⟩ ∧ d.Valid := by
  rw [of?, Option.ite_none_right_eq_some, Option.some.injEq]
  constructor
  · rintro ⟨h, rfl⟩
    exact ⟨rfl, h⟩
  · rintro ⟨rfl, h⟩
    exact ⟨h, rfl⟩

/-- `YYYYMMDD` -/
def compactText (d : Date) : String := padded 4 d.year ++ (padded 2 d.month ++ padded 2 d.day)

def shortTexts (n : Nat) : List String := [padded 2 n, toString n]

/-- `MM/DD/YYYY` and `MM-DD-YYYY`, with or without leading zeros of month and day. -/
def slashedTexts (d : Date) : List String :=
  ["/", "-"].flatMap fun bar => (shortTexts d.month).flatMap fun m =>
    (shortTexts d.day).map fun day => m ++ (bar ++ (day ++ (bar ++ padded 4 d.year)))

def texts (d : Date) : List String := d.iso :: d.compactText :: d.slashedTexts

end Date

namespace Value

lemma moment?_of_given {t u : Moment} (hv : v.givenMoment? present = .ok (some t))
    (hu : t.offset = none ∧ t = u ∨ t.offset ≠ none ∧ t.toUtc? = some u) :
    v.moment? present = .ok (some u) := by
  rw [moment?, hv, Fallible.ok_bind]
  obtain ⟨ho, rfl⟩ | ⟨ho, hu⟩ := hu
  · simp [ho]
  · simp [ho, hu]

lemma moment?_text (hd : d.Valid) (ho : offset = none ∨ offset = some 0)
    (h : read? present s = some (startOf offset d)) :
    (Value.text s).moment? present = .ok (some (.midnight d)) := by
  have hgiven : (Value.text s).givenMoment? present = .ok (some (startOf offset d)) :=
    congrArg Except.ok h
  obtain rfl | rfl := ho
  · exact moment?_of_given hgiven (.inl ⟨rfl, rfl⟩)
  · exact moment?_of_given hgiven (.inr ⟨by simp [startOf], Moment.toUtc?_start hd⟩)

lemma moment?_text_none (h : read? present s = none) :
    (Value.text s).moment? present = .ok none := by
  have hgiven : (Value.text s).givenMoment? present = .ok none := congrArg Except.ok h
  rw [moment?, hgiven]
  rfl

lemma moment?_of_shape {y m day : Nat}
    (h : Compact (strip s.toList) y m day ∨ Slashed (strip s.toList) y m day) :
    (Value.text s).moment? present = .ok ((Date.of? y m day).map Moment.midnight) := by
  have hread : read? present s = (Date.of? y m day).map Moment.midnight :=
    readTrimmed?_of_shape h present
  rcases hdate : Date.of? y m day with _ | d
  · exact moment?_text_none (hread.trans (by rw [hdate]; rfl))
  · exact moment?_text (Date.of?_eq_some.1 hdate).2 (.inl rfl) (hread.trans (by rw [hdate]; rfl))

lemma moment?_text_iff (hd : d.Valid) (ho : offset = none ∨ offset = some 0)
    (hplain : ∀ c ∈ s.toList, Plain c) (h : ReadsFrom100 present s.toList offset d)
    (hyear : 150 ≤ present ∨ 100 ≤ d.year) :
    (Value.text s).moment? present = .ok (some (.midnight d)) ↔ 100 ≤ d.year := by
  obtain ⟨y, m, day, hsame, hnear, hread⟩ := h
  rw [← read?_plain hplain] at hread
  constructor
  · intro hmoment
    -- before year 100 what is read has another year, or is no date at all
    by_contra hearly
    have hlate : 100 ≤ y := hnear (not_le.1 hearly) (hyear.resolve_right hearly)
    rcases hdate : Date.of? y m day with _ | e
    · rw [moment?_text_none (hread.trans (by rw [hdate]; rfl))] at hmoment
      cases hmoment
    · obtain ⟨rfl, he⟩ := Date.of?_eq_some.1 hdate
      rw [moment?_text he ho (hread.trans (by rw [hdate]; rfl))] at hmoment
      obtain rfl : d = ⟨y, m, day⟩ := by
        have hdates := congrArg Moment.date (Option.some.inj (Except.ok.inj hmoment))
        exact hdates.symm
      dsimp only at hearly
      omega
  · intro hlate
    obtain ⟨rfl, rfl, rfl⟩ := hsame hlate
    rw [date_of?_self hd] at hread
    exact moment?_text hd ho hread

end Value

/-! ### The texts of a date -/

lemma writes_shortTexts {n : Nat} (hn : n < 100) (hs : s ∈ Date.shortTexts n) :
    ∃ w, 0 < w ∧ w ≤ 2 ∧ Writes w n s.toList := by
  simp only [Date.shortTexts, List.mem_cons, List.not_mem_nil, or_false] at hs
  obtain rfl | rfl := hs
  · exact ⟨2, by decide, le_rfl, writes_padded (by decide) hn⟩
  · exact ⟨_, length_toString_pos n, length_toString_le (by decide) hn, writes_toString n⟩

lemma Date.Valid.short (h : d.Valid) : d.month < 100 ∧ d.day < 100 := by
  have hlast := Rfc3339.daysInMonth_le d.year d.month
  obtain ⟨-, -, -, hmonth, -, hday⟩ := h
  omega

lemma plain_of_writes {width n : Nat} {ds : List Char} (h : Writes width n ds) :
    ∀ c ∈ ds, Plain c := fun c hc => .inl (h.digits c hc)

lemma slashed_slashedTexts (h : d.Valid) (hs : s ∈ d.slashedTexts) :
    (∀ c ∈ s.toList, Plain c) ∧ Slashed s.toList d.year d.month d.day := by
  obtain ⟨hmonth, hday⟩ := h.short
  obtain ⟨hy, -, -⟩ := writes_date h
  simp only [Date.slashedTexts, List.mem_flatMap, List.mem_map] at hs
  obtain ⟨bar, hbar, m, hm, day, hd, rfl⟩ := hs
  obtain ⟨w, hw, hw', hm⟩ := writes_shortTexts hmonth hm
  obtain ⟨w', hpos, hle, hd⟩ := writes_shortTexts hday hd
  -- the bar is a slash or a hyphen, the same one twice
  obtain ⟨c, hc, hbar⟩ : ∃ c, IsBar c ∧ bar.toList = [c] := by
    simp only [List.mem_cons, List.not_mem_nil, or_false] at hbar
    obtain rfl | rfl := hbar
    · exact ⟨'/', .inl rfl, rfl⟩
    · exact ⟨'-', .inr rfl, rfl⟩
  have hchars : (m ++ (bar ++ (day ++ (bar ++ padded 4 d.year)))).toList =
      m.toList ++ c :: (day.toList ++ c :: (padded 4 d.year).toList) := by
    simp only [String.toList_append, hbar, List.cons_append, List.nil_append]
  rw [hchars]
  exact ⟨plain_dated (plain_of_writes hm) (plain_of_writes hd) (plain_of_writes hy) hc,
    _, c, _, c, _, rfl, hc, hc, hm.length.trans_le hw', hd.length.trans_le hle, hy.length,
    natural?_writes hy (by decide), natural?_writes hm hw, natural?_writes hd hpos⟩

lemma compact_compactText (h : d.Valid) : (∀ c ∈ d.compactText.toList, Plain c) ∧
    Compact d.compactText.toList d.year d.month d.day := by
  obtain ⟨hy, hm, hd⟩ := writes_date h
  rw [Date.compactText, String.toList_append, String.toList_append]
  constructor
  · simp only [List.mem_append]
    rintro e (he | he | he)
    · exact plain_of_writes hy e he
    · exact plain_of_writes hm e he
    · exact plain_of_writes hd e he
  · exact ⟨_, _, _, rfl, hy.length, hm.length, hd.length, natural?_writes hy (by decide),
      natural?_writes hm (by decide), natural?_writes hd (by decide)⟩

lemma plain_iso (d : Date) : ∀ c ∈ d.iso.toList, Plain c := by
  rw [toList_iso]
  exact plain_dated (plain_padded 4 d.year) (plain_padded 2 d.month) (plain_padded 2 d.day) (.inr rfl)

lemma read?_iso (h : d.Valid) : read? present d.iso = some (startOf none d) := by
  rw [read?_plain (plain_iso d), readTrimmed?_iso h]

lemma moment?_texts (h : d.Valid) (hs : s ∈ d.texts) :
    (Value.text s).moment? present = .ok (some (.midnight d)) := by
  have hof : (Date.of? d.year d.month d.day).map Moment.midnight = some (.midnight d) := by
    rw [date_of?_self h]
    rfl
  have hread : read? present s = some (startOf none d) := by
    simp only [Date.texts, List.mem_cons] at hs
    obtain rfl | rfl | hs := hs
    · exact read?_iso h
    · obtain ⟨hplain, hcompact⟩ := compact_compactText h
      rw [read?_plain hplain, readTrimmed?_of_shape (.inl hcompact) present]
      exact hof
    · obtain ⟨hplain, hslashed⟩ := slashed_slashedTexts h hs
      rw [read?_plain hplain, readTrimmed?_of_shape (.inr hslashed) present]
      exact hof
  exact Value.moment?_text h (.inl rfl) hread

namespace Transformation

/-- What the transformation writes for the value stands for the date. -/
def Rereads (contacts : Contact.Directory) (name : String) (clock : Clock) (v : Value)
    (given : Table Value) (d : Date) : Prop :=
  ∃ w, (builtIn contacts).transform clock name v given = .ok w ∧
    w.moment? clock.year = .ok (some (.midnight d))

variable {contacts : Contact.Directory} {clock : Clock} {given : Table Value}

lemma onMoment_eq {f : Moment → Parameters → Except Fault Value} {p : Parameters} {t : Moment}
    (hv : v.moment? clock.year = .ok (some t)) : onMoment f clock v p = f t p := by
  rw [onMoment, hv]
  rfl

lemma rereads_iff {name : String} {w : Value}
    (h : (builtIn contacts).transform clock name v given = .ok w) :
    Rereads contacts name clock v given d ↔ w.moment? clock.year = .ok (some (.midnight d)) := by
  rw [Rereads, h]
  constructor
  · rintro ⟨u, hu, hmoment⟩
    rwa [Except.ok.inj hu]
  · exact fun hmoment => ⟨w, rfl, hmoment⟩

lemma fillFormat_skip (marks : List (List Char × String)) (mark rest : List Char) :
    fillFormat marks mark.length (mark ++ rest) = fillFormat marks 0 rest := by
  induction mark with
  | nil => rfl
  | cons c mark ih =>
    rw [List.length_cons, List.cons_append, fillFormat]
    exact ih

lemma fillFormat_mark {marks : List (List Char × String)} {c : Char} {mark rest : List Char}
    {text : String} (h : (marks.find? fun m => Text.startsWith (c :: (mark ++ rest)) m.1) =
      some (c :: mark, text)) :
    fillFormat marks 0 (c :: (mark ++ rest)) = text.toList ++ fillFormat marks 0 rest := by
  rw [fillFormat, h]
  dsimp only
  rw [List.length_cons, Nat.add_sub_cancel, fillFormat_skip]

lemma fillFormat_char {marks : List (List Char × String)} {c : Char} {rest : List Char}
    (h : (marks.find? fun m => Text.startsWith (c :: rest) m.1) = none) :
    fillFormat marks 0 (c :: rest) = c :: fillFormat marks 0 rest := by
  rw [fillFormat, h]

lemma fillFormat_default (t : Moment) :
    fillFormat (formatMarks t) 0 "YYYY-MM-DD".toList = t.date.iso.toList := by
  have hyear : fillFormat (formatMarks t) 0 ('Y' :: ("YYY".toList ++ "-MM-DD".toList)) =
      (yearText t.date.year).toList ++ fillFormat (formatMarks t) 0 "-MM-DD".toList :=
    fillFormat_mark (by simp [formatMarks, Text.startsWith, Text.behind?])
  have hmonth : fillFormat (formatMarks t) 0 ('M' :: (['M'] ++ "-DD".toList)) =
      (padded 2 t.date.month).toList ++ fillFormat (formatMarks t) 0 "-DD".toList :=
    fillFormat_mark (by simp [formatMarks, Text.startsWith, Text.behind?])
  have hday : fillFormat (formatMarks t) 0 ('D' :: (['D'] ++ [])) =
      (padded 2 t.date.day).toList ++ fillFormat (formatMarks t) 0 [] :=
    fillFormat_mark (by simp [formatMarks, Text.startsWith, Text.behind?])
  have hbar : ∀ rest, fillFormat (formatMarks t) 0 ('-' :: rest) =
      '-' :: fillFormat (formatMarks t) 0 rest := fun rest =>
    fillFormat_char (by simp [formatMarks, Text.startsWith, Text.behind?])
  have hformat : "YYYY-MM-DD".toList = 'Y' :: ("YYY".toList ++ "-MM-DD".toList) := rfl
  have hbehind : "-MM-DD".toList = '-' :: 'M' :: (['M'] ++ "-DD".toList) := rfl
  have hend : "-DD".toList = '-' :: 'D' :: (['D'] ++ []) := rfl
  have hnil : fillFormat (formatMarks t) 0 [] = [] := rfl
  rw [hformat, hyear, hbehind, hbar, hmonth, hend, hbar, hday, hnil, List.append_nil, toList_iso,
    yearText]

lemma transform_onMoment {name : String} {category : Category} {description : String}
    {f : Clock → Moment → Parameters → Except Fault Value} {t : Moment}
    (hentry : Table.get? (builtIn contacts) name =
      some ⟨category, description, fun clock => onMoment (f clock) clock⟩)
    (hv : v.moment? clock.year = .ok (some t)) :
    (builtIn contacts).transform clock name v given = f clock t (Parameters.normalize given) := by
  rw [Catalogue.transform, hentry]
  exact onMoment_eq hv

lemma transform_onDate {name : String} {category : Category} {description : String}
    {f : Date → Value}
    (hentry : Table.get? (builtIn contacts) name = some ⟨category, description, onDate f⟩)
    (hv : v.moment? clock.year = .ok (some (.midnight d))) :
    (builtIn contacts).transform clock name v given = .ok (f d) := by
  rw [Catalogue.transform, hentry]
  exact onMoment_eq (f := fun t _ => .ok (f t.date)) (p := Parameters.normalize given) hv

lemma transform_iso (hv : v.moment? clock.year = .ok (some (.midnight d))) :
    (builtIn contacts).transform clock "format_date_iso" v given = .ok (.text d.iso) :=
  transform_onDate (f := fun d => .text d.iso) rfl hv

lemma transform_us (hv : v.moment? clock.year = .ok (some (.midnight d))) :
    (builtIn contacts).transform clock "format_date_us" v given = .ok (usDate d) :=
  transform_onDate (f := usDate) rfl hv

lemma transform_stamp (hv : v.moment? clock.year = .ok (some (.midnight d))) :
    (builtIn contacts).transform clock "parse_date" v given =
      .ok (.text (Moment.midnight d).stamp) :=
  transform_onMoment (f := fun _ t _ => .ok (.text t.stamp)) rfl hv

lemma transform_custom (hv : v.moment? clock.year = .ok (some (.midnight d)))
    (hformat : Table.get? (Parameters.normalize given) "format" = none) :
    (builtIn contacts).transform clock "format_date_custom" v given = .ok (.text d.iso) := by
  have hcustom : (builtIn contacts).transform clock "format_date_custom" v given =
      formatCustom (.midnight d) (Parameters.normalize given) :=
    transform_onMoment (f := fun _ => formatCustom) rfl hv
  have hdefault : Parameters.getD (Parameters.normalize given) "format" (.text "YYYY-MM-DD") =
      .text "YYYY-MM-DD" := by rw [Parameters.getD, hformat, Option.getD_none]
  rw [hcustom, formatCustom, hdefault]
  dsimp only
  rw [fillFormat_default, String.ofList_toList]
  rfl

lemma readsFrom100_texts (h : d.Valid) (present : Nat) :
    (∃ s, usDate d = .text s ∧ (∀ c ∈ s.toList, Plain c) ∧ ReadsFrom100 present s.toList none d) ∧
    (∀ c ∈ (Moment.midnight d).stamp.toList, Plain c) ∧
      ReadsFrom100 present (Moment.midnight d).stamp.toList (some 0) d := by
  obtain ⟨-, hm, hd⟩ := writes_date h
  have hus : (padded 2 d.month ++ "/" ++ padded 2 d.day ++ "/" ++ toString d.year).toList =
      usChars d := by simp [usChars]
  -- the time of midnight is written digit by digit, as that of any moment
  have hmidnight : "T".toList ++ ((padded 2 0 ++ ":" ++ padded 2 0 ++ ":" ++ padded 2 0).toList ++
      (".".toList ++ ((padded 3 0).toList ++ "Z".toList))) = midnightText := by decide
  have hstamp : (Moment.midnight d).stamp.toList = stampChars d := by
    have hbar : "-".toList = ['-'] := rfl
    rw [stampChars, ← hmidnight]
    simp only [Moment.stamp, Moment.timeText, Moment.midnight, Nat.zero_div, String.toList_append,
      List.append_assoc, hbar, List.cons_append, List.nil_append]
  refine ⟨⟨_, rfl, ?_, hus ▸ readsFrom100_us h⟩, ?_, hstamp ▸ readsFrom100_stamp h⟩
  · rw [hus]
    exact plain_dated (plain_padded 2 d.month) (plain_padded 2 d.day) (plain_toString d.year) (.inl rfl)
  · rw [hstamp]
    exact plain_dated (plain_toString d.year) (plain_padded 2 d.month) (plain_day_midnight d.day) (.inr rfl)

lemma rereads_us (hd : d.Valid) (hv : v.moment? clock.year = .ok (some (.midnight d)))
    (hyear : 150 ≤ clock.year ∨ 100 ≤ d.year) :
    Rereads contacts "format_date_us" clock v given d ↔ 100 ≤ d.year := by
  obtain ⟨s, hs, hplain, hreads⟩ := (readsFrom100_texts hd clock.year).1
  rw [rereads_iff (transform_us hv), hs]
  exact Value.moment?_text_iff hd (.inl rfl) hplain hreads hyear

lemma rereads_stamp (hd : d.Valid) (hv : v.moment? clock.year = .ok (some (.midnight d)))
    (hyear : 150 ≤ clock.year ∨ 100 ≤ d.year) :
    Rereads contacts "parse_date" clock v given d ↔ 100 ≤ d.year := by
  obtain ⟨hplain, hreads⟩ := (readsFrom100_texts hd clock.year).2
  rw [rereads_iff (transform_stamp hv)]
  exact Value.moment?_text_iff hd (.inr rfl) hplain hreads hyear

/-- **Dates come back from their texts.** The texts of a date in the fixed shapes are its midnight, and
so are the ISO text and the text of the default format. The year of the other two texts has no leading
zeros, so these come back from year 100 on, and none before it does unless the present is as early.
A text of a fixed shape that is no date is none. -/
theorem dates_reread (hd : d.Valid) :
    (∀ s ∈ d.texts, ∀ present, (Value.text s).moment? present = .ok (some (.midnight d))) ∧
    (∀ contacts clock v given, v.moment? clock.year = .ok (some (.midnight d)) →
      Rereads contacts "format_date_iso" clock v given d ∧
      (Table.get? (Parameters.normalize given) "format" = none →
        Rereads contacts "format_date_custom" clock v given d) ∧
      (150 ≤ clock.year ∨ 100 ≤ d.year →
        (Rereads contacts "format_date_us" clock v given d ↔ 100 ≤ d.year) ∧
        (Rereads contacts "parse_date" clock v given d ↔ 100 ≤ d.year))) ∧
    ∀ s y m day, Compact (strip s.toList) y m day ∨ Slashed (strip s.toList) y m day →
      ∀ present, (Value.text s).moment? present =
        .ok ((Date.of? y m day).map Moment.midnight) := by
  have hiso (present : Nat) : (Value.text d.iso).moment? present = .ok (some (.midnight d)) :=
    moment?_texts hd List.mem_cons_self
  -- two of the four texts are of a fixed shape, and are read whatever the year
  refine ⟨fun s hs present => moment?_texts hd hs, fun contacts clock v given hv => ?_,
    fun s y m day h present => Value.moment?_of_shape h⟩
  exact ⟨(rereads_iff (transform_iso hv)).2 (hiso _),
    fun hformat => (rereads_iff (transform_custom hv hformat)).2 (hiso _),
    fun hyear => ⟨rereads_us hd hv hyear, rereads_stamp hd hv hyear⟩⟩

/-- The last day of a February, written by each transformation. -/
theorem leap_day_rereads :
    (∀ s ∈ ["2024-02-29", "20240229", "02/29/2024", "2-29-2024"],
      (Value.text s).moment? 2026 = .ok (some (.midnight ⟨2024, 2, 29⟩))) ∧
    ∀ name ∈ ["format_date_iso", "format_date_custom", "format_date_us", "parse_date"],
      Rereads .listed name (.ofDate ⟨2026, 1, 1⟩) (.date ⟨2024, 2, 29⟩) [] ⟨2024, 2, 29⟩ := by
  obtain ⟨htexts, hwritten, -⟩ := dates_reread (d := ⟨2024, 2, 29⟩) (by decide)
  obtain ⟨hiso, hcustom, hyear⟩ := hwritten .listed (.ofDate ⟨2026, 1, 1⟩) (.date ⟨2024, 2, 29⟩) [] rfl
  obtain ⟨hus, hstamp⟩ := hyear (.inl (by decide))
  constructor
  · exact fun s hs => htexts s
      ((by decide : ∀ s ∈ ["2024-02-29", "20240229", "02/29/2024", "2-29-2024"],
        s ∈ (⟨2024, 2, 29⟩ : Date).texts) s hs) _
  · simp only [List.mem_cons, List.not_mem_nil, or_false]
    rintro name (rfl | rfl | rfl | rfl)
    · exact hiso
    · exact hcustom rfl
    · exact hus.2 (by decide)
    · exact hstamp.2 (by decide)

/-- A date of the year 99 is written as one of the year 1999. -/
theorem first_century_lost :
    ¬ ∀ (d : Date) (contacts : Contact.Directory) (clock : Clock) (v : Value)
        (given : Table Value), d.Valid →
      v.moment? clock.year = .ok (some (.midnight d)) →
        Rereads contacts "format_date_us" clock v given d ∧
          Rereads contacts "parse_date" clock v given d := by
  intro h
  have hd : (⟨99, 1, 15⟩ : Date).Valid := by decide
  have hback := (h ⟨99, 1, 15⟩ .listed (.ofDate ⟨2026, 1, 1⟩) (.date ⟨99, 1, 15⟩) [] hd rfl).1
  exact absurd ((rereads_us hd rfl (.inl (by decide))).1 hback) (by decide)

end Transformation

end Crosswalk
