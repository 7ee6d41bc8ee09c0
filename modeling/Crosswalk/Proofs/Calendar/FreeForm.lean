import Mathlib.Tactic.FinCases
import Crosswalk.Proofs.Calendar.Iso
import Crosswalk.Proofs.Calendar.Lexeme

/-!
Reading dates whose year has fewer than four digits.

No fixed shape has such a year, so three numbers with bars between them are read freely. A year of three
digits is known by its length. A year of two is taken for one near the present, so no date of the first
century is read as it was written.
-/

namespace Crosswalk.Calendar.FreeForm

open Text
open Rfc3339 (Writes)

variable {ds : List Char} {present : Nat}

/-! ### Words -/

def NoDigits (ws : List String) : Prop := ∀ w ∈ ws, ∀ c ∈ w.toList, ¬ c.isDigit

instance (ws : List String) : Decidable (NoDigits ws) :=
  have (w : String) : Decidable (∀ c ∈ w.toList, ¬ c.isDigit) := List.decidableBAll _ w.toList
  List.decidableBAll _ ws

lemma NoDigits.contains {ws : List String} (hws : NoDigits ws) {s : String} {c : Char}
    (hc : c ∈ s.toList) (hdigit : c.isDigit) : ws.contains s = false := by
  rw [Bool.eq_false_iff, Ne, List.contains_iff_mem]
  exact fun hs => hws s hs c hc hdigit

lemma contains_lowerWord {ws : List String} (hws : NoDigits ws) (hds : ∀ c ∈ ds, c.isDigit)
    (hne : ds ≠ []) : ws.contains (lowerWord ds) = false := by
  obtain ⟨d, ds, rfl⟩ := List.exists_cons_of_ne_nil hne
  have hd : d.isDigit := hds d (by simp)
  refine hws.contains (c := d) ?_ hd
  rw [lowerWord, String.toList_ofList, List.map_cons, Numeral.toLower_digit hd]
  exact List.mem_cons_self

lemma indexIn_digits {names : List (List String)} (hnames : ∀ ws ∈ names, NoDigits ws)
    (hds : ∀ c ∈ ds, c.isDigit) (hne : ds ≠ []) : indexIn names ds = none := by
  rw [indexIn, List.findIdx?_eq_none_iff]
  exact fun ws hws => contains_lowerWord (hnames ws hws) hds hne

lemma isFiller_digits (hds : ∀ c ∈ ds, c.isDigit) (hne : ds ≠ []) : isFiller ds = false :=
  contains_lowerWord (by decide) hds hne

lemma month?_digits (hds : ∀ c ∈ ds, c.isDigit) (hne : ds ≠ []) : month? ds = none := by
  rw [month?, indexIn_digits (by decide) hds hne]
  rfl

/-! ### Numbers -/

lemma ne_nil_of_writes {width n : Nat} (h : Writes width n ds) (hwidth : 0 < width) : ds ≠ [] := by
  rw [← List.length_pos_iff, h.length]
  exact hwidth

lemma numeral?_writes {width n : Nat} (h : Writes width n ds) (hwidth : 0 < width) :
    numeral? ds = some (n, []) := by
  have hpoint : ∀ c ∈ ds, (c != '.') = true := by
    intro c hc
    rw [bne_iff_ne]
    rintro rfl
    cases h.digits '.' hc
  have hend : ∀ c ∈ ([] : List Char).head?, ¬ (c != '.') = true := by simp
  have hwhole := (Numeral.span_append hpoint hend).1
  rw [List.append_nil] at hwhole
  rw [numeral?]
  simp only [hwhole, natural?_writes h hwidth, List.drop_length]

def triple? (first second third : Lexeme) : Option Numbers := do
  let n ← Numbers.addDigits? {} first
  let n ← n.addDigits? second
  n.addDigits? third

variable {first second third bar : Lexeme} {w₁ w₂ w₃ a b c : Nat}

/-- Three numbers with the same bar between them are the numbers of a date. -/
lemma number?_triple (h₁ : Writes w₁ a first) (h₂ : Writes w₂ b second) (h₃ : Writes w₃ c third)
    (hw₁ : 0 < w₁ ∧ w₁ ≤ 4) (hw₂ : 0 < w₂) (hw₃ : 0 < w₃) (hbar : bar = ['/'] ∨ bar = ['-'])
    (tail : List Lexeme) :
    number? (first :: bar :: second :: bar :: third :: tail) 0 {} =
      (triple? first second third).bind fun n => some (4, { numbers := n }) := by
  have hlength : first.length ≤ 4 := h₁.length.trans_le hw₁.2
  -- a first number this short is none of the packed forms of dates and times
  have hsix : ¬ (first.length = 6 ∨ 6 < first.length ∧ first.findIdx? (· = '.') = some 6) := by
    omega
  have height : ¬ (first.length = 8 ∨ first.length = 12 ∨ first.length = 14) := by omega
  have hword : clockPart? bar = none ∧ bar ≠ [' '] ∧ bar ≠ [':'] := by
    obtain rfl | rfl := hbar <;> decide
  -- nor is it an hour, because no word for one comes behind it
  have hclock : clockWordAt? (first :: bar :: second :: bar :: third :: tail) 0 = none := by
    simp [clockWordAt?, hword]
  have hdigits : second.all isDigit = true :=
    List.all_eq_true.2 fun d hd => isDigit_ascii (h₂.digits d hd)
  have hfiller := isFiller_digits h₂.digits (ne_nil_of_writes h₂ hw₂)
  have hmonth := month?_digits h₃.digits (ne_nil_of_writes h₃ hw₃)
  have hbars : some bar = some ['-'] ∨ some bar = some ['/'] ∨ some bar = some ['.'] := by
    obtain rfl | rfl := hbar <;> simp
  have hcolon : some bar ≠ some [':'] := fun h => hword.2.2 (Option.some.inj h)
  have hlast : 0 + 3 < (first :: bar :: second :: bar :: third :: tail).length := by
    simp only [List.length_cons]
    omega
  rw [number?]
  simp only [List.getElem?_cons_zero, List.getElem?_cons_succ, Option.bind_eq_bind, Option.bind_some,
    numeral?_writes h₁ hw₁.1, List.length_nil, hsix, height, hclock, hbars, hfiller, hdigits, hmonth,
    OfNat.zero_ne_ofNat, false_and, and_false, if_false, if_true, hcolon, hlast, true_and,
    Bool.false_eq_true, triple?, Option.bind_assoc]
  rfl

lemma read?_number {ls : List Lexeme} {i fuel : Nat} {f : Found} {l : Lexeme} (hl : ls[i]? = some l)
    (hnumber : (numeral? l).isSome) : read? present (fuel + 1) ls i f =
      (number? ls i f).bind fun p => read? present fuel ls (p.1 + 1) p.2 := by
  rw [read?.eq_def]
  simp only [hl, hnumber, if_true]

lemma read?_end {ls : List Lexeme} {i fuel : Nat} {f : Found} (hi : ls[i]? = none) :
    read? present fuel ls i f = some f := by
  rw [read?.eq_def]
  simp only [hi]

lemma read?_triple (h₁ : Writes w₁ a first) (h₂ : Writes w₂ b second) (h₃ : Writes w₃ c third)
    (hw₁ : 0 < w₁ ∧ w₁ ≤ 4) (hw₂ : 0 < w₂) (hw₃ : 0 < w₃) (hbar : bar = ['/'] ∨ bar = ['-'])
    (tail : List Lexeme) (fuel : Nat) :
    read? present (fuel + 1) (first :: bar :: second :: bar :: third :: tail) 0 {} =
      (triple? first second third).bind fun n =>
        read? present fuel (first :: bar :: second :: bar :: third :: tail) 5 { numbers := n } := by
  have hnumber : (numeral? first).isSome := numeral?_writes h₁ hw₁.1 ▸ rfl
  rw [read?_number List.getElem?_cons_zero hnumber, number?_triple h₁ h₂ h₃ hw₁ hw₂ hw₃ hbar tail,
    Option.bind_assoc]
  rfl

def midnightLexemes : List Lexeme :=
  [['T'], ['0', '0'], [':'], ['0', '0'], [':'], ['0', '0', '.', '0', '0', '0'], ['Z']]

def atMidnight (values : List Nat) (yearAt : Option Nat) (century : Bool) : Found where
  numbers := { values, yearAt, century }
  hour := some 0
  minute := some 0
  second := some 0
  micro := some 0
  zoneName := some ['Z']

lemma read?_midnight (first bar second bar' third : Lexeme) (a b c fuel : Nat)
    (yearAt : Option Nat) (century : Bool) :
    read? present (fuel + 8) (first :: bar :: second :: bar' :: third :: midnightLexemes) 5
      { numbers := { values := [a, b, c], yearAt, century } } =
      some (atMidnight [a, b, c] yearAt century) := rfl

/-! ### Which number is the year -/

namespace Numbers

variable {width v : Nat}

lemma addDigits?_short (h : Writes width v ds) (hwidth : 0 < width ∧ width ≤ 2) (n : Numbers) :
    n.addDigits? ds = some { n with values := n.values ++ [v] } := by
  have hshort : ¬ 2 < ds.length := not_lt.2 (h.length.trans_le hwidth.2)
  rw [addDigits?, natural?_writes h hwidth.1, Option.bind_some, if_neg hshort]

lemma addDigits?_long (h : Writes width v ds) (hwidth : 2 < width) (n : Numbers) :
    n.addDigits? ds = n.addYear? v := by
  have hlong : 2 < ds.length := hwidth.trans_eq h.length.symm
  rw [addDigits?, natural?_writes h (Nat.zero_lt_of_lt hwidth), Option.bind_some, if_pos hlong]

end Numbers

lemma triple?_short (h₁ : Writes w₁ a first) (h₂ : Writes w₂ b second) (h₃ : Writes w₃ c third)
    (hw₁ : 0 < w₁ ∧ w₁ ≤ 2) (hw₂ : 0 < w₂ ∧ w₂ ≤ 2) (hw₃ : 0 < w₃ ∧ w₃ ≤ 2) :
    triple? first second third = some { values := [a, b, c] } := by
  rw [triple?]
  simp only [Numbers.addDigits?_short h₁ hw₁, Numbers.addDigits?_short h₂ hw₂,
    Numbers.addDigits?_short h₃ hw₃, Option.bind_eq_bind, Option.bind_some]
  rfl

lemma triple?_yearFirst (h₁ : Writes w₁ a first) (h₂ : Writes w₂ b second) (h₃ : Writes w₃ c third)
    (hw₁ : 2 < w₁) (hw₂ : 0 < w₂ ∧ w₂ ≤ 2) (hw₃ : 0 < w₃ ∧ w₃ ≤ 2) :
    triple? first second third =
      some { values := [a, b, c], yearAt := some 0, century := true } := by
  rw [triple?]
  simp only [Numbers.addDigits?_long h₁ hw₁, Numbers.addYear?, Option.isSome_none,
    Bool.false_eq_true, if_false, Numbers.addDigits?_short h₂ hw₂, Numbers.addDigits?_short h₃ hw₃,
    Option.bind_eq_bind, Option.bind_some]
  rfl

lemma triple?_yearLast (h₁ : Writes w₁ a first) (h₂ : Writes w₂ b second) (h₃ : Writes w₃ c third)
    (hw₁ : 0 < w₁ ∧ w₁ ≤ 2) (hw₂ : 0 < w₂ ∧ w₂ ≤ 2) (hw₃ : 2 < w₃) :
    triple? first second third =
      some { values := [a, b, c], yearAt := some 2, century := true } := by
  rw [triple?]
  simp only [Numbers.addDigits?_short h₁ hw₁, Numbers.addDigits?_short h₂ hw₂,
    Numbers.addDigits?_long h₃ hw₃, Numbers.addYear?, Option.isSome_none,
    Bool.false_eq_true, if_false, Option.bind_eq_bind, Option.bind_some]
  rfl

lemma resolve?_yearFirst : Numbers.resolve?
    { values := [a, b, c], yearAt := some 0, century := true } = some (some a, some b, some c) := by
  simp [Numbers.resolve?, Numbers.knownCount]

lemma resolve?_monthFirst (ha : a ≤ 12) (yearAt : Option Nat) (hyear : yearAt = none ∨ yearAt = some 2)
    (century : Bool) : Numbers.resolve? { values := [a, b, c], yearAt, century } =
      some (some c, some a, some b) := by
  have hyears : ¬ 31 < a ∧ ¬ 12 < a := by omega
  obtain rfl | rfl := hyear <;> simp [Numbers.resolve?, Numbers.knownCount, hyears]

lemma resolve?_short (ha : a < 100) (hc : c < 100) : ∃ y m d, y < 100 ∧
    Numbers.resolve? { values := [a, b, c] } = some (some y, some m, some d) := by
  have hresolve : Numbers.resolve? { values := [a, b, c] } =
      some (if 31 < a then (some a, some b, some c)
        else if 12 < a then (some c, some b, some a)
        else (some c, some a, some b)) := by simp [Numbers.resolve?, Numbers.knownCount]
  rw [hresolve]
  split_ifs
  · exact ⟨a, b, c, ha, rfl⟩
  · exact ⟨c, b, a, hc, rfl⟩
  · exact ⟨c, a, b, hc, rfl⟩

lemma le_fullYear {y : Nat} (hy : y < 100) (hpresent : 150 ≤ present) :
    100 ≤ fullYear present false y := by
  rw [fullYear, if_neg (not_or.2 ⟨not_le.2 hy, Bool.false_ne_true⟩)]
  dsimp only
  split_ifs <;> omega

lemma fullYear_century (y : Nat) : fullYear present true y = y := if_pos (.inr rfl)

/-! ### From the text to the moment -/

lemma Found.moment?_eq {f : Found} {y m d : Nat} {zone : Option Int}
    (hnumbers : f.numbers.resolve? = some (some y, some m, some d)) (hzone : f.zone? = some zone)
    (hweekday : f.weekday = none) : f.moment? present =
      Moment.of? (fullYear present f.numbers.century y) m d (f.hour.getD 0) (f.minute.getD 0)
        (f.second.getD 0) (f.micro.getD 0) zone := by
  rw [Found.moment?, hnumbers, hzone]
  simp [hweekday]

lemma lexemes_triple (h₁ : Writes w₁ a first) (h₂ : Writes w₂ b second) (h₃ : Writes w₃ c third)
    (hw₁ : 0 < w₁) (hw₂ : 0 < w₂) (hw₃ : 0 < w₃) {sep : Char} (hsep : IsBar sep)
    (rest : List Char) (hrest : ∀ c ∈ rest.head?, ¬ isDigit c ∧ c ≠ '.' ∧ c ≠ ',') :
    lexemes (first ++ sep :: (second ++ sep :: (third ++ rest))) =
      first :: [sep] :: second :: [sep] :: third :: lexemes rest := by
  have hdigits : ∀ {w n : Nat} {ds : List Char}, Writes w n ds → ∀ c ∈ ds, isDigit c :=
    fun h c hc => isDigit_ascii (h.digits c hc)
  have hmark : Run.isLetter sep = false ∧ isDigit sep = false ∧ isBlank sep = false ∧
      sep ≠ '.' ∧ sep ≠ ',' := by obtain rfl | rfl := hsep <;> decide
  -- a bar ends the digits in front of it
  have hstop : ∀ tail : List Char, ∀ c ∈ (sep :: tail).head?, ¬ isDigit c ∧ c ≠ '.' ∧ c ≠ ',' := by
    rintro tail c hc
    obtain rfl : sep = c := Option.some.inj hc
    exact ⟨by simp [hmark], hmark.2.2.2⟩
  rw [lexemes_digits (hdigits h₁) (ne_nil_of_writes h₁ hw₁) (hstop _),
    lexemes_mark hmark.1 hmark.2.1 hmark.2.2.1,
    lexemes_digits (hdigits h₂) (ne_nil_of_writes h₂ hw₂) (hstop _),
    lexemes_mark hmark.1 hmark.2.1 hmark.2.2.1,
    lexemes_digits (hdigits h₃) (ne_nil_of_writes h₃ hw₃) hrest]

lemma lexical?_triple (h₁ : Writes w₁ a first) (h₂ : Writes w₂ b second) (h₃ : Writes w₃ c third)
    (hw₁ : 0 < w₁ ∧ w₁ ≤ 4) (hw₂ : 0 < w₂) (hw₃ : 0 < w₃) {sep : Char} (hsep : IsBar sep) :
    lexical? present (first ++ sep :: (second ++ sep :: third)) =
      (triple? first second third).bind fun n => Found.moment? present { numbers := n } := by
  have hbar : [sep] = ['/'] ∨ [sep] = ['-'] := by simpa [IsBar] using hsep
  have hlexemes := lexemes_triple h₁ h₂ h₃ hw₁.1 hw₂ hw₃ hsep [] (by simp)
  have hnil : lexemes [] = [] := rfl
  rw [List.append_nil, hnil] at hlexemes
  rw [lexical?, hlexemes]
  rw [read?_triple h₁ h₂ h₃ hw₁ hw₂ hw₃ hbar, Option.bind_assoc]
  refine Option.bind_congr fun n _ => ?_
  rw [read?_end rfl, Option.bind_some]

lemma lexical?_midnight (h₁ : Writes w₁ a first) (h₂ : Writes w₂ b second) (h₃ : Writes w₃ c third)
    (hw₁ : 0 < w₁ ∧ w₁ ≤ 4) (hw₂ : 0 < w₂) (hw₃ : 0 < w₃) {yearAt : Option Nat} {century : Bool}
    (htriple : triple? first second third = some { values := [a, b, c], yearAt, century }) :
    lexical? present (first ++ '-' :: (second ++ '-' :: (third ++ "T00:00:00.000Z".toList))) =
      (atMidnight [a, b, c] yearAt century).moment? present := by
  have hclock : lexemes "T00:00:00.000Z".toList = midnightLexemes := by decide +kernel
  have hstop : ∀ c ∈ "T00:00:00.000Z".toList.head?, ¬ isDigit c ∧ c ≠ '.' ∧ c ≠ ',' := by
    intro c hc
    obtain rfl : 'T' = c := Option.some.inj hc
    decide
  have hlexemes := lexemes_triple h₁ h₂ h₃ hw₁.1 hw₂ hw₃ (.inr rfl)
    "T00:00:00.000Z".toList hstop
  rw [hclock] at hlexemes
  rw [lexical?, hlexemes]
  rw [read?_triple h₁ h₂ h₃ hw₁ hw₂ hw₃ (.inr rfl), htriple, Option.bind_some]
  exact congrArg (Option.bind · (Found.moment? present)) (read?_midnight ..)

/-! ### What a short date is not -/

def Plain (c : Char) : Prop := c.isDigit ∨ c ∈ ['/', '-', ':', '.', 'T', 'Z']

instance : DecidablePred Plain := fun c =>
  inferInstanceAs (Decidable (c.isDigit = true ∨ c ∈ ['/', '-', ':', '.', 'T', 'Z']))

namespace Plain

variable {c : Char}

lemma ascii (h : Plain c) : c.toNat < 128 := by
  obtain h | h := h
  · have hrange : 48 ≤ c.toNat ∧ c.toNat ≤ 57 := by
      simpa [Char.isDigit, UInt32.le_iff_toNat_le] using h
    omega
  · fin_cases h <;> decide

lemma not_isBlank (h : Plain c) : isBlank c = false := by
  obtain h | h := h
  · exact isBlank_of_isDigit h
  · fin_cases h <;> decide

lemma not_isSpace (h : Plain c) : isSpace c = false := (Bool.or_eq_false_iff.1 h.not_isBlank).1

lemma toUpper_ne (h : Plain c) : c.toUpper ≠ 'Q' := by
  obtain h | h := h
  · rw [Numeral.toUpper_digit h]
    rintro rfl
    cases h
  · fin_cases h <;> decide

end Plain

variable {cs : List Char} {bar mark : Char}

lemma plain_dated {rest : List Char} (hfirst : ∀ c ∈ first, Plain c) (hsecond : ∀ c ∈ second, Plain c)
    (hrest : ∀ c ∈ rest, Plain c) (hbar : IsBar bar) :
    ∀ c ∈ first ++ bar :: (second ++ bar :: rest), Plain c := by
  have hplain : Plain bar := by obtain rfl | rfl := hbar <;> decide
  intro c hc
  simp only [List.mem_append, List.mem_cons] at hc
  obtain hc | rfl | hc | rfl | hc := hc
  · exact hfirst c hc
  · exact hplain
  · exact hsecond c hc
  · exact hplain
  · exact hrest c hc

/-- A text with a slash or a colon writes no number. -/
lemma binary64?_eq_none (hcs : ∀ c ∈ cs, Plain c) (hmark : mark ∈ cs)
    (hmarks : mark = '/' ∨ mark = ':') : Numeral.binary64? cs = none := by
  have hascii : (cs.all fun c => c.toNat < 128) = true :=
    List.all_eq_true.2 fun c hc => decide_eq_true (hcs c hc).ascii
  have hnormal : Numeral.normalize cs = cs := by
    rw [Numeral.normalize, Numeral.toAscii, if_pos hascii,
      trimWhile_eq_self fun c hc => (hcs c hc).not_isSpace]
  have hjoin : Numeral.joinDigits? cs = some cs :=
    Numeral.joinDigits?_eq_self fun h => absurd (hcs '_' h) (by decide)
  -- the mark still stands behind the sign, so what is left is none of the words
  have hword : mark ∈ (Numeral.sign cs).2.map Char.toLower := by
    have hmem : mark ∈ (Numeral.sign cs).2 := by
      unfold Numeral.sign
      split
      · exact (List.mem_cons.1 hmark).resolve_left (by obtain rfl | rfl := hmarks <;> decide)
      · exact (List.mem_cons.1 hmark).resolve_left (by obtain rfl | rfl := hmarks <;> decide)
      · exact hmark
    have hlower : mark.toLower = mark := by obtain rfl | rfl := hmarks <;> rfl
    exact List.mem_map.2 ⟨mark, hmem, hlower⟩
  have hwords : ∀ w ∈ ["inf".toList, "infinity".toList, "nan".toList], mark ∉ w := by
    obtain rfl | rfl := hmarks <;> decide
  have hinfinity : Numeral.isInfinity ((Numeral.sign cs).2.map Char.toLower) = false := by
    rw [Numeral.isInfinity, Bool.or_eq_false_iff, decide_eq_false_iff_not, decide_eq_false_iff_not]
    exact ⟨fun h => hwords _ (by simp) (h ▸ hword), fun h => hwords _ (by simp) (h ▸ hword)⟩
  have hnan : (Numeral.sign cs).2.map Char.toLower ≠ "nan".toList := fun h =>
    hwords _ (by simp) (h ▸ hword)
  -- and it is none of the characters of a numeral
  have hread : Numeral.ofChars? cs = none := by
    rw [Option.eq_none_iff_forall_not_mem]
    intro n hn
    obtain ⟨w, hw, rfl, -⟩ := Numeral.exists_writing hn
    obtain h | h := hw.mem_chars hmark
    · obtain rfl | rfl := hmarks <;> cases h
    · obtain rfl | rfl := hmarks <;> exact absurd h (by decide)
  rw [Numeral.binary64?, hnormal, hjoin]
  simp only [Option.bind_eq_bind, Option.bind_some, hinfinity, hnan, hread, Bool.false_eq_true,
    if_false, Option.bind_none]

lemma isDateLike_of_mark (hcs : ∀ c ∈ cs, Plain c) (hmark : mark ∈ cs)
    (hmarks : mark = '/' ∨ mark = ':') : isDateLike cs = true := by
  have hword : ["a", "A", "m", "M", "p", "P", "t", "T"].contains (String.ofList cs) = false := by
    rw [Bool.eq_false_iff, Ne, List.contains_iff_mem]
    intro hmem
    have hnone : ∀ w ∈ ["a", "A", "m", "M", "p", "P", "t", "T"], mark ∉ w.toList := by
      obtain rfl | rfl := hmarks <;> decide
    exact hnone _ hmem (by rwa [String.toList_ofList])
  rw [isDateLike]
  simp only [hword, binary64?_eq_none hcs hmark hmarks, ite_self, Bool.false_eq_true, if_false]

lemma mem_take_four (hlength : first.length ≤ 3) {rest : List Char} :
    bar ∈ (first ++ bar :: rest).take 4 := by
  obtain ⟨k, hk⟩ : ∃ k, 4 - first.length = k + 1 := ⟨3 - first.length, by omega⟩
  rw [List.take_append, hk, List.take_succ_cons]
  exact List.mem_append_right _ List.mem_cons_self

lemma separated_eq_none (hfirst : ∀ c ∈ first, c.isDigit) (hne : first ≠ [])
    (hlength : first.length ≤ 3) (hbar : IsBar bar) (rest : List Char) :
    Separated.moment? (first ++ bar :: rest) = none := by
  have hblank : (first ++ bar :: rest).dropWhile isSpace = first ++ bar :: rest := by
    obtain ⟨d, ds, rfl⟩ := List.exists_cons_of_ne_nil hne
    have hd : isSpace d = false := Plain.not_isSpace (.inl (hfirst d (by simp)))
    rw [List.cons_append, List.dropWhile_cons_of_neg (by simp [hd])]
  have hdigit : bar.isDigit = false := by obtain rfl | rfl := hbar <;> rfl
  have hall : ((first ++ bar :: rest).take 4).all Char.isDigit = false := by
    rw [List.all_eq_false]
    exact ⟨bar, mem_take_four hlength, by simp [hdigit]⟩
  rw [Separated.moment?]
  simp [hblank, hall]

lemma delimited?_eq_none (hfirst : ∀ c ∈ first, c.isDigit) (hsecond : ∀ c ∈ second, c.isDigit)
    (hbar : IsBar bar) {rest : List Char} (hrest : rest.length ≠ 4) :
    delimited? (first ++ bar :: (second ++ bar :: rest)) = none := by
  have hstop : ∀ (tail : List Char), ∀ c ∈ (bar :: tail).head?, ¬ c.isDigit := by
    rintro tail c hc
    obtain rfl : bar = c := Option.some.inj hc
    obtain rfl | rfl := hbar <;> decide
  have htake : (first ++ bar :: (second ++ bar :: rest)).takeWhile Char.isDigit = first :=
    (Numeral.span_append hfirst (hstop _)).1
  have htake' : (second ++ bar :: rest).takeWhile Char.isDigit = second :=
    (Numeral.span_append hsecond (hstop _)).1
  have hbehind : (bar :: (second ++ bar :: rest)).drop (1 + second.length) = bar :: rest := by
    rw [Nat.add_comm, List.drop_succ_cons, List.drop_left]
  rw [delimited?]
  simp only [htake, List.drop_left, List.head?_cons, List.drop_one, List.tail_cons, htake', hbehind,
    List.isEmpty_cons, Bool.false_eq_true, if_false, Option.bind_eq_bind, Option.bind_some]
  simp [hrest]

lemma quarter?_eq_none (hcs : ∀ c ∈ cs, Plain c) : quarter? cs = none := by
  have hfind : (cs.map Char.toUpper).findIdx? (· = 'Q') = none := by
    rw [List.findIdx?_eq_none_iff]
    rintro c hc
    obtain ⟨d, hd, rfl⟩ := List.mem_map.1 hc
    exact decide_eq_false (hcs d hd).toUpper_ne
  rw [quarter?]
  simp only [hfind, Option.bind_eq_bind, Option.bind_none]

lemma moment?_eq_lexical? (h₁ : Writes w₁ a first) (h₂ : Writes w₂ b second)
    (hw₁ : 0 < w₁ ∧ w₁ ≤ 3) (hbar : IsBar bar) {rest : List Char} (hrest : ∀ c ∈ rest, Plain c)
    (hlength : rest.length ≠ 4) (hmark : mark ∈ bar :: rest) (hmarks : mark = '/' ∨ mark = ':') :
    moment? present (first ++ bar :: (second ++ bar :: rest)) =
      lexical? present (first ++ bar :: (second ++ bar :: rest)) := by
  have hne := ne_nil_of_writes h₁ hw₁.1
  have hplain := plain_dated (fun c hc => .inl (h₁.digits c hc)) (fun c hc => .inl (h₂.digits c hc))
    hrest hbar
  -- none of the readings that are tried before the lexemes applies
  have hnot : notTimes.contains (String.ofList (first ++ bar :: (second ++ bar :: rest))) = false := by
    obtain ⟨d, ds, rfl⟩ := List.exists_cons_of_ne_nil hne
    refine NoDigits.contains (by decide) (c := d) ?_ (h₁.digits d (by simp))
    rw [String.toList_ofList]
    exact List.mem_cons_self
  have hseparated := separated_eq_none h₁.digits hne (h₁.length.trans_le hw₁.2) hbar
    (second ++ bar :: rest)
  have hlike : isDateLike (first ++ bar :: (second ++ bar :: rest)) = true := by
    refine isDateLike_of_mark hplain ?_ hmarks
    exact List.mem_append_right _ (List.mem_cons_of_mem _ (List.mem_append_right _ hmark))
  rw [moment?, hnot, hseparated, hlike, delimited?_eq_none h₁.digits h₂.digits hbar hlength,
    quarter?_eq_none hplain]
  rfl

end Crosswalk.Calendar.FreeForm
