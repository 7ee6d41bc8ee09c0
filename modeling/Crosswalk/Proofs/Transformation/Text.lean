import Crosswalk.Proofs.Text.Piece
import Crosswalk.Proofs.Value.LongInteger
import Crosswalk.Transformation.Catalogue

/-!
What is kept of a text that is transformed.

A format of digits only puts marks between them, so the digits stay, and with them whatever is decided by
the digits alone. The parts of a text that is split give it back when they are joined, and none of
them has the delimiter in it. A mask leaves as many characters as it is told, but does not do so for a
count below zero.
-/

namespace Crosswalk

open Fallible
open Text

variable {contacts : Contact.Directory} {v r : Value} {clock : Clock} {p q : Table Value}
  {name description : String}

namespace Transformation

lemma transform_nullSafe {category : Category} {f : Value → Parameters → Except Fault Value}
    (hentry : Table.get? (builtIn contacts) name = some ⟨category, description, always (nullSafe f)⟩)
    (hv : v.isMissing = false) :
    (builtIn contacts).transform clock name v p = f v (Parameters.normalize p) := by
  rw [Catalogue.transform, hentry]
  exact if_neg (by simp [hv])

lemma isMissing_ofChars (cs : List Char) : (ofChars cs).isMissing = false := rfl

lemma toChars_ofChars (cs : List Char) : (ofChars cs).toChars = .ok cs := by
  rw [ofChars, Value.toChars, Value.toText, ok_bind, String.toList_ofList]
  rfl

/-! ### Digits -/

lemma digitsOfValue_ofChars (cs : List Char) : digitsOfValue (ofChars cs) = .ok (digitsOf cs) := by
  rw [digitsOfValue, toChars_ofChars]
  rfl

lemma fails_digitsOfValue (v : Value) : Fails (digitsOfValue v) ↔ v.holdsLong := by
  rw [digitsOfValue, fails_bind_total (by simp), Value.fails_toChars]

lemma isDigit_of_digitsOfValue {ds : List Char} (h : digitsOfValue v = .ok ds) :
    ∀ d ∈ ds, isDigit d := by
  obtain ⟨cs, -, h⟩ := bind_eq_ok.1 h
  obtain rfl := Except.ok.inj h
  exact fun d hd => (List.mem_filter.1 hd).2

lemma digitsOf_append (cs ds : List Char) : digitsOf (cs ++ ds) = digitsOf cs ++ digitsOf ds :=
  List.filter_append ..

lemma digitsOf_cons_mark {c : Char} (hc : isDigit c = false) (cs : List Char) :
    digitsOf (c :: cs) = digitsOf cs :=
  List.filter_cons_of_neg (by simp [hc])

lemma digitsOf_self {ds : List Char} (h : ∀ d ∈ ds, isDigit d) : digitsOf ds = ds :=
  List.filter_eq_self.2 h

/-- What a format makes of a value is settled by its digits. It leaves all values with these digits as
they are, or makes one text of all of them, in which the same digits stand. -/
structure Formats (f : Value → Except Fault Value) : Prop where
  fails_iff : ∀ v, Fails (f v) ↔ v.holdsLong
  settled : ∀ ds, (∀ d ∈ ds, isDigit d) →
    (∀ v, digitsOfValue v = .ok ds → f v = .ok v) ∨
      ∃ cs, digitsOf cs = ds ∧ ∀ v, digitsOfValue v = .ok ds → f v = .ok (ofChars cs)

lemma Formats.result {f : Value → Except Fault Value} (hf : Formats f) (hv : v.isMissing = false)
    (hr : f v = .ok r) :
    r.isMissing = false ∧ digitsOfValue r = digitsOfValue v ∧ f r = .ok r := by
  have htext : ¬ Fails (digitsOfValue v) := by
    rw [fails_digitsOfValue, ← hf.fails_iff]
    exact not_fails.2 ⟨r, hr⟩
  obtain ⟨ds, hds⟩ := not_fails.1 htext
  obtain h | ⟨cs, rfl, h⟩ := hf.settled ds (isDigit_of_digitsOfValue hds)
  · obtain rfl := Except.ok.inj ((h v hds).symm.trans hr)
    exact ⟨hv, rfl, hr⟩
  · obtain rfl := Except.ok.inj ((h v hds).symm.trans hr)
    have hsame := digitsOfValue_ofChars cs
    exact ⟨isMissing_ofChars cs, hsame.trans hds.symm, h _ hsame⟩

lemma digitsOf_hyphenated {ds : List Char} (h : ∀ d ∈ ds, isDigit d) (lengths : List Nat) :
    digitsOf (hyphenated lengths ds) = ds := by
  induction lengths generalizing ds with
  | nil => exact digitsOf_self h
  | cons n more ih =>
    have hfront : ∀ d ∈ ds.take n, isDigit d := fun d hd => h d (List.mem_of_mem_take hd)
    have hback : ∀ d ∈ ds.drop n, isDigit d := fun d hd => h d (List.mem_of_mem_drop hd)
    rw [hyphenated, digitsOf_append, digitsOf_self hfront, digitsOf_cons_mark (by decide),
      ih hback, List.take_append_drop]

lemma formats_nineDigits (lengths : List Nat) : Formats (nineDigits lengths) := by
  refine ⟨fun v => ?_, fun ds hds => ?_⟩
  · rw [nineDigits, fails_bind_total (by simp), fails_digitsOfValue]
  · by_cases hnine : ds.length = 9
    · refine .inr ⟨hyphenated lengths ds, digitsOf_hyphenated hds lengths, fun v hv => ?_⟩
      rw [nineDigits, hv, ok_bind, if_pos hnine]
      rfl
    · refine .inl fun v hv => ?_
      rw [nineDigits, hv, ok_bind, if_neg hnine]
      rfl

lemma digitsOf_nationalForm {ds : List Char} (h : ∀ d ∈ ds, isDigit d) :
    digitsOf (nationalForm ds) = ds := by
  have hdigits : ∀ part : List Char, part ⊆ ds → digitsOf part = part :=
    fun part hpart => digitsOf_self fun d hd => h d (hpart hd)
  have harea := hdigits (ds.take 3) (List.take_subset _ _)
  have hmiddle := hdigits ((ds.drop 3).take 3)
    (List.Subset.trans (List.take_subset _ _) (List.drop_subset _ _))
  have hlast := hdigits (ds.drop 6) (List.drop_subset _ _)
  have hmarks : digitsOf ") ".toList = [] := by decide
  rw [nationalForm, List.cons_append, List.cons_append, List.cons_append,
    digitsOf_cons_mark (by decide), digitsOf_append, digitsOf_append, digitsOf_append,
    digitsOf_cons_mark (by decide), hmarks, harea, hmiddle, hlast, List.append_nil,
    List.append_assoc, ← List.drop_drop (i := 3) (j := 3), List.take_append_drop,
    List.take_append_drop]

lemma formats_phoneNumber : Formats formatPhoneNumber := by
  refine ⟨fun v => ?_, fun ds hds => ?_⟩
  · rw [formatPhoneNumber, fails_bind_total (by simp), fails_digitsOfValue]
  -- ten digits are a number of the country, eleven may have its code in front
  by_cases hten : ds.length = 10
  · refine .inr ⟨nationalForm ds, digitsOf_nationalForm hds, fun v hv => ?_⟩
    rw [formatPhoneNumber, hv, ok_bind, if_pos hten]
    rfl
  by_cases hcode : ds.length = 11 ∧ ds.head? = some '1'
  · -- the country code is the first of the digits, and is written in front
    refine .inr ⟨"+1 ".toList ++ nationalForm (ds.drop 1), ?_, fun v hv => ?_⟩
    · obtain ⟨rest, rfl⟩ := List.head?_eq_some_iff.1 hcode.2
      have hrest : ∀ d ∈ rest, isDigit d := fun d hd => hds d (List.mem_cons_of_mem _ hd)
      have hone : digitsOf "+1 ".toList = ['1'] := by decide
      rw [digitsOf_append, hone, List.drop_succ_cons, List.drop_zero, digitsOf_nationalForm hrest]
      rfl
    · rw [formatPhoneNumber, hv, ok_bind, if_neg hten, if_pos hcode]
      rfl
  · refine .inl fun v hv => ?_
    rw [formatPhoneNumber, hv, ok_bind, if_neg hten, if_neg hcode]
    rfl

def digitFormats : List String := ["format_ssn", "format_ein", "format_phone_number"]

def digitChecks : List String :=
  ["validate_ssn", "validate_ein", "validate_routing_number", "validate_account_number"]

lemma exists_format (hname : name ∈ digitFormats) : ∃ f description, Formats f ∧
    Table.get? (builtIn contacts) name = some ⟨.string, description, always (nullSafe (plain f))⟩ := by
  simp only [digitFormats, List.mem_cons, List.not_mem_nil, or_false] at hname
  obtain rfl | rfl | rfl := hname
  · exact ⟨formatSsn, _, formats_nineDigits _, rfl⟩
  · exact ⟨formatEin, _, formats_nineDigits _, rfl⟩
  · exact ⟨formatPhoneNumber, _, formats_phoneNumber, rfl⟩

lemma transform_extractDigits (hv : v.isMissing = false) :
    (builtIn contacts).transform clock "extract_digits" v p = ofChars <$> digitsOfValue v := by
  rw [transform_nullSafe (f := plain extractDigits) rfl hv, plain, extractDigits, onChars, digitsOfValue]
  rcases v.toChars with f | cs <;> rfl

lemma transform_onDigits {g : List Char → Bool}
    (hentry : Table.get? (builtIn contacts) name =
      some ⟨.validation, description, always (onPresent (onDigits g))⟩)
    (hv : v.isMissing = false) :
    (builtIn contacts).transform clock name v p = (fun ds => Value.bool (g ds)) <$> digitsOfValue v := by
  rw [Catalogue.transform, hentry]
  dsimp only [always]
  rw [onPresent, if_neg (by simp [hv]), onDigits]
  rcases digitsOfValue v with f | ds <;> rfl

lemma exists_digitCheck (hname : name ∈ digitChecks) : ∃ g description,
    Table.get? (builtIn contacts) name =
      some ⟨.validation, description, always (onPresent (onDigits g))⟩ := by
  simp only [digitChecks, List.mem_cons, List.not_mem_nil, or_false] at hname
  obtain rfl | rfl | rfl | rfl := hname <;> exact ⟨_, _, rfl⟩

/-- **Formats keep the digits.** A value that has a text is formatted, and the result has the digits of
the value, passes the checks of digits that the value passes, and is formatted already. -/
theorem formats_keep_digits (hname : name ∈ digitFormats) (hv : v.isMissing = false)
    (contacts : Contact.Directory) (clock : Clock) (p q : Table Value) :
    (Fails ((builtIn contacts).transform clock name v p) ↔ v.holdsLong) ∧
    ∀ r, (builtIn contacts).transform clock name v p = .ok r →
      (builtIn contacts).transform clock "extract_digits" r q =
        (builtIn contacts).transform clock "extract_digits" v q ∧
      (builtIn contacts).transform clock name r q = .ok r ∧
      ∀ check ∈ digitChecks,
        (builtIn contacts).transform clock check r q = (builtIn contacts).transform clock check v q := by
  obtain ⟨f, description, hf, hentry⟩ := exists_format hname
  have hcall : ∀ {w : Value} {p : Table Value}, w.isMissing = false →
      (builtIn contacts).transform clock name w p = f w := fun hw => transform_nullSafe hentry hw
  refine ⟨by rw [hcall hv, hf.fails_iff], fun r hr => ?_⟩
  obtain ⟨hmissing, hdigits, hagain⟩ := hf.result hv ((hcall hv).symm.trans hr)
  refine ⟨?_, (hcall hmissing).trans hagain, fun check hcheck => ?_⟩
  · rw [transform_extractDigits hmissing, transform_extractDigits hv, hdigits]
  · obtain ⟨g, _, hcheck⟩ := exists_digitCheck hcheck
    rw [transform_onDigits hcheck hmissing, transform_onDigits hcheck hv, hdigits]

/-- A telephone number with the country code and points between its digits. -/
theorem dotted_phone_keeps_digits :
    (builtIn .listed).transform (.ofDate ⟨2026, 1, 1⟩) "format_phone_number" (.text "1.800.5550199") [] =
        .ok (.text "+1 (800) 555-0199") ∧
      ∀ check ∈ digitChecks,
        (builtIn .listed).transform (.ofDate ⟨2026, 1, 1⟩) check (.text "+1 (800) 555-0199") [] =
          (builtIn .listed).transform (.ofDate ⟨2026, 1, 1⟩) check (.text "1.800.5550199") [] := by
  have hname : "format_phone_number" ∈ digitFormats := by decide
  have hresult : (builtIn .listed).transform (.ofDate ⟨2026, 1, 1⟩) "format_phone_number"
      (.text "1.800.5550199") [] = .ok (.text "+1 (800) 555-0199") := rfl
  obtain ⟨-, hkept⟩ := formats_keep_digits hname (v := .text "1.800.5550199") rfl
    .listed (.ofDate ⟨2026, 1, 1⟩) [] []
  exact ⟨hresult, (hkept _ hresult).2.2⟩

/-! ### Parts -/

lemma itemAt?_of_nonneg {vs : List Value} {i : Int} (h : 0 ≤ i) : itemAt? vs i = vs[i.toNat]? :=
  if_pos h

lemma itemAt?_eq (vs : List Value) (i : Int) :
    (∀ k (hk : k < vs.length), i = k ∨ i = k - vs.length → itemAt? vs i = some vs[k]) ∧
      (i < -vs.length ∨ vs.length ≤ i → itemAt? vs i = none) := by
  constructor
  · rintro k hk (rfl | rfl)
    · rw [itemAt?_of_nonneg (by omega), Int.toNat_natCast, List.getElem?_eq_getElem hk]
    · have hplace : vs.length - (-((k : Int) - vs.length)).toNat = k := by omega
      rw [itemAt?, if_neg (by omega), if_pos (by omega), hplace, List.getElem?_eq_getElem hk]
  · rintro (hi | hi)
    · rw [itemAt?, if_neg (by omega), if_neg (by omega)]
    · rw [itemAt?_of_nonneg (by omega), List.getElem?_eq_none (by omega)]

def delimiter (p : Table Value) : Value := (Parameters.normalize p).getD "delimiter" (.text " ")

def place (p : Table Value) : Value := (Parameters.normalize p).value "index"

def separator (p : Table Value) : Value := (Parameters.normalize p).getD "separator" (.text " ")

def partsOf (d : String) (cs : List Char) : List String := (splitOn d.toList cs).map String.ofList

variable {d : String} {i : Int}

lemma toList_ne_nil (hd : d ≠ "") : d.toList ≠ [] := fun h => hd (String.toList_inj.1 h)

lemma ofChars_parts (d : String) (cs : List Char) :
    (splitOn d.toList cs).map ofChars = (partsOf d cs).map .text := by
  rw [partsOf, List.map_map]
  rfl

lemma partsAt_text (hd : d ≠ "") (cs : List Char) :
    partsAt (.text d) cs = .ok (splitOn d.toList cs) := by
  unfold partsAt
  split <;> simp_all

lemma split_all (hd : d ≠ "") (hp : delimiter p = .text d) (hplace : place p = .null) :
    split v (Parameters.normalize p) = (fun cs => .list ((partsOf d cs).map .text)) <$> v.toChars := by
  rw [delimiter] at hp
  rw [place] at hplace
  rw [split, hp, hplace]
  rcases v.toChars with f | cs
  · rfl
  · rw [ok_bind, partsAt_text hd, map_ok, ← ofChars_parts]
    rfl

lemma split_at (hd : d ≠ "") (hp : delimiter p = .text d) (hplace : place p = .int i) :
    split v (Parameters.normalize p) =
      (fun cs => Value.ofOption (itemAt? ((partsOf d cs).map .text) i)) <$> v.toChars := by
  rw [delimiter] at hp
  rw [place] at hplace
  rw [split, hp, hplace]
  rcases v.toChars with f | cs
  · rfl
  · rw [ok_bind, partsAt_text hd, map_ok, ← ofChars_parts]
    rfl

lemma concatenate_texts (parts : List String) (hq : separator q = .text d) :
    concatenate (.list (parts.map .text)) (Parameters.normalize q) =
      .ok (ofChars (joinWith d.toList (parts.map String.toList))) := by
  have hpresent : (parts.map Value.text).filter (fun v => !v.isMissing) = parts.map .text :=
    List.filter_eq_self.2 (by simp [Value.isMissing])
  have htexts : (parts.map Value.text).mapM Value.toChars = .ok (parts.map String.toList) := by
    rw [List.mapM_map]
    exact mapM_eq_ok fun s _ => rfl
  rw [separator] at hq
  rw [concatenate]
  dsimp only
  rw [hq]
  dsimp only
  rw [hpresent, htexts]
  rfl

/-- **A text is split into parts that give it back.** A value that has a text is split at any delimiter
that is not empty. The parts joined by the delimiter are the text of the value, and none of them has the
delimiter in it. The part at a place is counted from the start, or from the end below zero, and there
is none at any other place. -/
theorem split_gives_parts (hv : v.isMissing = false) (hd : d ≠ "")
    (contacts : Contact.Directory) (clock : Clock) (hp : delimiter p = .text d)
    (hall : place p = .null) :
    (Fails ((builtIn contacts).transform clock "split" v p) ↔ v.holdsLong) ∧
    ∀ r, (builtIn contacts).transform clock "split" v p = .ok r →
      ∃ parts : List String, r = .list (parts.map .text) ∧
        (∀ q, separator q = .text d →
          (builtIn contacts).transform clock "concatenate" r q = Value.text <$> v.toText) ∧
        (∀ s ∈ parts, ¬ d.toList <:+: s.toList) ∧
        ∀ q i, delimiter q = .text d → place q = .int i →
          ∃ part, (builtIn contacts).transform clock "split" v q = .ok part ∧
            (∀ k (hk : k < parts.length), i = k ∨ i = k - parts.length → part = .text parts[k]) ∧
            (i < -parts.length ∨ parts.length ≤ i → part = .null) := by
  have hcall : ∀ p, (builtIn contacts).transform clock "split" v p = split v (Parameters.normalize p) :=
    fun p => transform_nullSafe (f := split) rfl hv
  have hsep := toList_ne_nil hd
  rw [hcall, split_all hd hp hall]
  refine ⟨by rw [fails_map, Value.fails_toChars], fun r hr => ?_⟩
  obtain ⟨cs, hcs, rfl⟩ := map_eq_ok.1 hr
  obtain ⟨t, ht, htext⟩ := bind_eq_ok.1 hcs
  obtain rfl := Except.ok.inj htext
  -- joined again, free of the delimiter, and found by their places
  refine ⟨_, rfl, fun q hq => ?_, fun s hs => ?_, fun q i hq hi => ?_⟩
  · have hback : joinWith d.toList (splitOn d.toList t.toList) = t.toList := joinWith_splitOn hsep
    have hjoined : joinWith d.toList ((partsOf d t.toList).map String.toList) = t.toList := by
      rw [partsOf, List.map_map]
      simpa [Function.comp_def] using hback
    have hjoin : (builtIn contacts).transform clock "concatenate"
        (.list ((partsOf d t.toList).map .text)) q =
        concatenate (.list ((partsOf d t.toList).map .text)) (Parameters.normalize q) := rfl
    rw [hjoin, concatenate_texts _ hq, hjoined, ht, ofChars, String.ofList_toList]
    rfl
  · obtain ⟨part, hpart, rfl⟩ := List.mem_map.1 hs
    rw [String.toList_ofList]
    exact not_infix_splitOn hsep part hpart
  · obtain ⟨hinside, houtside⟩ := itemAt?_eq ((partsOf d t.toList).map .text) i
    rw [hcall, split_at hd hq hi, hcs]
    refine ⟨_, rfl, fun k hk hik => ?_, fun hout => ?_⟩
    · have hitem := hinside k (by simpa using hk) (by simpa using hik)
      rw [List.getElem_map] at hitem
      exact congrArg Value.ofOption hitem
    · exact congrArg Value.ofOption (houtside (by simpa using hout))

/-- A delimiter that overlaps itself, at the start of a text. -/
theorem overlapping_delimiter_gives_back :
    (builtIn .listed).transform (.ofDate ⟨2026, 1, 1⟩) "split" (.text "aaaab")
          [("delimiter", .text "aa")] =
        .ok (.list [.text "", .text "", .text "b"]) ∧
      (builtIn .listed).transform (.ofDate ⟨2026, 1, 1⟩) "concatenate"
          (.list [.text "", .text "", .text "b"]) [("separator", .text "aa")] = .ok (.text "aaaab") := by
  have hresult : (builtIn .listed).transform (.ofDate ⟨2026, 1, 1⟩) "split" (.text "aaaab")
      [("delimiter", .text "aa")] = .ok (.list [.text "", .text "", .text "b"]) := rfl
  obtain ⟨-, hparts⟩ := split_gives_parts (v := .text "aaaab") (d := "aa") rfl (by decide)
    .listed (.ofDate ⟨2026, 1, 1⟩) (p := [("delimiter", .text "aa")]) rfl rfl
  obtain ⟨_, -, hjoin, -⟩ := hparts _ hresult
  exact ⟨hresult, hjoin [("separator", .text "aa")] rfl⟩

/-! ### Masks -/

lemma slice_take (cs : List Char) {k : Int} (hk : 0 ≤ k) : slice cs 0 (some k) = cs.take k.toNat := by
  have hstart : clampIndex cs.length 0 = 0 := by simp [clampIndex]
  have hstop : clampIndex cs.length k = min k.toNat cs.length := if_neg (by omega)
  rw [slice, hstart, List.drop_zero, Option.map_some, Option.getD_some, hstop, Nat.sub_zero,
    ← List.take_eq_take_min]

lemma slice_take_neg (cs : List Char) {k : Int} (hk : k < 0) :
    slice cs 0 (some k) = cs.take (k + cs.length).toNat := by
  have hstart : clampIndex cs.length 0 = 0 := by simp [clampIndex]
  have hstop : clampIndex cs.length k = (k + cs.length).toNat := if_pos hk
  rw [slice, hstart, List.drop_zero, Option.map_some, Option.getD_some, hstop, Nat.sub_zero]

lemma slice_drop (cs : List Char) {k : Int} (hk : 0 ≤ k) : slice cs k none = cs.drop k.toNat := by
  have hstart : clampIndex cs.length k = min k.toNat cs.length := if_neg (by omega)
  rw [slice, hstart, Option.map_none, Option.getD_none]
  rcases le_total k.toNat cs.length with hle | hle
  · rw [min_eq_left hle, List.take_of_length_le (by simp)]
  · rw [min_eq_right hle, List.drop_length, List.take_nil, List.drop_eq_nil_of_le hle]

/-- The number of characters that parameters leave visible, four if they give none. -/
def visible (p : Table Value) : Except Fault Int :=
  ((Parameters.normalize p).getEither "visible_chars" "visible" (.int 4)).toInteger

/-- What parameters put in place of a character, an asterisk if they give nothing. -/
def cover (p : Table Value) : Value :=
  (Parameters.normalize p).getEither "mask_char" "char" (.text "*")

/-- The end at which parameters leave characters visible, the end of the text if they give none. -/
def visibleEnd (p : Table Value) : Value := (Parameters.normalize p).getD "position" (.text "end")

/-- What a mask makes of a text. -/
def masked (c : Char) (k : Int) (atStart : Bool) (cs : List Char) : List Char :=
  let hidden := (cs.length : Int) - k
  if hidden ≤ 0 then cs
  else if atStart then slice cs 0 (some k) ++ List.replicate hidden.toNat c
  else List.replicate hidden.toNat c ++ slice cs hidden none

lemma maskOf_singleton (c : Char) {n : Int} (hn : 0 ≤ n) (atStart : Bool) :
    maskOf (.text (String.singleton c)) n atStart =
      if n < 2 ^ 63 then .ok (List.replicate n.toNat c) else .error .tooManyTimes := by
  have hone : (String.singleton c).toList = [c] := String.toList_singleton c
  have hflat : (List.replicate n.toNat [c]).flatten = List.replicate n.toNat c := by simp
  have hfits : fitsSigned 64 n = true ↔ n < 2 ^ 63 := by
    simp only [fitsSigned, decide_eq_true_eq]
    omega
  rw [← hflat, ← hone, ← if_congr hfits rfl rfl]
  rfl

variable {c : Char} {k : Int} {atStart : Bool} {t : String}

/-- A text is masked unless there are more hidden characters than can be counted. -/
lemma transform_mask_eq_ok {r : String} (hv : v.isMissing = false) (ht : v.toText = .ok t)
    (contacts : Contact.Directory) (clock : Clock) (hk : visible p = .ok k)
    (hc : cover p = .text (String.singleton c))
    (hend : visibleEnd p = .text (if atStart then "start" else "end")) :
    (builtIn contacts).transform clock "mask" v p = .ok (.text r) ↔
      (t.toList.length : Int) - k < 2 ^ 63 ∧ String.ofList (masked c k atStart t.toList) = r := by
  have hcall : (builtIn contacts).transform clock "mask" v p = mask v (Parameters.normalize p) :=
    transform_nullSafe (f := mask) rfl hv
  have hchars : v.toChars = .ok t.toList := by rw [Value.toChars, ht]; rfl
  have hstart : (visibleEnd p).equals (.text "start") = atStart := by
    rw [hend]
    cases atStart <;> rfl
  rw [visible] at hk
  rw [cover] at hc
  rw [visibleEnd] at hstart
  rw [hcall, mask, hchars, ok_bind, hk, ok_bind, masked]
  dsimp only
  -- nothing is hidden, as much as can be counted, or more
  by_cases hwhole : (t.toList.length : Int) - k ≤ 0
  · rw [if_pos hwhole, if_pos hwhole]
    exact ⟨fun hr => ⟨by omega, Value.text.inj (Except.ok.inj hr)⟩, fun hr => hr.2 ▸ rfl⟩
  rw [if_neg hwhole, hc, hstart, maskOf_singleton c (by omega), if_neg hwhole]
  by_cases hfits : (t.toList.length : Int) - k < 2 ^ 63
  · rw [if_pos hfits]
    cases atStart <;>
      exact ⟨fun hr => ⟨hfits, Value.text.inj (Except.ok.inj hr)⟩, fun hr => hr.2 ▸ rfl⟩
  · rw [if_neg hfits]
    refine iff_of_false (fun hr => ?_) fun hr => hfits hr.1
    cases hr

/-- Over the text `t`, the text `r` hides all but the first or the last `k` characters behind `c`. -/
structure Masks (c : Char) (k : Nat) (atStart : Bool) (t r : List Char) : Prop where
  length : r.length = t.length
  shown : ∀ i < t.length, (if atStart then i < k else t.length ≤ i + k) → r[i]? = t[i]?
  hidden : ∀ i < t.length, ¬ (if atStart then i < k else t.length ≤ i + k) → r[i]? = some c

lemma masks_self {t : List Char} {k : Nat} (hk : t.length ≤ k) : Masks c k atStart t t where
  length := rfl
  shown _ _ _ := rfl
  hidden i hi hhidden := by
    refine absurd ?_ hhidden
    cases atStart <;> simp <;> omega

lemma masks_start {t : List Char} {k : Nat} (hk : k < t.length) :
    Masks c k true t (t.take k ++ List.replicate (t.length - k) c) where
  length := by simp; omega
  shown i hi hshown := by
    have hi : i < k := by simpa using hshown
    rw [List.getElem?_append_left (by simp; omega), List.getElem?_take_of_lt hi]
  hidden i hi hhidden := by
    have hk : k ≤ i := by simpa using hhidden
    have hlength : (t.take k).length = k := by simp; omega
    rw [List.getElem?_append_right (by omega), hlength, List.getElem?_replicate, if_pos (by omega)]

lemma masks_end {t : List Char} {k : Nat} (hk : k < t.length) :
    Masks c k false t (List.replicate (t.length - k) c ++ t.drop (t.length - k)) where
  length := by simp
  shown i hi hshown := by
    have hi : t.length ≤ i + k := by simpa using hshown
    have hplace : t.length - k + (i - (t.length - k)) = i := by omega
    rw [List.getElem?_append_right (by simp; omega), List.length_replicate, List.getElem?_drop, hplace]
  hidden i hi hhidden := by
    have hk : i + k < t.length := by simpa using hhidden
    rw [List.getElem?_append_left (by simp; omega), List.getElem?_replicate, if_pos (by omega)]

lemma masks_masked (c : Char) (hk : 0 ≤ k) (atStart : Bool) (t : List Char) :
    Masks c k.toNat atStart t (masked c k atStart t) := by
  rw [masked]
  by_cases hwhole : (t.length : Int) - k ≤ 0
  · rw [if_pos hwhole]
    exact masks_self (by omega)
  have hhidden : ((t.length : Int) - k).toNat = t.length - k.toNat := by omega
  rw [if_neg hwhole, slice_take t hk, slice_drop t (by omega), hhidden]
  cases atStart with
  | true => exact masks_start (by omega)
  | false => exact masks_end (by omega)

lemma masked_of_neg (c : Char) (hk : k < 0) (atStart : Bool) (t : List Char) :
    masked c k atStart t =
      (if atStart then t.take (k + t.length).toNat else []) ++ List.replicate (t.length - k).toNat c := by
  have hdrop : t.drop ((t.length : Int) - k).toNat = [] := List.drop_eq_nil_of_le (by omega)
  rw [masked, if_neg (by omega), slice_take_neg t hk, slice_drop t (by omega), hdrop]
  cases atStart <;> simp

/-- **A mask hides all but what is visible exactly if the count is not below zero**, where the hidden
characters can be counted. For a count below zero there are more characters than in the text, and with
what is visible at the start, all but as many characters of the text are shown. -/
theorem mask_hides_iff (hv : v.isMissing = false) (ht : v.toText = .ok t)
    (contacts : Contact.Directory) (clock : Clock) (hk : visible p = .ok k)
    (hc : cover p = .text (String.singleton c))
    (hend : visibleEnd p = .text (if atStart then "start" else "end")) :
    ((∃ r, (builtIn contacts).transform clock "mask" v p = .ok (.text r) ∧
        Masks c k.toNat atStart t.toList r.toList) ↔ 0 ≤ k ∧ (t.toList.length : Int) - k < 2 ^ 63) ∧
    (k < 0 → ∀ r, (builtIn contacts).transform clock "mask" v p = .ok (.text r) →
      t.toList.length < r.toList.length ∧
        (atStart = true → ∀ i : Nat, i < t.toList.length + k → r.toList[i]? = t.toList[i]?)) := by
  have hresult := fun r => transform_mask_eq_ok (r := r) hv ht contacts clock hk hc hend
  -- more characters than there are is what tells a count below zero
  have hlonger : k < 0 → t.toList.length < (masked c k atStart t.toList).length := by
    intro hneg
    rw [masked_of_neg c hneg, List.length_append, List.length_replicate]
    omega
  refine ⟨⟨?_, ?_⟩, fun hneg r hr => ?_⟩
  · rintro ⟨r, hr, hmasks⟩
    obtain ⟨hfits, rfl⟩ := (hresult r).1 hr
    rw [String.toList_ofList] at hmasks
    refine ⟨?_, hfits⟩
    by_contra hneg
    exact absurd hmasks.length (hlonger (by omega)).ne'
  · rintro ⟨hnonneg, hfits⟩
    refine ⟨_, (hresult _).2 ⟨hfits, rfl⟩, ?_⟩
    rw [String.toList_ofList]
    exact masks_masked c hnonneg atStart _
  · obtain ⟨-, rfl⟩ := (hresult r).1 hr
    rw [String.toList_ofList]
    refine ⟨hlonger hneg, fun hstart i hi => ?_⟩
    subst hstart
    rw [masked_of_neg c hneg, if_pos rfl, List.getElem?_append_left (by simp; omega),
      List.getElem?_take_of_lt (by omega)]

/-- A number of nine digits of which the last four are visible. -/
theorem last_four_visible :
    visible [("visible_chars", .int 4)] = .ok 4 ∧
      ∃ r, (builtIn .listed).transform (.ofDate ⟨2026, 1, 1⟩) "mask" (.text "123456789")
        [("visible_chars", .int 4)] = .ok (.text r) ∧ Masks '*' 4 false "123456789".toList r.toList := by
  have hgiven : visible [("visible_chars", .int 4)] = .ok 4 := rfl
  have hend : visibleEnd [("visible_chars", .int 4)] = .text (if false then "start" else "end") := rfl
  obtain ⟨hmasks, -⟩ := mask_hides_iff (v := .text "123456789") (t := "123456789") (c := '*') rfl rfl
    .listed (.ofDate ⟨2026, 1, 1⟩) hgiven rfl hend
  exact ⟨hgiven, hmasks.2 ⟨by decide, by decide⟩⟩

/-- With a visible count of −3, six of nine characters are shown at the start of eighteen. -/
theorem negative_count_shows :
    (builtIn .listed).transform (.ofDate ⟨2026, 1, 1⟩) "mask" (.text "123456789")
        [("visible_chars", .int (-3)), ("position", .text "start")] =
      .ok (.text "123456************") ∧
      ¬ Masks '*' 0 true "123456789".toList "123456************".toList :=
  ⟨rfl, fun h => absurd h.length (by decide)⟩

end Transformation

end Crosswalk
