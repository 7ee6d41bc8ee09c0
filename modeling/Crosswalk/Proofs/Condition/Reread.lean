import Crosswalk.Proofs.Condition.Parse
import Crosswalk.Proofs.Formula.Token
import Crosswalk.Proofs.Text.Piece
import Crosswalk.Proofs.Value.Key

/-!
Reading a condition again from its own text.

The text names the source record in front of the field, writes an operator in one of its forms and puts
texts in double quotes. It is read as the condition it was made from. The exception is a text with a
double quote in it, where the literal ends early and what is left over is refused.
-/

namespace Crosswalk

open Fallible Numeral Text
open Formula (IsName isNameStart isNameChar run_append sourceName)

def Literal.HasQuote : Literal → Prop
  | .text s => doubleQuote ∈ s.toList
  | _ => False

namespace Condition

/-! ### What was read -/

lemma isName_of_name? {cs name rest : List Char} (h : name? cs = some (name, rest)) :
    IsName name := by
  unfold name? at h
  split at h
  · split at h
    next c _ hstart =>
      obtain ⟨rfl, -⟩ := Prod.mk.inj (Option.some.inj h)
      refine ⟨⟨c, ?_, hstart⟩, List.all_eq_true.1 List.all_takeWhile⟩
      simp [Formula.isNameChar_of_isNameStart hstart]
    next => cases h
  · cases h

lemma isName_of_field? {cs name rest : List Char} (h : field? cs = some (name, rest)) :
    IsName name := by
  unfold field? at h
  split at h
  next p hp =>
    cases h
    obtain ⟨_, -, hname⟩ := Option.bind_eq_some_iff.1 hp
    exact isName_of_name? hname
  next => exact isName_of_name? h

def Unescaped (l : Literal) : Prop := ∀ s, l = .text s → backslash ∉ s.toList

lemma unescaped_quoted {quote : Char} {cs body rest : List Char}
    (h : quotedBody? quote cs = some (body, rest)) : backslash ∉ body := by
  unfold quotedBody? at h
  dsimp only at h
  split at h
  · cases h
  · split at h
    · obtain ⟨rfl, -⟩ := Prod.mk.inj (Option.some.inj h)
      intro hmem
      have := List.all_eq_true.1 List.all_takeWhile _ hmem
      simp at this
    · cases h

lemma unescaped_ofName {name : List Char} (h : IsName name) : Unescaped (ofName name) := by
  intro s hs
  unfold ofName at hs
  split at hs <;> cases hs
  rw [String.toList_ofList]
  exact fun hmem => by cases h.2 _ hmem

lemma unescaped_unsigned? {negative : Bool} {cs rest : List Char} {l : Literal}
    (h : unsigned? negative cs = some (.ok l, rest)) : Unescaped l := by
  unfold unsigned? at h
  dsimp only [Formula.run] at h
  split at h
  · cases h
  · split at h
    · cases h
      rintro s ⟨⟩
    · split at h <;> cases h
      rintro s ⟨⟩

lemma unescaped_literal? {cs rest : List Char} {l : Literal}
    (h : literal? cs = some (.ok l, rest)) : Unescaped l := by
  unfold literal? at h
  split at h
  · cases h
  · -- of quoted texts, numbers and names, only the first and the last may be texts
    split at h
    · obtain ⟨⟨body, _⟩, hbody, heq⟩ := Option.map_eq_some_iff.1 h
      cases heq
      rintro s ⟨⟩
      rw [String.toList_ofList]
      exact unescaped_quoted hbody
    · split at h
      next found hnumber =>
        cases h
        unfold number? at hnumber
        split at hnumber <;> exact unescaped_unsigned? hnumber
      next =>
        obtain ⟨⟨name, _⟩, hname, heq⟩ := Option.map_eq_some_iff.1 h
        cases heq
        exact unescaped_ofName (isName_of_name? hname)

/-! ### Reading a text that was written -/

lemma skipBlanks_cons {c : Char} (h : isBlank c = false) (cs : List Char) :
    skipBlanks (c :: cs) = c :: cs := List.dropWhile_cons_of_neg (by simp [h])

lemma field?_source {name : List Char} (h : IsName name) (rest : List Char) :
    field? (sourceName ++ ['.'] ++ (name ++ ' ' :: rest)) = some (name, ' ' :: rest) := by
  have hname : name? (name ++ ' ' :: rest) = some (name, ' ' :: rest) := by
    have hrun : Formula.run isNameChar (name ++ ' ' :: rest) = (name, ' ' :: rest) :=
      run_append h.2 (by rintro c ⟨⟩; decide)
    obtain ⟨⟨c, hc, hstart⟩, -⟩ := h
    obtain ⟨cs, rfl⟩ := List.head?_eq_some_iff.1 hc
    rw [List.cons_append, name?, if_pos hstart, ← List.cons_append, hrun]
  rw [field?, behind?_eq_some.2 rfl, Option.bind_some, hname]

lemma operator?_symbol (k : Comparison) (rest : List Char) :
    operator? (k.symbol.toList ++ ' ' :: rest) = some (k.symbol, k, ' ' :: rest) := by
  cases k <;> rfl

lemma skipBlanks_symbol (k : Comparison) (rest : List Char) :
    skipBlanks (' ' :: (k.symbol.toList ++ rest)) = k.symbol.toList ++ rest := by
  cases k <;> rfl

lemma quotedBody?_append {quote : Char} {body : List Char}
    (h : ∀ c ∈ body, c ≠ quote ∧ c ≠ backslash) (rest : List Char) :
    quotedBody? quote (body ++ quote :: rest) = some (body, rest) := by
  have htake : (body ++ quote :: rest).takeWhile
      (fun c => decide (c ≠ quote ∧ c ≠ backslash)) = body :=
    (span_append (by simpa using h) (by rintro c ⟨⟩; simp)).1
  unfold quotedBody?
  simp only [htake, List.drop_left, if_true]

lemma literal?_quoted {body : List Char} (hquote : doubleQuote ∉ body) (hslash : backslash ∉ body)
    (rest : List Char) : literal? (doubleQuote :: (body ++ doubleQuote :: rest)) =
      some (.ok (.text (String.ofList body)), rest) := by
  have hbody : ∀ c ∈ body, c ≠ doubleQuote ∧ c ≠ backslash := fun c hc =>
    ⟨fun h => hquote (h ▸ hc), fun h => hslash (h ▸ hc)⟩
  rw [literal?, if_pos (.inl rfl), quotedBody?_append hbody]
  rfl

lemma unsigned?_digits {ds : List Char} (hds : ∀ d ∈ ds, d.isDigit) (hne : ds ≠ [])
    (hlength : ds.length ≤ maxIntegerDigits) (negative : Bool) :
    unsigned? negative ds = some (.ok (.int (Binary64.signed negative (value ds))), []) := by
  have hrun : Formula.run Char.isDigit (ds ++ []) = (ds, []) := run_append hds (by simp)
  rw [List.append_nil] at hrun
  simp [unsigned?, hrun, hne, Formula.fraction?, hlength]

/-- The text of an integer is read as the integer, with its sign. -/
lemma literal?_integerText {n : Int} {s : String} (h : Value.integerText n = .ok s) :
    literal? s.toList = some (.ok (.int n), []) := by
  have hshort := Value.not_isLong_of_integerText h
  have hds : ∀ d ∈ (toString n.natAbs).toList, d.isDigit := fun _ hd => isDigit_of_mem hd
  have hne : (toString n.natAbs).toList ≠ [] := Binary64.toString_ne_nil _
  have hread := unsigned?_digits hds hne (not_lt.1 (mt (Value.digits_lt_iff n).1 hshort))
    (decide (n < 0))
  rw [value_toString, Binary64.signed_natAbs] at hread
  rw [Value.toList_integerText h]
  obtain ⟨d, ds, hdigits⟩ := List.exists_cons_of_ne_nil hne
  have hd : d.isDigit := hds d (by rw [hdigits]; simp)
  have hother : ∀ c : Char, c.isDigit = false → d ≠ c := by
    rintro c hc rfl
    simp [hc] at hd
  rw [hdigits] at hread ⊢
  -- the first character decides what kind of literal is tried
  by_cases hneg : n < 0
  · simp only [hneg, decide_true] at hread
    simp [signChars, hneg, literal?, number?, hread]
    decide
  · simp only [hneg, decide_false] at hread
    have hnumber : number? (d :: ds) = unsigned? false (d :: ds) := by
      unfold number?
      split
      next heq => exact absurd (List.cons.inj heq).1 (hother '-' rfl)
      next => rfl
    simp [signChars, hneg, literal?, hnumber, hread, hother doubleQuote rfl,
      hother singleQuote rfl]

/-- What the text of a literal is read as, if it is no number with a point: the literal itself, with
nothing left over, or a shorter text with a quote left over. -/
lemma literal?_literalText {l : Literal} (hslash : Unescaped l)
    (hlong : l.value.hasLongKey = false) (hfloat : ∀ x, l ≠ .float x) :
    ∃ w, literalText l = .ok w ∧ skipBlanks w.toList = w.toList ∧
      ∃ x rest, literal? w.toList = some (x, rest) ∧
        (¬ l.HasQuote → x = .ok l ∧ rest = []) ∧ (l.HasQuote → doubleQuote ∈ rest) := by
  cases l with
  | null => exact ⟨_, rfl, rfl, .ok .null, [], by rfl, fun _ => ⟨rfl, rfl⟩, False.elim⟩
  | bool b =>
    cases b
    · exact ⟨_, rfl, rfl, .ok (.bool false), [], by rfl, fun _ => ⟨rfl, rfl⟩, False.elim⟩
    · exact ⟨_, rfl, rfl, .ok (.bool true), [], by rfl, fun _ => ⟨rfl, rfl⟩, False.elim⟩
  | int n =>
    have hshort : ¬ IsLong n := by
      simpa [Literal.value, Value.hasLongKey, Value.holdsLong] using hlong
    obtain ⟨s, hs⟩ := not_fails.1 (mt (Value.fails_integerText n).1 hshort)
    have hblank : skipBlanks s.toList = s.toList :=
      dropWhile_eq_self (Value.not_isBlank_integerText hs)
    exact ⟨s, hs, hblank, _, _, literal?_integerText hs, fun _ => ⟨rfl, rfl⟩, False.elim⟩
  | float x => exact absurd rfl (hfloat x)
  | text s =>
    have hslash : backslash ∉ s.toList := hslash s rfl
    have hchars : ("\"" ++ s ++ "\"").toList = doubleQuote :: (s.toList ++ [doubleQuote]) := by
      simp [doubleQuote]
    refine ⟨_, rfl, ?_, ?_⟩
    · rw [hchars, skipBlanks_cons rfl]
    rw [hchars]
    by_cases hquote : doubleQuote ∈ s.toList
    · -- the literal ends at the first quote of the text
      obtain ⟨body, rest, hs, hbody⟩ := List.eq_append_cons_of_mem hquote
      rw [hs, List.mem_append] at hslash
      rw [hs, List.append_assoc, List.cons_append]
      exact ⟨_, _, literal?_quoted hbody (fun h => hslash (.inl h)) _,
        fun h => absurd hquote h, fun _ => by simp⟩
    · refine ⟨_, _, literal?_quoted hquote hslash [], fun _ => ⟨?_, rfl⟩, fun h => absurd h hquote⟩
      rw [String.ofList_toList]

/-! ### The text of a condition -/

lemma sourceName_eq : sourceName = ['s', 'o', 'u', 'r', 'c', 'e'] := rfl

/-- The characters of a condition, with those of its literal behind the operator. -/
def chars (name : List Char) (k : Comparison) (literal : List Char) : List Char :=
  sourceName ++ ['.'] ++ (name ++ ' ' :: (k.symbol.toList ++ ' ' :: literal))

lemma text_eq_ok {c : Condition} {w : String} (h : literalText c.literal = .ok w) :
    ∃ s, c.text = .ok s ∧ s.toList = chars c.field.toList c.comparison w.toList := by
  refine ⟨_, by rw [text, h]; rfl, ?_⟩
  simp [chars, sourceName_eq]

lemma parts?_chars {name literal rest : List Char} {x : Except Fault Literal} (hname : IsName name)
    (k : Comparison) (hstart : skipBlanks literal = literal)
    (hliteral : literal? literal = some (x, rest)) : parts? (chars name k literal) =
      if (skipBlanks rest).isEmpty then some (name, k.symbol, k, x) else none := by
  have hfront : skipBlanks (chars name k literal) = chars name k literal := by
    rw [chars, sourceName_eq]
    exact skipBlanks_cons rfl _
  have hspace : skipBlanks (' ' :: literal) = literal := hstart
  unfold parts?
  rw [hfront, chars, field?_source hname]
  simp only [Option.bind_eq_bind, Option.bind_some, skipBlanks_symbol, operator?_symbol, hspace,
    hliteral, Option.pure_def]

lemma skipBlanks_ne_nil {cs : List Char} (h : doubleQuote ∈ cs) : skipBlanks cs ≠ [] := by
  intro hnil
  have := List.dropWhile_eq_nil_iff.1 hnil _ h
  cases this

/-- **A condition is read back from its text** exactly if no double quote stands in the literal, and
refused otherwise. -/
theorem parse_text_iff {l : Limits} {text : String} {c : Condition} (hread : parse l text = .ok c)
    (hfloat : ∀ x, c.literal ≠ .float x) :
    ∃ s, c.text = .ok s ∧ ((s.length : Int) ≤ l.length →
      (parse l s = .ok c ↔ ¬ c.literal.HasQuote) ∧
      (c.literal.HasQuote →
        parse l s = .error ⟨.conditionForm, "Unsupported condition: " ++ quoted s⟩)) := by
  obtain ⟨-, horder, field, _, hfield, hparts⟩ := parse_eq_ok.1 hread
  obtain ⟨_, _, _, hname, -, hliteral, -⟩ := parts?_eq_some.1 hparts
  have hname : IsName c.field.toList := by
    rw [← hfield, String.toList_ofList]
    exact isName_of_field? hname
  obtain ⟨w, hw, hstart, x, rest, hwliteral, hsame, hover⟩ :=
    literal?_literalText (unescaped_literal? hliteral) (hasLongKey_of_parse hread) hfloat
  obtain ⟨s, hs, hchars⟩ := text_eq_ok hw
  have hagain := parts?_chars hname c.comparison hstart hwliteral
  rw [← hchars] at hagain
  refine ⟨s, hs, fun hlength => ?_⟩
  -- a quote in the text ends the literal early, and the rest is left over
  have hrefused : c.literal.HasQuote →
      parse l s = .error ⟨.conditionForm, "Unsupported condition: " ++ quoted s⟩ := by
    intro hquote
    rw [if_neg (by simpa using skipBlanks_ne_nil (hover hquote))] at hagain
    have hcheck : l.check .conditionForm "Condition" s = .ok () := (l.check_eq_ok).2 hlength
    simp [parse, hcheck, hagain, refuse]
  refine ⟨⟨fun hsame hquote => ?_, fun hquote => ?_⟩, hrefused⟩
  · rw [hrefused hquote] at hsame
    cases hsame
  · obtain ⟨rfl, rfl⟩ := hsame hquote
    exact parse_eq_ok.2 ⟨hlength, horder, _, _, String.ofList_toList, hagain⟩

/-- A text that looks like a keyword comes back as a text, and a quote does not come back. -/
theorem keyword_and_quote_again :
    (parse .standard "source === 'null'" = .ok ⟨"source", .equal, .text "null"⟩ ∧
      text ⟨"source", .equal, .text "null"⟩ = .ok "source.source == \"null\"" ∧
      parse .standard "source.source == \"null\"" = .ok ⟨"source", .equal, .text "null"⟩) ∧
    (parse .standard "x !== '\"'" = .ok ⟨"x", .notEqual, .text "\""⟩ ∧
      text ⟨"x", .notEqual, .text "\""⟩ = .ok "source.x != \"\"\"" ∧
      parse .standard "source.x != \"\"\"" ≠ .ok ⟨"x", .notEqual, .text "\""⟩) := by
  have hnull : parse .standard "source === 'null'" = .ok ⟨"source", .equal, .text "null"⟩ := by
    decide +kernel
  have hquote : parse .standard "x !== '\"'" = .ok ⟨"x", .notEqual, .text "\""⟩ := by
    decide +kernel
  refine ⟨⟨hnull, rfl, ?_⟩, hquote, rfl, ?_⟩
  · obtain ⟨s, hs, h⟩ := parse_text_iff hnull (by simp)
    obtain rfl := Except.ok.inj hs
    exact (h (by decide)).1.2 (by simp [Literal.HasQuote, doubleQuote])
  · obtain ⟨s, hs, h⟩ := parse_text_iff hquote (by simp)
    obtain rfl := Except.ok.inj hs
    exact fun hsame => (h (by decide)).1.1 hsame (by simp [Literal.HasQuote, doubleQuote])

end Condition

end Crosswalk
