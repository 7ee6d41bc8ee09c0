import Crosswalk.Proofs.Formula.Machine
import Crosswalk.Proofs.Formula.Scan

/-!
The names of the fields of a text.

A derivation writes its fields in the order in which its formula has them, since every operand stands
where its tokens stand. The tokens are in the order of their places, so the names that are found by
going through the formula are in the order in which they first appear in the text, and the fields that
an evaluation asks for are those of the formula in the same order.
-/

namespace Crosswalk.Formula

open Fallible

/-- The token is a field of the name, with the source record in front or without. -/
def Token.Names (t : Token) (name : String) : Prop := t.kind = .field ∧ (reference t).name = name

/-- The names are those of the fields, each once, in the order in which they first appear. -/
structure Appear (ts : List Token) (names : List String) : Prop where
  nodup : names.Nodup
  mem_iff : ∀ name, name ∈ names ↔ ∃ t ∈ ts, t.Names name
  ordered : names.Pairwise fun a b => ∃ t ∈ ts, t.Names a ∧ ∀ u ∈ ts, u.Names b → t.pos < u.pos

def fieldRefs (ts : List Token) : List FieldRef := (ts.filter (·.kind = .field)).map reference

lemma fieldRefs_append (ts us : List Token) :
    fieldRefs (ts ++ us) = fieldRefs ts ++ fieldRefs us := by
  simp [fieldRefs]

lemma fieldRefs_cons_of_ne {t : Token} (h : t.kind ≠ .field) (ts : List Token) :
    fieldRefs (t :: ts) = fieldRefs ts := by
  simp [fieldRefs, h]

lemma fieldRefs_singleton {t : Token} (h : t.kind = .field) : fieldRefs [t] = [reference t] := by
  simp [fieldRefs, h]

namespace Grammar

mutual

lemma Factor.refs_formula : (d : Factor) → d.formula.refs = fieldRefs d.tokens
  | .number t kind => (fieldRefs_cons_of_ne (by simp [kind]) []).symm
  | .field t kind => (fieldRefs_singleton kind).symm
  | .signed t _ kind _ operand => by
    rw [Factor.formula, Factor.tokens, refs, operand.refs_formula,
      fieldRefs_cons_of_ne (by simp [kind])]
  | .group first last opens closes inner => by
    rw [Factor.formula, Factor.tokens, inner.refs_formula, fieldRefs_cons_of_ne (by simp [opens]),
      fieldRefs_append, fieldRefs_cons_of_ne (by simp [closes])]
    exact (List.append_nil _).symm

lemma Term.refs_formula : (d : Term) → d.formula.refs = fieldRefs d.tokens
  | .mk head rest => by
    rw [Term.formula, Term.tokens, rest.refs_formula, head.refs_formula, fieldRefs_append]

lemma Factors.refs_formula :
    (d : Factors) → (left : Formula) → (d.formula left).refs = left.refs ++ fieldRefs d.tokens
  | .done, left => (List.append_nil _).symm
  | .more t _ kind _ head rest, left => by
    rw [Factors.formula, Factors.tokens, rest.refs_formula, refs, head.refs_formula,
      fieldRefs_cons_of_ne (by simp [kind]), fieldRefs_append, List.append_assoc]

lemma Sum.refs_formula : (d : Sum) → d.formula.refs = fieldRefs d.tokens
  | .mk head rest => by
    rw [Sum.formula, Sum.tokens, rest.refs_formula, head.refs_formula, fieldRefs_append]

lemma Terms.refs_formula :
    (d : Terms) → (left : Formula) → (d.formula left).refs = left.refs ++ fieldRefs d.tokens
  | .done, left => (List.append_nil _).symm
  | .more t _ kind _ head rest, left => by
    rw [Terms.formula, Terms.tokens, rest.refs_formula, refs, head.refs_formula,
      fieldRefs_cons_of_ne (by simp [kind]), fieldRefs_append, List.append_assoc]

end

end Grammar

lemma refs_of_parse {l : Limits} {text : String} {f : Formula} (h : parse l text = .ok f) :
    ∃ ts, tokens text.toList = .ok ts ∧ f.refs = fieldRefs ts := by
  obtain ⟨d, hwrites, rfl⟩ := (parse_eq_ok l text f).1 h
  exact ⟨d.tokens, hwrites.tokens, d.refs_formula⟩

/-! ### First appearances -/

lemma eraseDups_names_cons (name : Token → String) (t : Token) (ts : List Token) :
    ((t :: ts).map name).eraseDups =
      name t :: ((ts.filter fun u => name u ≠ name t).map name).eraseDups := by
  rw [List.map_cons, List.eraseDups_cons, List.filter_map]
  congr 4
  funext u
  rw [Function.comp_apply, decide_not]
  rfl

lemma mem_eraseDups_names {name : Token → String} {ts : List Token} {n b : String} :
    b ∈ ((ts.filter fun u => name u ≠ n).map name).eraseDups ↔
      b ≠ n ∧ ∃ u ∈ ts, name u = b := by
  rw [List.mem_eraseDups, List.mem_map]
  constructor
  · rintro ⟨u, hu, rfl⟩
    obtain ⟨hmem, hne⟩ := List.mem_filter.1 hu
    exact ⟨of_decide_eq_true hne, u, hmem, rfl⟩
  · rintro ⟨hne, u, hmem, rfl⟩
    exact ⟨u, List.mem_filter.2 ⟨hmem, decide_eq_true hne⟩, rfl⟩

lemma pairwise_eraseDups (name : Token → String) :
    {ts : List Token} → ts.Pairwise (fun t u => t.pos < u.pos) →
      (ts.map name).eraseDups.Pairwise fun a b =>
        ∃ t ∈ ts, name t = a ∧ ∀ u ∈ ts, name u = b → t.pos < u.pos
  | [], _ => by simp
  | t :: ts, h => by
    obtain ⟨hfirst, hrest⟩ := List.pairwise_cons.1 h
    have others := pairwise_eraseDups name (hrest.filter fun u => name u ≠ name t)
    rw [eraseDups_names_cons, List.pairwise_cons]
    constructor
    · -- the first name stands before the others, which stand in order among the rest
      intro b hb
      obtain ⟨hne, -⟩ := mem_eraseDups_names.1 hb
      refine ⟨t, by simp, rfl, fun u hu hub => ?_⟩
      obtain rfl | hu := List.mem_cons.1 hu
      · exact absurd hub.symm hne
      · exact hfirst u hu
    · refine others.imp_of_mem fun {a b} _ hb ⟨t', ht', ha, hbefore⟩ => ?_
      obtain ⟨hne, -⟩ := mem_eraseDups_names.1 hb
      refine ⟨t', List.mem_cons_of_mem _ (List.mem_of_mem_filter ht'), ha, fun u hu hub => ?_⟩
      obtain rfl | hu := List.mem_cons.1 hu
      · exact absurd hub.symm hne
      · exact hbefore u (List.mem_filter.2 ⟨hu, by simpa [hub] using hne⟩) hub
termination_by ts => ts.length
decreasing_by exact Nat.lt_succ_of_le (List.length_filter_le _ _)

lemma appear_eraseDups {ts : List Token} (h : ts.Pairwise fun t u => t.pos < u.pos) :
    Appear ts ((fieldRefs ts).map (·.name)).eraseDups := by
  have hordered := pairwise_eraseDups (fun t => (reference t).name)
    (h.filter fun t => t.kind = .field)
  have hmap : (fieldRefs ts).map (·.name) =
      (ts.filter fun t => t.kind = .field).map fun t => (reference t).name := by
    simp [fieldRefs, Function.comp_def]
  rw [hmap]
  refine ⟨hordered.imp ?_, fun name => ?_, hordered.imp ?_⟩
  · rintro a _ ⟨t, ht, rfl, hbefore⟩ rfl
    exact absurd (hbefore t ht rfl) (Nat.lt_irrefl _)
  · rw [List.mem_eraseDups]
    simp [Token.Names, and_assoc]
  · rintro a b ⟨t, ht, ha, hbefore⟩
    obtain ⟨hmem, hkind⟩ := List.mem_filter.1 ht
    refine ⟨t, hmem, ⟨by simpa using hkind, ha⟩, fun u hu hb => ?_⟩
    exact hbefore u (List.mem_filter.2 ⟨hu, by simpa using hb.1⟩) hb.2

/-! ### Evaluations -/

lemma not_stopsAfter_of_value {resolve : Resolver} {f : Formula} {d : Decimal} {cs : List FieldRef}
    (h : f.value resolve = .ok d) : ¬ StopsAfter resolve f cs := by
  intro hstops
  induction hstops generalizing d with
  | sign value fails => simp [Formula.value, value, fails, Fault.ofDecimal] at h
  | operand _ ih =>
    obtain ⟨x, hx, -⟩ := bind_eq_ok.1 h
    exact ih hx
  | operator left_value right_value fails =>
    simp [Formula.value, left_value, right_value, fails, Fault.ofDecimal] at h
  | left _ ih =>
    obtain ⟨x, hx, -⟩ := bind_eq_ok.1 h
    exact ih hx
  | right _ _ ih =>
    obtain ⟨x, -, h⟩ := bind_eq_ok.1 h
    obtain ⟨y, hy, -⟩ := bind_eq_ok.1 h
    exact ih hy

lemma evaluateText_calls {resolve : FieldRef → Decimal} {l : Limits} {text : String} {f : Formula}
    (h : parse l text = .ok f) (hstops : ∀ cs, ¬ StopsAfter (total resolve) f cs) :
    (evaluateText l (total resolve) text).2 = f.refs := by
  rw [evaluateText, h]
  dsimp only
  rw [evaluateLogged_eq]
  rcases hvalue : f.value (total resolve) with g | d
  · exact absurd (stopsAfter_asked hvalue) (hstops _)
  · exact asked_of_value hvalue

/-- **The names of a formula appear in its text**, each once and in the order of their first
appearance. They are also the names of the fields that an evaluation asks for, without repetitions, for
any numbers of the fields with which no operator fails. -/
theorem fieldNames_appear {l : Limits} {text : String} {f : Formula} (h : parse l text = .ok f) :
    (∃ ts, tokens text.toList = .ok ts ∧ Appear ts f.fieldNames) ∧
      ∀ resolve : FieldRef → Decimal, (∀ cs, ¬ StopsAfter (total resolve) f cs) →
        ((evaluateText l (total resolve) text).2.map (·.name)).eraseDups = f.fieldNames := by
  obtain ⟨ts, hts, hrefs⟩ := refs_of_parse h
  constructor
  · refine ⟨ts, hts, ?_⟩
    rw [fieldNames_eq, hrefs]
    exact appear_eraseDups ((tiles_of_tokens hts).ordered.imp And.left)
  · intro resolve hstops
    rw [evaluateText_calls h hstops, fieldNames_eq]

/-- A field has one name, with the source record in front or without. -/
theorem pay_and_tax_appear :
    ∃ f, parse .standard "(source.pay - tax) / pay" = .ok f ∧ f.fieldNames = ["pay", "tax"] ∧
      (∃ ts, tokens "(source.pay - tax) / pay".toList = .ok ts ∧ Appear ts f.fieldNames) ∧
      (∀ cs, ¬ StopsAfter (total fun _ => .ofNat 2) f cs) ∧
      ((evaluateText .standard (total fun _ => .ofNat 2) "(source.pay - tax) / pay").2.map
        (·.name)).eraseDups = f.fieldNames := by
  have hread : parse .standard "(source.pay - tax) / pay" = .ok (.binary .div
      (.binary .sub (.field ⟨"pay", true⟩) (.field ⟨"tax", false⟩)) (.field ⟨"pay", false⟩)) := by
    decide +kernel
  have hstops : ∀ cs, ¬ StopsAfter (total fun _ => .ofNat 2) (.binary .div
      (.binary .sub (.field ⟨"pay", true⟩) (.field ⟨"tax", false⟩)) (.field ⟨"pay", false⟩)) cs :=
    fun cs => not_stopsAfter_of_value (d := .finite false 0 0) (by decide +kernel)
  obtain ⟨happear, hcalls⟩ := fieldNames_appear hread
  exact ⟨_, hread, by decide +kernel, happear, hstops, hcalls _ hstops⟩

end Crosswalk.Formula
