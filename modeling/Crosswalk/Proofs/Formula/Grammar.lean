import Mathlib.Tactic.Common
import Crosswalk.Formula.Parse

/-!
The grammar of formulas.

    sum    := term (("+" | "-") term)*
    term   := factor (("*" | "/") factor)*
    factor := ("+" | "-") factor | NUMBER | FIELD | "(" sum ")"

A derivation is kept as data: its tokens are what it writes, its formula is what it means, and its
nesting is how many parentheses and signs stand around its innermost factor. Operators of one rank
group to the left. The grammar is unambiguous: tokens have at most one derivation.
-/

namespace Crosswalk.Formula

/-- The field that a token stands for, whatever the name in front of its point. -/
def reference (t : Token) : FieldRef :=
  if '.' ∈ t.text then ⟨String.ofList ((t.text.dropWhile (· != '.')).drop 1), true⟩
  else ⟨String.ofList t.text, false⟩

namespace Grammar

mutual

inductive Factor where
  | number (t : Token) (kind : t.kind = .number)
  | field (t : Token) (kind : t.kind = .field)
  | signed (t : Token) (s : Sign) (kind : t.kind = .operator) (sign : sign? t = some s)
      (operand : Factor)
  | group (first last : Token) (opens : first.kind = .opening) (closes : last.kind = .closing)
      (inner : Sum)

inductive Term where
  | mk (head : Factor) (rest : Factors)

/-- The factors that a term goes on with. -/
inductive Factors where
  | done
  | more (t : Token) (o : Operator) (kind : t.kind = .operator) (operator : termOperator? t = some o)
      (head : Factor) (rest : Factors)

inductive Sum where
  | mk (head : Term) (rest : Terms)

inductive Terms where
  | done
  | more (t : Token) (o : Operator) (kind : t.kind = .operator) (operator : sumOperator? t = some o)
      (head : Term) (rest : Terms)

end

/-! ### What is written -/

mutual

def Factor.tokens : Factor → List Token
  | .number t _ => [t]
  | .field t _ => [t]
  | .signed t _ _ _ operand => t :: operand.tokens
  | .group first last _ _ inner => first :: (inner.tokens ++ [last])

def Term.tokens : Term → List Token
  | .mk head rest => head.tokens ++ rest.tokens

def Factors.tokens : Factors → List Token
  | .done => []
  | .more t _ _ _ head rest => t :: (head.tokens ++ rest.tokens)

def Sum.tokens : Sum → List Token
  | .mk head rest => head.tokens ++ rest.tokens

def Terms.tokens : Terms → List Token
  | .done => []
  | .more t _ _ _ head rest => t :: (head.tokens ++ rest.tokens)

end

/-! ### What is meant -/

mutual

def Factor.formula : Factor → Formula
  | .number t _ => .number (literal t)
  | .field t _ => .field (reference t)
  | .signed _ s _ _ operand => .signed s operand.formula
  | .group _ _ _ _ inner => inner.formula

def Term.formula : Term → Formula
  | .mk head rest => rest.formula head.formula

/-- The formula of a term whose factors so far mean `left`. -/
def Factors.formula : Factors → Formula → Formula
  | .done, left => left
  | .more _ o _ _ head rest, left => rest.formula (.binary o left head.formula)

def Sum.formula : Sum → Formula
  | .mk head rest => rest.formula head.formula

/-- The formula of a sum whose terms so far mean `left`. -/
def Terms.formula : Terms → Formula → Formula
  | .done, left => left
  | .more _ o _ _ head rest, left => rest.formula (.binary o left head.formula)

end

/-! ### How deep it goes -/

mutual

def Factor.nesting : Factor → Nat
  | .number _ _ => 0
  | .field _ _ => 0
  | .signed _ _ _ _ operand => operand.nesting + 1
  | .group _ _ _ _ inner => inner.nesting + 1

def Term.nesting : Term → Nat
  | .mk head rest => max head.nesting rest.nesting

def Factors.nesting : Factors → Nat
  | .done => 0
  | .more _ _ _ _ head rest => max head.nesting rest.nesting

def Sum.nesting : Sum → Nat
  | .mk head rest => max head.nesting rest.nesting

def Terms.nesting : Terms → Nat
  | .done => 0
  | .more _ _ _ _ head rest => max head.nesting rest.nesting

end

/-! ### Unambiguity -/

/-- No term goes on with these tokens. -/
def EndsTerm (ts : List Token) : Prop :=
  ∀ t ∈ ts.head?, t.kind = .operator → termOperator? t = none

def EndsSum (ts : List Token) : Prop := ∀ t ∈ ts.head?, t.kind ≠ .operator

lemma EndsSum.endsTerm {ts : List Token} (h : EndsSum ts) : EndsTerm ts :=
  fun t ht hk => absurd hk (h t ht)

lemma endsSum_nil : EndsSum [] := by simp [EndsSum]

lemma endsSum_closing {t : Token} (h : t.kind = .closing) (ts : List Token) : EndsSum (t :: ts) := by
  simp [EndsSum, h]

lemma termOperator?_of_sumOperator? {t : Token} {o : Operator} (h : sumOperator? t = some o) :
    termOperator? t = none := by
  unfold sumOperator? at h
  split at h
  · simp [termOperator?, *]
  · split at h
    · simp [termOperator?, *]
    · cases h

lemma Terms.endsTerm (d : Terms) {r : List Token} (h : EndsSum r) : EndsTerm (d.tokens ++ r) := by
  cases d with
  | done => exact h.endsTerm
  | more t o kind operator head rest =>
    intro u hu _
    obtain rfl : t = u := by simpa [Terms.tokens] using hu
    exact termOperator?_of_sumOperator? operator

def Factor.kind : Factor → TokenKind
  | .number _ _ => .number
  | .field _ _ => .field
  | .signed _ _ _ _ _ => .operator
  | .group _ _ _ _ _ => .opening

lemma Factor.exists_tokens (d : Factor) : ∃ t ts, d.tokens = t :: ts ∧ t.kind = d.kind := by
  cases d with
  | number t kind => exact ⟨t, _, rfl, kind⟩
  | field t kind => exact ⟨t, _, rfl, kind⟩
  | signed t s kind sign operand => exact ⟨t, _, rfl, kind⟩
  | group first last opens closes inner => exact ⟨first, _, rfl, opens⟩

lemma Factor.kind_eq {d d' : Factor} {r r' : List Token} (h : d.tokens ++ r = d'.tokens ++ r') :
    d.kind = d'.kind := by
  obtain ⟨t, ts, ht, hkind⟩ := d.exists_tokens
  obtain ⟨t', ts', ht', hkind'⟩ := d'.exists_tokens
  rw [ht, ht'] at h
  obtain ⟨rfl, -⟩ := List.cons.inj h
  exact hkind.symm.trans hkind'

mutual

lemma Factor.eq_of_tokens (d d' : Factor) {r r' : List Token}
    (h : d.tokens ++ r = d'.tokens ++ r') : d = d' ∧ r = r' := by
  -- the kind of the first token is that of the factor
  have hkind := Factor.kind_eq h
  cases d with
  | number t kind =>
    cases d' with
    | number t' kind' =>
      obtain ⟨rfl, hr⟩ := List.cons.inj h
      exact ⟨rfl, hr⟩
    | _ => cases hkind
  | field t kind =>
    cases d' with
    | field t' kind' =>
      obtain ⟨rfl, hr⟩ := List.cons.inj h
      exact ⟨rfl, hr⟩
    | _ => cases hkind
  | signed t s kind sign operand =>
    cases d' with
    | signed t' s' kind' sign' operand' =>
      obtain ⟨rfl, hrest⟩ := List.cons.inj h
      obtain ⟨rfl, hr⟩ := operand.eq_of_tokens operand' hrest
      obtain rfl := Option.some.inj (sign.symm.trans sign')
      exact ⟨rfl, hr⟩
    | _ => cases hkind
  | group first last opens closes inner =>
    cases d' with
    | group first' last' opens' closes' inner' =>
      simp only [Factor.tokens, List.cons_append, List.append_assoc, List.nil_append] at h
      obtain ⟨rfl, hrest⟩ := List.cons.inj h
      obtain ⟨rfl, hlast⟩ := inner.eq_of_tokens inner' (endsSum_closing closes r)
        (endsSum_closing closes' r') hrest
      obtain ⟨rfl, hr⟩ := List.cons.inj hlast
      exact ⟨rfl, hr⟩
    | _ => cases hkind
termination_by structural d

lemma Term.eq_of_tokens (d d' : Term) {r r' : List Token} (hr : EndsTerm r) (hr' : EndsTerm r')
    (h : d.tokens ++ r = d'.tokens ++ r') : d = d' ∧ r = r' := by
  obtain ⟨head, rest⟩ := d
  obtain ⟨head', rest'⟩ := d'
  simp only [Term.tokens, List.append_assoc] at h
  obtain ⟨rfl, hrest⟩ := head.eq_of_tokens head' h
  obtain ⟨rfl, heq⟩ := rest.eq_of_tokens rest' hr hr' hrest
  exact ⟨rfl, heq⟩
termination_by structural d

lemma Factors.eq_of_tokens (d d' : Factors) {r r' : List Token} (hr : EndsTerm r)
    (hr' : EndsTerm r') (h : d.tokens ++ r = d'.tokens ++ r') : d = d' ∧ r = r' := by
  cases d with
  -- a term that ends is not followed by an operator of terms
  | done =>
    cases d' with
    | done => exact ⟨rfl, h⟩
    | more t o kind operator head rest =>
      have hnone := hr t (by rw [show r = _ from h]; rfl) kind
      simp [hnone] at operator
  | more t o kind operator head rest =>
    cases d' with
    | done =>
      have hnone := hr' t (by rw [← show _ = r' from h]; rfl) kind
      simp [hnone] at operator
    | more t' o' kind' operator' head' rest' =>
      simp only [Factors.tokens, List.cons_append, List.append_assoc] at h
      obtain ⟨rfl, hhead⟩ := List.cons.inj h
      obtain ⟨rfl, hrest⟩ := head.eq_of_tokens head' hhead
      obtain ⟨rfl, heq⟩ := rest.eq_of_tokens rest' hr hr' hrest
      obtain rfl := Option.some.inj (operator.symm.trans operator')
      exact ⟨rfl, heq⟩
termination_by structural d

lemma Sum.eq_of_tokens (d d' : Sum) {r r' : List Token} (hr : EndsSum r) (hr' : EndsSum r')
    (h : d.tokens ++ r = d'.tokens ++ r') : d = d' ∧ r = r' := by
  obtain ⟨head, rest⟩ := d
  obtain ⟨head', rest'⟩ := d'
  simp only [Sum.tokens, List.append_assoc] at h
  obtain ⟨rfl, hrest⟩ := head.eq_of_tokens head' (rest.endsTerm hr) (rest'.endsTerm hr') h
  obtain ⟨rfl, heq⟩ := rest.eq_of_tokens rest' hr hr' hrest
  exact ⟨rfl, heq⟩
termination_by structural d

lemma Terms.eq_of_tokens (d d' : Terms) {r r' : List Token} (hr : EndsSum r) (hr' : EndsSum r')
    (h : d.tokens ++ r = d'.tokens ++ r') : d = d' ∧ r = r' := by
  cases d with
  | done =>
    cases d' with
    | done => exact ⟨rfl, h⟩
    | more t o kind operator head rest =>
      exact absurd kind (hr t (by rw [show r = _ from h]; rfl))
  | more t o kind operator head rest =>
    cases d' with
    | done => exact absurd kind (hr' t (by rw [← show _ = r' from h]; rfl))
    | more t' o' kind' operator' head' rest' =>
      simp only [Terms.tokens, List.cons_append, List.append_assoc] at h
      obtain ⟨rfl, hhead⟩ := List.cons.inj h
      obtain ⟨rfl, hrest⟩ := head.eq_of_tokens head' (rest.endsTerm hr) (rest'.endsTerm hr') hhead
      obtain ⟨rfl, heq⟩ := rest.eq_of_tokens rest' hr hr' hrest
      obtain rfl := Option.some.inj (operator.symm.trans operator')
      exact ⟨rfl, heq⟩
termination_by structural d

end

/-- **The grammar is unambiguous**: tokens have one derivation at most. -/
theorem Sum.tokens_injective : Function.Injective Sum.tokens := by
  intro d d' h
  exact (d.eq_of_tokens d' endsSum_nil endsSum_nil (congrArg (· ++ []) h)).1

end Grammar

end Crosswalk.Formula
