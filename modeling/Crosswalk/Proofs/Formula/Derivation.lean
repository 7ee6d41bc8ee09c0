import Crosswalk.Proofs.Formula.Parse
import Crosswalk.Proofs.Formula.Token

/-!
Reading a formula is deriving it.

What the parser reads has a derivation, and a derivation within the bound of depth is read. Both go by
the grammar's five cases together: the first along the parser's fuel, the second along the derivation.
Three steps for each token are fuel enough.
-/

namespace Crosswalk.Formula

open Fallible Grammar

/-! ### What is read is derived -/

/-- A derivation of the nesting and the tokens may stand at `depth`. -/
structure Admits (maxDepth : Int) (depth nesting : Nat) (ts : List Token) : Prop where
  shallow : (depth : Int) + nesting ≤ maxDepth
  sources : ∀ t ∈ ts, t.NamesSource

namespace Admits

variable {maxDepth : Int} {depth nesting nesting' : Nat} {t : Token} {ts ts' : List Token}

lemma nil (h : (depth : Int) ≤ maxDepth) : Admits maxDepth depth 0 [] :=
  ⟨by omega, by simp⟩

lemma singleton (h : (depth : Int) ≤ maxDepth) (ht : t.NamesSource) :
    Admits maxDepth depth 0 [t] :=
  ⟨by omega, by simpa using ht⟩

lemma append : Admits maxDepth depth (max nesting nesting') (ts ++ ts') ↔
    Admits maxDepth depth nesting ts ∧ Admits maxDepth depth nesting' ts' := by
  constructor
  · rintro ⟨hshallow, hsources⟩
    exact ⟨⟨by omega, fun t ht => hsources t (List.mem_append_left _ ht)⟩,
      ⟨by omega, fun t ht => hsources t (List.mem_append_right _ ht)⟩⟩
  · rintro ⟨⟨hshallow, hsources⟩, hshallow', hsources'⟩
    exact ⟨by omega, fun t ht => (List.mem_append.1 ht).elim (hsources t) (hsources' t)⟩

lemma cons : Admits maxDepth depth nesting (t :: ts) ↔
    t.NamesSource ∧ Admits maxDepth depth nesting ts :=
  ⟨fun ⟨hshallow, hsources⟩ => ⟨hsources t (by simp), hshallow, fun u hu => hsources u (by simp [hu])⟩,
    fun ⟨ht, hshallow, hsources⟩ => ⟨hshallow, by simpa using ⟨ht, hsources⟩⟩⟩

lemma snoc : Admits maxDepth depth nesting (ts ++ [t]) ↔
    Admits maxDepth depth nesting ts ∧ t.NamesSource := by
  constructor
  · rintro ⟨hshallow, hsources⟩
    exact ⟨⟨hshallow, fun u hu => hsources u (List.mem_append_left _ hu)⟩, hsources t (by simp)⟩
  · rintro ⟨⟨hshallow, hsources⟩, ht⟩
    exact ⟨hshallow, fun u hu =>
      (List.mem_append.1 hu).elim (hsources u) fun hu => List.mem_singleton.1 hu ▸ ht⟩

lemma deeper : Admits maxDepth (depth + 1) nesting ts ↔ Admits maxDepth depth (nesting + 1) ts :=
  ⟨fun ⟨hshallow, hsources⟩ => ⟨by omega, hsources⟩,
    fun ⟨hshallow, hsources⟩ => ⟨by omega, hsources⟩⟩

lemma depth_le (h : Admits maxDepth depth nesting ts) : (depth : Int) ≤ maxDepth := by
  have := h.shallow
  omega

end Admits

variable {maxDepth : Int}

lemma termRest_zero (depth : Nat) (left : Formula) (ts : List Token) :
    termRest maxDepth 0 depth left ts = .ok (left, ts) := by simp [termRest]

lemma termRest_nil (fuel depth : Nat) (left : Formula) :
    termRest maxDepth fuel depth left [] = .ok (left, []) := by simp [termRest]

lemma sumRest_zero (depth : Nat) (left : Formula) (ts : List Token) :
    sumRest maxDepth 0 depth left ts = .ok (left, ts) := by simp [sumRest]

lemma sumRest_nil (fuel depth : Nat) (left : Formula) :
    sumRest maxDepth fuel depth left [] = .ok (left, []) := by simp [sumRest]

mutual

lemma factor_sound {fuel depth : Nat} {ts rest : List Token} {f : Formula}
    (hg : ∀ t ∈ ts, t.IsGenuine) (h : factor maxDepth fuel depth ts = .ok (f, rest)) :
    ∃ d : Factor, ts = d.tokens ++ rest ∧ d.formula = f ∧
      Admits maxDepth depth d.nesting d.tokens := by
  cases fuel with
  | zero => simp [factor, refuse] at h
  | succ fuel =>
    rw [factor.eq_def] at h
    dsimp only at h
    split at h
    · cases h
    next hdepth =>
    have hle : (depth : Int) ≤ maxDepth := Int.not_lt.1 hdepth
    cases ts with
    | nil => cases h
    | cons t us =>
      dsimp only at h
      have hus : ∀ u ∈ us, u.IsGenuine := fun u hu => hg u (List.mem_cons_of_mem _ hu)
      -- the kind of the first token tells which factor it is
      split at h
      next hkind =>
        cases h
        exact ⟨.number t hkind, rfl, rfl, .singleton hle (Token.namesSource_of_ne (by simp [hkind]))⟩
      next hkind =>
        obtain ⟨r, hr, heq⟩ := bind_eq_ok.1 h
        cases heq
        obtain ⟨hsource, rfl⟩ := (fieldRef_eq_ok hkind).1 hr
        exact ⟨.field t hkind, rfl, rfl, .singleton hle hsource⟩
      next hkind =>
        split at h
        · cases h
        next s hsign =>
        obtain ⟨⟨operand, more⟩, hoperand, heq⟩ := bind_eq_ok.1 h
        cases heq
        obtain ⟨d, rfl, rfl, hd⟩ := factor_sound hus hoperand
        exact ⟨.signed t s hkind hsign d, rfl, rfl,
          .cons.2 ⟨Token.namesSource_of_ne (by simp [hkind]), .deeper.1 hd⟩⟩
      next hkind =>
        obtain ⟨⟨inner, more⟩, hinner, heq⟩ := bind_eq_ok.1 h
        obtain ⟨d, rfl, rfl, hd⟩ := sum_sound hus hinner
        dsimp only at heq
        split at heq
        next u vs =>
          split at heq
          next hclosing =>
            cases heq
            have hfirst : t.NamesSource := Token.namesSource_of_ne (by simp [hkind])
            have hlast : u.NamesSource := Token.namesSource_of_ne (by simp [hclosing])
            exact ⟨.group t u hkind hclosing d, by simp [Factor.tokens], rfl,
              .cons.2 ⟨hfirst, .snoc.2 ⟨.deeper.1 hd, hlast⟩⟩⟩
          next => cases heq
        next => cases heq
      next => cases h

lemma term_sound {fuel depth : Nat} {ts rest : List Token} {f : Formula}
    (hg : ∀ t ∈ ts, t.IsGenuine) (h : term maxDepth fuel depth ts = .ok (f, rest)) :
    ∃ d : Term, ts = d.tokens ++ rest ∧ d.formula = f ∧
      Admits maxDepth depth d.nesting d.tokens := by
  cases fuel with
  | zero => simp [term, refuse] at h
  | succ fuel =>
    rw [term] at h
    obtain ⟨⟨left, more⟩, hleft, hrest⟩ := bind_eq_ok.1 h
    obtain ⟨head, rfl, rfl, hhead⟩ := factor_sound hg hleft
    obtain ⟨d, rfl, rfl, hd⟩ := termRest_sound hhead.depth_le
      (fun t ht => hg t (List.mem_append_right _ ht)) hrest
    exact ⟨.mk head d, by simp [Term.tokens], rfl, .append.2 ⟨hhead, hd⟩⟩

lemma termRest_sound {fuel depth : Nat} {ts rest : List Token} {left f : Formula}
    (hle : (depth : Int) ≤ maxDepth) (hg : ∀ t ∈ ts, t.IsGenuine)
    (h : termRest maxDepth fuel depth left ts = .ok (f, rest)) :
    ∃ d : Factors, ts = d.tokens ++ rest ∧ d.formula left = f ∧
      Admits maxDepth depth d.nesting d.tokens := by
  cases fuel with
  | zero =>
    rw [termRest_zero] at h
    cases h
    exact ⟨.done, rfl, rfl, .nil hle⟩
  | succ fuel =>
    cases ts with
    | nil =>
      rw [termRest_nil] at h
      cases h
      exact ⟨.done, rfl, rfl, .nil hle⟩
    | cons t us =>
      rw [termRest] at h
      split at h
      next =>
        cases h
        exact ⟨.done, rfl, rfl, .nil hle⟩
      next o hoperator =>
        -- only what is written like an operator is one, as tokens are genuine
        have hkind : t.kind = .operator := by
          by_contra hne
          simp [(hg t (by simp) hne).2] at hoperator
        obtain ⟨⟨right, more⟩, hright, hrest⟩ := bind_eq_ok.1 h
        obtain ⟨head, rfl, rfl, hhead⟩ :=
          factor_sound (fun u hu => hg u (List.mem_cons_of_mem _ hu)) hright
        obtain ⟨d, rfl, rfl, hd⟩ := termRest_sound hle
          (fun u hu => hg u (List.mem_cons_of_mem _ (List.mem_append_right _ hu))) hrest
        exact ⟨.more t o hkind hoperator head d, by simp [Factors.tokens], rfl,
          .cons.2 ⟨Token.namesSource_of_ne (by simp [hkind]), .append.2 ⟨hhead, hd⟩⟩⟩

lemma sum_sound {fuel depth : Nat} {ts rest : List Token} {f : Formula}
    (hg : ∀ t ∈ ts, t.IsGenuine) (h : sum maxDepth fuel depth ts = .ok (f, rest)) :
    ∃ d : Sum, ts = d.tokens ++ rest ∧ d.formula = f ∧
      Admits maxDepth depth d.nesting d.tokens := by
  cases fuel with
  | zero => simp [sum, refuse] at h
  | succ fuel =>
    rw [sum] at h
    obtain ⟨⟨left, more⟩, hleft, hrest⟩ := bind_eq_ok.1 h
    obtain ⟨head, rfl, rfl, hhead⟩ := term_sound hg hleft
    obtain ⟨d, rfl, rfl, hd⟩ := sumRest_sound hhead.depth_le
      (fun t ht => hg t (List.mem_append_right _ ht)) hrest
    exact ⟨.mk head d, by simp [Sum.tokens], rfl, .append.2 ⟨hhead, hd⟩⟩

lemma sumRest_sound {fuel depth : Nat} {ts rest : List Token} {left f : Formula}
    (hle : (depth : Int) ≤ maxDepth) (hg : ∀ t ∈ ts, t.IsGenuine)
    (h : sumRest maxDepth fuel depth left ts = .ok (f, rest)) :
    ∃ d : Terms, ts = d.tokens ++ rest ∧ d.formula left = f ∧
      Admits maxDepth depth d.nesting d.tokens := by
  cases fuel with
  | zero =>
    rw [sumRest_zero] at h
    cases h
    exact ⟨.done, rfl, rfl, .nil hle⟩
  | succ fuel =>
    cases ts with
    | nil =>
      rw [sumRest_nil] at h
      cases h
      exact ⟨.done, rfl, rfl, .nil hle⟩
    | cons t us =>
      rw [sumRest] at h
      split at h
      next =>
        cases h
        exact ⟨.done, rfl, rfl, .nil hle⟩
      next o hoperator =>
        -- as in a term, a genuine token with a sign is an operator
        have hkind : t.kind = .operator := by
          by_contra hne
          simp [(hg t (by simp) hne).1] at hoperator
        obtain ⟨⟨right, more⟩, hright, hrest⟩ := bind_eq_ok.1 h
        obtain ⟨head, rfl, rfl, hhead⟩ :=
          term_sound (fun u hu => hg u (List.mem_cons_of_mem _ hu)) hright
        obtain ⟨d, rfl, rfl, hd⟩ := sumRest_sound hle
          (fun u hu => hg u (List.mem_cons_of_mem _ (List.mem_append_right _ hu))) hrest
        exact ⟨.more t o hkind hoperator head d, by simp [Terms.tokens], rfl,
          .cons.2 ⟨Token.namesSource_of_ne (by simp [hkind]), .append.2 ⟨hhead, hd⟩⟩⟩

end

/-! ### What is derived is read -/

lemma Grammar.Factor.length_pos (d : Factor) : 0 < d.tokens.length := by
  obtain ⟨t, ts, h, -⟩ := d.exists_tokens
  simp [h]

lemma Grammar.Term.length_pos : (d : Term) → 0 < d.tokens.length
  | .mk head rest => by
    have := head.length_pos
    simp only [Term.tokens, List.length_append]
    omega

lemma termRest_of_endsTerm (fuel depth : Nat) (left : Formula) {ts : List Token}
    (hends : EndsTerm ts) (hg : ∀ t ∈ ts, t.IsGenuine) :
    termRest maxDepth fuel depth left ts = .ok (left, ts) := by
  cases fuel with
  | zero => exact termRest_zero ..
  | succ fuel =>
    cases ts with
    | nil => exact termRest_nil ..
    | cons t ts =>
      have hnone : termOperator? t = none := by
        by_cases hkind : t.kind = .operator
        · exact hends t rfl hkind
        · exact (hg t (by simp) hkind).2
      rw [termRest, hnone]

lemma sumRest_of_endsSum (fuel depth : Nat) (left : Formula) {ts : List Token}
    (hends : EndsSum ts) (hg : ∀ t ∈ ts, t.IsGenuine) :
    sumRest maxDepth fuel depth left ts = .ok (left, ts) := by
  cases fuel with
  | zero => exact sumRest_zero ..
  | succ fuel =>
    cases ts with
    | nil => exact sumRest_nil ..
    | cons t ts =>
      have hnone : sumOperator? t = none := (hg t (by simp) (hends t rfl)).1
      rw [sumRest, hnone]

mutual

lemma factor_complete (d : Factor) (fuel depth : Nat) {rest : List Token}
    (hfuel : 3 * d.tokens.length ≤ fuel + 2) (hg : ∀ t ∈ d.tokens ++ rest, t.IsGenuine)
    (h : Admits maxDepth depth d.nesting d.tokens) :
    factor maxDepth fuel depth (d.tokens ++ rest) = .ok (d.formula, rest) := by
  obtain ⟨fuel, rfl⟩ : ∃ n, fuel = n + 1 := ⟨fuel - 1, by have := d.length_pos; omega⟩
  have hle : ¬ maxDepth < depth := Int.not_lt.2 h.depth_le
  rw [factor.eq_def]
  dsimp only
  rw [if_neg hle]
  -- three units of fuel for each token are enough to reach the factor inside
  cases d with
  | number t kind => simp [Factor.tokens, Factor.formula, kind]
  | field t kind =>
    have href : fieldRef t = .ok (reference t) :=
      (fieldRef_eq_ok kind).2 ⟨h.sources t (by simp [Factor.tokens]), rfl⟩
    simp [Factor.tokens, Factor.formula, kind, href]
  | signed t s kind sign operand =>
    simp only [Factor.tokens, List.length_cons, List.cons_append] at hfuel hg h ⊢
    have hoperand := factor_complete operand fuel (depth + 1) (by omega)
      (fun u hu => hg u (List.mem_cons_of_mem _ hu)) (Admits.deeper.2 (Admits.cons.1 h).2)
    simp [kind, sign, hoperand, Factor.formula]
  | group first last opens closes inner =>
    simp only [Factor.tokens, List.length_cons, List.length_append, List.length_nil,
      List.cons_append, List.append_assoc, List.nil_append] at hfuel hg h ⊢
    have hinner := sum_complete inner fuel (depth + 1) (by omega)
      (fun u hu => hg u (List.mem_cons_of_mem _ hu)) (endsSum_closing closes rest)
      (Admits.deeper.2 (Admits.snoc.1 (Admits.cons.1 h).2).1)
    simp [opens, closes, hinner, Factor.formula]
termination_by structural d

lemma term_complete (d : Term) (fuel depth : Nat) {rest : List Token}
    (hfuel : 3 * d.tokens.length ≤ fuel + 1) (hg : ∀ t ∈ d.tokens ++ rest, t.IsGenuine)
    (hends : EndsTerm rest) (h : Admits maxDepth depth d.nesting d.tokens) :
    term maxDepth fuel depth (d.tokens ++ rest) = .ok (d.formula, rest) := by
  obtain ⟨fuel, rfl⟩ : ∃ n, fuel = n + 1 := ⟨fuel - 1, by have := d.length_pos; omega⟩
  obtain ⟨head, more⟩ := d
  have hpos := head.length_pos
  simp only [Term.tokens, List.length_append, List.append_assoc] at hfuel hg h ⊢
  obtain ⟨hhead, hmore⟩ := Admits.append.1 h
  rw [term, factor_complete head _ _ (by omega) hg hhead, ok_bind]
  exact termRest_complete more _ _ _ (by omega) (fun u hu => hg u (List.mem_append_right _ hu))
    hends hmore
termination_by structural d

lemma termRest_complete (d : Factors) (fuel depth : Nat) (left : Formula) {rest : List Token}
    (hfuel : 3 * d.tokens.length ≤ fuel) (hg : ∀ t ∈ d.tokens ++ rest, t.IsGenuine)
    (hends : EndsTerm rest) (h : Admits maxDepth depth d.nesting d.tokens) :
    termRest maxDepth fuel depth left (d.tokens ++ rest) = .ok (d.formula left, rest) := by
  -- what does not begin with a factor operator ends the term
  cases d with
  | done => exact termRest_of_endsTerm fuel depth left hends hg
  | more t o kind operator head more =>
    simp only [Factors.tokens, List.length_cons, List.length_append, List.cons_append,
      List.append_assoc] at hfuel hg h ⊢
    obtain ⟨fuel, rfl⟩ : ∃ n, fuel = n + 1 := ⟨fuel - 1, by omega⟩
    obtain ⟨hhead, hmore⟩ := Admits.append.1 (Admits.cons.1 h).2
    have htail : ∀ u ∈ head.tokens ++ (more.tokens ++ rest), u.IsGenuine :=
      fun u hu => hg u (List.mem_cons_of_mem _ hu)
    rw [termRest, operator]
    dsimp only
    rw [factor_complete head _ _ (by omega) htail hhead, ok_bind]
    exact termRest_complete more _ _ _ (by omega) (fun u hu => htail u (List.mem_append_right _ hu))
      hends hmore
termination_by structural d

lemma sum_complete (d : Sum) (fuel depth : Nat) {rest : List Token}
    (hfuel : 3 * d.tokens.length ≤ fuel) (hg : ∀ t ∈ d.tokens ++ rest, t.IsGenuine)
    (hends : EndsSum rest) (h : Admits maxDepth depth d.nesting d.tokens) :
    sum maxDepth fuel depth (d.tokens ++ rest) = .ok (d.formula, rest) := by
  obtain ⟨head, more⟩ := d
  have hpos := head.length_pos
  simp only [Sum.tokens, List.length_append, List.append_assoc] at hfuel hg h ⊢
  obtain ⟨fuel, rfl⟩ : ∃ n, fuel = n + 1 := ⟨fuel - 1, by omega⟩
  obtain ⟨hhead, hmore⟩ := Admits.append.1 h
  rw [sum, term_complete head _ _ (by omega) hg (more.endsTerm hends) hhead, ok_bind]
  exact sumRest_complete more _ _ _ (by omega) (fun u hu => hg u (List.mem_append_right _ hu))
    hends hmore
termination_by structural d

lemma sumRest_complete (d : Terms) (fuel depth : Nat) (left : Formula) {rest : List Token}
    (hfuel : 3 * d.tokens.length ≤ fuel) (hg : ∀ t ∈ d.tokens ++ rest, t.IsGenuine)
    (hends : EndsSum rest) (h : Admits maxDepth depth d.nesting d.tokens) :
    sumRest maxDepth fuel depth left (d.tokens ++ rest) = .ok (d.formula left, rest) := by
  cases d with
  | done => exact sumRest_of_endsSum fuel depth left hends hg
  | more t o kind operator head more =>
    simp only [Terms.tokens, List.length_cons, List.length_append, List.cons_append,
      List.append_assoc] at hfuel hg h ⊢
    obtain ⟨fuel, rfl⟩ : ∃ n, fuel = n + 1 := ⟨fuel - 1, by omega⟩
    obtain ⟨hhead, hmore⟩ := Admits.append.1 (Admits.cons.1 h).2
    have htail : ∀ u ∈ head.tokens ++ (more.tokens ++ rest), u.IsGenuine :=
      fun u hu => hg u (List.mem_cons_of_mem _ hu)
    rw [sumRest, operator]
    dsimp only
    rw [term_complete head _ _ (by omega) htail (more.endsTerm hends) hhead, ok_bind]
    exact sumRest_complete more _ _ _ (by omega) (fun u hu => htail u (List.mem_append_right _ hu))
      hends hmore
termination_by structural d

end

/-! ### Texts -/

/-- A derivation that is a formula within the limits, and the text that writes it. -/
structure Writes (l : Limits) (text : String) (d : Sum) : Prop where
  short : (text.length : Int) ≤ l.length
  tokens : tokens text.toList = .ok d.tokens
  sources : ∀ t ∈ d.tokens, t.NamesSource
  shallow : (d.nesting : Int) ≤ l.depth

lemma Grammar.Sum.length_pos : (d : Sum) → 0 < d.tokens.length
  | .mk head rest => by
    have := head.length_pos
    simp only [Sum.tokens, List.length_append]
    omega

lemma ofTokens_eq_ok {ts : List Token} (hg : ∀ t ∈ ts, t.IsGenuine) {f : Formula} :
    ofTokens maxDepth ts = .ok f ↔
      ∃ d : Sum, ts = d.tokens ∧ Admits maxDepth 0 d.nesting d.tokens ∧ d.formula = f := by
  unfold ofTokens
  constructor
  · intro h
    split at h
    · cases h
    · obtain ⟨⟨g, rest⟩, hsum, h⟩ := bind_eq_ok.1 h
      dsimp only at h
      split at h
      · cases h
        obtain ⟨d, rfl, rfl, hd⟩ := sum_sound hg hsum
        exact ⟨d, by simp, hd, rfl⟩
      · cases h
  · -- the fuel that is given is enough for all tokens
    rintro ⟨d, rfl, hd, rfl⟩
    have hpos := d.length_pos
    have hne : d.tokens.isEmpty = false := by
      simpa [List.isEmpty_eq_false_iff] using List.ne_nil_of_length_pos hpos
    have hsum := sum_complete d (4 * d.tokens.length + 4) 0 (by omega)
      (by simpa using hg) endsSum_nil hd
    rw [List.append_nil] at hsum
    simp [hne, hsum]

lemma parse_eq_ok (l : Limits) (text : String) (f : Formula) :
    parse l text = .ok f ↔ ∃ d, Writes l text d ∧ d.formula = f := by
  unfold parse
  constructor
  · intro h
    obtain ⟨_, hcheck, h⟩ := bind_eq_ok.1 h
    obtain ⟨ts, hts, h⟩ := bind_eq_ok.1 h
    obtain ⟨d, rfl, hd, rfl⟩ := (ofTokens_eq_ok (isGenuine_of_tokens hts)).1 h
    have hshort : (text.length : Int) ≤ l.length := l.check_eq_ok.1 hcheck
    exact ⟨d, ⟨hshort, hts, hd.sources, by simpa using hd.shallow⟩, rfl⟩
  · rintro ⟨d, ⟨hshort, hts, hsources, hshallow⟩, rfl⟩
    have hd : Admits l.depth 0 d.nesting d.tokens := ⟨by simpa using hshallow, hsources⟩
    have hcheck : l.check .expression "Formula" text = .ok () := l.check_eq_ok.2 hshort
    rw [hcheck, hts, ok_bind, ok_bind]
    exact (ofTokens_eq_ok (isGenuine_of_tokens hts)).2 ⟨d, rfl, hd, rfl⟩

/-- **Reading a formula is deriving it**: a text is read as what its one derivation means, if there
is one within the limits, and is refused with a fault of formulas if there is none. -/
theorem parse_derives (l : Limits) (text : String) :
    (∀ f, parse l text = .ok f ↔ ∃ d, Writes l text d ∧ d.formula = f) ∧
      (∀ d d' : Sum, tokens text.toList = .ok d.tokens → tokens text.toList = .ok d'.tokens →
        d = d') ∧
      ((¬ ∃ d, Writes l text d) → ∃ g, parse l text = .error g ∧ g.kind = .expression) := by
  refine ⟨parse_eq_ok l text, fun d d' hd hd' => ?_, fun hnone => ?_⟩
  · exact Sum.tokens_injective (Except.ok.inj (hd.symm.trans hd'))
  · rcases h : parse l text with g | f
    · exact ⟨g, rfl, refuses_parse l text g h⟩
    · obtain ⟨d, hd, -⟩ := (parse_eq_ok l text f).1 h
      exact absurd ⟨d, hd⟩ hnone

end Crosswalk.Formula
