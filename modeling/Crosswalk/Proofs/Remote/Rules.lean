import Mathlib.Data.List.Nodup
import Crosswalk.Proofs.Fallible
import Crosswalk.Proofs.Schema.Record
import Crosswalk.Proofs.Store
import Crosswalk.Proofs.Value.LongInteger
import Crosswalk.Remote.Request

/-!
Rules that are kept in remote rows.

A row that does not read as a rule is passed over, so what rows read as are the rules of those that do,
in their order. A store into which these rules have been put gives the same rules for a kind of records.
Which rules a tenant sees is decided by what has been read, and not by the query.
-/

namespace Crosswalk.Table

variable {α : Type}

lemma put_of_notMem {t : Table α} {k : String} (h : k ∉ t.keys) (v : α) : t.put k v = t ++ [(k, v)] := by
  rw [put, if_neg (mt (has_iff t k).1 h)]

end Crosswalk.Table

namespace Crosswalk.Store

/-- A store in which rules have been put one after the other. -/
def ofRules (rules : List Rule) : Store := rules.foldl putRule .empty

lemma allRules_foldl_putRule {s : Store} {rules : List Rule}
    (h : (s.rules.keys ++ rules.map (·.id)).Nodup) :
    (rules.foldl putRule s).allRules = s.allRules ++ rules := by
  induction rules generalizing s with
  | nil => exact (List.append_nil _).symm
  | cons r rules ih =>
    have hnew : r.id ∉ s.rules.keys := fun hmem =>
      List.disjoint_of_nodup_append h hmem (by simp)
    have hput : (s.putRule r).rules = s.rules ++ [(r.id, r)] := Table.put_of_notMem hnew r
    have hkeys : (s.putRule r).rules.keys = s.rules.keys ++ [r.id] := by
      rw [hput, Table.keys, List.map_append]
      rfl
    have hall : (s.putRule r).allRules = s.allRules ++ [r] := by
      rw [allRules, hput, List.map_append]
      rfl
    rw [List.foldl_cons, ih (by rwa [hkeys, List.append_assoc]), hall, List.append_assoc]
    rfl

lemma allRules_ofRules {rules : List Rule} (h : (rules.map (·.id)).Nodup) :
    (ofRules rules).allRules = rules :=
  allRules_foldl_putRule h

end Crosswalk.Store

namespace Crosswalk.Remote

open Fallible

variable {fresh : Fresh} {rows : List Value}

/-- The rules of the rows that read as one. -/
def wellFormed (fresh : Fresh) (rows : List Value) : List Rule :=
  rows.filterMap fun row => ((Rule.codec fresh).read row).toOption

def identity : Value → Value
  | .object fields => Record.value fields "id"
  | _ => .null

/-- The rows are records that a client may have read, and no two rules among them have the same
identity. -/
structure Identified (fresh : Fresh) (rows : List Value) : Prop where
  records : ∀ row ∈ rows, ∃ fields, row = .object fields
  /-- A client reads no integer out of a JSON text that is too long to be written again. -/
  readable : ∀ row ∈ rows, ¬ row.holdsLong
  distinct : ((wellFormed fresh rows).map (·.id)).Nodup

/-! ### What rows read as -/

section

variable {row : Value} {r : Rule} {is : List Issue}

lemma wellFormed_cons_of_ok (h : (Rule.codec fresh).read row = .ok r) (rows : List Value) :
    wellFormed fresh (row :: rows) = r :: wellFormed fresh rows := by
  simp [wellFormed, h, Except.toOption]

lemma wellFormed_cons_of_error (h : (Rule.codec fresh).read row = .error is) (rows : List Value) :
    wellFormed fresh (row :: rows) = wellFormed fresh rows := by
  simp [wellFormed, h, Except.toOption]

lemma readRules_cons_of_ok (h : (Rule.codec fresh).read row = .ok r) (rows : List Value) :
    readRules fresh (row :: rows) = (r :: ·) <$> readRules fresh rows := by
  conv_lhs => unfold readRules
  rw [h]
  rfl

lemma readRules_cons_of_error {fields : Table Value}
    (h : (Rule.codec fresh).read (.object fields) = .error is) (rows : List Value) :
    readRules fresh (.object fields :: rows) =
      (identity (.object fields)).toText >>= fun _ => readRules fresh rows := by
  conv_lhs => unfold readRules
  rw [h]
  rfl

end

lemma holdsLong_of_value {fields : Table Value} {k : String} (h : (Record.value fields k).holdsLong) :
    (Value.object fields).holdsLong := by
  induction fields with
  | nil => cases h
  | cons e fields ih =>
    rw [Value.holdsLong, Value.holdsLongInFields, Bool.or_eq_true]
    rw [Record.value, Table.get?_cons] at h
    split at h
    · exact .inl h
    · exact .inr (ih h)

lemma exists_text_identity {row : Value} (h : ¬ row.holdsLong) :
    ∃ s, (identity row).toText = .ok s := by
  refine not_fails.1 fun hfails => h ?_
  rw [Value.fails_toText] at hfails
  cases row with
  | object fields => exact holdsLong_of_value hfails
  | _ => cases hfails

lemma readRules_of_readable (hrecords : ∀ row ∈ rows, ∃ fields, row = .object fields)
    (hreadable : ∀ row ∈ rows, ¬ row.holdsLong) :
    readRules fresh rows = .ok (wellFormed fresh rows) := by
  induction rows with
  | nil => rfl
  | cons row rows ih =>
    have hrest := ih (fun v hv => hrecords v (List.mem_cons_of_mem _ hv)) fun v hv =>
      hreadable v (List.mem_cons_of_mem _ hv)
    obtain ⟨fields, rfl⟩ := hrecords row List.mem_cons_self
    obtain ⟨s, hs⟩ := exists_text_identity (hreadable _ List.mem_cons_self)
    rcases hrow : (Rule.codec fresh).read (.object fields) with is | r
    · rw [readRules_cons_of_error hrow, wellFormed_cons_of_error hrow, hs, ok_bind, hrest]
    · rw [readRules_cons_of_ok hrow, wellFormed_cons_of_ok hrow, hrest]
      rfl

/-! ### Rows with identities -/

lemma id_of_read {fields : Table Value} {s : String} {r : Rule}
    (h : (Rule.codec fresh).read (.object fields) = .ok r) (hid : fields.get? "id" = some (.text s)) :
    r.id = s := by
  obtain ⟨hrecord, -⟩ := Codec.checked_eq_ok.1 h
  obtain ⟨t, ⟨i, xs⟩, ht, hread, rfl⟩ := Schema.codec_eq_ok.1 hrecord
  obtain rfl : fields = t := Option.some.inj ht
  have hi := (Schema.read_field_eq_ok.1 hread).1
  rw [Field.read_of_given? (Field.given?_of_camelKey hid), Reading.under_eq_ok] at hi
  obtain ⟨htext, -⟩ := Codec.boundedText_eq_ok.1 hi
  exact (Value.text.inj htext).symm

lemma identity_eq_text {row : Value} {s : String} (h : identity row = .text s) :
    ∃ fields : Table Value, row = .object fields ∧ fields.get? "id" = some (.text s) := by
  cases row with
  | object fields =>
    refine ⟨fields, rfl, ?_⟩
    rw [identity, Record.value] at h
    rcases hid : Table.get? fields "id" with _ | v
    · rw [hid] at h
      cases h
    · rw [hid] at h
      exact congrArg some h
  | _ => cases h

lemma identified_of_texts {ids : List String} (h : rows.map identity = ids.map .text)
    (hn : ids.Nodup) (hreadable : ∀ row ∈ rows, ¬ row.holdsLong) : Identified fresh rows := by
  refine ⟨fun row hrow => ?_, hreadable, ?_⟩
  · have hmem : identity row ∈ ids.map .text := h ▸ List.mem_map_of_mem hrow
    obtain ⟨s, -, hs⟩ := List.mem_map.1 hmem
    obtain ⟨fields, hfields, -⟩ := identity_eq_text hs.symm
    exact ⟨fields, hfields⟩
  · have hsub : ((wellFormed fresh rows).map (·.id)).Sublist ids := by
      -- on the rows: a malformed one leaves its identity out, so the others stay in order
      clear hn hreadable
      induction rows generalizing ids with
      | nil => exact List.nil_sublist _
      | cons row rows ih =>
        obtain ⟨s, ids, rfl, hs, hids⟩ := List.map_eq_cons_iff.1 h.symm
        obtain ⟨fields, rfl, hid⟩ := identity_eq_text hs.symm
        rcases hread : (Rule.codec fresh).read (.object fields) with is | r
        · rw [wellFormed_cons_of_error hread]
          exact (ih hids.symm).cons s
        · rw [wellFormed_cons_of_ok hread, List.map_cons, id_of_read hread hid]
          exact (ih hids.symm).cons_cons s
    exact hn.sublist hsub

/-! ### Requests for rules -/

def Request.failure (r : Request) (f : Fault) : Fault :=
  ⟨.repository, r.failed ++ ": " ++ f.message⟩

lemma send_snd {r : Request} (h : r.query.2 = .ok ()) :
    (send fresh (.ok rows) r).2 = (r.answer fresh rows).mapError r.failure := by
  simp only [send, h, ok_bind]
  rcases r.answer fresh rows with f | a <;> rfl

lemma query_rules (tenant kind : Value) : (Request.rules tenant kind).query.2 = .ok () := by
  rw [Request.query]
  split <;> rfl

/-- **Remote rules are the rules of a store.** From any rows with identities, malformed ones and those
of others among them, the rules for a kind of records are the same as from a store into which the well
formed rows have been put. And whatever the rows are, a tenant is shown no rule of another one. -/
theorem rules_agree (fresh : Fresh) (rows : List Value) (tenant : String) :
    (Identified fresh rows → ∀ kind : String,
      (send fresh (.ok rows) (.rulesFor (.text kind) (.text tenant))).2 =
        .ok (.rules ((Store.ofRules (wellFormed fresh rows)).rulesFor kind (some tenant)))) ∧
    ∀ (kind : Value) (answer : Answer),
      (send fresh (.ok rows) (.rules (.text tenant) kind)).2 = .ok answer →
        ∃ rules, answer = .rules rules ∧ ∀ r ∈ rules, r.isGlobal ∨ r.tenant = some tenant := by
  constructor
  · intro h kind
    have hread : readRules fresh rows = .ok (wellFormed fresh rows) :=
      readRules_of_readable h.records h.readable
    rw [send_snd rfl, Request.answer, hread, Store.rulesFor, Store.allRules_ofRules h.distinct]
    rfl
  · intro kind answer h
    rw [send_snd (query_rules _ kind), mapError_eq_ok, Request.answer] at h
    obtain ⟨rs, -, heq⟩ := bind_eq_ok.1 h
    refine ⟨_, (Except.ok.inj heq).symm, fun r hr => ?_⟩
    have hvisible : Store.isVisible (some tenant) r := (List.mem_filter.1 hr).2
    simpa only [Store.isVisible, Bool.or_eq_true, decide_eq_true_eq] using hvisible

/-- A malformed row next to one of another tenant and a global one. -/
def mixedRows : List Value :=
  let logic : Value := .object [("operator", .text "not_empty"), ("field", .text "x")]
  let parts : Table Value := [("name", .text "n"), ("rule_type", .text "FORMAT"),
    ("rule_logic", logic), ("error_message", .text "m")]
  [.object [("id", .text "a")], .object (("id", .text "b") :: ("tenant_id", .text "u") :: parts),
    .object (("id", .text "c") :: parts)]

theorem mixed_rules_agree :
    (wellFormed .unused mixedRows).map (·.id) = ["b", "c"] ∧
      (send .unused (.ok mixedRows) (.rulesFor (.text "LOAN") (.text "t"))).2 =
        .ok (.rules ((Store.ofRules (wellFormed .unused mixedRows)).rulesFor "LOAN" (some "t"))) := by
  have hids : (wellFormed .unused mixedRows).map (·.id) = ["b", "c"] := by decide +kernel
  have htexts : mixedRows.map identity = ["a", "b", "c"].map .text := rfl
  have hidentified : Identified .unused mixedRows :=
    identified_of_texts htexts (by decide) (by simp [mixedRows, Value.holdsLong, Value.holdsLongInFields])
  exact ⟨hids, (rules_agree .unused mixedRows "t").1 hidentified "LOAN"⟩

end Crosswalk.Remote
