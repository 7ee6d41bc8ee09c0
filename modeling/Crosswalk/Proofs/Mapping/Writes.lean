import Crosswalk.Proofs.Mapping.Stage
import Crosswalk.Proofs.Table

/-!
What a destination is made of.

Up to the defaults a destination is the outcome of writes alone: of the transfers, of the
assignments whose conditions hold, of the calculations that have a value, and of the translations.
Each is made from the source record, and a calculation also from what the first two stages have
left, never from another calculation. So a field stands in the destination exactly if something
writes it, with the value of the last write in the order of the stages and of the lists.
-/

namespace Crosswalk

open Fallible

namespace Table

variable {α : Type}

/-- The value of the last of some entries of a key. -/
def LastEntry (ws : Table α) (key : String) (v : α) : Prop :=
  ∃ before after, ws = before ++ (key, v) :: after ∧ ∀ w ∈ after, w.1 ≠ key

lemma get?_reverse_eq_some {ws : Table α} {key : String} {v : α} :
    get? ws.reverse key = some v ↔ LastEntry ws key v := by
  rw [get?, List.lookup_eq_some_iff]
  constructor
  · rintro ⟨after, before, hws, hafter⟩
    refine ⟨before.reverse, after.reverse, ?_, fun w hw => ?_⟩
    · simpa using congrArg List.reverse hws
    · have hne := hafter w (List.mem_reverse.1 hw)
      exact fun h => by simp [h] at hne
  · rintro ⟨before, after, rfl, hafter⟩
    refine ⟨after.reverse, before.reverse, by simp, fun w hw => ?_⟩
    have hne := hafter w (List.mem_reverse.1 hw)
    simpa using hne.symm

end Table

namespace Mapping

open Run

/-- The destination has the fields that are written, each with the value of the last write to it. -/
structure MadeOf (d : Record) (ws : List Write) : Prop where
  fields : ∀ field, Table.has d field ↔ ∃ w ∈ ws, w.1 = field
  values : ∀ field v, Table.get? d field = some v ↔ Table.LastEntry ws field v

lemma madeOf_putAll (ws : List Write) : MadeOf (Table.putAll [] ws) ws := by
  have hget : ∀ field, Table.get? (Table.putAll [] ws) field = Table.get? ws.reverse field := by
    intro field
    rw [Table.get?_putAll_reverse, Table.get?_nil, Option.or_none]
  refine ⟨fun field => ?_, fun field v => ?_⟩
  · rw [Table.has, hget, ← Table.has, Table.has_iff, Table.keys, List.map_reverse, List.mem_reverse,
      List.mem_map]
  · rw [hget, Table.get?_reverse_eq_some]

variable (e : Engine) (source : Record)

def fires (k : Conditional) : Bool :=
  match e.readers.condition k.condition >>= fun c => c.holds source with
  | .ok b => b
  | .error _ => false

def firedWrites (k : Conditional) : List Write :=
  if fires e source k then k.assignments.map fun a => (a.destination, a.value) else []

/-- What a calculation writes on what has been mapped, nothing where it fails. -/
def calculatedWrites (mapped : Record) (k : Calculation) : List Write :=
  match calculated e source mapped k with
  | .ok v => [(k.destination, v)]
  | .error _ => []

def translatedWrites (t : Translation) : List Write :=
  match translated source t with
  | .ok v => [(t.destination, v)]
  | .error _ => []

def mappedWrites (rules : Rules) : List Write :=
  rules.transfers.map (fun t => (t.destination, transferredValue e source t)) ++
    rules.conditionals.flatMap (firedWrites e source)

/-- The writes of the first four stages, where the first two have left `mapped`. -/
def writes (mapped : Record) (rules : Rules) : List Write :=
  mappedWrites e source rules ++ rules.calculations.flatMap (calculatedWrites e source mapped) ++
    rules.translations.flatMap (translatedWrites source)

variable {e source}

/-! ### Stages -/

lemma fires_of_fulfils {k : Conditional} {b : Bool}
    (h : fulfils e source k.condition = .ok b) : fires e source k = b := by
  unfold fulfils at h
  unfold fires
  rcases hheld : e.readers.condition k.condition >>= fun c => c.holds source with f | held
  · rw [hheld] at h
    dsimp only at h ⊢
    split_ifs at h
    exact Except.ok.inj h
  · rw [hheld] at h
    exact Except.ok.inj h

lemma conditionalEntries_eq_ok (k : Conditional) (ws : List Write)
    (h : conditionalEntries e source k = .ok ws) : ws = firedWrites e source k := by
  obtain ⟨b, hb, h⟩ := bind_eq_ok.1 h
  rw [firedWrites, fires_of_fulfils hb]
  cases b <;> exact (Except.ok.inj h).symm

lemma calculationEntries_eq_ok (mapped : Record) (k : Calculation) (ws : List Write)
    (h : calculationEntries e source mapped k = .ok ws) :
    ws = calculatedWrites e source mapped k := by
  unfold calculationEntries at h
  unfold calculatedWrites
  rcases hv : calculated e source mapped k with f | v
  · rw [hv] at h
    dsimp only at h ⊢
    split_ifs at h
    exact (Except.ok.inj h).symm
  · rw [hv] at h
    exact (Except.ok.inj h).symm

lemma translationEntries_eq_ok (t : Translation) (ws : List Write)
    (h : translationEntries source t = .ok ws) : ws = translatedWrites source t := by
  obtain ⟨v, hv, h⟩ := bind_eq_ok.1 h
  rw [translatedWrites, hv]
  exact (Except.ok.inj h).symm

lemma afterEntries_eq_ok {γ : Type} {d d' : Record} {f : γ → Except Fault (List Write)}
    {g : γ → List Write} {rules : List γ} (hf : ∀ k ws, f k = .ok ws → ws = g k)
    (h : afterEntries d f rules = .ok d') : d' = Table.putAll d (rules.flatMap g) := by
  obtain ⟨ws, hws, h⟩ := bind_eq_ok.1 h
  obtain ⟨wss, hwss, hflat⟩ := bind_eq_ok.1 hws
  have hmap : wss = rules.map g := eq_map_of_mapM hf hwss
  have hall : ws = rules.flatMap g := by
    rw [List.flatMap_def, ← hmap]
    exact (Except.ok.inj hflat).symm
  rw [← hall]
  exact (Except.ok.inj h).symm

variable {rules : Rules}

lemma assignedRecord_eq_ok {mapped : Record} (h : assignedRecord e source rules = .ok mapped) :
    mapped = Table.putAll [] (mappedWrites e source rules) := by
  rw [mappedWrites, ← Table.putAll_append, ← transferredRecord]
  exact afterEntries_eq_ok conditionalEntries_eq_ok h

lemma undefaulted_eq_ok {d : Record} (h : undefaulted e source rules = .ok d) :
    ∃ mapped, assignedRecord e source rules = .ok mapped ∧
      d = Table.putAll [] (writes e source mapped rules) := by
  obtain ⟨mapped, hmapped, h⟩ := bind_eq_ok.1 h
  obtain ⟨c, hc, hd⟩ := bind_eq_ok.1 h
  have hcalculated := afterEntries_eq_ok (calculationEntries_eq_ok mapped) hc
  have htranslated := afterEntries_eq_ok translationEntries_eq_ok hd
  refine ⟨mapped, hmapped, ?_⟩
  rw [htranslated, hcalculated, assignedRecord_eq_ok hmapped, writes, Table.putAll_append,
    Table.putAll_append, ← List.append_assoc]

lemma mapped_gives (e : Engine) (source : Record) (rules : Rules) :
    Gives (afterTransfers e source rules >>= afterConditionals e source rules)
      (assignedRecord e source rules) :=
  gives_bind_ok (afterTransfers_gives e source rules)
    (afterWrites_gives (conditionalWrites_gives e source) _ _)

/-- How a mapping makes its result: `mapped` is what calculations see, `d` what gets defaults. -/
structure Makes (e : Engine) (source : Record) (rules : Rules) (mapped d r : Record) : Prop where
  mapped_gives :
    Gives (afterTransfers e source rules >>= afterConditionals e source rules) (.ok mapped)
  mapped_madeOf : MadeOf mapped (mappedWrites e source rules)
  undefaulted_gives : Gives (beforeDefaults e source rules) (.ok d)
  undefaulted_madeOf : MadeOf d (writes e source mapped rules)
  defaults : r = withDefaults rules.defaults d

/-- **A destination is made of the writes of the first four stages**, and then gets its defaults.
The source record is only read, so it is mapped to the same whenever it is mapped again. -/
theorem mapRecord_makes {index : Option Int} {t : Tally} {r : Record}
    (h : ((mapRecord e rules index (.object source)).run t).1 = .ok r) :
    (∃ mapped d, Makes e source rules mapped d r) ∧
      Gives (mapRecord e rules index (.object source)) (.ok r) := by
  have hr : destination e source rules = .ok r := (mapFields_gives e source rules t).symm.trans h
  obtain ⟨d, hd, hdefaults⟩ := bind_eq_ok.1 hr
  obtain ⟨mapped, hmapped, hwrites⟩ := undefaulted_eq_ok hd
  have hstages := mapped_gives e source rules
  have hbefore := beforeDefaults_gives e source rules
  have hall := mapFields_gives e source rules
  rw [hmapped] at hstages
  rw [hd] at hbefore
  rw [hr] at hall
  -- both stages put their writes one after the other, so the last one of a field stays
  have hmade : MadeOf mapped (mappedWrites e source rules) := by
    rw [assignedRecord_eq_ok hmapped]
    exact madeOf_putAll _
  have hmade' : MadeOf d (writes e source mapped rules) := by
    rw [hwrites]
    exact madeOf_putAll _
  exact ⟨⟨mapped, d, hstages, hmade, hbefore, hmade', (Except.ok.inj hdefaults).symm⟩, hall⟩

/-! ### A record that is written to by every stage -/

def leaverEngine : Engine := ⟨[], .within .standard, .ofDate ⟨2025, 1, 1⟩⟩

def leaver : Record := [("state", .text "left"), ("pay", .int 10)]

/-- An assignment is made over a transfer and a translation over another, one condition is not
read, and a calculation names the field of the one before it. -/
def leaverRules : Rules where
  transfers := [⟨"state", "status", none, [], false⟩, ⟨"pay", "amount", none, [], false⟩]
  conditionals :=
    [⟨"state == \"left\"", [⟨"status", .text "gone"⟩]⟩, ⟨"pay > ", [⟨"amount", .null⟩]⟩]
  calculations := [⟨"twice", "pay + amount", .none⟩, ⟨"again", "twice + pay", .none⟩]
  translations := [⟨"state", "amount", some [("left", .int 0)], none, .null⟩]
  defaults := [⟨"group", .text "none", .ifNull⟩]

def mappedLeaver : Record := [("status", .text "gone"), ("amount", .int 10)]

def sumOf (x y : String) : Formula := .binary .add (.field ⟨x, false⟩) (.field ⟨y, false⟩)

lemma destination_leaver : destination leaverEngine leaver leaverRules =
    .ok [("status", .text "gone"), ("amount", .int 0), ("twice", .int 20), ("again", .int 10),
      ("group", .text "none")] := by
  have hmapped : assignedRecord leaverEngine leaver leaverRules = .ok mappedLeaver := rfl
  have hreadTwice : leaverEngine.readers.formula "pay + amount" = .ok (sumOf "pay" "amount") := by
    decide +kernel
  have hreadAgain : leaverEngine.readers.formula "twice + pay" = .ok (sumOf "twice" "pay") := by
    decide +kernel
  have htwice : calculated leaverEngine leaver mappedLeaver ⟨"twice", "pay + amount", .none⟩ =
      .ok (.int 20) := by
    rw [calculated, hreadTwice]
    rfl
  have hagain : calculated leaverEngine leaver mappedLeaver ⟨"again", "twice + pay", .none⟩ =
      .ok (.int 10) := by
    rw [calculated, hreadAgain]
    rfl
  -- the second calculation sees what has been mapped, not the first one
  have hcalculations : entriesOf (calculationEntries leaverEngine leaver mappedLeaver)
      leaverRules.calculations = .ok [("twice", .int 20), ("again", .int 10)] := by
    simp [entriesOf, leaverRules, calculationEntries, htwice, hagain]
  rw [destination, undefaulted, hmapped, ok_bind, afterEntries, hcalculations]
  rfl

/-- The transferred status and amount are written over, and what has been calculated is not seen by
another calculation. -/
theorem leaver_makes :
    (∃ mapped d, Makes leaverEngine leaver leaverRules mapped d
      [("status", .text "gone"), ("amount", .int 0), ("twice", .int 20), ("again", .int 10),
        ("group", .text "none")]) ∧
      Gives (mapRecord leaverEngine leaverRules none (.object leaver))
        (.ok [("status", .text "gone"), ("amount", .int 0), ("twice", .int 20), ("again", .int 10),
          ("group", .text "none")]) :=
  mapRecord_makes (t := .zero) ((mapFields_gives _ _ _ _).trans destination_leaver)

end Mapping

end Crosswalk
