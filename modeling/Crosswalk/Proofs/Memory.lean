import Crosswalk.Proofs.Formula.Derivation
import Crosswalk.Proofs.Readers

/-!
What a memory still knows while the limits change.

A text has one reading, whatever the limits, as far as they let it be read at all. So a memory gives
what reading afresh gives, with one exception: it still gives a text that the limits in force refuse,
if the text is among the last that have been read. How many those are is the capacity of the memory.
-/

namespace Crosswalk

open Fallible

/-- Limits decide whether a text is read, and not what it is read as. -/
def Determined {α : Type} (parse : Limits → String → Except Fault α) : Prop :=
  ∀ (l l' : Limits) (text : String) (x y : α), parse l text = .ok x → parse l' text = .ok y → x = y

lemma Formula.determined_parse : Determined parse := by
  intro l l' text f g hf hg
  obtain ⟨d, hd, rfl⟩ := (parse_eq_ok l text f).1 hf
  obtain ⟨d', hd', rfl⟩ := (parse_eq_ok l' text g).1 hg
  have htokens : d.tokens = d'.tokens := Except.ok.inj (hd.tokens.symm.trans hd'.tokens)
  rw [Grammar.Sum.tokens_injective htokens]

lemma Condition.determined_parse : Determined parse := by
  intro l l' text c d hc hd
  obtain ⟨-, -, hc⟩ := bind_eq_ok.1 hc
  obtain ⟨-, -, hd⟩ := bind_eq_ok.1 hd
  exact Except.ok.inj (hc.symm.trans hd)

/-! ### The texts read last -/

/-- The texts of a list that has the latest first, each text once. -/
def distinct : List String → List String
  | [] => []
  | s :: ss => s :: (distinct ss).filter (· ≠ s)

lemma nodup_distinct (ss : List String) : (distinct ss).Nodup := by
  induction ss with
  | nil => exact List.nodup_nil
  | cons s ss ih => exact List.nodup_cons.2 ⟨by simp, ih.filter _⟩

lemma take_filter_take {ss : List String} (hn : ss.Nodup) (s : String) (n : Nat) :
    ((ss.take (n + 1)).filter (· ≠ s)).take n = (ss.filter (· ≠ s)).take n := by
  induction ss generalizing n with
  | nil => rfl
  | cons t ss ih =>
    obtain ⟨hnotin, hn⟩ := List.nodup_cons.1 hn
    rw [List.take_succ_cons]
    by_cases ht : t = s
    · subst ht
      have hself : ∀ us ⊆ ss, us.filter (· ≠ t) = us := fun us hus =>
        List.filter_eq_self.2 fun u hu => decide_eq_true fun heq => hnotin (heq ▸ hus hu)
      rw [List.filter_cons_of_neg (by simp), List.filter_cons_of_neg (by simp),
        hself _ (List.take_subset n ss), hself ss (List.Subset.refl ss), List.take_take, min_self]
    · rw [List.filter_cons_of_pos (by simpa using ht), List.filter_cons_of_pos (by simpa using ht)]
      cases n with
      | zero => rfl
      | succ n => rw [List.take_succ_cons, List.take_succ_cons, ih hn]

namespace Memo

variable {α : Type} {parse : Limits → String → Except Fault α} {m : Memo α} {seen : List String}
  {l : Limits} {text : String}

/-- The texts that are remembered when some have been read, the latest first. -/
def remembered (seen : List String) : List String := (distinct seen).take capacity

/-- A memo has remembered what has been read. -/
structure Holds (parse : Limits → String → Except Fault α) (seen : List String) (m : Memo α) :
    Prop where
  genuine : m.Genuine parse
  keys : m.entries.map (·.1) = remembered seen

lemma holds_empty : Holds parse [] empty :=
  ⟨by simp [empty, Genuine], rfl⟩

/-- The texts that have been read, after one more has been or has not. -/
def noting (text : String) (answer : Except Fault α) (seen : List String) : List String :=
  if answer.toOption.isSome then text :: seen else seen

lemma lookup_eq_none_iff : m.entries.lookup text = none ↔ text ∉ m.entries.map (·.1) :=
  Table.get?_eq_none_iff (t := m.entries)

lemma remembered_cons (seen : List String) (text : String) :
    remembered (text :: seen) =
      text :: ((remembered seen).filter (· ≠ text)).take (capacity - 1) := by
  exact congrArg (text :: ·) (take_filter_take (nodup_distinct seen) text (capacity - 1)).symm

lemma read_of_lookup {x : α} (h : m.entries.lookup text = some x) :
    m.read (parse l) text = (.ok x, ⟨(text, x) :: m.entries.filter fun e => e.1 ≠ text⟩) := by
  rw [Memo.read, h]

lemma read_of_ok {x : α} (h : m.entries.lookup text = none) (hp : parse l text = .ok x) :
    m.read (parse l) text = (.ok x, ⟨((text, x) :: m.entries).take capacity⟩) := by
  rw [Memo.read, h]
  simp only [hp]

lemma read_of_error {f : Fault} (h : m.entries.lookup text = none) (hp : parse l text = .error f) :
    m.read (parse l) text = (.error f, m) := by
  rw [Memo.read, h]
  simp only [hp]

lemma Holds.read (h : m.Holds parse seen) (l : Limits) (text : String) :
    (m.read (parse l) text).2.Holds parse (noting text (m.read (parse l) text).1 seen) := by
  refine ⟨h.genuine.read_snd l text, ?_⟩
  -- a new text comes in front unless it is refused, and a known one moves there
  rcases hm : m.entries.lookup text with _ | x
  · rcases hp : parse l text with f | x
    · rw [read_of_error hm hp]
      exact h.keys
    · have hnew : (remembered seen).filter (· ≠ text) = remembered seen :=
        List.filter_eq_self.2 fun t ht =>
          decide_eq_true fun heq => lookup_eq_none_iff.1 hm (h.keys ▸ heq ▸ ht)
      calc (m.read (parse l) text).2.entries.map (·.1)
          = (((text, x) :: m.entries).take capacity).map (·.1) := by rw [read_of_ok hm hp]
        _ = text :: (remembered seen).take (capacity - 1) := by
            rw [← h.keys, ← List.map_take]
            rfl
        _ = remembered (text :: seen) := by rw [remembered_cons, hnew]
        _ = remembered (noting text (m.read (parse l) text).1 seen) := by
            rw [read_of_ok hm hp]
            rfl
  · have hin : text ∈ remembered seen := by
      rw [← h.keys]
      exact List.mem_map_of_mem (Table.mem_of_get? hm)
    -- one text goes to the front, so as many as there were are remembered
    have hshort : ((remembered seen).filter (· ≠ text)).length ≤ capacity - 1 := by
      have hlt : ((remembered seen).filter (· ≠ text)).length < (remembered seen).length :=
        List.length_filter_lt_length_iff_exists.2 ⟨text, hin, by simp⟩
      have hle : (remembered seen).length ≤ capacity := List.length_take_le _ _
      omega
    calc (m.read (parse l) text).2.entries.map (·.1)
        = ((text, x) :: m.entries.filter fun e => e.1 ≠ text).map (·.1) := by
          rw [read_of_lookup hm]
      _ = text :: (remembered seen).filter (· ≠ text) := by
          rw [← h.keys, List.filter_map]
          rfl
      _ = remembered (text :: seen) := by rw [remembered_cons, List.take_of_length_le hshort]
      _ = remembered (noting text (m.read (parse l) text).1 seen) := by
          rw [read_of_lookup hm]
          rfl

/-- What an answer is to a text, under limits and with some texts remembered. -/
structure Recalls (parse : Limits → String → Except Fault α) (l : Limits) (seen : List String)
    (text : String) (answer : Except Fault α) : Prop where
  /-- What is remembered is given as it was read. -/
  recalled : text ∈ remembered seen → ∃ l' x, parse l' text = .ok x ∧ answer = .ok x
  /-- What is not remembered is read. -/
  afresh : text ∉ remembered seen → answer = parse l text
  /-- The answer is another one only where the limits refuse what is remembered. -/
  agrees : answer = parse l text ↔ ¬ (text ∈ remembered seen ∧ Fails (parse l text))

lemma Holds.recalls (hd : Determined parse) (h : m.Holds parse seen) (l : Limits) (text : String) :
    Recalls parse l seen text (m.read (parse l) text).1 := by
  have recalled : text ∈ remembered seen →
      ∃ l' x, parse l' text = .ok x ∧ (m.read (parse l) text).1 = .ok x := by
    intro hin
    rw [← h.keys] at hin
    rcases hm : m.entries.lookup text with _ | x
    · exact absurd hin (lookup_eq_none_iff.1 hm)
    · obtain ⟨l', hl'⟩ := h.genuine _ (Table.mem_of_get? hm)
      exact ⟨l', x, hl', by rw [read_of_lookup hm]⟩
  have afresh : text ∉ remembered seen → (m.read (parse l) text).1 = parse l text := by
    intro hnotin
    rw [← h.keys] at hnotin
    have hm : m.entries.lookup text = none := lookup_eq_none_iff.2 hnotin
    rcases hp : parse l text with f | x
    · rw [read_of_error hm hp]
    · rw [read_of_ok hm hp]
  refine ⟨recalled, afresh, ?_⟩
  -- what is remembered was read under other limits, but as the same
  by_cases hin : text ∈ remembered seen
  · obtain ⟨l', x, hl', hx⟩ := recalled hin
    rw [hx]
    rcases hp : parse l text with f | y
    · simp [hin]
    · simp [hd _ _ _ _ _ hl' hp]
  · simp [hin, afresh hin]

end Memo

/-! ### Histories -/

/-- Something that happens while texts are read. -/
inductive Turn where
  /-- The limits become these. -/
  | limits (l : Limits)
  /-- A text is read as a formula. -/
  | formula (text : String)
  /-- A text is read as a condition. -/
  | condition (text : String)

/-- The limits in force, with the memory of what has been read. -/
structure Reader where
  limits : Limits
  memory : Memory

namespace Reader

/-- How the reader reads. -/
def readers (r : Reader) : Readers := r.memory.readers r.limits

def turn (r : Reader) : Turn → Reader
  | .limits l => { r with limits := l }
  | .formula s => { r with memory := r.memory.afterReading r.limits [s] [] }
  | .condition s => { r with memory := r.memory.afterReading r.limits [] [s] }

/-- The reader after some turns, of which the latest comes first. -/
def after (l : Limits) : List Turn → Reader
  | [] => ⟨l, .empty⟩
  | t :: turns => (after l turns).turn t

def formulasRead (l : Limits) : List Turn → List String
  | [] => []
  | .formula s :: turns => Memo.noting s ((after l turns).readers.formula s) (formulasRead l turns)
  | _ :: turns => formulasRead l turns

def conditionsRead (l : Limits) : List Turn → List String
  | [] => []
  | .condition s :: turns =>
    Memo.noting s ((after l turns).readers.condition s) (conditionsRead l turns)
  | _ :: turns => conditionsRead l turns

lemma holds_after (l : Limits) (turns : List Turn) :
    (after l turns).memory.formulas.Holds Formula.parse (formulasRead l turns) ∧
      (after l turns).memory.conditions.Holds Condition.parse (conditionsRead l turns) := by
  induction turns with
  | nil => exact ⟨Memo.holds_empty, Memo.holds_empty⟩
  | cons t turns ih =>
    obtain ⟨hformulas, hconditions⟩ := ih
    cases t with
    | limits l' => exact ⟨hformulas, hconditions⟩
    | formula s => exact ⟨hformulas.read _ s, hconditions⟩
    | condition s => exact ⟨hformulas, hconditions.read _ s⟩

/-- **A text is read as the limits in force say, unless it is remembered.** This holds of formulas and
of conditions, after any turns. What is remembered is given even where the limits have come to
refuse it, and nowhere else is the answer another one. -/
theorem after_recalls (l : Limits) (turns : List Turn) (text : String) :
    Memo.Recalls Formula.parse (after l turns).limits (formulasRead l turns) text
        ((after l turns).readers.formula text) ∧
      Memo.Recalls Condition.parse (after l turns).limits (conditionsRead l turns) text
        ((after l turns).readers.condition text) := by
  obtain ⟨hformulas, hconditions⟩ := holds_after l turns
  exact ⟨hformulas.recalls Formula.determined_parse _ text,
    hconditions.recalls Condition.determined_parse _ text⟩

/-- Texts may be read that the limits in force refuse. -/
theorem outgrown_limits_read :
    ¬ ∀ (l : Limits) (turns : List Turn) (text : String),
      (after l turns).readers.formula text = Formula.parse (after l turns).limits text := by
  intro h
  have hread : (after .standard [.limits ⟨1, 50⟩, .formula "a+b"]).readers.formula "a+b" ≠
      Formula.parse ⟨1, 50⟩ "a+b" := by decide +kernel
  exact hread (h .standard [.limits ⟨1, 50⟩, .formula "a+b"] "a+b")

end Reader

end Crosswalk
