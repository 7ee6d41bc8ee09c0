import Crosswalk.Proofs.Table
import Crosswalk.Readers

/-!
What a memory gives is what reading gives.

A remembered text was read under the limits of its time. So every reading of a text, from memory or
afresh, is one under some limits. As long as the limits stay, a memory reads as they do.
-/

namespace Crosswalk

variable {α ι : Type}

namespace Memo

/-- Every remembered text has been read in one of some ways. -/
def Genuine (parse : ι → String → Except Fault α) (m : Memo α) : Prop :=
  ∀ p ∈ m.entries, ∃ l, parse l p.1 = .ok p.2

variable {parse : ι → String → Except Fault α} {m : Memo α}

lemma Genuine.read_fst (h : m.Genuine parse) (l : ι) (text : String) :
    ∃ l', (m.read (parse l) text).1 = parse l' text := by
  unfold read
  split
  · rename_i x hx
    obtain ⟨l', hl⟩ := h _ (Table.mem_of_get? hx)
    exact ⟨l', hl.symm⟩
  · rcases hp : parse l text with f | x <;> exact ⟨l, by simp [hp]⟩

lemma Genuine.read_snd (h : m.Genuine parse) (l : ι) (text : String) :
    (m.read (parse l) text).2.Genuine parse := by
  unfold read
  split
  · rename_i x hx
    rintro p (_ | ⟨_, hp⟩)
    · exact h _ (Table.mem_of_get? hx)
    · exact h p (List.mem_filter.1 hp).1
  · rcases hp : parse l text with f | x
    · exact h
    · intro p hmem
      rcases List.mem_cons.1 (List.mem_of_mem_take hmem) with rfl | hmem
      · exact ⟨l, hp⟩
      · exact h p hmem

lemma Genuine.afterReading (h : m.Genuine parse) (l : ι) (texts : List String) :
    (m.afterReading (parse l) texts).Genuine parse := by
  unfold Memo.afterReading
  induction texts generalizing m with
  | nil => exact h
  | cons s texts ih => exact ih (h.read_snd l s)

end Memo

/-- Every text is read as it reads under some limits. -/
structure Readers.Genuine (r : Readers) : Prop where
  formula : ∀ text, ∃ l, r.formula text = Formula.parse l text
  condition : ∀ text, ∃ l, r.condition text = Condition.parse l text

lemma Readers.genuine_within (l : Limits) : (within l).Genuine :=
  ⟨fun _ => ⟨l, rfl⟩, fun _ => ⟨l, rfl⟩⟩

namespace Memory

variable {m : Memory}

/-- Every remembered text has been read under these limits. -/
structure Under (l : Limits) (m : Memory) : Prop where
  formulas : m.formulas.Genuine fun _ : Unit => Formula.parse l
  conditions : m.conditions.Genuine fun _ : Unit => Condition.parse l

variable {l : Limits}

lemma under_empty : empty.Under l := ⟨by simp [empty, Memo.empty, Memo.Genuine],
  by simp [empty, Memo.empty, Memo.Genuine]⟩

lemma Under.afterReading (h : m.Under l) (formulas conditions : List String) :
    (m.afterReading l formulas conditions).Under l :=
  ⟨h.formulas.afterReading () formulas, h.conditions.afterReading () conditions⟩

/-- **Under limits that stay, a memory reads as they do.** -/
theorem Under.readers (h : m.Under l) : m.readers l = Readers.within l := by
  have hf : (m.readers l).formula = Formula.parse l := by
    funext text
    obtain ⟨-, ht⟩ := h.formulas.read_fst () text
    exact ht
  have hc : (m.readers l).condition = Condition.parse l := by
    funext text
    obtain ⟨-, ht⟩ := h.conditions.read_fst () text
    exact ht
  exact congrArg₂ Readers.mk hf hc

end Memory

end Crosswalk
