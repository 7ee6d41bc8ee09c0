import Mathlib.Data.List.Nodup
import Crosswalk.Proofs.ByPosition
import Crosswalk.Proofs.Service.History

/-!
Runs at rising clock readings.

What an operation dates, it dates by its own clock reading, in UTC. So where the readings of a run
rise, a list at whose end operations note their moments has these in the order of time, no two alike
and all with a zone. To sort it, the latest first, is to turn it around, and so it is with whatever
is picked from it.
-/

namespace Crosswalk

namespace Moment

@[simp] lemma utcTicks_atUtc (t : Moment) : t.atUtc.utcTicks = t.ticks := Int.sub_zero t.ticks

end Moment

namespace Service

open ByPosition

variable {ops : List (Circumstances × Operation)} {p : Circumstances × Operation}
  {ts us : List Moment}

/-- Each operation is done at a later clock reading than those before it. -/
def Rises (ops : List (Circumstances × Operation)) : Prop :=
  ops.Pairwise fun p q => p.1.now.ticks < q.1.now.ticks

lemma rises_snoc : Rises (ops ++ [p]) ↔
    Rises ops ∧ ∀ q ∈ ops, q.1.now.ticks < p.1.now.ticks := by
  simp [Rises, List.pairwise_append]

/-- Moments in the order of time, each the one of an operation of a run. -/
structure Dated (ops : List (Circumstances × Operation)) (ts : List Moment) : Prop where
  rising : ts.Pairwise fun t u => t.utcTicks < u.utcTicks
  made : ∀ t ∈ ts, ∃ p ∈ ops, t = p.1.now.atUtc

namespace Dated

lemma nil (ops : List (Circumstances × Operation)) : Dated ops [] :=
  ⟨.nil, fun _ ht => absurd ht List.not_mem_nil⟩

lemma sublist (h : Dated ops ts) (hsub : us.Sublist ts) : Dated ops us :=
  ⟨h.rising.sublist hsub, fun t ht => h.made t (hsub.subset ht)⟩

lemma keep (h : Dated ops ts) (p : Circumstances × Operation) : Dated (ops ++ [p]) ts := by
  refine ⟨h.rising, fun t ht => ?_⟩
  obtain ⟨q, hq, hqt⟩ := h.made t ht
  exact ⟨q, List.mem_append_left _ hq, hqt⟩

lemma snoc (h : Dated ops ts) (hlater : ∀ q ∈ ops, q.1.now.ticks < p.1.now.ticks) :
    Dated (ops ++ [p]) (ts ++ [p.1.now.atUtc]) where
  rising := by
    rw [List.pairwise_append]
    refine ⟨h.rising, List.pairwise_singleton _ _, ?_⟩
    intro t ht u hu
    obtain rfl := List.mem_singleton.1 hu
    obtain ⟨q, hq, rfl⟩ := h.made t ht
    rw [Moment.utcTicks_atUtc, Moment.utcTicks_atUtc]
    exact hlater q hq
  made := by
    intro t ht
    rcases List.mem_append.1 ht with ht | ht
    · exact (h.keep p).made t ht
    · obtain rfl := List.mem_singleton.1 ht
      exact ⟨p, by simp, rfl⟩

lemma haveOrder (h : Dated ops ts) : Store.haveOrder ts := by
  have hzoned : ∀ t ∈ ts, t.offset.isSome := by
    intro t ht
    obtain ⟨q, -, rfl⟩ := h.made t ht
    rfl
  rw [Store.haveOrder, Bool.or_eq_true, List.all_eq_true]
  exact .inl hzoned

variable {α : Type} {moment : α → Moment} {xs : List α}

lemma pairwise_reverse (h : Dated ops (xs.map moment)) :
    xs.reverse.Pairwise fun x y => (moment y).utcTicks < (moment x).utcTicks := by
  have hrising := h.rising
  rw [List.pairwise_map] at hrising
  exact List.pairwise_reverse.2 hrising

lemma eq_of_utcTicks (h : Dated ops (xs.map moment)) {x y : α} (hx : x ∈ xs) (hy : y ∈ xs)
    (heq : (moment x).utcTicks = (moment y).utcTicks) : x = y := by
  have hrising := h.rising
  rw [List.pairwise_map] at hrising
  have hnodup : (xs.map fun x => (moment x).utcTicks).Nodup := by
    rw [List.Nodup, List.pairwise_map]
    exact hrising.imp fun hlt => Int.ne_of_lt hlt
  exact List.inj_on_of_nodup_map hnodup hx hy heq

lemma latestFirst (h : Dated ops (xs.map moment)) :
    Store.latestFirst moment xs = .ok xs.reverse := by
  rw [Store.latestFirst, if_pos h.haveOrder]
  congr 1
  have hsorted : (xs.mergeSort fun x y =>
      decide ((moment y).utcTicks ≤ (moment x).utcTicks)).Pairwise
        fun x y => (moment y).utcTicks ≤ (moment x).utcTicks := by
    have hp := pairwise_mergeSort (fun x => -(moment x).utcTicks) xs
    simpa using hp
  have hreverse : xs.reverse.Pairwise fun x y => (moment y).utcTicks ≤ (moment x).utcTicks :=
    h.pairwise_reverse.imp fun hlt => Int.le_of_lt hlt
  have hperm : (xs.mergeSort fun x y =>
      decide ((moment y).utcTicks ≤ (moment x).utcTicks)).Perm xs.reverse :=
    (List.mergeSort_perm _ _).trans (List.reverse_perm xs).symm
  -- both lists are in order, and no two of their items have one moment to change places by
  refine List.Perm.eq_of_pairwise ?_ hsorted hreverse hperm
  intro x y hx hy hyx hxy
  rw [List.mem_mergeSort] at hx
  rw [List.mem_reverse] at hy
  exact h.eq_of_utcTicks hx hy (Int.le_antisymm hxy hyx)

end Dated

lemma dated_run {noted : Store → List Moment} (hempty : noted .empty = [])
    (hstep : ∀ (e : Environment) (s : Store) (op : Operation) (r : Except Failure Answer × Store),
      s.Sound → Effect e s op r → noted r.2 = noted s ∨ noted r.2 = noted s ++ [e.fresh.now])
    (rises : Rises ops) : Dated ops (noted (run .initial ops).1.store) := by
  induction ops using List.reverseRecOn with
  | nil =>
    have hinitial : noted (run .initial []).1.store = [] := hempty
    rw [hinitial]
    exact .nil []
  | append_singleton ops p ih =>
    obtain ⟨hops, hlater⟩ := rises_snoc.1 rises
    have hdated := ih hops
    rw [run_snoc]
    rcases hstep _ _ _ _ (sound_run ops) (step_effect p.1 _ p.2) with h | h
    · rw [h]
      exact hdated.keep p
    · rw [h]
      exact hdated.snoc hlater

def onDay (day : Nat) (id : String) : Circumstances :=
  { smallEnvironment.toCircumstances with id, now := .midnight ⟨2025, 1, day⟩ }

end Service

end Crosswalk
