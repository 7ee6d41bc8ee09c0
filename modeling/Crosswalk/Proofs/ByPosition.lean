import Mathlib.Tactic.Common
import Crosswalk.Proofs.Fallible

/-!
Lists whose items have a position: what stands at one position.

Items at a position are picked by `filter`. Picking commutes with what the program does to such
lists: it numbers them, sorts them by position, joins the issues of each record, and works on each
record by itself.
-/

namespace Crosswalk.ByPosition

open Fallible

variable {α β ε : Type}

/-- Whether an item stands at most at the position of another. -/
def atMost (f : α → Int) (x y : α) : Bool := decide (f x ≤ f y)

lemma atMost_trans (f : α → Int) (a b c : α) (h : atMost f a b) (h' : atMost f b c) :
    atMost f a c := by
  simp only [atMost, decide_eq_true_eq] at h h' ⊢
  omega

lemma atMost_total (f : α → Int) (a b : α) : atMost f a b || atMost f b a := by
  simp only [atMost, Bool.or_eq_true, decide_eq_true_eq]
  omega

lemma pairwise_mergeSort (f : α → Int) (xs : List α) :
    (xs.mergeSort fun x y => decide (f x ≤ f y)).Pairwise fun x y => f x ≤ f y := by
  refine (List.pairwise_mergeSort (atMost_trans f) (atMost_total f) xs).imp fun h => ?_
  simpa only [atMost, decide_eq_true_eq] using h

lemma filter_mergeSort (f : α → Int) (i : Int) (xs : List α) :
    (xs.mergeSort fun x y => decide (f x ≤ f y)).filter (f · = i) = xs.filter (f · = i) := by
  have hle : (xs.filter (f · = i)).Pairwise fun x y => atMost f x y := by
    refine List.pairwise_of_forall_mem_list fun a ha b hb => ?_
    simp only [List.mem_filter, decide_eq_true_eq] at ha hb
    simp only [atMost, decide_eq_true_eq]
    omega
  have hsub := List.sublist_mergeSort (atMost_trans f) (atMost_total f) hle List.filter_sublist
  have hsub := hsub.filter (f · = i)
  rw [List.filter_filter] at hsub
  simp only [Bool.and_self] at hsub
  refine (hsub.eq_of_length ?_).symm
  exact (((List.mergeSort_perm xs _).filter _).length_eq).symm

lemma filter_zipIdx (xs : List α) (n i : Nat) :
    (xs.zipIdx n).filter (fun p => p.2 = n + i) = (xs[i]?.map (·, n + i)).toList := by
  induction xs generalizing n i with
  | nil => simp
  | cons x xs ih =>
    rw [List.zipIdx_cons]
    cases i with
    | zero =>
      have hrest : (xs.zipIdx (n + 1)).filter (fun p => p.2 = n + 0) = [] := by
        rw [List.filter_eq_nil_iff]
        rintro ⟨y, j⟩ hy
        have := (List.mem_zipIdx hy).1
        simp only [decide_eq_true_eq]
        omega
      rw [List.filter_cons_of_pos (by simp), hrest]
      simp
    | succ i =>
      rw [List.filter_cons_of_neg (by simp), show n + (i + 1) = n + 1 + i by omega, ih]
      simp

lemma filter_numbered {g : α × Nat → Option β} {f : β → Int} (h : ∀ p b, g p = some b → f b = p.2)
    (xs : List α) (i : Nat) :
    (xs.zipIdx.filterMap g).filter (f · = i) = (xs[i]?.bind fun a => g (a, i)).toList := by
  have hg : (fun p => (g p).filter (f · = i)) =
      fun p => if decide (p.2 = 0 + i) then g p else none := by
    funext p
    rcases hp : g p with _ | b
    · simp
    · have hb : f b = i ↔ p.2 = 0 + i := by
        have := h p b hp
        omega
      simp [Option.filter, hb]
  rw [List.filter_filterMap, hg, ← List.filterMap_filter, filter_zipIdx, Nat.zero_add]
  rcases xs[i]? with _ | a
  · rfl
  · rcases hp : g (a, i) with _ | b <;> simp [hp]

lemma pairwise_numbered {g : α × Nat → Option β} {f : β → Int} (h : ∀ p b, g p = some b → f b = p.2)
    (xs : List α) : (xs.zipIdx.filterMap g).Pairwise fun b c => f b < f c := by
  rw [List.pairwise_filterMap]
  refine List.pairwise_iff_getElem.2 fun j k hj hk hjk b hb c hc => ?_
  simp only [List.getElem_zipIdx] at hb hc
  rw [h _ _ hb, h _ _ hc]
  simpa using hjk

lemma filter_flatMap {f : β → Int} {g : α → List β} {p : α → Int}
    (h : ∀ a, ∀ b ∈ g a, f b = p a) (i : Int) (xs : List α) :
    (xs.flatMap g).filter (f · = i) = (xs.filter (p · = i)).flatMap g := by
  induction xs with
  | nil => rfl
  | cons a xs ih =>
    rw [List.flatMap_cons, List.filter_append, ih]
    by_cases ha : p a = i
    · rw [List.filter_cons_of_pos (by simpa using ha), List.flatMap_cons,
        List.filter_eq_self.2 fun b hb => by simpa [h a b hb] using ha]
    · rw [List.filter_cons_of_neg (by simpa using ha),
        List.filter_eq_nil_iff.2 fun b hb => by simpa [h a b hb] using ha, List.nil_append]

lemma filter_fst {κ : Type} [DecidableEq κ] {xs : List (κ × α)}
    (h : xs.Pairwise fun p q => p.1 ≠ q.1) (i : κ) :
    xs.filter (·.1 = i) = ((xs.lookup i).map (i, ·)).toList := by
  induction xs with
  | nil => rfl
  | cons p xs ih =>
    obtain ⟨j, a⟩ := p
    rw [List.pairwise_cons] at h
    by_cases hj : j = i
    · subst hj
      rw [List.filter_cons_of_pos (by simp), List.lookup_cons_self,
        List.filter_eq_nil_iff.2 fun q hq => by simpa using (h.1 q hq).symm]
      rfl
    · rw [List.filter_cons_of_neg (by simpa using hj), ih h.2, List.lookup_cons,
        show (i == j) = false by simpa using Ne.symm hj]

lemma mapM_filter {g : α → Except ε β} {p : α → Bool} {q : β → Bool}
    (h : ∀ a b, g a = .ok b → q b = p a) {xs : List α} {ys : List β} (hy : xs.mapM g = .ok ys) :
    (xs.filter p).mapM g = .ok (ys.filter q) := by
  induction xs generalizing ys with
  | nil =>
    obtain rfl : [] = ys := by simpa using hy
    rfl
  | cons a xs ih =>
    rw [List.mapM_cons] at hy
    obtain ⟨b, hb, hy⟩ := bind_eq_ok.1 hy
    obtain ⟨zs, hz, hy⟩ := bind_eq_ok.1 hy
    obtain rfl : b :: zs = ys := by simpa using hy
    rw [List.filter_cons, List.filter_cons, h a b hb]
    split
    · rw [List.mapM_cons, hb, ih hz]
      rfl
    · exact ih hz

end Crosswalk.ByPosition
