import Mathlib.Data.List.Forall2
import Mathlib.Tactic.Common
import Crosswalk.Fault

/-!
Computations that may fail.

`Fails` says that a computation has no result, and `Raises P` that every fault it may have satisfies
`P`. Both go through sequences and lists, so what an operation fails on can be read off its parts.
-/

namespace Crosswalk

variable {ε α β γ : Type}

def Fails (x : Except ε α) : Prop := ∃ f, x = .error f

/-- Whatever fault a computation has satisfies `P`. -/
def Raises (P : ε → Prop) (x : Except ε α) : Prop := ∀ f, x = .error f → P f

namespace Fallible

variable {x : Except ε α} {k : α → Except ε β}

@[simp] lemma ok_bind (a : α) (k : α → Except ε β) : (Except.ok a >>= k) = k a := rfl
@[simp] lemma error_bind (f : ε) (k : α → Except ε β) :
    ((Except.error f : Except ε α) >>= k) = .error f := rfl
@[simp] lemma pure_ok (a : α) : (pure a : Except ε α) = .ok a := rfl
@[simp] lemma throw_error (f : ε) : (throw f : Except ε α) = .error f := rfl
@[simp] lemma map_ok (g : α → β) (a : α) : g <$> (Except.ok a : Except ε α) = .ok (g a) := rfl
@[simp] lemma map_error (g : α → β) (f : ε) :
    g <$> (Except.error f : Except ε α) = .error f := rfl

lemma bind_eq_ok {b : β} : (x >>= k) = .ok b ↔ ∃ a, x = .ok a ∧ k a = .ok b := by
  cases x <;> simp

lemma map_eq_ok {g : α → β} {b : β} : g <$> x = .ok b ↔ ∃ a, x = .ok a ∧ g a = b := by
  cases x <;> simp

lemma map_eq_error {g : α → β} {f : ε} : g <$> x = .error f ↔ x = .error f := by
  cases x <;> simp

lemma mapError_eq_ok {δ : Type} {g : ε → δ} {a : α} : x.mapError g = .ok a ↔ x = .ok a := by
  cases x <;> simp [Except.mapError]

lemma mapError_eq_error {δ : Type} {g : ε → δ} {f : δ} :
    x.mapError g = .error f ↔ ∃ e, x = .error e ∧ g e = f := by
  cases x <;> simp [Except.mapError]

lemma toOption_eq_some {a : α} : x.toOption = some a ↔ x = .ok a := by
  cases x <;> simp [Except.toOption]

/-! ### Failing -/

@[simp] lemma fails_ok (a : α) : Fails (.ok a : Except ε α) ↔ False := by simp [Fails]
@[simp] lemma fails_error (f : ε) : Fails (.error f : Except ε α) ↔ True := by simp [Fails]

lemma not_fails : ¬ Fails x ↔ ∃ a, x = .ok a := by
  cases x <;> simp

@[simp] lemma fails_map (g : α → β) : Fails (g <$> x) ↔ Fails x := by
  cases x <;> simp

lemma fails_bind : Fails (x >>= k) ↔ Fails x ∨ ∃ a, x = .ok a ∧ Fails (k a) := by
  cases x <;> simp

lemma fails_bind_of {p : Prop} (h : ∀ a, Fails (k a) ↔ p) : Fails (x >>= k) ↔ Fails x ∨ p := by
  cases x <;> simp [h]

lemma fails_bind_total (h : ∀ a, ¬ Fails (k a)) : Fails (x >>= k) ↔ Fails x :=
  (fails_bind_of fun a => iff_false_intro (h a)).trans (or_false _).to_iff

lemma fails_mapM {g : α → Except ε β} {xs : List α} :
    Fails (xs.mapM g) ↔ ∃ a ∈ xs, Fails (g a) := by
  induction xs with
  | nil => simp
  | cons a xs ih =>
    rw [List.mapM_cons]
    rcases h : g a with f | b
    · simp [h]
    · simp [h, fails_bind, ih]

lemma mapM_eq_ok {g : α → Except ε β} {h : α → β} {xs : List α}
    (hg : ∀ a ∈ xs, g a = .ok (h a)) : xs.mapM g = .ok (xs.map h) := by
  induction xs with
  | nil => rfl
  | cons a xs ih =>
    rw [List.mapM_cons, hg a (by simp), ih fun b hb => hg b (by simp [hb])]
    rfl

lemma mapM_eq_ok_iff {g : α → Except ε β} {xs : List α} {ys : List β} :
    xs.mapM g = .ok ys ↔ List.Forall₂ (fun a b => g a = .ok b) xs ys := by
  induction xs generalizing ys with
  | nil => simp [eq_comm]
  | cons a xs ih =>
    rw [List.mapM_cons, bind_eq_ok, List.forall₂_cons_left_iff]
    simp only [bind_eq_ok, ih, pure_ok, Except.ok.injEq]
    constructor
    · rintro ⟨b, hb, zs, hzs, rfl⟩
      exact ⟨b, zs, hb, hzs, rfl⟩
    · rintro ⟨b, zs, hb, hzs, rfl⟩
      exact ⟨b, hb, zs, hzs, rfl⟩

lemma mem_of_mapM {g : α → Except ε β} {xs : List α} {ys : List β} (h : xs.mapM g = .ok ys) :
    ∀ b ∈ ys, ∃ a ∈ xs, g a = .ok b := by
  induction xs generalizing ys with
  | nil =>
    obtain rfl : [] = ys := by simpa using h
    simp
  | cons a xs ih =>
    rw [List.mapM_cons] at h
    obtain ⟨b, hb, h⟩ := bind_eq_ok.1 h
    obtain ⟨zs, hz, h⟩ := bind_eq_ok.1 h
    obtain rfl : b :: zs = ys := by simpa using h
    rintro y (_ | ⟨_, hy⟩)
    · exact ⟨a, by simp, hb⟩
    · obtain ⟨x, hx, hxy⟩ := ih hz y hy
      exact ⟨x, by simp [hx], hxy⟩

lemma eq_map_of_mapM {g : α → Except ε β} {h : α → β} {xs : List α} {ys : List β}
    (hg : ∀ a b, g a = .ok b → b = h a) (hys : xs.mapM g = .ok ys) : ys = xs.map h := by
  induction xs generalizing ys with
  | nil => exact (Except.ok.inj hys).symm
  | cons a xs ih =>
    rw [List.mapM_cons] at hys
    obtain ⟨b, hb, hys⟩ := bind_eq_ok.1 hys
    obtain ⟨zs, hzs, hys⟩ := bind_eq_ok.1 hys
    have hhead : b = h a := hg a b hb
    have htail : zs = xs.map h := ih hzs
    rw [List.map_cons, ← hhead, ← htail]
    exact (Except.ok.inj hys).symm

/-! ### Faults -/

variable {P Q : ε → Prop}

@[simp] lemma raises_ok (a : α) : Raises P (.ok a : Except ε α) ↔ True := by simp [Raises]
@[simp] lemma raises_error (f : ε) : Raises P (.error f : Except ε α) ↔ P f := by simp [Raises]

lemma raises_mono (h : ∀ f, P f → Q f) (hx : Raises P x) : Raises Q x :=
  fun f hf => h f (hx f hf)

@[simp] lemma raises_map (g : α → β) : Raises P (g <$> x) ↔ Raises P x := by
  cases x <;> simp

lemma raises_bind (hx : Raises P x) (hk : ∀ a, x = .ok a → Raises P (k a)) :
    Raises P (x >>= k) := by
  cases x with
  | error f => simpa using hx
  | ok a => simpa using hk a rfl

lemma raises_mapM {g : α → Except ε β} {xs : List α} (h : ∀ a ∈ xs, Raises P (g a)) :
    Raises P (xs.mapM g) := by
  induction xs with
  | nil => simp
  | cons a xs ih =>
    rw [List.mapM_cons]
    refine raises_bind (h a (by simp)) fun b _ => ?_
    refine raises_bind (ih fun c hc => h c (by simp [hc])) fun _ _ => ?_
    simp

end Fallible

namespace Fault

open Fallible

abbrev Foreign (x : Except Fault α) : Prop := Raises (fun f => f.kind.isOwn = false) x

lemma foreign_of_integerTooLong {x : Except Fault α} (h : Raises (· = .integerTooLong) x) :
    Foreign x :=
  raises_mono (fun f hf => by rw [hf]; rfl) h

lemma ofDecimal_eq_ok {x : Except Decimal.Signal α} {a : α} : ofDecimal x = .ok a ↔ x = .ok a := by
  cases x <;> simp [ofDecimal]

lemma foreign_ofDecimal (x : Except Decimal.Signal α) : Foreign (ofDecimal x) := by
  rcases x with s | a
  · cases s <;> simp [ofDecimal, ofSignal, FaultKind.isOwn]
  · simp [ofDecimal]

lemma raises_ofDecimal (x : Except Decimal.Signal α) :
    Raises (·.kind.isArithmetic) (ofDecimal x) := by
  rcases x with s | a
  · cases s <;> simp [ofDecimal, ofSignal, FaultKind.isArithmetic]
  · simp [ofDecimal]

end Fault

end Crosswalk
