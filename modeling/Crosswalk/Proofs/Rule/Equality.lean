import Crosswalk.Proofs.Value.Equality
import Crosswalk.Rule.Check

/-!
What strict equality decides, in lists and in rules.

Strict equality divides values into classes, and no search in a list and no rule that compares by it
tells the values of one class apart. A text is in no class with a number, and a truth value in none with
anything else. Inside lists, tuples and objects, though, a truth value may face the number that it counts
as.
-/

namespace Crosswalk

namespace Value

variable {v w : Value} {vs ws : List Value}

lemma containsStrict_iff (hvs : ∀ u ∈ vs, u.Definite) (hv : v.Definite) :
    containsStrict vs v ↔ ∃ u ∈ vs, u.strictMeaning = v.strictMeaning := by
  rw [containsStrict, List.any_eq_true]
  exact exists_congr fun u => and_congr_right fun hu => strictEquals_iff (hvs u hu) hv

def SameMembers (vs ws : List Value) : Prop :=
  (∀ v ∈ vs, containsStrict ws v) ∧ ∀ w ∈ ws, containsStrict vs w

lemma containsStrict_of_members (hvs : ∀ u ∈ vs, u.Definite) (hws : ∀ u ∈ ws, u.Definite)
    (hv : v.Definite) (hw : w.Definite) (hmembers : ∀ u ∈ vs, containsStrict ws u)
    (hsame : v.strictMeaning = w.strictMeaning) (h : containsStrict vs v) : containsStrict ws w := by
  obtain ⟨u, hu, huv⟩ := (containsStrict_iff hvs hv).1 h
  obtain ⟨x, hx, hxu⟩ := (containsStrict_iff hws (hvs u hu)).1 (hmembers u hu)
  exact (containsStrict_iff hws hw).2 ⟨x, hx, (hxu.trans huv).trans hsame⟩

lemma containsStrict_congr (hvs : ∀ u ∈ vs, u.Definite) (hws : ∀ u ∈ ws, u.Definite)
    (hv : v.Definite) (hw : w.Definite) (hmembers : SameMembers vs ws) (hsame : v.strictEquals w) :
    containsStrict vs v = containsStrict ws w := by
  rw [strictEquals_iff hv hw] at hsame
  rw [Bool.eq_iff_iff]
  exact ⟨containsStrict_of_members hvs hws hv hw hmembers.1 hsame,
    containsStrict_of_members hws hvs hw hv hmembers.2 hsame.symm⟩

end Value

namespace Rule

def Operator.isEquality : Operator → Bool
  | .equals | .notEquals | .isIn | .notIn => true
  | _ => false

namespace Logic

variable {l m : Logic} {v w : Value}

/-- Every value that is compared with is definite. -/
structure IsDefinite (l : Logic) : Prop where
  value : l.value.Definite
  values : ∀ vs ∈ l.values, ∀ v ∈ vs, v.Definite

/-- Two logics compare in one way, with values of the same classes. -/
structure Alike (l m : Logic) : Prop where
  operator : l.operator = m.operator
  value : l.value.strictEquals m.value
  values : Option.Rel Value.SameMembers l.values m.values

lemma equals_eq (hv : v.Definite) (l : Logic) : l.equals v = v.strictEquals l.value := by
  rw [equals]
  cases hv with
  | null => cases l.value <;> rfl
  | float hx => exact if_neg (by simp [Value.isMissing, hx])
  | decimal hd => exact if_neg (by simp [Value.isMissing, hd])
  | _ => rfl

lemma lists_congr (hl : l.IsDefinite) (hm : m.IsDefinite) (h : l.Alike m) (hv : v.Definite)
    (hw : w.Definite) (hsame : v.strictEquals w) : l.lists v = m.lists w := by
  rw [lists, lists]
  rcases hlv : l.values with _ | vs <;> rcases hmv : m.values with _ | ws <;>
    have hmembers := h.values <;> rw [hlv, hmv] at hmembers <;> cases hmembers
  case none => rfl
  case some hmembers =>
    exact Value.containsStrict_congr (hl.values vs hlv) (hm.values ws hmv) hv hw hmembers hsame

/-- **A rule that compares by strict equality** depends on the classes of values only. -/
lemma check_congr (hop : l.operator.isEquality) (hl : l.IsDefinite) (hm : m.IsDefinite)
    (h : l.Alike m) (hv : v.Definite) (hw : w.Definite) (hsame : v.strictEquals w) :
    l.check v = m.check w := by
  have hequals : l.equals v = m.equals w := by
    rw [equals_eq hv, equals_eq hw]
    exact Value.strictEquals_congr hv hw hl.value hm.value hsame h.value
  have hlists := lists_congr hl hm h hv hw hsame
  rw [check, check, ← h.operator, hequals, hlists]
  cases hcase : l.operator <;> first | rfl | (rw [hcase] at hop; cases hop)

end Logic

end Rule

namespace Value

/-- **Strict equality divides values into classes.** It is an equivalence of definite values. Numbers are
related exactly if they denote the same quantity, and a truth value only to a truth value. At any place
inside values that it relates, a text faces only the same text, and a number only one of the same quantity
or a truth value that counts as it. It keeps truth values apart from numbers at every depth exactly where
they meet. What a list contains, and what a rule of equality says, depends on the classes only. -/
theorem strictEquals_classes (hv : v.Definite) (hw : w.Definite) :
    (Equivalence fun v w : {v : Value // v.Definite} => v.1.strictEquals w.1 = true) ∧
    (∀ x y, v.quantity? = some x → w.quantity? = some y → (v.strictEquals w ↔ x = y)) ∧
    (v.meaning false = w.meaning false ↔ v.strictEquals w ∧ TruthsMeet v w) ∧
    (v.strictEquals w →
      v.isTruth = w.isTruth ∧
      (∀ a b, Facing v w a b → (∀ s, a = .text s ↔ b = .text s) ∧
        ∀ x, a.quantity? = some x →
          b.quantity? = some x ∨ ∃ c, b = .bool c ∧ x = .finite (if c then 1 else 0)) ∧
      (∀ vs ws : List Value, (∀ u ∈ vs, u.Definite) → (∀ u ∈ ws, u.Definite) → SameMembers vs ws →
        containsStrict vs v = containsStrict ws w) ∧
      ∀ l m : Rule.Logic, l.operator.isEquality → l.IsDefinite → m.IsDefinite → l.Alike m →
        l.check v = m.check w) := by
  refine ⟨equivalence_strictEquals, ?_, ?_, fun hsame => ⟨?_, ?_, ?_, ?_⟩⟩
  · exact fun x y hx hy => strictEquals_numbers hv hw hx hy
  · -- apart from numbers and counted as numbers, truth values differ only where they meet those
    refine (parted_of_definite hv w).trans ?_
    rw [strictEquals_iff hv hw]
    refine and_congr_left fun hmeet => ⟨fun h => ?_, meaning_of_strictMeaning⟩
    exact strictMeaning_of_meaning h (hmeet v w (.whole v w))
  · exact isTruth_of_strictEquals hsame
  · -- what faces each other means the same, and the meaning tells texts and quantities
    intro a b hfacing
    have hmeaning := hfacing.meaning_eq (meaning_of_strictEquals hv hw hsame)
    refine ⟨fun s => ?_, fun x hx => quantity_of_meaning ?_⟩
    · rw [← meaning_eq_text_iff, hmeaning, meaning_eq_text_iff]
    · rw [← hmeaning, meaning_of_quantity hx]
  · exact fun vs ws hvs hws hmembers => containsStrict_congr hvs hws hv hw hmembers hsame
  · exact fun l m hop hl hm h => Rule.Logic.check_congr hop hl hm h hv hw hsame

/-- The integer 1 and the decimal 1.00 are of one class, and a list contains both or none. -/
theorem decimal_one_of_class_one :
    (Value.int 1).strictEquals (.decimal (.finite false 100 (-2))) ∧
      ∀ s, containsStrict [.text s, .int 1] (.int 1) =
        containsStrict [.text s, .int 1] (.decimal (.finite false 100 (-2))) := by
  have hone : (Value.int 1).Definite := .int 1
  have hdecimal : (Value.decimal (.finite false 100 (-2))).Definite := .decimal rfl
  obtain ⟨-, hnumbers, -, hclass⟩ := strictEquals_classes hone hdecimal
  have hsame : (Value.int 1).strictEquals (.decimal (.finite false 100 (-2))) := by
    refine (hnumbers (.finite 1) (.finite 1) rfl ?_).2 rfl
    norm_num [quantity?, Decimal.quantity?, Decimal.toRat, Binary64.signed]
  refine ⟨hsame, fun s => ?_⟩
  have hlist : ∀ u ∈ [Value.text s, .int 1], u.Definite := by
    simp [Definite.text, Definite.int]
  have hself : ∀ u ∈ [Value.text s, .int 1], containsStrict [.text s, .int 1] u :=
    fun u hu => (containsStrict_iff hlist (hlist u hu)).2 ⟨u, hu, rfl⟩
  exact (hclass hsame).2.2.1 _ _ hlist hlist ⟨hself, hself⟩

/-- In strictly equal lists, a truth value faces the number 1. -/
theorem truth_faces_one :
    (Value.list [.bool true]).strictEquals (.list [.int 1]) = true ∧
      Facing (.list [.bool true]) (.list [.int 1]) (.bool true) (.int 1) :=
  ⟨rfl, .item 0 rfl rfl (.whole _ _)⟩

end Value

end Crosswalk
