import Mathlib.Data.List.GetD
import Mathlib.Data.List.Infix
import Crosswalk.Proofs.Contribution.Running

/-!
Totals that are changed in place.

Totals are kept in cells, and the baselines are cells that others may hold as well. The totals of an
employee and plan year are opened once, in a new cell that starts as a copy of the baseline; every
further record of theirs changes that cell. The verdicts are those of totals that run along, and the
cells that were there before a batch are as they were after it: what is open has a cell of its own
behind them.
-/

namespace Crosswalk.Contribution

open Fallible

structure Ledger where
  /-- The totals that are kept; the address of totals is their place here. -/
  cells : List Totals
  /-- Where the totals of an employee and plan year are, once they are open. -/
  opened : List ((String × Nat) × Nat)

namespace Ledger

/-- The totals at an address. -/
def totalsAt (l : Ledger) (address : Nat) : Totals := l.cells.getD address .zero

/-- The address of an employee's totals for a year; those that are not open yet start in a new cell
as a copy of the baseline. -/
def openFor (l : Ledger) (baselines : Table Nat) (employee : String) (year : Nat) : Nat × Ledger :=
  match l.opened.lookup (employee, year) with
  | some address => (address, l)
  | none =>
    let start := ((Table.get? baselines employee).map l.totalsAt).getD .zero
    (l.cells.length, ⟨l.cells ++ [start], ((employee, year), l.cells.length) :: l.opened⟩)

def put (l : Ledger) (address : Nat) (t : Totals) : Ledger :=
  { l with cells := l.cells.set address t }

end Ledger

section

variable (clock : Clock) (plan : PlanLimits) (ratio : Number) (baselines : Table Nat)

/-- The verdict on the next record, with the totals changed in place. -/
def checkNextIn (l : Ledger) (record : Record) : Except Fault (Verdict × Ledger) := do
  let year ← planYear clock record
  match ← employee? record with
  | none =>
    let v ← verdict clock record year .zero plan ratio
    let _ ← addTo .zero record
    return (v, l)
  | some employee =>
    let (address, l) := l.openFor baselines employee year
    let v ← verdict clock record year (l.totalsAt address) plan ratio
    return (v, l.put address (← addTo (l.totalsAt address) record))

/-- The verdicts on records with their positions, in order, and the ledger after them. -/
def checkAllIn (l : Ledger) :
    List (Int × Record) → Except Fault (List (Int × Verdict) × Ledger)
  | [] => .ok ([], l)
  | (index, record) :: rest => do
    let (v, l) ← checkNextIn clock plan ratio baselines l record
    let (vs, l) ← checkAllIn l rest
    return ((index, v) :: vs, l)

end

/-! ### Cells of its own -/

/-- The cells hold the baselines at the addresses of their employees. -/
structure Holds (cells : List Totals) (addresses : Table Nat) (baselines : Table Totals) :
    Prop where
  within : ∀ employee, ∀ a ∈ Table.get? addresses employee, a < cells.length
  held : ∀ employee, Table.get? baselines employee =
    (Table.get? addresses employee).map fun a => cells.getD a .zero

lemma Holds.mono {cells cells' : List Totals} {addresses : Table Nat} {baselines : Table Totals}
    (h : Holds cells addresses baselines) (hkept : cells <+: cells') :
    Holds cells' addresses baselines where
  within employee a ha := (h.within employee a ha).trans_le hkept.length_le
  held employee := by
    obtain ⟨rest, rfl⟩ := hkept
    rw [h.held]
    exact Option.map_congr fun a ha => (List.getD_append _ _ _ _ (h.within employee a ha)).symm

/-- The totals of an employee and year that a record of theirs would be judged by. -/
def Ledger.soFar (l : Ledger) (addresses : Table Nat) (employee : String) (year : Nat) : Totals :=
  match l.opened.lookup (employee, year) with
  | some a => l.totalsAt a
  | none => ((Table.get? addresses employee).map l.totalsAt).getD .zero

/-- The ledger has the totals that run along, in cells of its own behind the given ones. -/
structure Ledger.Follows (l : Ledger) (cells : List Totals) (addresses : Table Nat)
    (baselines : Table Totals) (running : Running) : Prop where
  kept : cells <+: l.cells
  fresh : ∀ k a, l.opened.lookup k = some a → cells.length ≤ a ∧ a < l.cells.length
  apart : ∀ k k' a, l.opened.lookup k = some a → l.opened.lookup k' = some a → k = k'
  totals : ∀ employee year,
    l.soFar addresses employee year = running.soFar baselines employee year

variable {cells : List Totals} {addresses : Table Nat} {baselines : Table Totals} {l : Ledger}
  {running : Running} {employee : String} {year : Nat}

lemma totalsAt_append (l : Ledger) (rest : List Totals) (opened : List ((String × Nat) × Nat))
    {a : Nat} (h : a < l.cells.length) :
    (⟨l.cells ++ rest, opened⟩ : Ledger).totalsAt a = l.totalsAt a :=
  List.getD_append _ _ _ _ h

@[simp] lemma totalsAt_put_self {a : Nat} (h : a < l.cells.length) (t : Totals) :
    (l.put a t).totalsAt a = t := by
  simp [Ledger.put, Ledger.totalsAt, h]

lemma totalsAt_put_of_ne {a b : Nat} (h : b ≠ a) (t : Totals) :
    (l.put a t).totalsAt b = l.totalsAt b := by
  simp [Ledger.put, Ledger.totalsAt, List.getD_eq_getElem?_getD, List.getElem?_set_ne h.symm]

@[simp] lemma opened_put (a : Nat) (t : Totals) : (l.put a t).opened = l.opened := rfl

lemma follows_start (h : Holds cells addresses baselines) :
    (⟨cells, []⟩ : Ledger).Follows cells addresses baselines [] where
  kept := List.prefix_rfl
  fresh := by simp
  apart := by simp
  totals employee year := by
    simp only [Ledger.soFar, Running.soFar, List.lookup_nil, h.held]
    rfl

lemma Ledger.Follows.start_append (h : l.Follows cells addresses baselines running)
    (hholds : Holds cells addresses baselines) (rest : List Totals)
    (opened : List ((String × Nat) × Nat)) (employee : String) :
    (Table.get? addresses employee).map (⟨l.cells ++ rest, opened⟩ : Ledger).totalsAt =
      (Table.get? addresses employee).map l.totalsAt :=
  Option.map_congr fun _ ha =>
    totalsAt_append l rest opened ((hholds.within employee _ ha).trans_le h.kept.length_le)

/-- Opening totals changes none that anyone is judged by. -/
lemma Ledger.Follows.openFor (h : l.Follows cells addresses baselines running)
    (hholds : Holds cells addresses baselines) (employee : String) (year : Nat) :
    (l.openFor addresses employee year).2.Follows cells addresses baselines running ∧
      (l.openFor addresses employee year).2.opened.lookup (employee, year) =
        some (l.openFor addresses employee year).1 := by
  unfold Ledger.openFor
  split
  case h_1 a ha => exact ⟨h, ha⟩
  -- a new cell gets the baseline, so everyone is judged by what they were judged by
  case h_2 hnone =>
    refine ⟨⟨h.kept.trans (List.prefix_append _ _), fun k a hk => ?_, fun k k' a hk hk' => ?_,
      fun e y => ?_⟩, List.lookup_cons_self⟩
    · rw [lookup_cons_ite] at hk
      rw [List.length_append, List.length_singleton]
      split at hk
      · obtain rfl := Option.some.inj hk
        exact ⟨h.kept.length_le, Nat.lt_succ_self _⟩
      · exact (h.fresh k a hk).imp_right fun hlt => hlt.trans (Nat.lt_succ_self _)
    · -- the new address is behind all that are open, so it is that of the new key only
      have hnew : ∀ k, l.opened.lookup k ≠ some l.cells.length := fun k hk =>
        (h.fresh k _ hk).2.ne rfl
      rw [lookup_cons_ite] at hk hk'
      by_cases heq : k = (employee, year) <;> by_cases heq' : k' = (employee, year)
      · exact heq.trans heq'.symm
      · rw [if_pos heq] at hk
        rw [if_neg heq', ← hk] at hk'
        exact absurd hk' (hnew k')
      · rw [if_pos heq'] at hk'
        rw [if_neg heq, ← hk'] at hk
        exact absurd hk (hnew k)
      · rw [if_neg heq] at hk
        rw [if_neg heq'] at hk'
        exact h.apart k k' a hk hk'
    · rw [← h.totals e y]
      unfold Ledger.soFar
      dsimp only
      rw [lookup_cons_ite, h.start_append hholds]
      -- only the employee and year that are opened read the new cell
      by_cases hey : (e, y) = (employee, year)
      · obtain ⟨rfl, rfl⟩ := Prod.mk.inj hey
        rw [if_pos rfl, hnone]
        simp [Ledger.totalsAt]
      · rw [if_neg hey]
        rcases ha : l.opened.lookup (e, y) with _ | a
        · rfl
        · exact totalsAt_append l _ _ (h.fresh _ a ha).2

/-- Totals put into an open cell are those of its employee and year alone. -/
lemma Ledger.Follows.put (h : l.Follows cells addresses baselines running)
    (hholds : Holds cells addresses baselines) {a : Nat}
    (ha : l.opened.lookup (employee, year) = some a) (t : Totals) :
    (l.put a t).Follows cells addresses baselines (((employee, year), t) :: running) := by
  obtain ⟨hle, hlt⟩ := h.fresh _ a ha
  refine ⟨?_, fun k b hk => ?_, h.apart, fun e y => ?_⟩
  · obtain ⟨rest, hrest⟩ := h.kept
    refine ⟨rest.set (a - cells.length) t, ?_⟩
    rw [Ledger.put, ← hrest, List.set_append_right _ _ hle]
  · simpa [Ledger.put] using h.fresh k b hk
  · have htotals := h.totals e y
    unfold Ledger.soFar Running.soFar at htotals ⊢
    rw [lookup_cons_ite, opened_put]
    -- no other employee and year reads this cell, since open addresses are apart
    by_cases hey : (e, y) = (employee, year)
    · rw [if_pos hey, hey, ha]
      exact totalsAt_put_self hlt t
    · rw [if_neg hey, ← htotals]
      rcases hb : l.opened.lookup (e, y) with _ | b
      · have hstart : (Table.get? addresses e).map (l.put a t).totalsAt =
            (Table.get? addresses e).map l.totalsAt :=
          Option.map_congr fun b hb =>
            totalsAt_put_of_ne ((hholds.within e b hb).trans_le hle).ne t
        exact congrArg (·.getD .zero) hstart
      · have hne : b ≠ a := fun hba => hey (h.apart _ _ a (hba ▸ hb) ha)
        exact totalsAt_put_of_ne hne t

/-! ### A batch -/

variable {clock : Clock} {plan : PlanLimits} {ratio : Number}

/-- One record: a fault is the same, and after the same verdict the ledger goes on following. -/
lemma Ledger.Follows.checkNextIn (h : l.Follows cells addresses baselines running)
    (hholds : Holds cells addresses baselines) (record : Record) :
    (∃ f, checkNextIn clock plan ratio addresses l record = .error f ∧
      checkNext ⟨clock, baselines, plan, ratio⟩ running record = .error f) ∨
    ∃ v l' running', checkNextIn clock plan ratio addresses l record = .ok (v, l') ∧
      checkNext ⟨clock, baselines, plan, ratio⟩ running record = .ok (v, running') ∧
      l'.Follows cells addresses baselines running' := by
  unfold Contribution.checkNextIn checkNext
  rcases planYear clock record with f | year
  · exact .inl ⟨f, rfl, rfl⟩
  rcases employee? record with f | _ | employee
  · exact .inl ⟨f, rfl, rfl⟩
  · simp only [ok_bind]
    -- without an employee no cell is opened
    rcases verdict clock record year .zero plan ratio with f | v
    · exact .inl ⟨f, rfl, rfl⟩
    rcases addTo .zero record with f | t
    · exact .inl ⟨f, rfl, rfl⟩
    · exact .inr ⟨v, l, running, rfl, rfl, h⟩
  · obtain ⟨hopen, ha⟩ := h.openFor hholds employee year
    -- the open cell has what the running totals have, so the verdicts are the same
    have hsame : (l.openFor addresses employee year).2.totalsAt
        (l.openFor addresses employee year).1 = running.soFar baselines employee year := by
      rw [← hopen.totals employee year, Ledger.soFar, ha]
    simp only [ok_bind, hsame]
    rcases verdict clock record year (running.soFar baselines employee year) plan ratio with f | v
    · exact .inl ⟨f, rfl, rfl⟩
    rcases addTo (running.soFar baselines employee year) record with f | t
    · exact .inl ⟨f, rfl, rfl⟩
    · exact .inr ⟨v, _, _, rfl, rfl, hopen.put hholds ha t⟩

/-- **Changed in place, the totals give the same verdicts.** -/
theorem Ledger.Follows.verdicts (h : l.Follows cells addresses baselines running)
    (hholds : Holds cells addresses baselines) (records : List (Int × Record)) :
    Prod.fst <$> checkAllIn clock plan ratio addresses l records =
      checkAll ⟨clock, baselines, plan, ratio⟩ running records := by
  induction records generalizing l running with
  | nil => rfl
  | cons p records ih =>
    obtain ⟨i, record⟩ := p
    rw [checkAllIn, checkAll]
    obtain ⟨f, hin, hnext⟩ | ⟨v, l', running', hin, hnext, hfollows⟩ := h.checkNextIn hholds record
    · rw [hin, hnext]
      rfl
    · rw [hin, hnext, ok_bind, ok_bind]
      dsimp only
      rw [← ih hfollows]
      rcases checkAllIn clock plan ratio addresses l' records with f | ⟨vs, l''⟩ <;> rfl

/-- **Every cell that was there before a batch is as it was after it.** -/
theorem Ledger.Follows.keeps (h : l.Follows cells addresses baselines running)
    (hholds : Holds cells addresses baselines) {records : List (Int × Record)}
    {vs : List (Int × Verdict)} {last : Ledger}
    (hlast : checkAllIn clock plan ratio addresses l records = .ok (vs, last)) :
    cells <+: last.cells := by
  -- on the records: following the ledger is what every step keeps
  induction records generalizing l running vs with
  | nil =>
    cases hlast
    exact h.kept
  | cons p records ih =>
    obtain ⟨i, record⟩ := p
    obtain ⟨⟨v, next⟩, hnext, hlast⟩ := bind_eq_ok.1 hlast
    obtain ⟨⟨ws, last'⟩, hrest, hlast⟩ := bind_eq_ok.1 hlast
    cases hlast
    obtain ⟨f, hfault, -⟩ | ⟨v', next', running', hnext', -, hfollows⟩ := h.checkNextIn hholds record
    · cases hnext.symm.trans hfault
    · cases hnext.symm.trans hnext'
      exact ih hfollows hrest

end Crosswalk.Contribution
