import Crosswalk.Proofs.Service.Life

/-!
The audit trail of a configuration.

Where audit events can be written, and no version of a configuration has been kept without its event,
the trail tells all of it: one creation, an update for each further version, with the numbers of both,
whether it is active, and every field that only updates change.
-/

namespace Crosswalk.Service

open Audit (Event)
open Mapping (Configuration)
open Fallible

variable {e : Environment} {s : Store} {op : Operation} {old c : Configuration} {id : String}
  {r : Except Failure Answer × Store} {ys : List Event} {x : Event}

def fieldsOf (c : Configuration) : Table Value :=
  (((Configuration.codec .unused).dump .row c).fields?).getD []

/-- The events of a configuration, but for those of its runs. -/
def changesOf (id : String) (events : List Event) : List Event :=
  events.filter fun x => IsAbout id x ∧ x.action ≠ .execute

def givesFields (x : Event) : Bool := x.action = .create || x.action = .update

/-- The fields that other operations than creations and updates may change. -/
def volatileFields : List String := ["is_active", "updated_at", "updated_by", "deleted_at"]

/-- Whether values have been recorded, with this one among them. -/
def Gives (values : Option (Table Value)) (key : String) (v : Value) : Prop :=
  ∃ t, values = some t ∧ t.get? key = some v

/-- Events that determine a configuration. -/
structure Trail (xs : List Event) (c : Configuration) : Prop where
  creations : xs.countP (·.action = .create) = 1
  updates : ((xs.filter (·.action = .update)).length : Int) = c.version - 1
  versions : ∀ (k : Nat) (x : Event), (xs.filter (·.action = .update))[k]? = some x →
    Gives x.before "version" (.int (k + 1)) ∧ Gives x.after "version" (.int (k + 2))
  activity : ∃ x, xs.getLast? = some x ∧
    if x.action = .delete then c.isActive = false else Gives x.after "is_active" (.bool c.isActive)
  content : ∃ x, (xs.filter givesFields).getLast? = some x ∧ ∃ t, x.after = some t ∧
    ∀ key, key ∉ volatileFields → (fieldsOf c).get? key = t.get? key

/-! ### The fields of a configuration -/

lemma configurationRow_eq_ok {t : Table Value} (h : configurationRow c = .ok t) : t = fieldsOf c := by
  unfold configurationRow rowOf Codec.row at h
  split at h
  · rename_i v hv
    split at hv
    · cases hv
    · obtain rfl := Except.ok.inj hv
      exact (Except.ok.inj h).symm
  · cases h

lemma fieldsOf_version : (fieldsOf c).get? "version" = some (.int c.version) := rfl

lemma fieldsOf_isActive : (fieldsOf c).get? "is_active" = some (.bool c.isActive) := rfl

lemma fieldsOf_congr {active : Bool} {user : Option String} {now : Moment} {deleted : Option Moment}
    {key : String} (h : key ∉ volatileFields) :
    (fieldsOf { old with
      isActive := active, updatedBy := user, updatedAt := now, deletedAt := deleted }).get? key =
        (fieldsOf old).get? key := by
  simp only [volatileFields, List.mem_cons, List.not_mem_nil, or_false, not_or] at h
  obtain ⟨hactive, hat, hby, hdeleted⟩ := h
  simp [fieldsOf, Configuration.codec, Schema.codec, Schema.dump, Value.fields?, Table.get?_cons,
    Field.key, Style.row, Field.required, Field.optional, Field.defaulted, hactive, hat, hby, hdeleted]

/-! ### One more event -/

lemma changesOf_append (xs zs : List Event) :
    changesOf id (xs ++ zs) = changesOf id xs ++ changesOf id zs := List.filter_append ..

/-- What an event of the next version says, after those of the old one. -/
structure Tells (old c : Configuration) (x : Event) : Prop where
  later : x.action ≠ .create
  version : if x.action = .update then
      c.version = old.version + 1 ∧ Gives x.before "version" (.int old.version) ∧
        x.after = some (fieldsOf c)
    else c.version = old.version ∧
      ∀ key, key ∉ volatileFields → (fieldsOf c).get? key = (fieldsOf old).get? key
  activity : if x.action = .delete then c.isActive = false
    else Gives x.after "is_active" (.bool c.isActive)

lemma holds_snoc {P : Nat → Event → Prop} (h : ∀ k y, ys[k]? = some y → P k y)
    (hx : P ys.length x) (k : Nat) (y : Event) (hy : (ys ++ [x])[k]? = some y) : P k y := by
  obtain hlt | rfl | hgt := Nat.lt_trichotomy k ys.length
  · rw [List.getElem?_append_left hlt] at hy
    exact h k y hy
  · rw [List.getElem?_concat_length] at hy
    obtain rfl := Option.some.inj hy
    exact hx
  · rw [List.getElem?_eq_none (by rw [List.length_append, List.length_singleton]; omega)] at hy
    cases hy

lemma Trail.snoc (h : Trail ys old) (hx : Tells old c x) : Trail (ys ++ [x]) c := by
  have hcreations : (ys ++ [x]).countP (·.action = .create) = 1 := by
    simp [h.creations, hx.later]
  have hactivity : ∃ y, (ys ++ [x]).getLast? = some y ∧
      if y.action = .delete then c.isActive = false
      else Gives y.after "is_active" (.bool c.isActive) := ⟨x, by simp, hx.activity⟩
  have hversion := hx.version
  -- an update adds a version and gives all fields, anything else adds neither
  by_cases hu : x.action = .update
  · rw [if_pos hu] at hversion
    obtain ⟨hnext, hbefore, hafter⟩ := hversion
    have hfilter : (ys ++ [x]).filter (·.action = .update) =
        ys.filter (·.action = .update) ++ [x] := by simp [hu]
    have hcount := h.updates
    refine ⟨hcreations, ?_, ?_, hactivity, ?_⟩
    · rw [hfilter, List.length_append, List.length_singleton]
      omega
    · rw [hfilter]
      -- the new event comes after as many updates as the old version counts
      refine holds_snoc h.versions ?_
      have hold : old.version = (ys.filter (·.action = .update)).length + 1 := by omega
      have hnew : c.version = (ys.filter (·.action = .update)).length + 2 := by omega
      rw [← hold, ← hnew, hafter]
      exact ⟨hbefore, _, rfl, fieldsOf_version⟩
    · refine ⟨x, by simp [givesFields, hu], fieldsOf c, hafter, fun key _ => rfl⟩
  · rw [if_neg hu] at hversion
    obtain ⟨hsame, hfields⟩ := hversion
    have hfilter : (ys ++ [x]).filter (·.action = .update) = ys.filter (·.action = .update) := by
      simp [hu]
    have hcontent : (ys ++ [x]).filter givesFields = ys.filter givesFields := by
      simp [givesFields, hu, hx.later]
    refine ⟨hcreations, ?_, ?_, hactivity, ?_⟩
    · rw [hfilter, hsame]
      exact h.updates
    · rw [hfilter]
      exact h.versions
    · obtain ⟨y, hy, t, ht, hkeys⟩ := h.content
      rw [hcontent]
      exact ⟨y, hy, t, ht, fun key hkey => (hfields key hkey).trans (hkeys key hkey)⟩

lemma trail_of_first (hversion : c.version = 1) (hx : x.action = .create)
    (hafter : x.after = some (fieldsOf c)) : Trail [x] c where
  creations := by simp [hx]
  updates := by simp [hx, hversion]
  versions := by simp [hx]
  activity := ⟨x, rfl, by rw [if_neg (by rw [hx]; decide), hafter]; exact ⟨_, rfl, fieldsOf_isActive⟩⟩
  content := ⟨x, by simp [givesFields, hx], fieldsOf c, hafter, fun _ _ => rfl⟩

/-! ### One step -/

lemma trail_of_create (h : Makes e s op none c) (hx : eventFor e op none c = .ok x) : Trail [x] c := by
  have hversion := h.isFirst.version
  cases h with
  | create =>
    obtain ⟨b, a, -, ha, rfl⟩ := eventOf_eq_ok.1 hx
    obtain ⟨t, ht, rfl⟩ := map_eq_ok.1 ha
    obtain rfl := configurationRow_eq_ok ht
    exact trail_of_first hversion rfl rfl

lemma tells_of_next (h : Makes e s op (some old) c) (hx : eventFor e op (some old) c = .ok x) :
    Tells old c x := by
  have hnext := h.isNext
  cases h with
  | update =>
    obtain ⟨b, a, hb, ha, rfl⟩ := eventOf_eq_ok.1 hx
    obtain ⟨t, ht, rfl⟩ := map_eq_ok.1 hb
    obtain ⟨u, hu, rfl⟩ := map_eq_ok.1 ha
    obtain rfl := configurationRow_eq_ok ht
    obtain rfl := configurationRow_eq_ok hu
    exact ⟨by simp [Environment.event],
      ⟨hnext.version, ⟨_, rfl, fieldsOf_version⟩, rfl⟩, ⟨_, rfl, fieldsOf_isActive⟩⟩
  -- the other operations change none of the fields that the last update gave
  | delete =>
    obtain ⟨b, a, hb, ha, rfl⟩ := eventOf_eq_ok.1 hx
    exact ⟨by simp [Environment.event], ⟨rfl, fun key hkey => fieldsOf_congr hkey⟩, rfl⟩
  | activate =>
    obtain ⟨b, a, hb, ha, rfl⟩ := eventOf_eq_ok.1 hx
    obtain rfl := Except.ok.inj ha
    exact ⟨by simp [Environment.event], ⟨rfl, fun key hkey => fieldsOf_congr hkey⟩, ⟨_, rfl, rfl⟩⟩
  | deactivate =>
    obtain ⟨b, a, hb, ha, rfl⟩ := eventOf_eq_ok.1 hx
    obtain rfl := Except.ok.inj ha
    exact ⟨by simp [Environment.event], ⟨rfl, fun key hkey => fieldsOf_congr hkey⟩, ⟨_, rfl, rfl⟩⟩

/-- What the events of a configuration say, if it is stored. -/
def TrailOf (xs : List Event) : Option Configuration → Prop
  | some c => Trail xs c
  | none => xs = []

lemma changesOf_eventFor (hs : s.Sound) {old : Option Configuration} (h : Makes e s op old c)
    (hx : eventFor e op old c = .ok x) : changesOf c.id [x] = [x] := by
  have habout := isAbout_eventFor hs h hx
  have haction : x.action ≠ .execute := by
    cases h <;> obtain ⟨b, a, -, -, rfl⟩ := eventOf_eq_ok.1 hx <;> simp [Environment.event]
  simp [changesOf, habout, haction]

/-- An operation that leaves no version without its event keeps the trail of a configuration. -/
lemma trailOf_step (hs : s.Sound) (works : e.auditWorks) (h : OnConfiguration e s op id r)
    (recorded : keepsVersion id e.id op r.1 → r.1.isOk)
    (ht : TrailOf (changesOf id s.events) (s.configurations.get? id)) :
    TrailOf (changesOf id r.2.events) (r.2.configurations.get? id) := by
  rcases h with ⟨-, same, zs, hzs, hruns⟩ | ⟨hmakes, keeps, before, after, events, hfails⟩
  · have hnone : changesOf id zs = [] := by
      simp only [changesOf, List.filter_eq_nil_iff, decide_eq_true_eq, not_and, not_not]
      exact hruns
    rw [same, hzs, changesOf_append, hnone, List.append_nil]
    exact ht
  · rename_i old c
    obtain rfl : c.id = id := by
      have hmaking := (hmakes.making hs).1
      rw [keepsVersion, hmaking, Bool.and_eq_true, decide_eq_true_eq] at keeps
      exact Option.some.inj keeps.2
    -- without its event the operation would have failed after it kept a version
    rcases hx : eventFor e op old c with f | x
    · have hok := recorded keeps
      rw [hfails f hx] at hok
      cases hok
    · have hwritten : written e (.ok x) = [x] := if_pos works
      rw [after, events, hx, hwritten, changesOf_append, changesOf_eventFor hs hmakes hx]
      rw [before] at ht
      -- the first event of all is that of the creation
      rcases old with _ | old
      · rw [show changesOf c.id s.events = [] from ht]
        exact trail_of_create hmakes hx
      · exact Trail.snoc ht (tells_of_next hmakes hx)

/-! ### Runs -/

lemma trailOf_run (ops : List (Circumstances × Operation)) (id : String)
    (works : ∀ p ∈ ops, p.1.auditWorks)
    (recorded : ∀ x ∈ history .initial ops, x.keeps id → x.answer.isOk) :
    TrailOf (changesOf id (run .initial ops).1.store.events) (stored (run .initial ops).1 id) := by
  induction ops using List.reverseRecOn with
  | nil => rfl
  | append_singleton ops p ih =>
    rw [history_snoc] at recorded
    have hprefix := ih (fun q hq => works q (List.mem_append_left _ hq))
      fun x hx => recorded x (List.mem_append_left _ hx)
    rw [run_snoc]
    refine trailOf_step (sound_run ops) (works p (by simp)) (step_onConfiguration ops p.1 p.2 id) ?_
      hprefix
    exact recorded _ (List.mem_append_right _ (List.mem_singleton.2 rfl))

/-- **The audit trail determines every configuration**, where audit events are written and no version
of the configuration has been kept without its own. -/
theorem audit_trail (ops : List (Circumstances × Operation)) (id : String)
    (works : ∀ p ∈ ops, p.1.auditWorks)
    (recorded : ∀ x ∈ history .initial ops, x.keeps id → x.answer.isOk) (c : Configuration)
    (hc : stored (run .initial ops).1 id = some c) :
    Trail (changesOf id (run .initial ops).1.store.events) c := by
  have h := trailOf_run ops id works recorded
  rw [hc] at h
  exact h

/-- The trail of a configuration that is created and deleted. -/
theorem audit_trail_of_deleted :
    ∃ c, Trail (changesOf "x" (run .initial [smallCreation, smallDeletion]).1.store.events) c := by
  obtain ⟨c, hc⟩ : ∃ c, stored (run .initial [smallCreation, smallDeletion]).1 "x" = some c :=
    ⟨_, rfl⟩
  have hrecorded : (history .initial [smallCreation, smallDeletion]).all (fun x =>
      !x.keeps "x" || x.answer.isOk) := rfl
  refine ⟨c, audit_trail _ "x" (by simp [smallCreation, smallDeletion, smallEnvironment]) ?_ c hc⟩
  intro x hx hkeeps
  simpa [hkeeps] using List.all_eq_true.1 hrecorded x hx

/-- A configuration that has been kept without its event has no trail. -/
theorem trail_of_failed_creation :
    ¬ ∀ (ops : List (Circumstances × Operation)) (id : String) (c : Configuration),
      (∀ p ∈ ops, p.1.auditWorks) → stored (run .initial ops).1 id = some c →
        Trail (changesOf id (run .initial ops).1.store.events) c := by
  intro h
  obtain ⟨v, hv⟩ := exists_deep
  have htrail := h [deepCreation v] "x" _ (by simp [deepCreation, smallEnvironment])
    (stored_deepCreation hv)
  have hcreations := htrail.creations
  rw [store_deepCreation hv] at hcreations
  have hnone : 0 = 1 := hcreations
  exact absurd hnone Nat.zero_ne_one

end Crosswalk.Service
