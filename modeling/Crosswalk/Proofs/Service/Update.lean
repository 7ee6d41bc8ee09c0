import Crosswalk.Proofs.Service.Validity

/-!
What an update changes.

Data gives a field at its key in camel case or, where that is absent, at its name. A field that an update
may change takes the value that is given, as it is read there, and stays as it was where none is given.
Nothing else of an entity changes but the marks of its version, and nothing else of the store but its
events.
-/

namespace Crosswalk

open Fallible

/-! ### Fields that data gives -/

def Value.given (data : Value) (name : String) : Option Value :=
  let fields := data.fields?.getD []
  (fields.get? (Text.camelCase name)).or (fields.get? name)

/-- A field takes the value that data gives, or it stays as it was. -/
def Codec.Takes {α : Type} (c : Codec α) (name : String) (data : Value) (old new : α) : Prop :=
  match data.given name with
  | none => new = old
  | some v => c.read v = .ok new

namespace Field

variable {α : Type} {c : Codec α} {n : String} {data : Value} {r : Table Value} {x : Change α}

/-- What a change is read as: it keeps what is not given, and has what a given value reads as. -/
inductive Asks (c : Codec α) : Option Value → Change α → Prop where
  | keep : Asks c none .keep
  | clear : Asks c (some .null) .clear
  | set {v : Value} {x : α} (ne : v ≠ .null) (read : c.read v = .ok x) : Asks c (some v) (.set x)

lemma map_given?_changing (hr : data.fields? = some r) :
    ((changing n c).given? r).map (·.2) = data.given n := by
  rw [Value.given, hr, Option.getD_some, given?, changing_camelKey, changing_name]
  rcases r.get? (Text.camelCase n) with _ | v
  · cases r.get? n <;> rfl
  · rfl

lemma asks_of_read (hr : data.fields? = some r) (h : (changing n c).read r = .ok x) :
    Asks c (data.given n) x := by
  rw [← map_given?_changing (c := c) hr]
  rcases hg : (changing n c).given? r with _ | ⟨k, v⟩
  · rw [read, hg] at h
    obtain rfl : Change.keep = x := Except.ok.inj h
    exact .keep
  · rw [read_of_given? hg, Reading.under_eq_ok] at h
    obtain ⟨o, ho, rfl⟩ := Reading.map_eq_ok.1 h
    by_cases hv : v = .null
    · subst hv
      obtain rfl : none = o := Except.ok.inj ho
      exact .clear
    · rw [Codec.nullable_read hv] at ho
      obtain ⟨y, hy, rfl⟩ := Reading.map_eq_ok.1 ho
      exact .set hv hy

lemma Asks.takes_required {old new : α} {key : String} {k : IssueKind} (h : Asks c (data.given n) x)
    (hx : x.onRequired key k old = .ok new) : c.Takes n data old new := by
  unfold Codec.Takes
  generalize data.given n = o at h
  cases h with
  | keep => exact (Except.ok.inj hx).symm
  | clear => cases hx
  | set ne read => exact Except.ok.inj hx ▸ read

lemma Asks.takes_optional {old : Option α} (h : Asks c (data.given n) x) :
    c.nullable.Takes n data old (x.onOptional old) := by
  unfold Codec.Takes
  generalize data.given n = o at h
  cases h with
  | keep => rfl
  | clear => rfl
  | set ne read => exact (Codec.nullable_read ne).trans (Reading.map_eq_ok.2 ⟨_, read, rfl⟩)

end Field

/-! ### Configurations -/

namespace Mapping

/-- A configuration with what data gives for the fields that may be changed, as its next version. -/
structure Configuration.Updated (data : Value) (user : Option String) (now : Moment)
    (old c : Configuration) : Prop where
  name : titleCodec.Takes "name" data old.name c.name
  description : Codec.text.nullable.Takes "description" data old.description c.description
  sourceSystem : Codec.text.Takes "source_system" data old.sourceSystem c.sourceSystem
  destinationSystem :
    Codec.text.Takes "destination_system" data old.destinationSystem c.destinationSystem
  rules : Rules.codec.Takes "mapping_rules" data old.rules c.rules
  isActive : Codec.bool.Takes "is_active" data old.isActive c.isActive
  /-- Nothing else is changed. -/
  rest : c = { old with
    name := c.name, description := c.description, sourceSystem := c.sourceSystem,
    destinationSystem := c.destinationSystem, rules := c.rules, isActive := c.isActive,
    version := old.version + 1, updatedBy := user, updatedAt := now }

lemma Configuration.updated_of_update {data : Value} {changes : Changes} {user : Option String}
    {now : Moment} {old c : Configuration} (hdata : Changes.codec.read data = .ok changes)
    (h : old.update changes now user = .ok c) : Updated data user now old c := by
  obtain ⟨r, ⟨n, d, s, t, m, a, ⟨⟩⟩, hr, hread, rfl⟩ := Schema.codec_eq_ok.1 hdata
  obtain ⟨hn, hd, hs, ht, hm, ha, -⟩ := by simpa only [Schema.read_field_eq_ok] using hread
  obtain ⟨name, ⟨systems, content⟩, hname, hrest, rfl⟩ := Reading.both_eq_ok.1 h
  obtain ⟨hsystems, hcontent⟩ := Reading.pair_eq_ok.1 hrest
  obtain ⟨hsource, hdestination⟩ := Reading.pair_eq_ok.1 hsystems
  obtain ⟨hrules, hactive⟩ := Reading.pair_eq_ok.1 hcontent
  exact {
    name := (Field.asks_of_read hr hn).takes_required hname
    description := (Field.asks_of_read hr hd).takes_optional
    sourceSystem := (Field.asks_of_read hr hs).takes_required hsource
    destinationSystem := (Field.asks_of_read hr ht).takes_required hdestination
    rules := (Field.asks_of_read hr hm).takes_required hrules
    isActive := (Field.asks_of_read hr ha).takes_required hactive
    rest := rfl }

end Mapping

/-! ### Rules -/

namespace Rule

/-- A rule with what data gives for the fields that may be changed. Null for its kinds is all kinds. -/
structure Updated (data : Value) (now : Moment) (old r : Rule) : Prop where
  name : Codec.name.Takes "name" data old.name r.name
  description : Codec.text.nullable.Takes "description" data old.description r.description
  appliesTo : (kindsCodec.prepared listOfOneOrAll).Takes "applies_to" data old.appliesTo r.appliesTo
  field : Codec.text.nullable.Takes "field" data old.field r.field
  logic : Logic.codec.Takes "rule_logic" data old.logic r.logic
  message : Codec.text.Takes "error_message" data old.message r.message
  severity : Severity.codec.Takes "severity" data old.severity r.severity
  isActive : Codec.bool.Takes "is_active" data old.isActive r.isActive
  /-- Nothing else is changed. -/
  rest : r = { old with
    name := r.name, description := r.description, appliesTo := r.appliesTo, field := r.field,
    logic := r.logic, message := r.message, severity := r.severity, isActive := r.isActive,
    updatedAt := now }

variable {data : Value} {n : String}

lemma takes_name {x : Change String} {old new : String} (h : Field.Asks Codec.text (data.given n) x)
    (hx : changedName old x = .ok new) : Codec.name.Takes n data old new := by
  unfold Codec.Takes
  generalize data.given n = o at h
  cases h with
  | keep => exact (Except.ok.inj hx).symm
  | clear => cases hx
  | @set v s ne read =>
    obtain ⟨rfl, -⟩ := Codec.boundedText_eq_ok.1 read
    exact Reading.under_eq_ok.1 hx

lemma takes_kinds {x : Change (List String)} (old : List String)
    (h : Field.Asks kindsCodec (data.given n) x) :
    (kindsCodec.prepared listOfOneOrAll).Takes n data old
      ((x.onOptional (some old)).getD [everyKind]) := by
  unfold Codec.Takes
  generalize data.given n = o at h
  cases h with
  | keep => rfl
  | clear => rfl
  | set ne read => exact (congrArg kindsCodec.read (listOfOneOrAll_of_read read)).trans read

lemma updated_of_update {changes : Changes} {now : Moment} {old r : Rule}
    (hdata : Changes.codec.read data = .ok changes) (h : old.update changes now = .ok r) :
    Updated data now old r := by
  -- the change is read field by field, and each field is then taken over or kept
  obtain ⟨t, ⟨n, d, a, f, l, m, s, act, ⟨⟩⟩, ht, hread, rfl⟩ := Schema.codec_eq_ok.1 hdata
  obtain ⟨hn, hd, ha, hf, hl, hm, hs, hact, -⟩ := by
    simpa only [Schema.read_field_eq_ok] using hread
  unfold update at h
  dsimp only at h
  split at h
  case h_2 => cases h
  case h_1 q hq =>
    obtain ⟨name, ⟨content, state⟩, hname, hrest, rfl⟩ := Reading.both_eq_ok.1 hq
    obtain rfl := withTarget_eq_ok h
    obtain ⟨hcontent, hstate⟩ := Reading.pair_eq_ok.1 hrest
    obtain ⟨hlogic, hmessage⟩ := Reading.pair_eq_ok.1 hcontent
    obtain ⟨hseverity, hactive⟩ := Reading.pair_eq_ok.1 hstate
    exact {
      name := takes_name (Field.asks_of_read ht hn) hname
      description := (Field.asks_of_read ht hd).takes_optional
      appliesTo := takes_kinds old.appliesTo (Field.asks_of_read ht ha)
      field := (Field.asks_of_read ht hf).takes_optional
      logic := (Field.asks_of_read ht hl).takes_required hlogic
      message := (Field.asks_of_read ht hm).takes_required hmessage
      severity := (Field.asks_of_read ht hs).takes_required hseverity
      isActive := (Field.asks_of_read ht hact).takes_required hactive
      rest := rfl }

end Rule

/-! ### The store -/

/-- A table with another value at a key, which it has already. -/
structure Table.Replaces {α : Type} (k : String) (x : α) (t u : Table α) : Prop where
  here : u.get? k = some x
  others : ∀ l ≠ k, u.get? l = t.get? l
  keys : u.keys = t.keys

lemma Table.replaces_put {α : Type} {t : Table α} {k : String} (h : (t.get? k).isSome) (x : α) :
    Replaces k x t (t.put k x) where
  here := (get?_put t k k x).trans (if_pos rfl)
  others l hl := (get?_put t k l x).trans (if_neg hl)
  keys := by rw [keys_put, if_pos ((has_iff t k).1 h)]

namespace Service

open Mapping (Configuration)

/-- The store after an update of a configuration. -/
structure OnlyConfiguration (id : String) (c : Configuration) (s u : Store) : Prop where
  configurations : Table.Replaces id c s.configurations u.configurations
  rules : u.rules = s.rules
  logs : u.logs = s.logs
  events : s.events <+: u.events

/-- The store after an update of a rule. -/
structure OnlyRule (id : String) (r : Rule) (s u : Store) : Prop where
  configurations : u.configurations = s.configurations
  rules : Table.Replaces id r s.rules u.rules
  logs : u.logs = s.logs
  events : s.events <+: u.events

variable {e : Environment} {s : Store} {id : String} {data : Value} {tenant user : Option String}
  {r : Except Failure Answer × Store} {a b : Answer}

lemma ending_eq_ok {y : Except Failure Audit.Event} (h : (ending e s a y).1 = .ok b) : b = a := by
  rcases y with f | x
  · cases h
  · exact (Except.ok.inj h).symm

lemma Effect.configuration_updated (hs : s.Sound)
    (h : Effect e s (.updateMapping id data tenant user) r) (hr : r.1 = .ok a) :
    ∃ old c, s.configurations.get? id = some old ∧ a = .configuration c ∧
      Configuration.Updated data user e.fresh.now old c ∧ OnlyConfiguration id c s r.2 := by
  -- an update that answers has found the configuration and made its next version
  cases h with
  | refused => cases hr
  | answered idle => cases idle
  | ruled h => cases h
  | @made _ _ c h =>
    cases h with
    | @update _ _ _ _ old _ made =>
      obtain ⟨hfound, changes, hdata, -, hupdate⟩ := changedConfiguration_eq_ok made
      obtain ⟨hold, -, -⟩ := findConfiguration_eq_ok.1 hfound
      have hid : c.id = id :=
        (Configuration.update_eq_ok hupdate).1.id.trans (hs.configurationId id old hold)
      refine ⟨old, c, hold, ending_eq_ok hr, Configuration.updated_of_update hdata hupdate, ?_⟩
      rw [ending_snd]
      refine ⟨?_, rfl, rfl, List.prefix_append _ _⟩
      rw [Store.putConfiguration, hid]
      exact Table.replaces_put (by rw [hold]; rfl) c

lemma Effect.rule_updated (hs : s.Sound) (h : Effect e s (.updateRule id data tenant user) r)
    (hr : r.1 = .ok a) :
    ∃ old q, s.rules.get? id = some old ∧ a = .rule q ∧ Rule.Updated data e.fresh.now old q ∧
      OnlyRule id q s r.2 := by
  -- of the ends of an operation only one is that of an updated rule
  cases h with
  | refused => cases hr
  | answered idle => cases idle
  | made h => cases h
  | @ruled _ _ q h =>
    cases h with
    | @update _ _ _ _ old _ made =>
      obtain ⟨hfound, changes, hdata, hupdate⟩ := changedRule_eq_ok made
      obtain ⟨hold, -⟩ := findRule_eq_ok.1 hfound
      have hid : q.id = id := (Rule.update_eq_ok hupdate).1.trans (hs.ruleId id old hold)
      refine ⟨old, q, hold, ending_eq_ok hr, Rule.updated_of_update hdata hupdate, ?_⟩
      rw [ending_snd]
      refine ⟨rfl, ?_, rfl, List.prefix_append _ _⟩
      rw [Store.putRule, hid]
      exact Table.replaces_put (by rw [hold]; rfl) q

/-- **An update changes what it is asked to change, and nothing else.** After any operations, an update
that succeeds replaces one configuration or one rule. The fields that may be changed take what the data
gives for them or stay, and every other entity is as it was. -/
theorem update_changes (ops : List (Circumstances × Operation)) (k : Circumstances) (id : String)
    (data : Value) (tenant user : Option String) (answer : Answer) :
    ((step k (run .initial ops).1 (.updateMapping id data tenant user)).2 = .ok answer →
      ∃ old c, (run .initial ops).1.store.configurations.get? id = some old ∧
        answer = .configuration c ∧ Configuration.Updated data user k.now.atUtc old c ∧
        OnlyConfiguration id c (run .initial ops).1.store
          (step k (run .initial ops).1 (.updateMapping id data tenant user)).1.store) ∧
    ((step k (run .initial ops).1 (.updateRule id data tenant user)).2 = .ok answer →
      ∃ old r, (run .initial ops).1.store.rules.get? id = some old ∧
        answer = .rule r ∧ Rule.Updated data k.now.atUtc old r ∧
        OnlyRule id r (run .initial ops).1.store
          (step k (run .initial ops).1 (.updateRule id data tenant user)).1.store) :=
  ⟨fun h => (step_effect k _ _).configuration_updated (sound_run ops) h,
    fun h => (step_effect k _ _).rule_updated (sound_run ops) h⟩

def bothCreated : List (Circumstances × Operation) :=
  [.createMapping amountDraft (some "t") none, .createRule patternDraft (some "t") none].map
    fun op => (smallEnvironment.toCircumstances, op)

/-- Both are renamed. -/
theorem renaming_changes :
    (∃ old c, (run .initial bothCreated).1.store.configurations.get? "x" = some old ∧
      Configuration.Updated newName none smallEnvironment.now.atUtc old c) ∧
    ∃ old r, (run .initial bothCreated).1.store.rules.get? "x" = some old ∧
      Rule.Updated newName smallEnvironment.now.atUtc old r := by
  have hmapping : (step smallEnvironment.toCircumstances (run .initial bothCreated).1
      (.updateMapping "x" newName (some "t") none)).2.toOption.isSome := by decide +kernel
  have hrule : (step smallEnvironment.toCircumstances (run .initial bothCreated).1
      (.updateRule "x" newName (some "t") none)).2.toOption.isSome := by decide +kernel
  obtain ⟨a, ha⟩ := Option.isSome_iff_exists.1 hmapping
  obtain ⟨b, hb⟩ := Option.isSome_iff_exists.1 hrule
  obtain ⟨old, c, hold, -, hc, -⟩ := (update_changes bothCreated smallEnvironment.toCircumstances "x"
    newName (some "t") none a).1 (toOption_eq_some.1 ha)
  obtain ⟨was, r, hwas, -, hr, -⟩ := (update_changes bothCreated smallEnvironment.toCircumstances "x"
    newName (some "t") none b).2 (toOption_eq_some.1 hb)
  exact ⟨⟨old, c, hold, hc⟩, was, r, hwas, hr⟩

end Service

end Crosswalk
