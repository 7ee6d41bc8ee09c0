import Crosswalk.Proofs.Execution.Log
import Crosswalk.Proofs.Service.Abort
import Crosswalk.Proofs.Service.Clock

/-!
What execution logs tell of the runs of a configuration.

Of the operations only an application writes a log, one if it gives an answer and is no dry run. So
the logs of a configuration are those of its runs in order, whatever else has been done in between.
Where the clock readings rise, the logs asked for are the latest of these, the newest first.
-/

namespace Crosswalk.Service

open Mapping (Configuration)
open Execution (Log Summary countCodes megabytes)
open Fallible

variable {e : Environment} {s : Store} {op : Operation} {r : Except Failure Answer × Store}
  {c : Configuration} {id : String} {tenant : Option String}
  {ops : List (Circumstances × Operation)} {st : State}

/-! ### Runs in a history -/

/-- The summary of a run, from what it was asked for and what came of it. -/
def summaryOf (k : Circumstances) (id : String) (options : Batch.Options) (o : Batch.Outcome) :
    Summary where
  id := k.id
  configuration := id
  fileUpload := options.fileUpload
  startedAt := k.now.atUtc
  finishedAt := some k.finishedAt.atUtc
  processed := o.metrics.total
  successful := o.metrics.successful
  failed := o.metrics.failed
  errorCounts := countCodes o.errors
  performance :=
    [("avg_time_per_record_ms", o.metrics.averageMs), ("total_time_ms", o.metrics.elapsedMs)] ++
      if k.recorder.keepsMemory then [("memory_rss_mb", megabytes k.memory)] else []
  status := if o.metrics.failed = 0 then "completed" else "completed_with_errors"

/-- Whether an entry of a history is a run of a configuration: an application of it that is no dry
run and gave an answer. -/
def Entry.isRunOf (id : String) (x : Entry) : Bool :=
  match x.operation with
  | .apply i _ _ options => i = id && !options.dryRun && x.answer.isOk
  | _ => false

def Entry.summary? (x : Entry) : Option Summary :=
  match x.operation, x.answer with
  | .apply id _ _ options, .ok (.outcome o) => some (summaryOf x.circumstances id options o)
  | _, _ => none

def runsOf (id : String) (h : List Entry) : List Summary :=
  (h.filter fun x => x.isRunOf id).filterMap (·.summary?)

lemma runsOf_snoc_of_not {x : Entry} (hx : x.isRunOf id = false) (h : List Entry) :
    runsOf id (h ++ [x]) = runsOf id h := by
  have hnot : ¬ x.isRunOf id := by simp [hx]
  rw [runsOf, List.filter_append, List.filter_cons_of_neg hnot, List.filter_nil, List.append_nil,
    runsOf]

lemma runsOf_snoc_of_run {x : Entry} {y : Summary} (hx : x.isRunOf id) (hy : x.summary? = some y)
    (h : List Entry) : runsOf id (h ++ [x]) = runsOf id h ++ [y] := by
  rw [runsOf, List.filter_append, List.filter_cons_of_pos hx, List.filterMap_append, runsOf]
  simp [hy]

/-! ### One step -/

lemma runBatch_cases (hs : s.Sound) (t : Mapping.Tally) (id : String) (tenant : Option String)
    (inputs : List Value) (options : Batch.Options) :
    (∃ f, (runBatch e s t id tenant inputs options).1 = (.error f, s)) ∨
      ∃ c o, c.id = id ∧ (runBatch e s t id tenant inputs options).1 =
        (.ok (.outcome o), if options.dryRun then s else keepRun e s c options o) := by
  rw [runBatch_fst]
  rcases hp : prepare e s id tenant inputs.length with f | c
  · exact .inl ⟨f, rfl⟩
  · obtain ⟨hget, -, -⟩ := findConfiguration_eq_ok.1 (prepare_ok hp).1
    have hid := hs.configurationId id c hget
    dsimp only
    rcases verdictsOn e s tenant c options inputs with g | vs
    · exact .inl ⟨.fault g, rfl⟩
    · exact .inr ⟨c, outcomeOf e c options inputs vs, hid, rfl⟩

def Operation.isApplication : Operation → Bool
  | .apply .. => true
  | _ => false

lemma Effect.logs_cases (h : Effect e s op r) : r.2.logs = s.logs ∨
    op.isApplication ∧ ∃ c options o, r.2.logs = s.logs ++ [logOf e c options o] := by
  cases h with
  | refused => exact .inl rfl
  | answered => exact .inl rfl
  | made =>
    rw [ending_snd]
    exact .inl rfl
  | ruled =>
    rw [ending_snd]
    exact .inl rfl
  | ran =>
    rw [keepRun_eq]
    exact .inr ⟨rfl, _, _, _, rfl⟩

lemma Effect.logs_eq (h : Effect e s op r) (hop : op.isApplication = false) :
    r.2.logs = s.logs := by
  rcases h.logs_cases with hlogs | ⟨happ, -⟩
  · exact hlogs
  · rw [hop] at happ
    cases happ

lemma Effect.logs_grow (h : Effect e s op r) : s.logs <+: r.2.logs := by
  rcases h.logs_cases with hlogs | ⟨-, c, options, o, hlogs⟩
  · exact ⟨[], by rw [List.append_nil, hlogs]⟩
  · exact ⟨_, hlogs.symm⟩

/-- The summaries of the logs of a configuration, in the order of writing. -/
def told (s : Store) (id : String) : List Summary :=
  (s.logs.filter fun l => l.configuration = id).map Log.summary

lemma told_keepRun (s : Store) (c : Configuration) (options : Batch.Options) (o : Batch.Outcome)
    (id : String) : told (keepRun e s c options o) id =
      told s id ++ if c.id = id then [summaryOf e.toCircumstances c.id options o] else [] := by
  have hsummary : (logOf e c options o).summary = summaryOf e.toCircumstances c.id options o := rfl
  have hconfiguration : (logOf e c options o).configuration = c.id := rfl
  rw [keepRun_eq, told, Store.addLog, List.filter_append, List.map_append, ← hsummary]
  by_cases hc : c.id = id <;> simp [told, hconfiguration, hc]

/-- What a step does to the logs of a configuration: it adds that of a run, or it leaves them. -/
inductive OnRuns (id : String) (s s' : Store) (x : Entry) : Prop where
  | left (idle : x.isRunOf id = false) (same : told s' id = told s id)
  | ran {y : Summary} (isRun : x.isRunOf id) (summary : x.summary? = some y)
      (adds : told s' id = told s id ++ [y])

lemma onRuns_runBatch (hs : s.Sound) (t : Mapping.Tally) (i : String) (tenant : Option String)
    (inputs : List Value) (options : Batch.Options) (id : String) :
    OnRuns id s (runBatch e s t i tenant inputs options).1.2
      ⟨e.toCircumstances, .apply i tenant inputs options,
        (runBatch e s t i tenant inputs options).1.1⟩ := by
  rcases runBatch_cases hs t i tenant inputs options with ⟨f, hf⟩ | ⟨c, o, rfl, ho⟩
  · rw [hf]
    exact .left (Bool.and_false _) rfl
  · rw [ho]
    -- a dry run and a run of another configuration leave the logs of this one
    by_cases hdry : options.dryRun
    · rw [if_pos hdry]
      exact .left (by simp [Entry.isRunOf, hdry]) rfl
    · rw [if_neg hdry]
      have htold := told_keepRun (e := e) s c options o id
      by_cases hid : c.id = id
      · rw [if_pos hid] at htold
        exact .ran (by simp [Entry.isRunOf, hdry, hid, Except.isOk, Except.toBool]) rfl htold
      · rw [if_neg hid, List.append_nil] at htold
        exact .left (by simp [Entry.isRunOf, hid]) htold

lemma step_onRuns (hs : st.store.Sound) (k : Circumstances) (op : Operation) (id : String) :
    OnRuns id st.store (step k st op).1.store ⟨k, op, (step k st op).2⟩ := by
  by_cases hop : op.isApplication
  · cases op with
    | apply i tenant inputs options =>
      exact onRuns_runBatch (e := k.environment st.memory) hs st.tally i tenant inputs options id
    | _ => cases hop
  · rw [Bool.not_eq_true] at hop
    refine .left ?_ ?_
    · cases op <;> first | rfl | cases hop
    · rw [told, (step_effect k st op).logs_eq hop, told]

/-! ### The logs after a run -/

/-- **The logs of a configuration are those of its runs**, and each run has one. -/
lemma told_run (ops : List (Circumstances × Operation)) (id : String) :
    told (run .initial ops).1.store id = runsOf id (history .initial ops) ∧
      (runsOf id (history .initial ops)).length =
        (history .initial ops).countP fun x => x.isRunOf id := by
  induction ops using List.reverseRecOn with
  | nil => exact ⟨rfl, rfl⟩
  | append_singleton ops p ih =>
    rw [run_snoc, history_snoc, List.countP_append, List.countP_singleton, ← ih.2]
    -- a step that is no run adds to neither side, and a run adds its summary to both
    rcases step_onRuns (sound_run ops) p.1 p.2 id with ⟨idle, same⟩ | ⟨isRun, summary, adds⟩
    · rw [runsOf_snoc_of_not idle, same, idle]
      exact ⟨ih.1, rfl⟩
    · rw [runsOf_snoc_of_run isRun summary, adds, ih.1, if_pos isRun]
      exact ⟨rfl, List.length_append⟩

def starts (s : Store) : List Moment := s.logs.map (·.startedAt)

lemma Effect.starts_eq (h : Effect e s op r) :
    starts r.2 = starts s ∨ starts r.2 = starts s ++ [e.fresh.now] := by
  rcases h.logs_cases with hlogs | ⟨-, c, options, o, hlogs⟩
  · exact .inl (congrArg (List.map _) hlogs)
  · rw [starts, hlogs, List.map_append]
    exact .inr rfl

lemma dated_logs (rises : Rises ops) (id : String) :
    Dated ops (((run .initial ops).1.store.logs.filter fun l => l.configuration = id).map
      (·.startedAt)) := by
  have hdated : Dated ops (starts (run .initial ops).1.store) :=
    dated_run rfl (fun _ _ _ _ _ h => h.starts_eq) rises
  exact hdated.sublist (List.filter_sublist.map _)

lemma logsOf_run (rises : Rises ops) (id : String) {n : Int} (hn : 1 ≤ n) :
    ∃ ls, (run .initial ops).1.store.logsOf id n = .ok ls ∧
      ls.map Log.summary = (runsOf id (history .initial ops)).reverse.take n.toNat := by
  have hsorted := (dated_logs rises id).latestFirst
  have htold := (told_run ops id).1
  rw [Store.logsOf, hsorted, ok_bind, Execution.sample_of_nonneg (by omega)]
  refine ⟨_, rfl, ?_⟩
  rw [List.map_take, List.map_reverse, ← told, htold]

lemma step_executionLogs (rises : Rises ops) (k : Circumstances) {n : Int} (hn : 1 ≤ n)
    (live : (run .initial ops).1.store.configuration? id tenant = some c) :
    (step k (run .initial ops).1 (.executionLogs id tenant (some n))).2 =
      .ok (.summaries ((runsOf id (history .initial ops)).reverse.take n.toNat)) := by
  have hanswer : (step k (run .initial ops).1 (.executionLogs id tenant (some n))).2 =
      executionLogs (k.environment (run .initial ops).1.memory) (run .initial ops).1.store id tenant
        (some n) := rfl
  have hlimit : ¬ n < 1 := by omega
  have hfound : findConfiguration (run .initial ops).1.store id tenant = .ok c := by
    rw [findConfiguration, live]
  obtain ⟨ls, hls, hsummaries⟩ := logsOf_run rises id hn
  rw [hanswer, executionLogs, Option.getD_some, if_neg hlimit, hfound, ok_bind, hls, ← hsummaries]
  rfl

lemma logs_grow_run (ops later : List (Circumstances × Operation)) :
    (run .initial ops).1.store.logs <+: (run .initial (ops ++ later)).1.store.logs := by
  induction later using List.reverseRecOn with
  | nil => exact ⟨[], by rw [List.append_nil, List.append_nil]⟩
  | append_singleton later p ih =>
    rw [← List.append_assoc, run_snoc]
    exact ih.trans (step_effect p.1 _ p.2).logs_grow

/-! ### What is told when logs are asked for -/

/-- A tenant who asks for the logs of a configuration after some operations is told of the latest of
its runs, as many as asked for. -/
structure TellsRuns (ops : List (Circumstances × Operation)) (id : String)
    (tenant : Option String) : Prop where
  answer (k : Circumstances) (n : Int) (hn : 1 ≤ n) :
    (step k (run .initial ops).1 (.executionLogs id tenant (some n))).2 =
      .ok (.summaries ((runsOf id (history .initial ops)).reverse.take n.toNat))
  count : (runsOf id (history .initial ops)).length =
    (history .initial ops).countP fun x => x.isRunOf id
  newestFirst : (runsOf id (history .initial ops)).reverse.Pairwise fun x y =>
    y.startedAt.utcTicks < x.startedAt.utcTicks
  shorter (k l : Circumstances) (m n : Int) (hm : 1 ≤ m) (hmn : m ≤ n) : ∃ xs ys,
    (step k (run .initial ops).1 (.executionLogs id tenant (some m))).2 = .ok (.summaries xs) ∧
      (step l (run .initial ops).1 (.executionLogs id tenant (some n))).2 = .ok (.summaries ys) ∧
        xs <+: ys

/-- **What execution logs tell.** Where clock readings rise, they tell of a live configuration the
latest runs, the newest first, and for a smaller limit the first of what they tell for a larger one.
A log that is written stays as it is, whatever is done later. -/
theorem execution_logs_tell_runs (ops : List (Circumstances × Operation)) :
    (Rises ops → ∀ (id : String) (tenant : Option String) (c : Configuration),
      (run .initial ops).1.store.configuration? id tenant = some c → TellsRuns ops id tenant) ∧
    ∀ later : List (Circumstances × Operation),
      (run .initial ops).1.store.logs <+: (run .initial (ops ++ later)).1.store.logs := by
  refine ⟨fun rises id tenant c live => ?_, logs_grow_run ops⟩
  have hanswer : ∀ (k : Circumstances) (n : Int), 1 ≤ n → _ :=
    fun k n hn => step_executionLogs rises k hn live
  refine ⟨hanswer, (told_run ops id).2, ?_, ?_⟩
  · have hnewest := (dated_logs rises id).pairwise_reverse
    rw [← (told_run ops id).1, told, ← List.map_reverse, List.pairwise_map]
    exact hnewest
  · intro k l m n hm hmn
    refine ⟨_, _, hanswer k m hm, hanswer l n (Int.le_trans hm hmn), ?_⟩
    exact List.take_prefix_take_left (by omega)

/-- A mapping that is applied twice, with a dry run and an application of nothing in between. -/
def fewRuns : List (Circumstances × Operation) :=
  [(onDay 1 "x", .createMapping payrollDraft (some "t") none),
    (onDay 2 "a", .apply "x" (some "t") [.object []] .standard),
    (onDay 3 "b", .testMapping "x" (some "t") [.object []] .standard),
    (onDay 4 "c", .apply "y" (some "t") [.object []] .standard),
    (onDay 5 "d", .apply "x" (some "t") [.null] .standard)]

/-- Both runs are told of, the later one first. -/
theorem few_runs_told : TellsRuns fewRuns "x" (some "t") ∧
    (runsOf "x" (history .initial fewRuns)).map (fun y => (y.id, y.status)) =
      [("a", "completed"), ("d", "completed_with_errors")] := by
  have rises : Rises fewRuns := by
    unfold Rises fewRuns
    decide
  have hlive : ((run .initial fewRuns).1.store.configuration? "x" (some "t")).isSome := by
    decide +kernel
  obtain ⟨c, live⟩ := Option.isSome_iff_exists.1 hlive
  refine ⟨(execution_logs_tell_runs fewRuns).1 rises "x" (some "t") c live, ?_⟩
  decide +kernel

end Crosswalk.Service
