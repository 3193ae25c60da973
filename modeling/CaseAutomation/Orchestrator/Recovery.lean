import CaseAutomation.Orchestrator.Completion
import CaseAutomation.Orchestrator.Filing
import CaseAutomation.Orchestrator.Progress
import CaseAutomation.Orchestrator.Starts

/-! # Recovery after a Crash

    A worker crashes in the middle of `execute`, between any two of its calls, and its lock
    expires. The next recovery sweep executes the run again, among the other runs it lists.

    The new pass skips what is marked done and passes over what is on record. It can only be
    stopped by a row that is *stuck*: marked running, with nothing on record. The table
    does not let such a row start again, so the pass ends with an exception. Without a stuck
    row the run stops where the crashed pass would have stopped.

    The runs that the sweep lists before and after this one make no difference (`Aside`): the calls
    of their passes concern other rows, records and locks.
-/

namespace CaseAutomation.Orchestrator.Recovery

open Framework Program Filing

/-! ## The crash -/

/-- The worker that executes the run crashes after its first `n` calls, and its lock expires. -/
def crashed (env : Env) (engine : Engine) (depth : Nat) (run_id : String) (n : Nat) (w : World) :
    World :=
  Engine.unlocked run_id (Program.after (exec env) n (engine.execute depth run_id) w).2

/-- What a pass over the run leaves as it is, wherever it is stopped. -/
structure SameCourse (run_id : String) (w w' : World) : Prop where
  registry : w'.registry = w.registry
  workflow : (w'.store.runs.get? run_id).map WorkflowRun.workflow =
    (w.store.runs.get? run_id).map WorkflowRun.workflow
  stop : stop_status (w'.store.get_steps run_id) = stop_status (w.store.get_steps run_id)

theorem SameCourse.refl (run_id : String) (w : World) : SameCourse run_id w w := ⟨rfl, rfl, rfl⟩

theorem SameCourse.trans {run_id : String} {a b c : World} (h : SameCourse run_id a b)
    (h' : SameCourse run_id b c) : SameCourse run_id a c :=
  ⟨h'.registry.trans h.registry, h'.workflow.trans h.workflow, h'.stop.trans h.stop⟩

/-- A row of an application step does not decide where a pass stops. -/
theorem stop_status_replace {pre post : List StepState} {row row' : StepState}
    (hrow : is_gate row.step = false) (hrow' : is_gate row'.step = false) :
    stop_status (pre ++ row' :: post) = stop_status (pre ++ row :: post) := by
  unfold stop_status next_gate
  rw [List.find?_append, List.find?_append, List.find?_cons_of_neg (by simp [undone_gate, hrow']),
    List.find?_cons_of_neg (by simp [undone_gate, hrow])]

section crash
variable {env : Env} {c : Call} {run_id : String} {w : World}

theorem exec_is_redis : (exec env c w).2.idem.is_redis = w.idem.is_redis := by
  rw [exec_idem]
  cases c <;> simp

/-- A rewritten run keeps its workflow. -/
theorem workflow_set {s : RunStore} {id : String} {run run' : WorkflowRun}
    (hget : s.runs.get? id = some run) (hsame : run'.workflow = run.workflow) (run_id : String) :
    ((s.runs.set id run').get? run_id).map WorkflowRun.workflow =
      (s.runs.get? run_id).map WorkflowRun.workflow := by
  by_cases hid : run_id = id
  · subst hid
    rw [Dict.get?_set_self, hget]
    exact congrArg some hsame
  · rw [Dict.get?_set_ne _ _ hid]

/-- **One call of a pass.** -/
theorem SameCourse.exec (hc : concerns run_id c) : SameCourse run_id w (exec env c w).2 := by
  refine ⟨exec_registry env c w, ?_, ?_⟩
  all_goals
    have hchange := exec_store_change env c w
    generalize (Orchestrator.exec env c w).2.store = store at hchange
    generalize (Orchestrator.exec env c w).2.clock = clock at hchange
  · cases hchange with
    | created => exact hc.elim
    | status _ _ _ hget _ =>
      refine workflow_set hget ?_ run_id
      rfl
    | current _ hget =>
      refine workflow_set hget ?_ run_id
      rfl
    | _ => rfl
  · cases hchange with
    | created => exact hc.elim
    | advanced => exact hc.elim
    | @updated step row pre post hget _ hname _ =>
      obtain ⟨hrow, hplain⟩ := hc
      have hof := hrow.of_run
      rw [hof] at hget ⊢
      rw [RunStore.get_steps_set_self, RunStore.get_steps_eq hget]
      exact stop_status_replace (hname ▸ hplain) hplain
    | _ => rfl

/-- The crash leaves the run on its course. -/
theorem crashed_same (env : Env) (engine : Engine) (depth : Nat) (run_id : String) (n : Nat)
    (hfiled : Filed env w) :
    Filed env (crashed env engine depth run_id n w) ∧
      SameCourse run_id w (crashed env engine depth run_id n w) := by
  have hsafe : Yields (thread env (concerns run_id) 0) (fun _ _ => True)
      (engine.execute depth run_id) w := Filing.yields_execute (fun _ hc => hc) engine depth w
  obtain ⟨hinv, hsame⟩ := Safe.after_related (C := thread env (concerns run_id) 0)
    (fun _ _ => faulty.answered) Later.refl (SameCourse.refl run_id) SameCourse.trans
    (fun _ _ _ hguard => SameCourse.exec hguard.1) hfiled hsafe n
  exact ⟨⟨hinv.keyed, hinv.stamped, hinv.declared, hinv.rows, hinv.gates⟩, hsame.registry,
    hsame.workflow, hsame.stop⟩

end crash

/-! ## The runs that the sweep lists besides -/

/-- What the sweep has logged about passes over the run that raised. -/
def failures (run_id : String) (trace : List Event) : List Event :=
  trace.filter fun
    | .logged_error event id _ =>
      decide (event = "recovery.execute_failed") && decide (id = run_id)
    | _ => false

@[simp] theorem failures_append (run_id : String) (a b : List Event) :
    failures run_id (a ++ b) = failures run_id a ++ failures run_id b :=
  List.filter_append a b

/-- Work on other runs: this run, its rows, its records and its lock are as they were. -/
structure Aside (env : Env) (run_id : String) (w w' : World) : Prop where
  registry : w'.registry = w.registry
  run : w'.store.runs.get? run_id = w.store.runs.get? run_id
  rows : w'.store.steps.get? run_id = w.store.steps.get? run_id
  redis : w'.idem.is_redis = w.idem.is_redis
  records : ∀ step, w'.idem.lookup env.json (run_id ++ ":" ++ step) =
    w.idem.lookup env.json (run_id ++ ":" ++ step)
  granted : (acquire_lock run_id w'.lock).1 = (acquire_lock run_id w.lock).1
  reports : failures run_id w'.trace = failures run_id w.trace
  events : ∃ new, w'.trace = w.trace ++ new ∧ ∀ step, invoked_count run_id step new = 0

theorem Aside.refl (env : Env) (run_id : String) (w : World) : Aside env run_id w w :=
  ⟨rfl, rfl, rfl, rfl, fun _ => rfl, rfl, rfl, [], (List.append_nil _).symm, fun _ => rfl⟩

theorem Aside.trans {env : Env} {run_id : String} {a b c : World} (h : Aside env run_id a b)
    (h' : Aside env run_id b c) : Aside env run_id a c := by
  refine ⟨h'.registry.trans h.registry, h'.run.trans h.run, h'.rows.trans h.rows,
    h'.redis.trans h.redis, fun step => (h'.records step).trans (h.records step),
    h'.granted.trans h.granted, h'.reports.trans h.reports, ?_⟩
  obtain ⟨new, htrace, hquiet⟩ := h.events
  obtain ⟨new', htrace', hquiet'⟩ := h'.events
  refine ⟨new ++ new', ?_, fun step => ?_⟩
  · rw [htrace', htrace, List.append_assoc]
  · rw [invoked_count_append, hquiet step, hquiet' step]

/-- Ids without a colon, as those that `uuid4` draws, have keys of their own. -/
theorem keys_apart {id other step step' : String} (hid : ':' ∉ id.toList)
    (hother : ':' ∉ other.toList) (hne : other ≠ id) : id ++ ":" ++ step ≠ other ++ ":" ++ step' := by
  have hhead : ∀ {id step : String}, ':' ∉ id.toList →
      (id ++ ":" ++ step).toList.takeWhile (fun c => decide (c ≠ ':')) = id.toList := by
    intro id step h
    have hall : ∀ c ∈ id.toList, decide (c ≠ ':') = true := by
      intro c hc
      simp only [decide_eq_true_eq]
      rintro rfl
      exact h hc
    rw [String.toList_append, String.toList_append, List.append_assoc,
      List.takeWhile_append_of_pos hall]
    simp
  intro heq
  have hlists := congrArg (fun s : String => s.toList.takeWhile fun c => decide (c ≠ ':')) heq
  simp only [hhead hid, hhead hother] at hlists
  exact hne (String.toList_inj.mp hlists).symm

section aside
variable {env : Env} {c : Call} {run_id other : String} {w : World}

theorem granted_acquire (hne : other ≠ run_id) (lock : Option (List String)) :
    (acquire_lock run_id (acquire_lock other lock).2).1 = (acquire_lock run_id lock).1 := by
  have hkey : lock_key run_id ≠ lock_key other := by
    unfold lock_key
    intro heq
    exact hne (by simpa using heq.symm)
  cases lock with
  | none => rfl
  | some held =>
    unfold acquire_lock
    by_cases hheld : lock_key other ∈ held
    · simp [hheld]
    · by_cases hmine : lock_key run_id ∈ held <;> simp [hheld, hmine, hkey]

theorem granted_release (hne : other ≠ run_id) (lock : Option (List String)) :
    (acquire_lock run_id (release_lock other lock)).1 = (acquire_lock run_id lock).1 := by
  have hkey : lock_key run_id ≠ lock_key other := by
    unfold lock_key
    intro heq
    exact hne (by simpa using heq.symm)
  cases lock with
  | none => rfl
  | some held =>
    unfold acquire_lock release_lock
    by_cases hmine : lock_key run_id ∈ held <;> simp [hmine, hkey]

/-- A pass logs no failure of its own. -/
theorem exec_reports (hc : concerns other c) (run_id : String) :
    failures run_id (exec env c w).2.trace = failures run_id w.trace := by
  rw [exec_trace, failures_append]
  suffices hnone : failures run_id (c.events w) = [] by rw [hnone, List.append_nil]
  cases c with
  | log_error => exact hc.elim
  | update_step row =>
    simp only [Call.events]
    split <;> rfl
  | _ => rfl

/-- It invokes the handlers of its own run. -/
theorem events_quiet (hc : concerns other c) (hne : other ≠ run_id) (step : String) :
    invoked_count run_id step (c.events w) = 0 := by
  cases c with
  | invoke handler name ctx =>
    obtain rfl : ctx.run_id = other := hc
    simp [Call.events, invoked_count, Event.invokes, hne]
  | update_step row =>
    simp only [Call.events]
    split <;> rfl
  | _ => rfl

/-- **One call of a pass over another run.** -/
theorem Aside.exec (hc : concerns other c) (hne : other ≠ run_id) (hid : ':' ∉ run_id.toList)
    (hother : ':' ∉ other.toList) : Aside env run_id w (exec env c w).2 := by
  have hruns : ∀ {run}, (w.store.runs.set other run).get? run_id = w.store.runs.get? run_id :=
    fun {run} => Dict.get?_set_ne _ _ hne.symm
  refine ⟨exec_registry env c w, ?_, ?_, exec_is_redis, ?_, ?_, ?_,
    c.events w, exec_trace env c w, events_quiet hc hne⟩
  · have hchange := exec_store_change env c w
    generalize (Orchestrator.exec env c w).2.store = store at hchange
    generalize (Orchestrator.exec env c w).2.clock = clock at hchange
    cases hchange with
    | created => exact hc.elim
    | status =>
      obtain rfl : _ = other := hc
      exact hruns
    | current =>
      obtain rfl : _ = other := hc
      exact hruns
    | _ => rfl
  · have hchange := exec_store_change env c w
    generalize (Orchestrator.exec env c w).2.store = store at hchange
    generalize (Orchestrator.exec env c w).2.clock = clock at hchange
    cases hchange with
    | created => exact hc.elim
    | advanced => exact hc.elim
    | updated =>
      refine Dict.get?_set_ne _ _ ?_
      rw [hc.1.of_run]
      exact hne.symm
    | _ => rfl
  · intro step
    rw [exec_idem]
    cases c with
    | reserve key => exact IdemStore.lookup_reserve _ _ _ _
    | record key output =>
      obtain ⟨step', rfl⟩ := hc
      exact IdemStore.lookup_record_ne _ _ _ (keys_apart hid hother hne)
    | _ => rfl
  · cases c with
    | acquire id =>
      obtain rfl : id = other := hc
      exact granted_acquire hne w.lock
    | release id =>
      obtain rfl : id = other := hc
      exact granted_release hne w.lock
    | create_run => exact hc.elim
    | update_step row =>
      simp only [Orchestrator.exec]
      split <;> rfl
    | update_run_status =>
      exact congrArg (fun lock => (acquire_lock run_id lock).1) (World.write_lock w _)
    | set_current_step =>
      exact congrArg (fun lock => (acquire_lock run_id lock).1) (World.write_lock w _)
    | _ => rfl
  · exact exec_reports hc run_id

end aside

/-! ## The sweep, run by run -/

/-- What the sweep does about one run that it lists. -/
def visited (env : Env) (engine : Engine) (depth : Nat) (w : World) (run_id : String) : World :=
  match w.store.runs.get? run_id with
  | none => w
  | some run =>
    if run.status = .AWAITING_APPROVAL then w
    else ((sweep_run engine depth false run_id).run (exec env) w).2

section sweep
variable {env : Env} {engine : Engine} {depth : Nat} {run_id : String} {w : World}

/-- A pass that returns. -/
theorem sweep_run_returns {stopped : WorkflowRun} {w' : World}
    (h : (engine.execute depth run_id).run (exec env) w = (.ok stopped, w')) :
    (sweep_run engine depth false run_id).run (exec env) w = (.ok (), w') :=
  run_attempt_bind h

/-- A pass that raises is logged. -/
theorem sweep_run_raises {e : Exn} {w' : World}
    (h : (engine.execute depth run_id).run (exec env) w = (.error e, w')) :
    (sweep_run engine depth false run_id).run (exec env) w =
      (.ok (), w'.emit (.logged_error "recovery.execute_failed" run_id e)) :=
  (run_attempt_bind h).trans rfl

theorem sweep_run_ok (env : Env) (engine : Engine) (depth : Nat) (run_id : String) (w : World) :
    ∃ w', (sweep_run engine depth false run_id).run (exec env) w = (.ok (), w') := by
  cases hrun : (engine.execute depth run_id).run (exec env) w with
  | mk r w' =>
    cases r with
    | ok stopped => exact ⟨_, sweep_run_returns hrun⟩
    | error e => exact ⟨_, sweep_run_raises hrun⟩

/-- The sweep visits the runs one after the other. -/
theorem sweep_runs_run (env : Env) (engine : Engine) (depth : Nat) (run_ids : List String) (w : World) :
    ∃ listed, (sweep_runs engine depth false run_ids).run (exec env) w =
      (.ok listed, run_ids.foldl (visited env engine depth) w) := by
  induction run_ids generalizing w with
  | nil => exact ⟨[], rfl⟩
  | cons run_id rest ih =>
    have hget : exec env (.get_run run_id) w = (.ok (w.store.runs.get? run_id), w) := rfl
    unfold sweep_runs
    rw [monad_bind, run_await hget, List.foldl_cons]
    unfold visited
    cases w.store.runs.get? run_id with
    | none => exact ih w
    | some run =>
      by_cases hwaits : run.status = .AWAITING_APPROVAL
      · simp only [if_pos hwaits]
        exact ih w
      · simp only [if_neg hwaits]
        obtain ⟨w', hvisit⟩ := sweep_run_ok env engine depth run_id w
        obtain ⟨listed, hrest⟩ := ih w'
        rw [monad_bind, run_bind_ok hvisit, hvisit]
        exact ⟨run_id :: listed, run_bind_ok hrest⟩

theorem recovery_sweep_run (env : Env) (engine : Engine) (depth : Nat) (w : World) :
    ((recovery_sweep engine depth false).run (exec env) w).2 =
      w.store.find_recoverable_runs.foldl (visited env engine depth) w := by
  have hfind : exec env .find_recoverable_runs w = (.ok w.store.find_recoverable_runs, w) := rfl
  obtain ⟨listed, hruns⟩ := sweep_runs_run env engine depth w.store.find_recoverable_runs w
  unfold recovery_sweep
  rw [monad_bind, run_await hfind, hruns]

/-- The visit of another run. -/
theorem visited_aside (env : Env) (engine : Engine) (depth : Nat) {other : String}
    (hne : other ≠ run_id) (hid : ':' ∉ run_id.toList) (hother : ':' ∉ other.toList)
    (hfiled : Filed env w) :
    Filed env (visited env engine depth w other) ∧
      Aside env run_id w (visited env engine depth w other) := by
  have hsafe : Yields (thread env (concerns other) 0) (fun _ _ => True)
      (engine.execute depth other) w := Filing.yields_execute (fun _ hc => hc) engine depth w
  have hpass : ∀ w', ((engine.execute depth other).run (exec env) w).2 = w' →
      Filed env w' ∧ Aside env run_id w w' := by
    rintro w' rfl
    exact ⟨(Safe.run (C := thread env (concerns other) 0) (fun _ _ => faulty.answered)
      Later.refl hfiled hsafe).1,
      Safe.run_related (C := thread env (concerns other) 0) (fun _ _ => faulty.answered)
        Later.refl (Aside.refl env run_id) Aside.trans
        (fun _ _ _ hguard => Aside.exec hguard.1 hne hid hother) hfiled hsafe⟩
  unfold visited
  split
  · exact ⟨hfiled, .refl env run_id w⟩
  split
  · exact ⟨hfiled, .refl env run_id w⟩
  cases hrun : (engine.execute depth other).run (exec env) w with
  | mk r w' =>
    obtain ⟨hfiled', haside⟩ := hpass w' (congrArg Prod.snd hrun)
    cases r with
    | ok stopped =>
      rw [sweep_run_returns hrun]
      exact ⟨hfiled', haside⟩
    | error e =>
      rw [sweep_run_raises hrun]
      refine ⟨⟨hfiled'.keyed, hfiled'.stamped, hfiled'.declared, hfiled'.rows, hfiled'.gates⟩,
        haside.trans ⟨rfl, rfl, rfl, rfl, fun _ => rfl, rfl, ?_,
        [.logged_error "recovery.execute_failed" other e], rfl, fun _ => rfl⟩⟩
      show failures run_id (w'.trace ++ _) = failures run_id w'.trace
      rw [failures_append]
      simp [failures, hne]

/-- The visits of other runs. -/
theorem fold_aside (env : Env) (engine : Engine) (depth : Nat) (others : List String)
    (hothers : ∀ other ∈ others, other ≠ run_id) (hid : ':' ∉ run_id.toList)
    (hcolons : ∀ other ∈ others, ':' ∉ other.toList) (hfiled : Filed env w) :
    Filed env (others.foldl (visited env engine depth) w) ∧
      Aside env run_id w (others.foldl (visited env engine depth) w) := by
  induction others generalizing w with
  | nil => exact ⟨hfiled, .refl env run_id w⟩
  | cons other others ih =>
    obtain ⟨hfiled', haside⟩ := visited_aside env engine depth
      (hothers other List.mem_cons_self) hid (hcolons other List.mem_cons_self) hfiled
    obtain ⟨hfiled'', haside'⟩ := ih (fun o ho => hothers o (List.mem_cons_of_mem _ ho))
      (fun o ho => hcolons o (List.mem_cons_of_mem _ ho)) hfiled'
    exact ⟨hfiled'', haside.trans haside'⟩

end sweep

/-! ## The visit of the run -/

/-- A row that a pass over the run would come to is stuck. -/
def Stuck (env : Env) (run_id : String) (w : World) : Prop :=
  ∃ row ∈ ahead (w.store.get_steps run_id), stuck env (w.store.get_steps run_id) w row = true

/-- The run is filed, with the rows of the workflow `defn`. -/
structure Held (defn : WorkflowDef) (run_id : String) (run : WorkflowRun) (rows : List StepState)
    (w : World) : Prop where
  stored : Stored run_id run rows w
  rows : RowsOk defn run_id rows
  id : run.id = run_id
  latest : get_workflow_latest w.registry run.workflow = .ok defn

theorem held_of_filed {env : Env} {w : World} (h : Filed env w) {run_id : String} {run : WorkflowRun}
    {defn : WorkflowDef} (hrun : w.store.runs.get? run_id = some run)
    (hlatest : get_workflow_latest w.registry run.workflow = .ok defn) :
    ∃ rows, Held defn run_id run rows w := by
  obtain ⟨defn', rows, hlatest', hrows, hnames⟩ := h.declared run_id run hrun
  rw [hlatest] at hlatest'
  cases hlatest'
  exact ⟨rows, ⟨hrun, hrows⟩, ⟨hnames, h.rows run_id rows hrows⟩, h.keyed run_id run hrun, hlatest⟩

theorem Held.get_steps {defn : WorkflowDef} {run_id : String} {run : WorkflowRun}
    {rows : List StepState} {w : World} (h : Held defn run_id run rows w) :
    w.store.get_steps run_id = rows :=
  RunStore.get_steps_eq h.stored.rows

section visit
variable {env : Env} {engine : Engine} {depth : Nat} {run_id : String} {w : World}
  {run : WorkflowRun} {rows : List StepState} {defn : WorkflowDef}

/-- A run that returns has stopped where its rows say. -/
theorem execute_returns (hheld : Held defn run_id run rows w)
    (hreturns : NeverRaise defn defn.steps) (hfree : (acquire_lock run_id w.lock).1 = true)
    {stopped : WorkflowRun} {w' : World}
    (hstop : (engine.execute (depth + 1) run_id).run (exec env) w = (.ok stopped, w')) :
    stopped.status = stop_status rows := by
  obtain ⟨w₁, run₁, hbegun, hpass⟩ := Engine.execute_run env engine depth hfree hheld.stored
    hheld.latest
  obtain ⟨rest, hsplit, hhalts, hremaining, hsame, hgates⟩ := ahead_plain
    ⟨engine, engine.execute depth run_id, run₁, defn, run_id⟩ hheld.rows
  cases hloop : ((⟨engine, engine.execute depth run_id, run₁, defn, run_id⟩ : Pass).loop rows
    (Engine.stored_outputs rows) []).run (exec env) w₁ with
  | mk r w₂ =>
  rw [hpass r w₂ hloop] at hstop
  cases hstop
  rw [← hsame]
  rw [hsplit] at hloop
  exact pass_returns hremaining hgates hhalts (never_raise_ahead hreturns hheld.rows)
    (hbegun.id.trans hheld.id) (hsplit ▸ hbegun.stored) (hsplit ▸ hheld.rows) hloop

/-- A pass over the run logs no failure. -/
theorem execute_reports (env : Env) (engine : Engine) (depth : Nat) (run_id : String)
    (hfiled : Filed env w) :
    failures run_id ((engine.execute depth run_id).run (exec env) w).2.trace =
      failures run_id w.trace := by
  have hsafe : Yields (thread env (concerns run_id) 0) (fun _ _ => True)
      (engine.execute depth run_id) w := Filing.yields_execute (fun _ hc => hc) engine depth w
  exact Safe.run_related (C := thread env (concerns run_id) 0)
    (R := fun w w' : World => failures run_id w'.trace = failures run_id w.trace)
    (fun _ _ => faulty.answered) Later.refl (fun _ => rfl) (fun h h' => h'.trans h)
    (fun _ _ _ hguard => exec_reports hguard.1 run_id) hfiled hsafe

end visit

/-! ## The whole sweep -/

/-- The sweep, from `w`, drives the run to this status without its `execute` raising. -/
structure Recovers (env : Env) (engine : Engine) (depth : Nat) (run_id : String)
    (status : RunStatus) (w : World) : Prop where
  quiet : failures run_id ((recovery_sweep engine depth false).run (exec env) w).2.trace =
    failures run_id w.trace
  stops : ∃ run, ((recovery_sweep engine depth false).run (exec env) w).2.store.runs.get? run_id =
    some run ∧ run.status = status

/-- The events of a sweep. -/
def sweep_events (env : Env) (engine : Engine) (depth : Nat) (w : World) : List Event :=
  ((recovery_sweep engine depth false).run (exec env) w).2.trace.drop w.trace.length

/-- Nothing stops a pass of the sweep over the run: no row ahead is stuck, and where a step name
    comes up again the store gives back what its handler returned in the sweep. -/
structure Clear (env : Env) (engine : Engine) (depth : Nat) (run_id : String) (w : World) :
    Prop where
  unstuck : ¬ Stuck env run_id w
  repeats : RepeatsRecognised run_id w.idem.is_redis (ahead (w.store.get_steps run_id))
    (sweep_events env engine depth w)

section whole
variable {env : Env} {engine : Engine} {depth : Nat} {run_id : String} {w : World}
  {run : WorkflowRun} {rows : List StepState} {defn : WorkflowDef}

/-- The sweep up to its visit of the run, and after it. -/
theorem sweep_around (env : Env) (engine : Engine) (depth : Nat)
    (hfiled : Filed env w) (hlisted : run_id ∈ w.store.find_recoverable_runs)
    (hcolons : ∀ id ∈ w.store.find_recoverable_runs, ':' ∉ id.toList) :
    ∃ w₁, Filed env w₁ ∧ Aside env run_id w w₁ ∧
      (Filed env (visited env engine depth w₁ run_id) →
        Aside env run_id (visited env engine depth w₁ run_id)
          ((recovery_sweep engine depth false).run (exec env) w).2) := by
  obtain ⟨before, later, hsplit⟩ := List.append_of_mem hlisted
  have honce := hfiled.listed_once
  rw [hsplit] at honce hcolons
  obtain ⟨-, hlater, hcross⟩ := List.nodup_append.mp honce
  have hid : ':' ∉ run_id.toList := hcolons run_id (by simp)
  have hbefore : ∀ other ∈ before, other ≠ run_id :=
    fun other hother => hcross other hother run_id List.mem_cons_self
  have hafter : ∀ other ∈ later, other ≠ run_id := by
    rintro other hother rfl
    exact (List.nodup_cons.mp hlater).1 hother
  obtain ⟨hfiled₁, haside₁⟩ := fold_aside env engine depth before hbefore hid
    (fun other hother => hcolons other (by simp [hother])) hfiled
  refine ⟨before.foldl (visited env engine depth) w, hfiled₁, haside₁, ?_⟩
  intro hfiled₂
  rw [recovery_sweep_run, hsplit, List.foldl_append, List.foldl_cons]
  exact (fold_aside env engine depth later hafter hid
    (fun other hother => hcolons other (by simp [hother])) hfiled₂).2

/-- What happens aside does not unlock the run, nor hold it up. -/
theorem Aside.stuck_iff {w₁ : World} (h : Aside env run_id w w₁)
    (hfiled : Filed env w) : Stuck env run_id w₁ ↔ Stuck env run_id w := by
  have hsteps : w₁.store.get_steps run_id = w.store.get_steps run_id := by
    unfold RunStore.get_steps
    rw [h.rows]
  have hsame : ∀ row ∈ ahead (w.store.get_steps run_id),
      stuck env (w.store.get_steps run_id) w₁ row = stuck env (w.store.get_steps run_id) w row := by
    intro row hrow
    have hmem := (mem_ahead hrow).1
    have hkey : row.idem_key = run_id ++ ":" ++ row.step := by
      cases hrows : w.store.steps.get? run_id with
      | none =>
        rw [RunStore.get_steps, hrows] at hmem
        cases hmem
      | some rows =>
        rw [RunStore.get_steps_eq hrows] at hmem
        exact (hfiled.rows run_id rows hrows row hmem).key
    unfold stuck
    rw [hkey, h.records]
  unfold Stuck
  rw [hsteps]
  constructor
  · rintro ⟨row, hrow, hstuck⟩
    exact ⟨row, hrow, hsame row hrow ▸ hstuck⟩
  · rintro ⟨row, hrow, hstuck⟩
    exact ⟨row, hrow, (hsame row hrow).symm ▸ hstuck⟩

/-- Events around the visit of the run. -/
theorem sweep_events_eq {w₁ w₂ : World} {new : List Event} (hbefore : Aside env run_id w w₁)
    (htrace : w₂.trace = w₁.trace ++ new)
    (hafter : Aside env run_id w₂ ((recovery_sweep engine depth false).run (exec env) w).2)
    (redis : Bool) (rows : List StepState) :
    RepeatsRecognised run_id redis rows (sweep_events env engine depth w) ↔
      RepeatsRecognised run_id redis rows new := by
  obtain ⟨first, hfirst, hquiet⟩ := hbefore.events
  obtain ⟨last, hlast, hquiet'⟩ := hafter.events
  have hevents : sweep_events env engine depth w = first ++ (new ++ last) := by
    unfold sweep_events
    rw [hlast, htrace, hfirst]
    simp only [List.append_assoc, List.drop_left]
  rw [hevents, repeatsRecognised_quiet_append hquiet, repeatsRecognised_append_quiet hquiet']

/-- **The sweep and a run that it lists.** The run is driven to its stop exactly if nothing
    stops the pass. -/
theorem sweep_recovers_iff (hfiled : Filed env w)
    (hheld : Held defn run_id run rows w) (hreturns : NeverRaise defn defn.steps)
    (hfree : (acquire_lock run_id w.lock).1 = true)
    (hlisted : run_id ∈ w.store.find_recoverable_runs)
    (hcolons : ∀ id ∈ w.store.find_recoverable_runs, ':' ∉ id.toList) :
    Recovers env engine (depth + 1) run_id (stop_status rows) w ↔
      Clear env engine (depth + 1) run_id w := by
  obtain ⟨w₁, hfiled₁, haside, hlater⟩ := sweep_around env engine (depth + 1) hfiled hlisted hcolons
  obtain ⟨found, hfound, hactive⟩ := hfiled.listed hlisted
  rw [hheld.stored.run] at hfound
  cases hfound
  have hheld₁ : Held defn run_id run rows w₁ :=
    ⟨⟨haside.run.trans hheld.stored.run, haside.rows.trans hheld.stored.rows⟩, hheld.rows, hheld.id,
      haside.registry.symm ▸ hheld.latest⟩
  have hfree₁ : (acquire_lock run_id w₁.lock).1 = true := haside.granted.trans hfree
  have hvisit : visited env engine (depth + 1) w₁ run_id =
      ((sweep_run engine (depth + 1) false run_id).run (exec env) w₁).2 := by
    have hwaits : run.status ≠ .AWAITING_APPROVAL := by
      rcases hactive with h | h
      · rw [h]
        decide
      · rw [h]
        decide
    unfold visited
    rw [hheld₁.stored.run]
    simp only [if_neg hwaits]
  have hreports := execute_reports env engine (depth + 1) run_id hfiled₁
  have hsafe : Yields (thread env (concerns run_id) 0) (fun _ _ => True)
      (engine.execute (depth + 1) run_id) w₁ := Filing.yields_execute (fun _ hc => hc) engine _ w₁
  have hfiled₂ := (Safe.run (C := thread env (concerns run_id) 0) (fun _ _ => faulty.answered)
    Later.refl hfiled₁ hsafe).1
  have hstuck : (∀ r ∈ ahead rows, stuck env rows w₁ r = false) ↔ ¬ Stuck env run_id w := by
    rw [← haside.stuck_iff hfiled]
    unfold Stuck
    rw [hheld₁.get_steps]
    simp
  rw [hvisit] at hlater
  obtain ⟨new, w₂, hnew, ⟨hblocked, e, hexecute⟩ | ⟨hpass, -, run', hexecute, hstored, hstatus⟩⟩ :=
    @execute_stops env _ _ _ _ _ engine depth hfree₁ hheld₁.stored hheld₁.rows hheld₁.id
      hheld₁.latest hreturns hactive
  · -- the pass raises, and the sweep logs it
    rw [hexecute] at hreports hfiled₂
    rw [sweep_run_raises hexecute] at hlater
    have hrest := hlater ⟨hfiled₂.keyed, hfiled₂.stamped, hfiled₂.declared, hfiled₂.rows, hfiled₂.gates⟩
    refine iff_of_false ?_ ?_
    · intro hrecovers
      have hgrown := hrest.reports
      rw [hrecovers.quiet, ← haside.reports, ← hreports] at hgrown
      have hemit : failures run_id (w₂.emit (.logged_error "recovery.execute_failed" run_id e)).trace =
          failures run_id w₂.trace ++ [.logged_error "recovery.execute_failed" run_id e] := by
        show failures run_id (w₂.trace ++ _) = _
        rw [failures_append]
        simp [failures]
      rw [hemit] at hgrown
      simp at hgrown
    · rintro ⟨hclear, hrepeats⟩
      have htrace : (w₂.emit (.logged_error "recovery.execute_failed" run_id e)).trace =
          w₁.trace ++ (new ++ [.logged_error "recovery.execute_failed" run_id e]) := by
        show w₂.trace ++ _ = _
        rw [hnew, List.append_assoc]
      rw [hheld.get_steps, sweep_events_eq haside htrace hrest,
        repeatsRecognised_append_quiet fun _ => rfl, ← haside.redis] at hrepeats
      exact hblocked ⟨hstuck.mpr hclear, hrepeats⟩
  · rw [hexecute] at hreports hfiled₂
    rw [sweep_run_returns hexecute] at hlater
    have hrest := hlater hfiled₂
    refine iff_of_true ⟨hrest.reports.trans (hreports.trans haside.reports),
      run', hrest.run.trans hstored, hstatus⟩ ⟨hstuck.mp hpass.free, ?_⟩
    rw [hheld.get_steps, sweep_events_eq haside hnew hrest, ← haside.redis]
    exact hpass.repeats

/-- **Recovery after a crash.** In any history, let `execute` of a run, alone and with handlers
    that never raise, bring the run to a stop. If it crashes instead after any number of its calls
    and the next sweep lists the run, the sweep drives it to the same stop without its `execute`
    raising exactly if nothing stops the pass. -/
theorem crashed_run_recovers_iff {registry : Registry} {ts : List (M Unit)}
    (h : History env engine registry w ts) (hrun : w.store.runs.get? run_id = some run)
    (hlatest : get_workflow_latest w.registry run.workflow = .ok defn)
    (hreturns : NeverRaise defn defn.steps) (hfree : (acquire_lock run_id w.lock).1 = true)
    {stopped : WorkflowRun} {w' : World}
    (hstop : (engine.execute (depth + 1) run_id).run (exec env) w = (.ok stopped, w'))
    (n sweep_depth : Nat)
    (hlisted : run_id ∈
      (crashed env engine (depth + 1) run_id n w).store.find_recoverable_runs)
    (hcolons : ∀ id ∈ (crashed env engine (depth + 1) run_id n w).store.find_recoverable_runs,
      ':' ∉ id.toList) :
    Recovers env engine (sweep_depth + 1) run_id stopped.status
        (crashed env engine (depth + 1) run_id n w) ↔
      Clear env engine (sweep_depth + 1) run_id (crashed env engine (depth + 1) run_id n w) := by
  have hfiled := h.filed
  obtain ⟨rows, hheld⟩ := held_of_filed hfiled hrun hlatest
  have hstatus : stopped.status = stop_status rows := execute_returns hheld hreturns hfree hstop
  obtain ⟨hfiled', hsame⟩ := crashed_same env engine (depth + 1) run_id n hfiled
  obtain ⟨run', hrun', -⟩ := hfiled'.listed hlisted
  -- the crashed run is of the same workflow, and its rows lead to the same stop
  have hworkflow : run'.workflow = run.workflow := by
    have hmap := hsame.workflow
    rw [hrun, hrun'] at hmap
    exact Option.some.inj hmap
  have hlatest' : get_workflow_latest (crashed env engine (depth + 1) run_id n w).registry
      run'.workflow = .ok defn := by
    rw [hsame.registry, hworkflow]
    exact hlatest
  obtain ⟨rows', hheld'⟩ := held_of_filed hfiled' hrun' hlatest'
  have hstop' : stop_status rows' = stop_status rows := by
    rw [← hheld'.get_steps, ← hheld.get_steps]
    exact hsame.stop
  rw [hstatus, ← hstop']
  exact sweep_recovers_iff hfiled' hheld' hreturns (acquire_released run_id _) hlisted hcolons

end whole

/-! ## A worker that crashes while a handler runs

    Two crashes of the same filing: before its handler has returned, and after its output
    was recorded. -/

section filing

theorem filing_history : ∃ ts, History reference_env reference_engine
    (singleton_registry Completion.filing) (queued_run Completion.filing) ts := by
  have hboot : History reference_env reference_engine (singleton_registry Completion.filing)
      (World.fresh (.in_memory ∅) none (singleton_registry Completion.filing)) [] :=
    .boot ⟨_, _, rfl⟩
  exact Pool.served (fun _ _ _ => .answered) hboot ⟨.start_run plain_start, rfl⟩

/-- The filing, executed without a crash. -/
def filing_executed : Except Exn WorkflowRun × World :=
  (reference_engine.execute 1 "id-0").run (exec reference_env) (queued_run Completion.filing)

theorem filing_stops : ∃ stopped, filing_executed = (.ok stopped, filing_executed.2) ∧
    stopped.status = .SUCCEEDED := by
  have hstatus : filing_executed.1.toOption.map WorkflowRun.status = some .SUCCEEDED := by
    decide +kernel
  obtain ⟨stopped, hstopped, hsucceeded⟩ := Option.map_eq_some_iff.mp hstatus
  refine ⟨stopped, ?_, hsucceeded⟩
  cases h : filing_executed.1 with
  | error e =>
    rw [h] at hstopped
    cases hstopped
  | ok a =>
    rw [h] at hstopped
    cases hstopped
    exact Prod.ext h rfl

theorem filing_never_raises : NeverRaise Completion.filing Completion.filing.steps := by
  intro step _ handler hhandler trace ctx
  change (if is_gate step = true then none else some _) = _ at hhandler
  split at hhandler
  · cases hhandler
  · cases hhandler
    exact ⟨_, _, rfl⟩

/-- **A handler in flight blocks its run for good.** -/
theorem running_row_not_recovered : ∃ ts stopped,
    History reference_env reference_engine (singleton_registry Completion.filing)
      (queued_run Completion.filing) ts ∧
    NeverRaise Completion.filing Completion.filing.steps ∧
    (reference_engine.execute 1 "id-0").run (exec reference_env) (queued_run Completion.filing) =
      (.ok stopped, filing_executed.2) ∧
    "id-0" ∈ (crashed reference_env reference_engine 1 "id-0" 9
      (queued_run Completion.filing)).store.find_recoverable_runs ∧
    ¬ Recovers reference_env reference_engine 1 "id-0" stopped.status
      (crashed reference_env reference_engine 1 "id-0" 9 (queued_run Completion.filing)) := by
  obtain ⟨ts, hreached⟩ := filing_history
  obtain ⟨stopped, hstop, -⟩ := filing_stops
  refine ⟨ts, stopped, hreached, filing_never_raises, hstop, by decide +kernel, ?_⟩
  intro hrecovers
  have hlength := congrArg List.length hrecovers.quiet
  revert hlength
  decide +kernel

/-- A recorded output is enough. -/
theorem recorded_filing_recovers : ∃ stopped, filing_executed = (.ok stopped, filing_executed.2) ∧
    Recovers reference_env reference_engine 1 "id-0" stopped.status
      (crashed reference_env reference_engine 1 "id-0" 12 (queued_run Completion.filing)) := by
  obtain ⟨ts, hreached⟩ := filing_history
  obtain ⟨stopped, hstop, -⟩ := filing_stops
  obtain ⟨run, hstored, -, hname, -, hidem, -, hregistry, hlock⟩ := queued_run_stored
    (show Completion.filing.name = "plain" from rfl) rfl
  have hlatest : get_workflow_latest (queued_run Completion.filing).registry run.workflow =
      .ok Completion.filing := by
    rw [hregistry, hname]
    exact latest_singleton Completion.filing
  have hfree : (acquire_lock "id-0" (queued_run Completion.filing).lock).1 = true := by
    rw [hlock]
    rfl
  have hclear : ¬ Stuck reference_env "id-0"
      (crashed reference_env reference_engine 1 "id-0" 12 (queued_run Completion.filing)) := by
    unfold Stuck
    decide +kernel
  have hdistinct : ((ahead ((crashed reference_env reference_engine 1 "id-0" 12
      (queued_run Completion.filing)).store.get_steps "id-0")).map StepState.step).Nodup := by
    decide +kernel
  exact ⟨stopped, hstop, (crashed_run_recovers_iff hreached hstored.run hlatest filing_never_raises
    hfree hstop 12 0 (by decide +kernel) (by decide +kernel)).mpr
      ⟨hclear, repeatsRecognised_of_nodup hdistinct _ _ _⟩⟩

end filing

end CaseAutomation.Orchestrator.Recovery
