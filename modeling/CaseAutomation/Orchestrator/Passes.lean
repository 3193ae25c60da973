import CaseAutomation.Orchestrator.Effects
import CaseAutomation.Orchestrator.Engine

/-! # One Execution Pass, Row by Row

    When every service answers, `execute` is a deterministic program. This module says what
    it does with one row of the loop, for every kind of row:

    * a row that is done is skipped;
    * a row whose output is on record is passed over and left as it is;
    * a row whose handler returns is completed;
    * a row whose handler raises is marked failed, then the run parks or the retry is refused;
    * a row marked running without a record is refused by the transition table;
    * a gate that is not done stops the pass;

    and what happens after the last row. The results about whole passes are
    inductions over these.
-/

namespace CaseAutomation.Orchestrator

open Framework Program

/-! ## Running one call -/

section calls
variable {env : Env} {α : Type}

theorem run_await {c : Call} {f : c.Resp → M α} {w w' : World} {a : c.Resp}
    (h : exec env c w = (.ok a, w')) :
    ((await c).bind f).run (exec env) w = (f a).run (exec env) w' :=
  run_bind_ok ((run_perform c w).trans h)

theorem run_await_error {c : Call} {f : c.Resp → M α} {w w' : World} {e : Exn}
    (h : exec env c w = (.error e, w')) :
    ((await c).bind f).run (exec env) w = (.error e, w') :=
  run_bind_error ((run_perform c w).trans h)

theorem run_attempt_bind {β : Type} {p : M α} {f : Except Exn α → M β} {w w' : World}
    {r : Except Exn α} (h : p.run (exec env) w = (r, w')) :
    (p.attempt.bind f).run (exec env) w = (f r).run (exec env) w' := by
  rw [run_bind, run_attempt, h]

/-- The world with more events in its trace. -/
def World.log (w : World) (new : List Event) : World := { w with trace := w.trace ++ new }

/-- The audit record of a step or run, if there is an audit service. -/
def Engine.audit_events (engine : Engine) (action run_id : String) (inputs outputs : JsonObj) :
    List Event :=
  if engine.audited then
    [.audited
      { actor := "workflow_engine", action := action, inputs := inputs, outputs := outputs,
        run_id := some run_id }]
  else []

theorem Engine.audit_events_eq (engine : Engine) (action run_id : String)
    (inputs outputs : JsonObj) :
    ∃ entries, engine.audit_events action run_id inputs outputs = List.map Event.audited entries := by
  unfold Engine.audit_events
  split
  · exact ⟨[_], rfl⟩
  · exact ⟨[], rfl⟩

theorem Engine.audit_run (env : Env) (engine : Engine) (action run_id : String) (inputs outputs : JsonObj)
    (w : World) : (engine.audit action run_id inputs outputs).run (exec env) w =
      (.ok (), w.log (engine.audit_events action run_id inputs outputs)) := by
  unfold Engine.audit Engine.audit_events
  split
  · rfl
  · show (Except.ok (), w) = (.ok (), w.log [])
    unfold World.log
    rw [List.append_nil]

end calls

/-! ## What a pass leaves alone -/

/-- The same run, up to its position and its time stamp. -/
def SameRun (run run' : WorkflowRun) : Prop :=
  run' = { run with current_step := run'.current_step, updated_at := run'.updated_at }

theorem SameRun.refl (run : WorkflowRun) : SameRun run run := rfl

theorem SameRun.trans {a b c : WorkflowRun} (h : SameRun a b) (h' : SameRun b c) :
    SameRun a c := by
  unfold SameRun at h h' ⊢
  rw [h', h]

theorem SameRun.status {a b : WorkflowRun} (h : SameRun a b) : b.status = a.status := by
  rw [h]

theorem SameRun.context {a b : WorkflowRun} (h : SameRun a b) : b.context = a.context := by
  rw [h]

theorem SameRun.workflow {a b : WorkflowRun} (h : SameRun a b) : b.workflow = a.workflow := by
  rw [h]

/-- What happens to one run leaves the others, the registry and the locks alone. -/
structure Elsewhere (run_id : String) (w w' : World) : Prop where
  registry : w'.registry = w.registry
  lock : w'.lock = w.lock
  runs : ∀ id, id ≠ run_id → w'.store.runs.get? id = w.store.runs.get? id
  steps : ∀ id, id ≠ run_id → w'.store.steps.get? id = w.store.steps.get? id

theorem Elsewhere.refl (run_id : String) (w : World) : Elsewhere run_id w w :=
  ⟨rfl, rfl, fun _ _ => rfl, fun _ _ => rfl⟩

theorem Elsewhere.trans {run_id : String} {a b c : World} (h : Elsewhere run_id a b)
    (h' : Elsewhere run_id b c) : Elsewhere run_id a c :=
  ⟨h'.registry.trans h.registry, h'.lock.trans h.lock,
    fun id hid => (h'.runs id hid).trans (h.runs id hid),
    fun id hid => (h'.steps id hid).trans (h.steps id hid)⟩

/-- The run and its step rows, as they are stored. -/
structure Stored (run_id : String) (run : WorkflowRun) (rows : List StepState) (w : World) :
    Prop where
  run : w.store.runs.get? run_id = some run
  rows : w.store.steps.get? run_id = some rows

/-- `w'` comes from `w` by work on the run `run_id`, which was `run` before, is stored as `run'`
    with `rows` after, and saw the events `new`. -/
structure Handled (run_id : String) (run run' : WorkflowRun) (rows : List StepState)
    (new : List Event) (w w' : World) : Prop where
  stored : Stored run_id run' rows w'
  same : SameRun run run'
  trace : w'.trace = w.trace ++ new
  elsewhere : Elsewhere run_id w w'

theorem Handled.trans {run_id : String} {run run' run'' : WorkflowRun} {rows rows' : List StepState}
    {new new' : List Event} {a b c : World} (h : Handled run_id run run' rows new a b)
    (h' : Handled run_id run' run'' rows' new' b c) :
    Handled run_id run run'' rows' (new ++ new') a c where
  stored := h'.stored
  same := h.same.trans h'.same
  trace := by rw [h'.trace, h.trace, List.append_assoc]
  elsewhere := h.elsewhere.trans h'.elsewhere

/-! ## Writes of the engine -/

section writes
variable (env : Env) {run_id : String} {run : WorkflowRun} {rows : List StepState} {w : World}

/-- The position of the run is recorded. -/
theorem exec_set_current_step (step : String) (hstored : Stored run_id run rows w) :
    ∃ w' run', exec env (.set_current_step run_id step) w = (.ok (), w') ∧
      Handled run_id run run' rows [] w w' ∧ run'.updated_at = env.time w.clock ∧
      w'.idem = w.idem ∧ w.clock < w'.clock := by
  refine ⟨w.tick.with_store { w.store with
    runs := w.store.runs.set run_id
      { run with current_step := some step, updated_at := env.time w.clock } }, _, ?_,
    ⟨⟨Dict.get?_set_self _ _ _, hstored.rows⟩, rfl, (List.append_nil _).symm, rfl, rfl, ?_,
      fun _ _ => rfl⟩, rfl, rfl, Nat.lt_succ_self _⟩
  · simp only [exec, RunStore.set_current_step, hstored.run]
    rfl
  · intro id hid
    exact Dict.get?_set_ne _ _ hid

/-- A row is written in the place of the first row of its name. -/
theorem exec_update_step (row : StepState) {pre post : List StepState} {held : StepState}
    (hstored : Stored run_id run (pre ++ held :: post) w)
    (hpre : ∀ r ∈ pre, r.step ≠ row.step) (hname : held.step = row.step)
    (hof : row.run_id = run_id)
    (hlegal : is_legal_step_transition held.status row.status = true) :
    ∃ w', exec env (.update_step row) w = (.ok (), w') ∧
      Handled run_id run run (pre ++ row :: post)
        [.step_updated run_id row.step row.status] w w' ∧ w'.idem = w.idem := by
  have hupdate : w.store.update_step row = .ok { w.store with
      steps := w.store.steps.set run_id (pre ++ row :: post) } := by
    unfold RunStore.update_step RunStore.get_steps
    rw [hof, hstored.rows, Option.getD_some, update_row_append hpre hname, if_pos hlegal]
  refine ⟨(w.with_store { w.store with
    steps := w.store.steps.set run_id (pre ++ row :: post) }).emit
      (.step_updated run_id row.step row.status), ?_,
    ⟨⟨hstored.run, Dict.get?_set_self _ _ _⟩, .refl run, rfl, rfl, rfl, fun _ _ => rfl, ?_⟩, rfl⟩
  · simp only [exec, hupdate, hof]
  · intro id hid
    exact Dict.get?_set_ne _ _ hid

/-- A row that may not be written. -/
theorem exec_update_step_illegal (row : StepState) {pre post : List StepState} {held : StepState}
    (hstored : Stored run_id run (pre ++ held :: post) w)
    (hpre : ∀ r ∈ pre, r.step ≠ row.step) (hname : held.step = row.step)
    (hof : row.run_id = run_id)
    (hlegal : is_legal_step_transition held.status row.status = false) :
    ∃ e, exec env (.update_step row) w = (.error e, w) := by
  have hupdate : ∃ e, w.store.update_step row = .error e := by
    unfold RunStore.update_step RunStore.get_steps
    rw [hof, hstored.rows, Option.getD_some, update_row_append hpre hname,
      if_neg (by simp [hlegal])]
    exact ⟨_, rfl⟩
  obtain ⟨e, he⟩ := hupdate
  refine ⟨e, ?_⟩
  simp only [exec, he]

/-- The run with its status changed. -/
structure Restatused (run : WorkflowRun) (status : RunStatus) (run' : WorkflowRun) : Prop where
  id : run'.id = run.id
  status : run'.status = status
  context : run'.context = run.context
  workflow : run'.workflow = run.workflow

/-- The status of the run is written. -/
theorem exec_update_run_status (status : RunStatus) (err : Option StepError)
    (hstored : Stored run_id run rows w)
    (hlegal : is_legal_run_transition run.status status = true) :
    ∃ w' run', exec env (.update_run_status run_id status none err) w = (.ok (), w') ∧
      Stored run_id run' rows w' ∧ Restatused run status run' ∧ w'.trace = w.trace ∧
      Elsewhere run_id w w' ∧ w'.idem = w.idem := by
  have hupdate : w.store.update_run_status run_id status none err (env.time w.clock) =
      .ok { w.store with
        runs := w.store.runs.set run_id
          (RunStore.updated_run run status none err (env.time w.clock)) } := by
    unfold RunStore.update_run_status
    rw [hstored.run]
    simp only [hlegal, if_true]
  refine ⟨w.tick.with_store { w.store with
    runs := w.store.runs.set run_id
      (RunStore.updated_run run status none err (env.time w.clock)) }, _, ?_,
    ⟨Dict.get?_set_self _ _ _, hstored.rows⟩, ⟨rfl, rfl, rfl, rfl⟩, rfl,
    ⟨rfl, rfl, ?_, fun _ _ => rfl⟩, rfl⟩
  · simp only [exec, hupdate]
    rfl
  · intro id hid
    exact Dict.get?_set_ne _ _ hid

/-- A status change that the table does not list. -/
theorem exec_update_run_status_illegal (status : RunStatus) (err : Option StepError)
    (hstored : Stored run_id run rows w)
    (hlegal : is_legal_run_transition run.status status = false) :
    ∃ e, exec env (.update_run_status run_id status none err) w = (.error e, w) := by
  have hupdate : ∃ e, w.store.update_run_status run_id status none err (env.time w.clock) =
      .error e := by
    unfold RunStore.update_run_status
    rw [hstored.run]
    simp only [hlegal]
    exact ⟨_, rfl⟩
  obtain ⟨e, he⟩ := hupdate
  refine ⟨e, ?_⟩
  simp only [exec, he]
  rfl

end writes

/-! ## Rows by name -/

/-- The table lets the row that is stored under this name start. -/
def startable (rows : List StepState) (step : String) : Bool :=
  match rows.find? fun row => decide (row.step = step) with
  | some held => is_legal_step_transition held.status .RUNNING
  | none => false

/-- The first row of a name, which is the one that writes go to. -/
theorem find_named {rows : List StepState} {step : String}
    (hstep : step ∈ rows.map StepState.step) :
    ∃ pre held post, rows = pre ++ held :: post ∧ (∀ r ∈ pre, r.step ≠ step) ∧
      held.step = step ∧ startable rows step = is_legal_step_transition held.status .RUNNING := by
  obtain ⟨row, hrow, rfl⟩ := List.mem_map.mp hstep
  have hsome : (rows.find? fun r => decide (r.step = row.step)).isSome = true := by
    rw [List.find?_isSome]
    exact ⟨row, hrow, by simp⟩
  obtain ⟨held, hheld⟩ := Option.isSome_iff_exists.mp hsome
  obtain ⟨hname, pre, post, hsplit, hpre⟩ := List.find?_eq_some_iff_append.mp hheld
  refine ⟨pre, held, post, hsplit, ?_, by simpa using hname, ?_⟩
  · intro r hr
    simpa using hpre r hr
  · unfold startable
    rw [hheld]

/-! ## One row of the loop -/

/-- The constants of one execution pass. -/
structure Pass where
  engine : Engine
  again : M WorkflowRun
  run : WorkflowRun
  defn : WorkflowDef
  run_id : String

namespace Pass

/-- The loop over the remaining rows. -/
def loop (P : Pass) (rows : List StepState) (outputs : Dict String JsonObj)
    (compensations : List Compensation) : M WorkflowRun :=
  P.engine.execute_loop P.again P.run P.defn P.run_id rows outputs compensations

/-- The context a handler is given. -/
def context (P : Pass) (outputs : Dict String JsonObj) (row : StepState) : StepContext :=
  { run_id := P.run_id, context := P.run.context, step_outputs := outputs,
    idem_key := row.idem_key }

/-- What the loop does with the outcome of the `try` block. -/
def after_try (P : Pass) (row : StepState) (rest : List StepState) (outputs : Dict String JsonObj)
    (done : Engine.Attempted) : M WorkflowRun :=
  match done.result with
  | .ok output => P.loop rest (outputs.set row.step output) done.compensations
  | .error e => P.engine.fail_step P.again P.run_id done.row done.compensations e

/-- The events of a step whose handler returns, after the row is marked running. -/
def return_events (P : Pass) (row : StepState) (ctx : StepContext) (returned : Option JsonObj)
    (hooks : List Compensation) : List Event :=
  [.invoked ctx.run_id row.step ctx (.returned returned hooks),
    .recorded row.idem_key (returned.getD []),
    .step_updated P.run_id row.step .SUCCEEDED] ++
  P.engine.audit_events "step.succeeded" P.run_id [("step", .str row.step)] (returned.getD [])

section rows
variable (env : Env) (P : Pass) {row held : StepState} (rest : List StepState)
  (outputs : Dict String JsonObj) (compensations : List Compensation)
  {pre post stored : List StepState} {run : WorkflowRun} {w : World}

/-- A row that is done is skipped. -/
theorem loop_skip (hdone : Engine.step_done row.status = true) :
    P.loop (row :: rest) outputs compensations =
      P.loop rest (Engine.add_output outputs row) compensations := by
  unfold loop
  rw [Engine.execute_loop, if_pos hdone]

/-- Rows that are done are skipped. -/
theorem loop_skip_all {done : List StepState}
    (hdone : ∀ r ∈ done, Engine.step_done r.status = true) :
    P.loop (done ++ rest) outputs compensations =
      P.loop rest (done.foldl Engine.add_output outputs) compensations := by
  induction done generalizing outputs with
  | nil => rfl
  | cons row done ih =>
    rw [List.cons_append, loop_skip P _ _ _ (hdone row List.mem_cons_self),
      ih _ fun r hr => hdone r (List.mem_cons_of_mem _ hr)]
    rfl

/-- A row whose output is on record is passed over. -/
theorem loop_hit {existing : JsonObj} (hdone : Engine.step_done row.status = false)
    (hgate : is_gate row.step = false)
    (hhit : w.idem.lookup env.json row.idem_key = some existing)
    (hstored : Stored P.run_id run stored w) :
    ∃ w' run', (P.loop (row :: rest) outputs compensations).run (exec env) w =
        (P.loop rest (outputs.set row.step existing) compensations).run (exec env) w' ∧
      Handled P.run_id run run' stored [] w w' ∧
      run'.updated_at = env.time w.clock ∧ w'.idem = w.idem ∧ w.clock < w'.clock := by
  obtain ⟨w', run', hexec, hhandled⟩ := exec_set_current_step env row.step hstored
  refine ⟨w', run', ?_, hhandled⟩
  have hlookup : exec env (.lookup row.idem_key) w = (.ok (some existing), w) := by
    simp only [exec, hhit]
  unfold loop
  rw [Engine.execute_loop, if_neg (by simp [hdone]), if_neg (by simp [hgate])]
  exact (run_await hlookup).trans (run_await hexec)

/-- The `try` block of a row marked running, when the handler returns. -/
theorem try_step_returns (row : StepState) {handler : Handler} {ctx : StepContext} {returned : Option JsonObj}
    {hooks : List Compensation} (hhandler : P.defn.handlers row.step = some handler)
    (hreturns : handler w.trace ctx = .returned returned hooks)
    (hrunning : row.status = .RUNNING) (hof : row.run_id = P.run_id)
    (hstored : Stored P.run_id run (pre ++ row :: post) w)
    (hpre : ∀ r ∈ pre, r.step ≠ row.step) :
    ∃ w' run' now, (P.engine.try_step P.defn P.run_id row ctx compensations).run (exec env) w =
        (.ok ⟨Engine.succeeded_row row (returned.getD []) now, compensations ++ hooks,
          .ok (returned.getD [])⟩, w') ∧
      Handled P.run_id run run'
        (pre ++ Engine.succeeded_row row (returned.getD []) now :: post)
        (P.return_events row ctx returned hooks) w w' ∧
      w'.idem = w.idem.complete env.json row.idem_key (returned.getD []) := by
  -- the handler, the reservation and the record
  let w₁ : World := w.emit (.invoked ctx.run_id row.step ctx (.returned returned hooks))
  let w₂ : World := { w₁ with idem := (w₁.idem.reserve row.idem_key).2 }
  let w₃ : World := { w₂ with idem := w₂.idem.record env.json row.idem_key (returned.getD []) }.emit
    (.recorded row.idem_key (returned.getD []))
  let row' : StepState := Engine.succeeded_row row (returned.getD []) (env.time w.clock)
  have hinvoke : exec env (.invoke handler row.step ctx) w = (.ok (returned, hooks), w₁) := by
    simp only [exec, hreturns]
    rfl
  have hreserve : exec env (.reserve row.idem_key) w₁ =
      (.ok (w₁.idem.reserve row.idem_key).1, w₂) := rfl
  have hrecord : exec env (.record row.idem_key (returned.getD [])) w₂ = (.ok (), w₃) := rfl
  have hnow : exec env .now w₃ = (.ok (env.time w.clock), w₃.tick) := rfl
  -- the row, the audit record and the position
  have hlegal : is_legal_step_transition row.status row'.status = true := by
    rw [hrunning]
    rfl
  have hstored₃ : Stored P.run_id run (pre ++ row :: post) w₃.tick := ⟨hstored.run, hstored.rows⟩
  obtain ⟨w₄, hupdate, hhandled₄, hidem₄⟩ :=
    exec_update_step env row' hstored₃ hpre rfl hof hlegal
  let w₅ : World := w₄.log (P.engine.audit_events "step.succeeded" P.run_id
    [("step", .str row.step)] (returned.getD []))
  have hstored₅ : Stored P.run_id run (pre ++ row' :: post) w₅ :=
    ⟨hhandled₄.stored.run, hhandled₄.stored.rows⟩
  obtain ⟨w₆, run', hcurrent, hhandled₆, -, hidem₆, -⟩ :=
    exec_set_current_step env row.step hstored₅
  refine ⟨w₆, run', env.time w.clock, ?_, ?_, ?_⟩
  · have htail : ((await (.update_step row')).bind fun _ =>
        (P.engine.audit "step.succeeded" P.run_id [("step", .str row.step)]
          (returned.getD [])).bind fun _ =>
            await (.set_current_step P.run_id row.step)).run (exec env) w₃.tick = (.ok (), w₆) := by
      refine (run_await hupdate).trans ?_
      refine (run_bind_ok (Engine.audit_run env P.engine _ _ _ _ w₄)).trans ?_
      exact (run_perform _ _).trans hcurrent
    have hhead : ((await (.reserve row.idem_key)).bind fun _ =>
        await (.record row.idem_key (returned.getD []))).run (exec env) w₁ = (.ok (), w₃) :=
      (run_await hreserve).trans ((run_perform _ _).trans hrecord)
    unfold Engine.try_step
    rw [hhandler]
    refine (run_attempt_bind ((run_perform _ _).trans hinvoke)).trans ?_
    refine (run_attempt_bind hhead).trans ?_
    refine (run_await hnow).trans ?_
    exact run_attempt_bind htail
  · refine ⟨hhandled₆.stored, hhandled₄.same.trans hhandled₆.same, ?_, ?_⟩
    · rw [hhandled₆.trace]
      show (w₄.trace ++ _) ++ [] = _
      rw [hhandled₄.trace]
      show (((w.trace ++ [_]) ++ [_]) ++ [_] ++ _) ++ [] = w.trace ++ ([_, _, _] ++ _)
      simp only [List.append_assoc, List.append_nil, List.cons_append, List.nil_append]
      rfl
    · refine Elsewhere.trans ?_ hhandled₆.elsewhere
      exact ⟨hhandled₄.elsewhere.registry, hhandled₄.elsewhere.lock, hhandled₄.elsewhere.runs,
        hhandled₄.elsewhere.steps⟩
  · rw [hidem₆]
    show w₄.idem = _
    rw [hidem₄]
    rfl

/-- The `try` block of a row marked running, when the handler raises. -/
theorem try_step_raises (row : StepState) {handler : Handler} {ctx : StepContext} {exn : Exn}
    (hhandler : P.defn.handlers row.step = some handler)
    (hraises : handler w.trace ctx = .raised exn) :
    (P.engine.try_step P.defn P.run_id row ctx compensations).run (exec env) w =
      (.ok ⟨row, compensations, .error exn⟩,
        w.emit (.invoked ctx.run_id row.step ctx (.raised exn))) := by
  have hinvoke : exec env (.invoke handler row.step ctx) w =
      (.error exn, w.emit (.invoked ctx.run_id row.step ctx (.raised exn))) := by
    simp only [exec, hraises]
    rfl
  unfold Engine.try_step
  rw [hhandler]
  exact run_attempt_bind ((run_perform _ _).trans hinvoke)

/-- A row without a record is marked running, and its `try` block is entered. -/
theorem loop_start (hdone : Engine.step_done row.status = false) (hgate : is_gate row.step = false)
    (hmiss : w.idem.lookup env.json row.idem_key = none) (hof : row.run_id = P.run_id)
    (hstored : Stored P.run_id run (pre ++ held :: post) w)
    (hpre : ∀ r ∈ pre, r.step ≠ row.step) (hname : held.step = row.step)
    (hlegal : is_legal_step_transition held.status .RUNNING = true) :
    ∃ w' now, (P.loop (row :: rest) outputs compensations).run (exec env) w =
        ((P.engine.try_step P.defn P.run_id (Engine.running_row row now) (P.context outputs row)
          compensations).bind (P.after_try row rest outputs)).run (exec env) w' ∧
      Handled P.run_id run run (pre ++ Engine.running_row row now :: post)
        [.step_updated P.run_id row.step .RUNNING] w w' ∧ w'.idem = w.idem := by
  have hstored₁ : Stored P.run_id run (pre ++ held :: post) w.tick := ⟨hstored.run, hstored.rows⟩
  obtain ⟨w', hupdate, hhandled, hidem⟩ := exec_update_step env
    (Engine.running_row row (env.time w.clock)) hstored₁ hpre hname hof hlegal
  refine ⟨w', env.time w.clock, ?_, ?_, hidem⟩
  · have hlookup : exec env (.lookup row.idem_key) w = (.ok none, w) := by
      simp only [exec, hmiss]
    have hnow : exec env .now w = (.ok (env.time w.clock), w.tick) := rfl
    unfold loop
    rw [Engine.execute_loop, if_neg (by simp [hdone]), if_neg (by simp [hgate])]
    refine (run_await hlookup).trans ?_
    refine (run_await hnow).trans ?_
    exact run_await hupdate
  · exact ⟨hhandled.stored, hhandled.same, hhandled.trace, hhandled.elsewhere.registry,
      hhandled.elsewhere.lock, hhandled.elsewhere.runs, hhandled.elsewhere.steps⟩

/-- The row after its handler has returned. -/
structure Completed (row : StepState) (output : JsonObj) (row' : StepState) : Prop where
  step : row'.step = row.step
  of_run : row'.run_id = row.run_id
  key : row'.idem_key = row.idem_key
  status : row'.status = .SUCCEEDED
  output : row'.output = some output

/-- **A row whose handler returns** is completed, and the loop goes on. -/
theorem loop_success {handler : Handler} {returned : Option JsonObj} {hooks : List Compensation}
    (hdone : Engine.step_done row.status = false) (hgate : is_gate row.step = false)
    (hmiss : w.idem.lookup env.json row.idem_key = none) (hof : row.run_id = P.run_id)
    (hstored : Stored P.run_id run (pre ++ held :: post) w)
    (hpre : ∀ r ∈ pre, r.step ≠ row.step) (hname : held.step = row.step)
    (hlegal : is_legal_step_transition held.status .RUNNING = true)
    (hhandler : P.defn.handlers row.step = some handler)
    (hreturns : handler (w.trace ++ [.step_updated P.run_id row.step .RUNNING])
      (P.context outputs row) = .returned returned hooks) :
    ∃ w' run' row', (P.loop (row :: rest) outputs compensations).run (exec env) w =
        (P.loop rest (outputs.set row.step (returned.getD [])) (compensations ++ hooks)).run
          (exec env) w' ∧
      Handled P.run_id run run' (pre ++ row' :: post)
        (.step_updated P.run_id row.step .RUNNING ::
          P.return_events row (P.context outputs row) returned hooks) w w' ∧
      Completed row (returned.getD []) row' ∧
      w'.idem = w.idem.complete env.json row.idem_key (returned.getD []) := by
  obtain ⟨w₁, now, hstart, hhandled₁, hidem₁⟩ := loop_start env P rest outputs compensations
    hdone hgate hmiss hof hstored hpre hname hlegal
  rw [← hhandled₁.trace] at hreturns
  obtain ⟨w₂, run', ended, htry, hhandled₂, hidem₂⟩ := try_step_returns env P compensations
    (Engine.running_row row now) hhandler hreturns rfl hof hhandled₁.stored hpre
  refine ⟨w₂, run', _, ?_, hhandled₁.trans hhandled₂, ⟨rfl, rfl, rfl, rfl, rfl⟩, ?_⟩
  · rw [hstart]
    exact run_bind_ok htry
  · rw [hidem₂, hidem₁]
    rfl

/-- **A row whose handler raises** goes to the `except` block. -/
theorem loop_raise {handler : Handler} {exn : Exn}
    (hdone : Engine.step_done row.status = false) (hgate : is_gate row.step = false)
    (hmiss : w.idem.lookup env.json row.idem_key = none) (hof : row.run_id = P.run_id)
    (hstored : Stored P.run_id run (pre ++ held :: post) w)
    (hpre : ∀ r ∈ pre, r.step ≠ row.step) (hname : held.step = row.step)
    (hlegal : is_legal_step_transition held.status .RUNNING = true)
    (hhandler : P.defn.handlers row.step = some handler)
    (hraises : handler (w.trace ++ [.step_updated P.run_id row.step .RUNNING])
      (P.context outputs row) = .raised exn) :
    ∃ w' now, (P.loop (row :: rest) outputs compensations).run (exec env) w =
        (P.engine.fail_step P.again P.run_id (Engine.running_row row now) compensations exn).run
          (exec env) w' ∧
      Handled P.run_id run run (pre ++ Engine.running_row row now :: post)
        [.step_updated P.run_id row.step .RUNNING,
          .invoked P.run_id row.step (P.context outputs row) (.raised exn)] w w' := by
  obtain ⟨w₁, now, hstart, hhandled₁, -⟩ := loop_start env P rest outputs compensations
    hdone hgate hmiss hof hstored hpre hname hlegal
  rw [← hhandled₁.trace] at hraises
  have htry := try_step_raises env P compensations (Engine.running_row row now) hhandler hraises
  refine ⟨w₁.emit (.invoked P.run_id row.step (P.context outputs row) (.raised exn)), now, ?_,
    ⟨⟨hhandled₁.stored.run, hhandled₁.stored.rows⟩, hhandled₁.same, ?_,
    hhandled₁.elsewhere.registry, hhandled₁.elsewhere.lock, hhandled₁.elsewhere.runs,
    hhandled₁.elsewhere.steps⟩⟩
  · rw [hstart]
    exact run_bind_ok htry
  · show w₁.trace ++ [_] = _
    rw [hhandled₁.trace, List.append_assoc]
    rfl

/-- **A row that the table does not let start** ends the pass with an exception. -/
theorem loop_stuck (hdone : Engine.step_done row.status = false) (hgate : is_gate row.step = false)
    (hmiss : w.idem.lookup env.json row.idem_key = none) (hof : row.run_id = P.run_id)
    (hstored : Stored P.run_id run (pre ++ held :: post) w)
    (hpre : ∀ r ∈ pre, r.step ≠ row.step) (hname : held.step = row.step)
    (hlegal : is_legal_step_transition held.status .RUNNING = false) :
    ∃ e, (P.loop (row :: rest) outputs compensations).run (exec env) w = (.error e, w.tick) := by
  have hstored₁ : Stored P.run_id run (pre ++ held :: post) w.tick := ⟨hstored.run, hstored.rows⟩
  obtain ⟨e, hrefused⟩ := exec_update_step_illegal env
    (Engine.running_row row (env.time w.clock)) hstored₁ hpre hname hof hlegal
  refine ⟨e, ?_⟩
  have hlookup : exec env (.lookup row.idem_key) w = (.ok none, w) := by
    simp only [exec, hmiss]
  have hnow : exec env .now w = (.ok (env.time w.clock), w.tick) := rfl
  unfold loop
  rw [Engine.execute_loop, if_neg (by simp [hdone]), if_neg (by simp [hgate])]
  refine (run_await hlookup).trans ?_
  refine (run_await hnow).trans ?_
  exact run_await_error hrefused

/-! ## The end of a pass -/

/-- The run, read back. -/
theorem reload_run (hstored : Stored P.run_id run stored w) :
    (Engine.reload P.run_id).run (exec env) w = (.ok run, w) := by
  have hget : exec env (.get_run P.run_id) w = (.ok (some run), w) := by
    simp only [exec, RunStore.get_run, hstored.run]
  exact run_await hget

/-- **After the last row** a running run succeeds. -/
theorem loop_end (hstored : Stored P.run_id run stored w) (hrunning : run.status = .RUNNING) :
    ∃ w' run', (P.loop [] outputs compensations).run (exec env) w = (.ok run', w') ∧
      Stored P.run_id run' stored w' ∧ Restatused run .SUCCEEDED run' ∧
      w'.trace = w.trace ++ P.engine.audit_events "run.succeeded" P.run_id [] [] ∧
      Elsewhere P.run_id w w' ∧ w'.idem = w.idem := by
  obtain ⟨w₁, run', hupdate, hstored₁, hstatus, htrace, helse, hidem⟩ :=
    exec_update_run_status env .SUCCEEDED none hstored
      (by rw [hrunning]; rfl)
  have hstored₂ : Stored P.run_id run' stored
      (w₁.log (P.engine.audit_events "run.succeeded" P.run_id [] [])) :=
    ⟨hstored₁.run, hstored₁.rows⟩
  refine ⟨w₁.log (P.engine.audit_events "run.succeeded" P.run_id [] []), run', ?_, hstored₂,
    hstatus, ?_, ⟨helse.registry, helse.lock, helse.runs, helse.steps⟩, hidem⟩
  · refine (run_await hupdate).trans ?_
    refine (run_bind_ok (Engine.audit_run env P.engine _ _ _ _ w₁)).trans ?_
    exact reload_run env P hstored₂
  · show w₁.trace ++ _ = _
    rw [htrace]

/-- After the last row any other run is refused. -/
theorem loop_end_refused (hstored : Stored P.run_id run stored w) (hrunning : run.status ≠ .RUNNING) :
    ∃ e, (P.loop [] outputs compensations).run (exec env) w = (.error e, w) := by
  have hlegal : is_legal_run_transition run.status .SUCCEEDED = false := by
    cases hstatus : run.status <;> first | rfl | exact absurd hstatus hrunning
  obtain ⟨e, hrefused⟩ := exec_update_run_status_illegal env .SUCCEEDED none hstored hlegal
  exact ⟨e, run_await_error hrefused⟩

/-! ## Stopping at a gate -/

/-- A gate request is open: nothing but gate requests, tokens, ids and the clock has changed. -/
structure Opened (gate_id : String) (w w' : World) : Prop where
  runs : w'.store.runs = w.store.runs
  steps : w'.store.steps = w.store.steps
  idem : w'.idem = w.idem
  lock : w'.lock = w.lock
  registry : w'.registry = w.registry
  trace : w'.trace = w.trace
  gate : ∃ gate, w'.store.gates.get? gate_id = some gate

theorem Opened.keeps {gate_id run_id : String} {w w' : World} (h : Opened gate_id w w')
    (hstored : Stored run_id run stored w) : Stored run_id run stored w' :=
  ⟨by rw [h.runs]; exact hstored.run, by rw [h.steps]; exact hstored.rows⟩

theorem Opened.elsewhere {gate_id : String} {w w' : World} (h : Opened gate_id w w')
    (run_id : String) : Elsewhere run_id w w' :=
  ⟨h.registry, h.lock, fun id _ => by rw [h.runs], fun id _ => by rw [h.steps]⟩

/-- The tokens of an open gate request are issued. -/
theorem issue_tokens_run (engine : Engine) (gate_id run_id step : String) (ttl : Int)
    (channels : List Channel) {w₀ w : World} (h : Opened gate_id w₀ w) :
    ∃ w', (engine.issue_tokens gate_id run_id step ttl channels).run (exec env) w = (.ok (), w') ∧
      Opened gate_id w₀ w' := by
  induction channels generalizing w with
  | nil => exact ⟨w, rfl, h⟩
  | cons channel rest ih =>
    let token := (issue_token engine.crypto gate_id run_id step channel engine.signing_key ttl
      (env.uuid w.uuids) (env.time w.clock)).2
    let w₁ : World := { w with uuids := w.uuids + 1 }
    let w₂ : World := w₁.tick.with_store (w₁.store.save_token token)
    have hnext : Opened gate_id w₀ w₂ :=
      ⟨h.runs, h.steps, h.idem, h.lock, h.registry, h.trace, h.gate⟩
    obtain ⟨w', hrest, hopened⟩ := ih hnext
    refine ⟨w', ?_, hopened⟩
    have huuid : exec env .uuid4 w = (.ok (env.uuid w.uuids), w₁) := rfl
    have hnow : exec env .now w₁ = (.ok (env.time w.clock), w₁.tick) := rfl
    have hsave : exec env (.save_token token) w₁.tick = (.ok (), w₂) := rfl
    refine (run_await huuid).trans ?_
    refine (run_await hnow).trans ?_
    refine (run_await hsave).trans ?_
    exact hrest

/-- `_handle_gate` up to the status change. -/
theorem handle_gate_run (engine : Engine) (run : WorkflowRun) (row : StepState) (cfg : GateConfig)
    (w : World) :
    ∃ w', (engine.handle_gate run row cfg).run (exec env) w =
      ((await (.update_run_status run.id .AWAITING_APPROVAL none none)).bind fun _ =>
        engine.audit "gate.requested" run.id
          [("step", .str row.step), ("gate_id", .str (env.uuid w.uuids)),
            ("channels", .arr (cfg.channels.map fun c => .str c.value))] []).run (exec env) w' ∧
      Opened (env.uuid w.uuids) w w' := by
  let gate := Engine.gate_request run.id row.step (env.uuid w.uuids) cfg (env.time w.clock)
  let w₁ : World := { w with uuids := w.uuids + 1 }
  let w₂ : World := w₁.tick.with_store (w₁.store.put_gate gate)
  have hopened₂ : Opened (env.uuid w.uuids) w w₂ :=
    ⟨rfl, rfl, rfl, rfl, rfl, rfl, gate, Dict.get?_set_self _ _ _⟩
  obtain ⟨w', htokens, hopened⟩ := issue_tokens_run env engine (env.uuid w.uuids) run.id row.step
    cfg.ttl_seconds cfg.channels hopened₂
  refine ⟨w', ?_, hopened⟩
  have huuid : exec env .uuid4 w = (.ok (env.uuid w.uuids), w₁) := rfl
  have hnow : exec env .now w₁ = (.ok (env.time w.clock), w₁.tick) := rfl
  have hcreate : exec env (.create_gate_request gate) w₁.tick = (.ok (), w₂) := rfl
  refine (run_await huuid).trans ?_
  refine (run_await hnow).trans ?_
  refine (run_await hcreate).trans ?_
  exact run_bind_ok htokens

/-- **A gate that is not done** stops a running run. -/
theorem loop_gate (hdone : Engine.step_done row.status = false) (hgate : is_gate row.step = true)
    (hid : P.run.id = P.run_id) (hstored : Stored P.run_id run stored w)
    (hrunning : run.status = .RUNNING) :
    ∃ w' run' entries, (P.loop (row :: rest) outputs compensations).run (exec env) w =
        (.ok run', w') ∧
      Stored P.run_id run' stored w' ∧ Restatused run .AWAITING_APPROVAL run' ∧
      w'.trace = w.trace ++ List.map Event.audited entries ∧ Elsewhere P.run_id w w' ∧
      w'.idem = w.idem := by
  obtain ⟨w₁, hopen, hopened⟩ := handle_gate_run env P.engine P.run row
    (P.defn.gate_config row.step) w
  rw [hid] at hopen
  obtain ⟨w₂, run', hupdate, hstored₂, hstatus, htrace, helse, hidem⟩ :=
    exec_update_run_status env .AWAITING_APPROVAL none (hopened.keeps hstored)
      (by rw [hrunning]; rfl)
  obtain ⟨entries, hentries⟩ := Engine.audit_events_eq P.engine "gate.requested" P.run_id
    [("step", .str row.step), ("gate_id", .str (env.uuid w.uuids)),
      ("channels", .arr ((P.defn.gate_config row.step).channels.map fun c => .str c.value))] []
  have hstored₃ : Stored P.run_id run' stored (w₂.log (List.map Event.audited entries)) :=
    ⟨hstored₂.run, hstored₂.rows⟩
  refine ⟨w₂.log (List.map Event.audited entries), run', entries, ?_, hstored₃, hstatus, ?_, ?_, ?_⟩
  · have haudit := Engine.audit_run env P.engine "gate.requested" P.run_id
      [("step", .str row.step), ("gate_id", .str (env.uuid w.uuids)),
        ("channels", .arr ((P.defn.gate_config row.step).channels.map fun c => .str c.value))] [] w₂
    rw [hentries] at haudit
    have hhandle : (P.engine.handle_gate P.run row (P.defn.gate_config row.step)).run (exec env) w =
        (.ok (), w₂.log (List.map Event.audited entries)) :=
      hopen.trans ((run_await hupdate).trans haudit)
    unfold loop
    rw [Engine.execute_loop, if_neg (by simp [hdone]), if_pos hgate]
    refine (run_bind_ok hhandle).trans ?_
    exact reload_run env P hstored₃
  · show w₂.trace ++ _ = _
    rw [htrace, hopened.trace]
  · exact (hopened.elsewhere P.run_id).trans ⟨helse.registry, helse.lock, helse.runs, helse.steps⟩
  · exact hidem.trans hopened.idem

/-- A gate that is not done opens a new gate request, whatever the status of the run. -/
theorem loop_gate_refused (hdone : Engine.step_done row.status = false)
    (hgate : is_gate row.step = true) (hid : P.run.id = P.run_id)
    (hstored : Stored P.run_id run stored w) (hrunning : run.status ≠ .RUNNING) :
    ∃ e w', (P.loop (row :: rest) outputs compensations).run (exec env) w = (.error e, w') ∧
      Opened (env.uuid w.uuids) w w' := by
  obtain ⟨w₁, hopen, hopened⟩ := handle_gate_run env P.engine P.run row
    (P.defn.gate_config row.step) w
  rw [hid] at hopen
  have hlegal : is_legal_run_transition run.status .AWAITING_APPROVAL = false := by
    cases hstatus : run.status <;> first | rfl | exact absurd hstatus hrunning
  obtain ⟨e, hrefused⟩ := exec_update_run_status_illegal env .AWAITING_APPROVAL none
    (hopened.keeps hstored) hlegal
  refine ⟨e, w₁, ?_, hopened⟩
  have hhandle : (P.engine.handle_gate P.run row (P.defn.gate_config row.step)).run (exec env) w =
      (.error e, w₁) := hopen.trans (run_await_error hrefused)
  unfold loop
  rw [Engine.execute_loop, if_neg (by simp [hdone]), if_pos hgate]
  exact run_bind_error hhandle

/-! ## The `except` block -/

/-- The retry of a failed row: the table refuses to reset it, and the exception escapes. -/
theorem fail_step_refused {exn : Exn} (hrunning : row.status = .RUNNING)
    (hof : row.run_id = P.run_id) (hstored : Stored P.run_id run (pre ++ row :: post) w)
    (hpre : ∀ r ∈ pre, r.step ≠ row.step)
    (hretry : (classify_error exn row.attempt).retryable = true)
    (hattempt : row.attempt + 1 < MAX_ATTEMPTS) :
    ∃ e w' row', (P.engine.fail_step P.again P.run_id row compensations exn).run (exec env) w =
        (.error e, w') ∧
      Handled P.run_id run run (pre ++ row' :: post) [.step_updated P.run_id row.step .FAILED] w w' ∧
      row'.step = row.step ∧ row'.status = .FAILED := by
  let failed := Engine.failed_row row (classify_error exn row.attempt) (env.time w.clock)
  have hnow : exec env .now w = (.ok (env.time w.clock), w.tick) := rfl
  have hstored₁ : Stored P.run_id run (pre ++ row :: post) w.tick := ⟨hstored.run, hstored.rows⟩
  obtain ⟨w₂, hupdate, hhandled, -⟩ := exec_update_step env failed hstored₁ hpre rfl hof
    (by rw [hrunning]; rfl)
  obtain ⟨e, hreset⟩ := exec_update_step_illegal env { failed with status := .PENDING }
    hhandled.stored hpre rfl hof (no_step_to_pending _)
  refine ⟨e, w₂, failed, ?_, ?_, rfl, rfl⟩
  · unfold Engine.fail_step
    refine (run_await hnow).trans ?_
    refine (run_await hupdate).trans ?_
    have hcond : ((classify_error exn row.attempt).retryable &&
        decide (failed.attempt < MAX_ATTEMPTS)) = true := by
      rw [hretry, Bool.true_and]
      exact decide_eq_true hattempt
    show Program.run (exec env) (if (_ && decide (failed.attempt < MAX_ATTEMPTS)) = true then _
      else _) w₂ = _
    rw [if_pos hcond]
    exact run_await_error hreset
  · exact ⟨hhandled.stored, hhandled.same, hhandled.trace, hhandled.elsewhere.registry,
      hhandled.elsewhere.lock, hhandled.elsewhere.runs, hhandled.elsewhere.steps⟩

/-- The hooks are called in the given order, whatever they raise. -/
theorem run_compensations_run (run_id : String) (fns : List Compensation) (w : World) :
    (Engine.run_compensations run_id fns).run (exec env) w =
      (.ok (), w.log (fns.map (.compensated run_id))) := by
  induction fns generalizing w with
  | nil =>
    show (Except.ok (), w) = (.ok (), w.log [])
    unfold World.log
    rw [List.append_nil]
  | cons fn rest ih =>
    have hcall : ∃ r, exec env (.compensate run_id fn) w = (r, w.emit (.compensated run_id fn)) :=
      ⟨_, rfl⟩
    obtain ⟨r, hr⟩ := hcall
    refine (run_attempt_bind ((run_perform _ _).trans hr)).trans ?_
    rw [ih]
    unfold World.log World.emit
    rw [List.map_cons, List.append_assoc]
    rfl

/-- A row that is not retried leaves a run that is not running as it is. -/
theorem fail_step_unparked {exn : Exn} (hrunning : row.status = .RUNNING)
    (hof : row.run_id = P.run_id) (hstored : Stored P.run_id run (pre ++ row :: post) w)
    (hpre : ∀ r ∈ pre, r.step ≠ row.step)
    (hfatal : ((classify_error exn row.attempt).retryable &&
      decide (row.attempt + 1 < MAX_ATTEMPTS)) = false) (hrun : run.status ≠ .RUNNING) :
    ∃ e w', (P.engine.fail_step P.again P.run_id row compensations exn).run (exec env) w =
        (.error e, w') ∧ w'.store.runs.get? P.run_id = some run := by
  let failed := Engine.failed_row row (classify_error exn row.attempt) (env.time w.clock)
  have hnow : exec env .now w = (.ok (env.time w.clock), w.tick) := rfl
  have hstored₁ : Stored P.run_id run (pre ++ row :: post) w.tick := ⟨hstored.run, hstored.rows⟩
  obtain ⟨w₂, hupdate, hhandled, -⟩ := exec_update_step env failed hstored₁ hpre rfl hof
    (by rw [hrunning]; rfl)
  let w₃ : World := w₂.log (compensations.reverse.map (.compensated P.run_id))
  have hstored₃ : Stored P.run_id run (pre ++ failed :: post) w₃ :=
    ⟨hhandled.stored.run, hhandled.stored.rows⟩
  have hlegal : is_legal_run_transition run.status .PARKED = false := by
    cases hstatus : run.status <;> first | rfl | exact absurd hstatus hrun
  obtain ⟨e, hrefused⟩ := exec_update_run_status_illegal env .PARKED
    (some (classify_error exn row.attempt)) hstored₃ hlegal
  refine ⟨e, w₃, ?_, hstored₃.run⟩
  have hparked : (P.engine.park P.run_id (classify_error exn row.attempt)
      compensations).run (exec env) w₂ = (.error e, w₃) := by
    refine (run_bind_ok (run_compensations_run env P.run_id compensations.reverse w₂)).trans ?_
    exact run_await_error hrefused
  unfold Engine.fail_step
  refine (run_await hnow).trans ?_
  refine (run_await hupdate).trans ?_
  show Program.run (exec env) (if ((classify_error exn row.attempt).retryable &&
    decide (row.attempt + 1 < MAX_ATTEMPTS)) = true then _ else _) w₂ = _
  rw [if_neg (by simp [hfatal])]
  exact run_bind_error hparked

/-- A row that is not retried parks a running run, after the hooks of this pass have been
    called, the last registered first. -/
theorem fail_step_parks {exn : Exn} (hrunning : row.status = .RUNNING)
    (hof : row.run_id = P.run_id) (hstored : Stored P.run_id run (pre ++ row :: post) w)
    (hpre : ∀ r ∈ pre, r.step ≠ row.step)
    (hfatal : ((classify_error exn row.attempt).retryable &&
      decide (row.attempt + 1 < MAX_ATTEMPTS)) = false) (hrun : run.status = .RUNNING) :
    ∃ w' run' row' entries,
      (P.engine.fail_step P.again P.run_id row compensations exn).run (exec env) w =
        (.ok run', w') ∧
      Stored P.run_id run' (pre ++ row' :: post) w' ∧ run'.status = .PARKED ∧
      w'.trace = w.trace ++ (.step_updated P.run_id row.step .FAILED ::
        (compensations.reverse.map (.compensated P.run_id) ++ List.map Event.audited entries)) := by
  let failed := Engine.failed_row row (classify_error exn row.attempt) (env.time w.clock)
  have hnow : exec env .now w = (.ok (env.time w.clock), w.tick) := rfl
  have hstored₁ : Stored P.run_id run (pre ++ row :: post) w.tick := ⟨hstored.run, hstored.rows⟩
  obtain ⟨w₂, hupdate, hhandled, -⟩ := exec_update_step env failed hstored₁ hpre rfl hof
    (by rw [hrunning]; rfl)
  let w₃ : World := w₂.log (compensations.reverse.map (.compensated P.run_id))
  have hstored₃ : Stored P.run_id run (pre ++ failed :: post) w₃ :=
    ⟨hhandled.stored.run, hhandled.stored.rows⟩
  obtain ⟨w₄, run', hpark, hstored₄, hstatus, htrace₄, -, -⟩ :=
    exec_update_run_status env .PARKED (some (classify_error exn row.attempt)) hstored₃
      (by rw [hrun]; rfl)
  obtain ⟨entries, hentries⟩ := Engine.audit_events_eq P.engine "run.parked" P.run_id
    [("error", .obj (classify_error exn row.attempt).model_dump)] []
  have hstored₅ : Stored P.run_id run' (pre ++ failed :: post)
      (w₄.log (List.map Event.audited entries)) := ⟨hstored₄.run, hstored₄.rows⟩
  refine ⟨w₄.log (List.map Event.audited entries), run', failed, entries, ?_, hstored₅,
    hstatus.status, ?_⟩
  · have haudit := Engine.audit_run env P.engine "run.parked" P.run_id
      [("error", .obj (classify_error exn row.attempt).model_dump)] [] w₄
    rw [hentries] at haudit
    have hparked : (P.engine.park P.run_id (classify_error exn row.attempt)
        compensations).run (exec env) w₂ = (.ok (), w₄.log (List.map Event.audited entries)) := by
      refine (run_bind_ok (run_compensations_run env P.run_id compensations.reverse w₂)).trans ?_
      exact (run_await hpark).trans haudit
    unfold Engine.fail_step
    refine (run_await hnow).trans ?_
    refine (run_await hupdate).trans ?_
    show Program.run (exec env) (if ((classify_error exn row.attempt).retryable &&
      decide (row.attempt + 1 < MAX_ATTEMPTS)) = true then _ else _) w₂ = _
    rw [if_neg (by simp [hfatal])]
    exact (run_bind_ok hparked).trans (reload_run env P hstored₅)
  · show w₄.trace ++ _ = _
    rw [htrace₄]
    show (w₂.trace ++ _) ++ _ = _
    rw [hhandled.trace]
    simp only [List.append_assoc, List.cons_append, List.nil_append]
    rfl

end rows

end Pass

/-! ## The whole of `execute` -/

/-- A lock that was given back can be taken. -/
theorem acquire_released (run_id : String) (lock : Option (List String)) :
    (acquire_lock run_id (release_lock run_id lock)).1 = true := by
  cases lock with
  | none => rfl
  | some held => simp [release_lock, acquire_lock]

namespace Engine

/-- The run lock is given back. -/
def unlocked (run_id : String) (w : World) : World :=
  { w with lock := release_lock run_id w.lock }

/-- The run lock is taken. -/
def locked (run_id : String) (w : World) : World :=
  { w with lock := (acquire_lock run_id w.lock).2 }

section execute
variable (env : Env) (engine : Engine) (depth : Nat) {run_id : String} {w : World}

/-- With the lock free, `execute` is one pass between taking and giving back the lock. -/
theorem execute_free (hfree : (acquire_lock run_id w.lock).1 = true) :
    (engine.execute (depth + 1) run_id).run (exec env) w =
      (((engine.execute_locked (engine.execute depth run_id) run_id).run (exec env)
          (locked run_id w)).1,
        unlocked run_id ((engine.execute_locked (engine.execute depth run_id) run_id).run
          (exec env) (locked run_id w)).2) := by
  have hacquire : exec env (.acquire run_id) w = (.ok true, locked run_id w) := by
    simp only [exec, hfree]
    rfl
  refine (run_await hacquire).trans ?_
  exact run_tryFinally rfl rfl

/-- With the lock held by somebody else, `execute` only reads the run. -/
theorem execute_held (hheld : (acquire_lock run_id w.lock).1 = false) :
    ((engine.execute (depth + 1) run_id).run (exec env) w).2 = locked run_id w := by
  have hacquire : exec env (.acquire run_id) w = (.ok false, locked run_id w) := by
    simp only [exec, hheld]
    rfl
  have hget : exec env (.get_run run_id) (locked run_id w) =
      (.ok (w.store.runs.get? run_id), locked run_id w) := rfl
  show (((await (.acquire run_id)).bind _).run (exec env) w).2 = _
  rw [run_await hacquire]
  show (((await (.get_run run_id)).bind _).run (exec env) (locked run_id w)).2 = _
  rw [run_await hget]
  cases w.store.runs.get? run_id with
  | none => rfl
  | some run => rfl

/-- The start of a pass: a queued run is set running. -/
structure Begun (run_id : String) (run run' : WorkflowRun) (rows : List StepState) (w w' : World) :
    Prop where
  stored : Stored run_id run' rows w'
  status : run'.status = if run.status = .QUEUED then .RUNNING else run.status
  id : run'.id = run.id
  context : run'.context = run.context
  workflow : run'.workflow = run.workflow
  trace : w'.trace = w.trace
  idem : w'.idem = w.idem
  elsewhere : Elsewhere run_id w w'

/-- A pass over the stored rows. -/
theorem execute_locked_run {run : WorkflowRun} {rows : List StepState} {defn : WorkflowDef}
    (again : M WorkflowRun) (hstored : Stored run_id run rows w)
    (hlatest : get_workflow_latest w.registry run.workflow = .ok defn) :
    ∃ w' run', (engine.execute_locked again run_id).run (exec env) w =
        ((⟨engine, again, run', defn, run_id⟩ : Pass).loop rows (stored_outputs rows) []).run
          (exec env) w' ∧
      Begun run_id run run' rows w w' ∧ (run.status ≠ .QUEUED → w' = w ∧ run' = run) := by
  have hget : exec env (.get_run run_id) w = (.ok (some run), w) := by
    simp only [exec, RunStore.get_run, hstored.run]
  -- the definition and the rows, read after the start
  have htail : ∀ w' run', Begun run_id run run' rows w w' →
      ((await (.get_workflow_latest run'.workflow)).bind fun defn =>
        (await (.get_steps run_id)).bind fun steps =>
          engine.execute_loop again run' defn run_id steps (stored_outputs steps) []).run
            (exec env) w' =
        ((⟨engine, again, run', defn, run_id⟩ : Pass).loop rows (stored_outputs rows) []).run
          (exec env) w' := by
    intro w' run' hbegun
    have hdefn : exec env (.get_workflow_latest run'.workflow) w' = (.ok defn, w') := by
      simp only [exec, hbegun.workflow, hbegun.elsewhere.registry, hlatest]
    have hsteps : exec env (.get_steps run_id) w' = (.ok rows, w') := by
      simp only [exec, RunStore.get_steps, hbegun.stored.rows, Option.getD_some]
    exact (run_await hdefn).trans (run_await hsteps)
  by_cases hqueued : run.status = .QUEUED
  · obtain ⟨w₁, run', hupdate, hstored₁, hstatus, htrace, helse, hidem⟩ :=
      exec_update_run_status env .RUNNING none hstored (by rw [hqueued]; rfl)
    have hbegun : Begun run_id run run' rows w w₁ :=
      ⟨hstored₁, by rw [if_pos hqueued]; exact hstatus.status, hstatus.id, hstatus.context,
        hstatus.workflow, htrace, hidem, helse⟩
    refine ⟨w₁, run', ?_, hbegun, fun hnot => absurd hqueued hnot⟩
    have hget₁ : exec env (.get_run run_id) w₁ = (.ok (some run'), w₁) := by
      simp only [exec, RunStore.get_run, hstored₁.run]
    have hbegin : (begin_run run_id run).run (exec env) w = (.ok run', w₁) := by
      unfold begin_run
      rw [if_pos hqueued]
      exact (run_await hupdate).trans (run_await hget₁)
    refine (run_await hget).trans ?_
    exact (run_bind_ok hbegin).trans (htail w₁ run' hbegun)
  · have hbegun : Begun run_id run run rows w w :=
      ⟨hstored, by rw [if_neg hqueued], rfl, rfl, rfl, rfl, rfl, .refl _ _⟩
    refine ⟨w, run, ?_, hbegun, fun _ => ⟨rfl, rfl⟩⟩
    have hbegin : (begin_run run_id run).run (exec env) w = (.ok run, w) := by
      unfold begin_run
      rw [if_neg hqueued]
      rfl
    refine (run_await hget).trans ?_
    exact (run_bind_ok hbegin).trans (htail w run hbegun)

/-- **`execute` with the lock free**: a pass over the stored rows, then the lock is given back. -/
theorem execute_run {run : WorkflowRun} {rows : List StepState} {defn : WorkflowDef}
    (hfree : (acquire_lock run_id w.lock).1 = true) (hstored : Stored run_id run rows w)
    (hlatest : get_workflow_latest w.registry run.workflow = .ok defn) :
    ∃ w' run', Begun run_id run run' rows (locked run_id w) w' ∧
      ∀ r w'', ((⟨engine, engine.execute depth run_id, run', defn, run_id⟩ : Pass).loop rows
          (stored_outputs rows) []).run (exec env) w' = (r, w'') →
        (engine.execute (depth + 1) run_id).run (exec env) w = (r, unlocked run_id w'') := by
  have hstored' : Stored run_id run rows (locked run_id w) := ⟨hstored.run, hstored.rows⟩
  obtain ⟨w', run', hpass, hbegun, -⟩ := execute_locked_run env engine
    (engine.execute depth run_id) hstored' hlatest
  refine ⟨w', run', hbegun, ?_⟩
  intro r w'' hloop
  rw [execute_free env engine depth hfree, hpass, hloop]

end execute

end Engine

/-- The events of a call of `execute`. -/
def pass_events (env : Env) (engine : Engine) (depth : Nat) (run_id : String) (w : World) :
    List Event :=
  ((engine.execute depth run_id).run (exec env) w).2.trace.drop w.trace.length

end CaseAutomation.Orchestrator
