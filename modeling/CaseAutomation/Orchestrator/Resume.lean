import CaseAutomation.Orchestrator.Calls
import CaseAutomation.Orchestrator.Progress
import CaseAutomation.Orchestrator.Starts

/-! # A Resumed Run Goes Straight Through

    A run is started and executed; whenever it waits at a gate, the gate is approved and the
    run is executed again. However the gates split the run into passes, the
    handlers are invoked once each, in the declared order, and each one is given the outputs
    of exactly the application steps before it.

    Outputs reach a handler from the dictionary of the pass or from the stored rows. `Reached`
    ties the two together: the outputs of the rows behind the run are the outputs that its
    handlers have returned so far.
-/

namespace CaseAutomation.Orchestrator

open Framework Program

/-! ## Invocations -/

/-- The event is an invocation of a handler for this run. -/
def Event.of_run (run_id : String) : Event → Bool
  | .invoked id _ _ _ => decide (id = run_id)
  | _ => false

/-- The invocations for a run, in order. -/
def invocations_of (run_id : String) (events : List Event) : List Event :=
  events.filter (Event.of_run run_id)

@[simp] theorem invocations_of_append (run_id : String) (a b : List Event) :
    invocations_of run_id (a ++ b) = invocations_of run_id a ++ invocations_of run_id b :=
  List.filter_append a b

@[simp] theorem invocations_of_audited (run_id : String) (entries : List AuditEntry) :
    invocations_of run_id (entries.map .audited) = [] := by
  unfold invocations_of
  rw [List.filter_eq_nil_iff]
  intro e he
  obtain ⟨entry, -, rfl⟩ := List.mem_map.mp he
  simp [Event.of_run]

section straight
variable (handlers : String → Option Handler) (run_id : String) (context : JsonObj)

/-- What the handler of a step is given, in a run that has collected these outputs. -/
def given (outputs : Dict String JsonObj) (step : String) : StepContext :=
  { run_id := run_id, context := context, step_outputs := outputs, idem_key := run_id ++ ":" ++ step }

/-- `Straight handlers run_id context outputs steps events outputs'`: the events are the
    invocations of these steps, once each and in order. Each handler is given the context of the
    run and the outputs collected so far, `outputs` before the first step and `outputs'` after
    the last. -/
inductive Straight :
    Dict String JsonObj → List String → List Event → Dict String JsonObj → Prop where
  | nil (outputs : Dict String JsonObj) : Straight outputs [] [] outputs
  | cons {outputs outputs' : Dict String JsonObj} {step : String} {rest : List String}
      {more : List Event} {handler : Handler} {trace : List Event} {returned : Option JsonObj}
      {hooks : List Compensation} : handlers step = some handler →
      handler trace (given run_id context outputs step) = .returned returned hooks →
      Straight (outputs.set step (returned.getD [])) rest more outputs' →
      Straight outputs (step :: rest)
        (.invoked run_id step (given run_id context outputs step) (.returned returned hooks) :: more)
        outputs'

/-- The invocations of these steps without any pause, for handlers that look at nothing but what
    they are given. -/
def straight_through (outputs : Dict String JsonObj) : List String → List Event
  | [] => []
  | step :: rest =>
    match handlers step with
    | none => []
    | some handler =>
      match handler [] (given run_id context outputs step) with
      | .raised exn => [.invoked run_id step (given run_id context outputs step) (.raised exn)]
      | .returned returned hooks =>
        .invoked run_id step (given run_id context outputs step) (.returned returned hooks) ::
          straight_through (outputs.set step (returned.getD [])) rest

variable {handlers} {run_id} {context} {outputs outputs' outputs'' : Dict String JsonObj}
  {steps steps' : List String} {events events' : List Event}

theorem Straight.append (h : Straight handlers run_id context outputs steps events outputs')
    (h' : Straight handlers run_id context outputs' steps' events' outputs'') :
    Straight handlers run_id context outputs (steps ++ steps') (events ++ events') outputs'' := by
  induction h with
  | nil => exact h'
  | cons hhandler hreturns _ ih => exact .cons hhandler hreturns (ih h')

/-- Steps that are not invoked keep their outputs. -/
theorem Straight.get?_ne (h : Straight handlers run_id context outputs steps events outputs')
    {step : String} (hstep : step ∉ steps) : outputs'.get? step = outputs.get? step := by
  induction h with
  | nil => rfl
  | cons _ _ _ ih =>
    rw [List.mem_cons, not_or] at hstep
    rw [ih hstep.2, Dict.get?_set_ne _ _ hstep.1]

/-- What is collected for a step is what its handler returned. -/
theorem Straight.returned (h : Straight handlers run_id context outputs steps events outputs')
    (hnodup : steps.Nodup) {step : String} (hstep : step ∈ steps) :
    ∃ ctx returned hooks, Event.invoked run_id step ctx (.returned returned hooks) ∈ events ∧
      outputs'.get? step = some (returned.getD []) := by
  induction h with
  | nil => cases hstep
  | @cons outputs outputs' name rest more handler trace returned hooks _ _ hmore ih =>
    rw [List.nodup_cons] at hnodup
    rcases List.mem_cons.mp hstep with rfl | hstep
    · refine ⟨_, returned, hooks, List.mem_cons_self, ?_⟩
      rw [hmore.get?_ne hnodup.1, Dict.get?_set_self]
    · obtain ⟨ctx, returned', hooks', hmem, hget⟩ := ih hnodup.2 hstep
      exact ⟨ctx, returned', hooks', List.mem_cons_of_mem _ hmem, hget⟩

/-- Handlers that look at nothing but what they are given leave no choice. -/
theorem Straight.eq_straight_through
    (h : Straight handlers run_id context outputs steps events outputs')
    (hgiven : ∀ step ∈ steps, ∀ handler, handlers step = some handler →
      ∀ trace ctx, handler trace ctx = handler [] ctx) :
    events = straight_through handlers run_id context outputs steps := by
  induction h with
  | nil => rfl
  | @cons outputs outputs' name rest more handler trace returned hooks hhandler hreturns _ ih =>
    rw [hgiven name List.mem_cons_self handler hhandler] at hreturns
    simp only [straight_through, hhandler, hreturns]
    rw [ih fun step hstep => hgiven step (List.mem_cons_of_mem name hstep)]

end straight

/-! ## Rows and their outputs -/

/-- A row that is behind the run: an application step has its output, a gate has none. -/
structure Passed (row : StepState) : Prop where
  status : row.status = .SUCCEEDED
  output : row.output.isSome = !is_gate row.step

/-- A row that the run has not come to. -/
structure Untried (row : StepState) : Prop where
  status : row.status = .PENDING
  output : row.output = none

theorem Passed.done {row : StepState} (h : Passed row) : Engine.step_done row.status = true := by
  rw [h.status]
  rfl

theorem Untried.not_done {row : StepState} (h : Untried row) :
    Engine.step_done row.status = false := by
  rw [h.status]
  rfl

theorem add_output_none {outputs : Dict String JsonObj} {row : StepState} (h : row.output = none) :
    Engine.add_output outputs row = outputs := by
  unfold Engine.add_output
  rw [h]

theorem fold_untried {rows : List StepState} (outputs : Dict String JsonObj)
    (h : ∀ row ∈ rows, Untried row) : rows.foldl Engine.add_output outputs = outputs := by
  induction rows generalizing outputs with
  | nil => rfl
  | cons row rows ih =>
    rw [List.foldl_cons, add_output_none (h row List.mem_cons_self).output]
    exact ih outputs fun r hr => h r (List.mem_cons_of_mem row hr)

/-- Steps of other names keep their outputs. -/
theorem get?_fold_ne {rows : List StepState} {outputs : Dict String JsonObj} {step : String}
    (h : ∀ row ∈ rows, row.step ≠ step) :
    (rows.foldl Engine.add_output outputs).get? step = outputs.get? step := by
  induction rows generalizing outputs with
  | nil => rfl
  | cons row rows ih =>
    rw [List.foldl_cons, ih fun r hr => h r (List.mem_cons_of_mem row hr)]
    unfold Engine.add_output
    cases row.output with
    | none => rfl
    | some output => exact Dict.get?_set_ne _ _ (Ne.symm (h row List.mem_cons_self))

/-- Under distinct names, the output of every row is collected. -/
theorem get?_fold {rows : List StepState} {outputs : Dict String JsonObj}
    (hnodup : (rows.map StepState.step).Nodup) {row : StepState} (hrow : row ∈ rows)
    {output : JsonObj} (houtput : row.output = some output) :
    (rows.foldl Engine.add_output outputs).get? row.step = some output := by
  induction rows generalizing outputs with
  | nil => cases hrow
  | cons r rows ih =>
    rw [List.map_cons, List.nodup_cons] at hnodup
    rw [List.foldl_cons]
    rcases List.mem_cons.mp hrow with rfl | hrow
    · have hne : ∀ r ∈ rows, r.step ≠ row.step := by
        intro r hr heq
        exact hnodup.1 (by rw [← heq]; exact List.mem_map_of_mem hr)
      rw [get?_fold_ne hne]
      unfold Engine.add_output
      rw [houtput]
      exact Dict.get?_set_self _ _ _
    · exact ih hnodup.2 hrow

/-- Collecting outputs that are there already changes nothing. -/
theorem fold_again {rows : List StepState} {outputs : Dict String JsonObj}
    (h : ∀ row ∈ rows, ∀ output, row.output = some output → outputs.get? row.step = some output) :
    rows.foldl Engine.add_output outputs = outputs := by
  induction rows with
  | nil => rfl
  | cons row rows ih =>
    have hsame : Engine.add_output outputs row = outputs := by
      unfold Engine.add_output
      cases houtput : row.output with
      | none => rfl
      | some output => exact Dict.set_get?_self (h row List.mem_cons_self output houtput)
    rw [List.foldl_cons, hsame]
    exact ih fun r hr => h r (List.mem_cons_of_mem row hr)

/-- A pass starts with the outputs of the rows behind the run, and skipping these rows adds
    nothing. -/
theorem outputs_at_start {done rest : List StepState}
    (hnodup : (done.map StepState.step).Nodup) (hrest : ∀ row ∈ rest, Untried row) :
    Engine.stored_outputs (done ++ rest) = Engine.stored_outputs done ∧
      done.foldl Engine.add_output (Engine.stored_outputs done) = Engine.stored_outputs done := by
  constructor
  · unfold Engine.stored_outputs
    rw [List.foldl_append]
    exact fold_untried _ hrest
  · apply fold_again
    intro row hrow output houtput
    exact get?_fold hnodup hrow houtput

/-! ## Between the rows -/

/-- The run is stored with the rows of `done` behind it, and none of the rows of `rest` has been
    worked on. -/
structure Between (env : Env) (defn : WorkflowDef) (run_id : String) (done rest : List StepState)
    (run : WorkflowRun) (w : World) : Prop where
  stored : Stored run_id run (done ++ rest) w
  rows : RowsOk defn run_id (done ++ rest)
  passed : ∀ row ∈ done, Passed row
  untried : ∀ row ∈ rest, Untried row
  unrecorded : ∀ row ∈ rest, w.idem.lookup env.json row.idem_key = none

section between
variable {env : Env} {defn : WorkflowDef} {run_id : String} {done rest : List StepState}
  {row row' : StepState} {run run' : WorkflowRun} {w w' : World}

/-- Under distinct names, no row behind the run has the name of the next one. -/
theorem Between.other_names (h : Between env defn run_id done (row :: rest) run w)
    (hnodup : defn.steps.Nodup) :
    (∀ r ∈ done, r.step ≠ row.step) ∧ ∀ r ∈ rest, r.step ≠ row.step := by
  rw [← h.rows.names, List.map_append, List.map_cons, List.nodup_append] at hnodup
  constructor
  · intro r hr heq
    exact hnodup.2.2 r.step (List.mem_map_of_mem hr) row.step List.mem_cons_self heq
  · intro r hr heq
    have hnot := (List.nodup_cons.mp hnodup.2.1).1
    rw [← heq] at hnot
    exact hnot (List.mem_map_of_mem hr)

theorem Between.done_nodup (h : Between env defn run_id done rest run w)
    (hnodup : defn.steps.Nodup) : (done.map StepState.step).Nodup := by
  rw [← h.rows.names, List.map_append] at hnodup
  exact (List.nodup_append.mp hnodup).1

/-- The next row is now behind the run. -/
theorem Between.pass (h : Between env defn run_id done (row :: rest) run w)
    (hstored : Stored run_id run' (done ++ row' :: rest) w') (hname : row'.step = row.step)
    (hok : RowOk run_id row') (hpassed : Passed row')
    (hidem : ∀ r ∈ rest, w'.idem.lookup env.json r.idem_key = w.idem.lookup env.json r.idem_key) :
    Between env defn run_id (done ++ [row']) rest run' w' where
  stored := by
    rw [List.append_assoc]
    exact hstored
  rows := by
    rw [List.append_assoc]
    exact h.rows.replace hname hok
  passed := by
    intro r hr
    rcases List.mem_append.mp hr with hr | hr
    · exact h.passed r hr
    · rw [List.mem_singleton.mp hr]
      exact hpassed
  untried := fun r hr => h.untried r (List.mem_cons_of_mem row hr)
  unrecorded := by
    intro r hr
    rw [hidem r hr]
    exact h.unrecorded r (List.mem_cons_of_mem row hr)

end between

/-- The application steps among some rows. -/
def application_steps (rows : List StepState) : List String :=
  (rows.map StepState.step).filter fun step => !is_gate step

/-! ## One pass -/

section pass
variable {env : Env} {P : Pass} {done rest : List StepState} {run : WorkflowRun} {w : World}

/-- A step whose handler returns is invoked once, and no other step of the run is. -/
theorem invocations_of_return (P : Pass) (row : StepState) (ctx : StepContext)
    (hctx : ctx.run_id = P.run_id) (returned : Option JsonObj) (hooks : List Compensation) :
    invocations_of P.run_id (.step_updated P.run_id row.step .RUNNING ::
      P.return_events row ctx returned hooks) =
        [.invoked P.run_id row.step ctx (.returned returned hooks)] := by
  obtain ⟨entries, hentries⟩ := Engine.audit_events_eq P.engine "step.succeeded" P.run_id
    [("step", .str row.step)] (returned.getD [])
  have haudited := invocations_of_audited P.run_id entries
  unfold Pass.return_events
  rw [hentries, hctx]
  unfold invocations_of at haudited ⊢
  simp [Event.of_run, haudited]

/-- **The rows before the next gate** are worked on in order, each once. -/
theorem loop_straight (next : List StepState) (compensations : List Compensation)
    (hplain : ∀ row ∈ next, is_gate row.step = false) (hnodup : P.defn.steps.Nodup)
    (hreturns : NeverRaise P.defn P.defn.steps)
    (h : Between env P.defn P.run_id done (next ++ rest) run w) :
    ∃ done' compensations' run' new w',
      (P.loop (next ++ rest) (Engine.stored_outputs done) compensations).run (exec env) w =
        (P.loop rest (Engine.stored_outputs (done ++ done')) compensations').run (exec env) w' ∧
      Between env P.defn P.run_id (done ++ done') rest run' w' ∧
      done'.map StepState.step = next.map StepState.step ∧ SameRun run run' ∧
      Elsewhere P.run_id w w' ∧ w'.trace = w.trace ++ new ∧
      Straight P.defn.handlers P.run_id P.run.context (Engine.stored_outputs done)
        (next.map StepState.step) (invocations_of P.run_id new)
        (Engine.stored_outputs (done ++ done')) := by
  induction next generalizing done run w compensations with
  | nil =>
    refine ⟨[], compensations, run, [], w, ?_, ?_, rfl, .refl run, .refl _ _,
      (List.append_nil _).symm, ?_⟩
    · rw [List.append_nil]
      rfl
    · rw [List.append_nil]
      exact h
    · rw [List.append_nil]
      exact .nil _
  | cons row next ih =>
    rw [List.cons_append] at h ⊢
    have huntried := h.untried row List.mem_cons_self
    have hok : RowOk P.run_id row := h.rows.ok row (by simp)
    have hgate := hplain row List.mem_cons_self
    have hdeclared : row.step ∈ P.defn.steps := by
      rw [← h.rows.names]
      exact List.mem_map_of_mem (by simp)
    obtain ⟨hdone, hrest⟩ := h.other_names hnodup
    obtain ⟨handler, hhandler⟩ := Option.isSome_iff_exists.mp
      (P.defn.handlers_total row.step hdeclared hgate)
    -- the handler is given the outputs of the rows behind the run
    obtain ⟨returned, hooks, hresult⟩ := hreturns row.step hdeclared handler hhandler
      (w.trace ++ [.step_updated P.run_id row.step .RUNNING])
      (P.context (Engine.stored_outputs done) row)
    obtain ⟨w₁, run₁, row', hloop, hhandled, hcompleted, hidem⟩ := Pass.loop_success env P
      (next ++ rest) (Engine.stored_outputs done) compensations huntried.not_done hgate
      (h.unrecorded row List.mem_cons_self) hok.of_run h.stored hdone rfl
      (by rw [huntried.status]; rfl) hhandler hresult
    have hcollected : Engine.stored_outputs (done ++ [row']) =
        (Engine.stored_outputs done).set row.step (returned.getD []) := by
      unfold Engine.stored_outputs
      rw [List.foldl_append]
      simp only [List.foldl_cons, List.foldl_nil, Engine.add_output, hcompleted.output,
        hcompleted.step]
    have hbetween : Between env P.defn P.run_id (done ++ [row']) (next ++ rest) run₁ w₁ := by
      apply h.pass hhandled.stored hcompleted.step
      · exact ⟨hcompleted.of_run.trans hok.of_run, by rw [hcompleted.key, hcompleted.step, hok.key]⟩
      · exact ⟨hcompleted.status, by rw [hcompleted.output, hcompleted.step, hgate]; rfl⟩
      · intro r hr
        have hokr : RowOk P.run_id r := h.rows.ok r (by
          rw [List.mem_append]
          exact Or.inr (List.mem_cons_of_mem row hr))
        rw [hidem, IdemStore.lookup_complete_ne]
        rw [hok.key, hokr.key]
        intro heq
        exact hrest r hr (P.key_injective heq)
    obtain ⟨done', compensations', run₂, new, w₂, hloop', hbetween', hnames, hsame, helse, htrace,
      hstraight⟩ := ih (compensations ++ hooks)
        (fun r hr => hplain r (List.mem_cons_of_mem row hr)) hbetween
    rw [List.append_assoc, List.singleton_append] at hloop' hbetween' hstraight
    refine ⟨row' :: done', compensations', run₂,
      (.step_updated P.run_id row.step .RUNNING :: P.return_events row
        (P.context (Engine.stored_outputs done) row) returned hooks) ++ new, w₂, ?_, hbetween', ?_,
      hhandled.same.trans hsame, hhandled.elsewhere.trans helse, ?_, ?_⟩
    · rw [hloop, ← hcollected, hloop']
    · rw [List.map_cons, List.map_cons, hcompleted.step, hnames]
    · rw [htrace, hhandled.trace, List.append_assoc]
    · have hctx : P.context (Engine.stored_outputs done) row =
          given P.run_id P.run.context (Engine.stored_outputs done) row.step := by
        unfold Pass.context given
        rw [hok.key]
      rw [invocations_of_append, invocations_of_return P row _ rfl, hctx]
      rw [hctx] at hresult
      rw [hcollected] at hstraight
      exact .cons hhandler hresult hstraight

end pass

/-! ## From one gate to the next -/

@[simp] theorem application_steps_append (a b : List StepState) :
    application_steps (a ++ b) = application_steps a ++ application_steps b := by
  unfold application_steps
  rw [List.map_append, List.filter_append]

theorem application_steps_plain {rows : List StepState}
    (h : ∀ row ∈ rows, is_gate row.step = false) :
    application_steps rows = rows.map StepState.step := by
  unfold application_steps
  rw [List.filter_eq_self]
  intro step hstep
  obtain ⟨row, hrow, rfl⟩ := List.mem_map.mp hstep
  rw [h row hrow]
  rfl

/-- The run rests between the rows, and nobody works on it. -/
structure Reached (env : Env) (defn : WorkflowDef) (run_id : String) (context : JsonObj)
    (done rest : List StepState) (run : WorkflowRun) (w : World) : Prop where
  between : Between env defn run_id done rest run w
  id : run.id = run_id
  context : run.context = context
  latest : get_workflow_latest w.registry run.workflow = .ok defn
  free : (acquire_lock run_id w.lock).1 = true

/-- From `w` to `w'` the run has left the rows of `done'` behind, straight on from `done`. -/
def Went (defn : WorkflowDef) (run_id : String) (context : JsonObj) (done done' : List StepState)
    (w w' : World) : Prop :=
  ∃ new, w'.trace = w.trace ++ new ∧
    Straight defn.handlers run_id context (Engine.stored_outputs done) (application_steps done')
      (invocations_of run_id new) (Engine.stored_outputs (done ++ done'))

section reached
variable {env : Env} {defn : WorkflowDef} {run_id : String} {context : JsonObj}
  {done done' done'' rest : List StepState} {run : WorkflowRun} {w w' w'' : World}

theorem Went.trans (h : Went defn run_id context done done' w w')
    (h' : Went defn run_id context (done ++ done') done'' w' w'') :
    Went defn run_id context done (done' ++ done'') w w'' := by
  obtain ⟨new, htrace, hstraight⟩ := h
  obtain ⟨new', htrace', hstraight'⟩ := h'
  refine ⟨new ++ new', by rw [htrace', htrace, List.append_assoc], ?_⟩
  rw [invocations_of_append, application_steps_append, ← List.append_assoc done]
  exact hstraight.append hstraight'

/-- **One call of `execute`** takes the run to the next gate, or to its end. -/
theorem execute_straight (engine : Engine) (depth : Nat) (hnodup : defn.steps.Nodup)
    (hreturns : NeverRaise defn defn.steps) (h : Reached env defn run_id context done rest run w)
    (hstatus : run.status = .QUEUED ∨ run.status = .RUNNING) :
    ∃ done' rest' run' w', (engine.execute (depth + 1) run_id).run (exec env) w = (.ok run', w') ∧
      Reached env defn run_id context (done ++ done') rest' run' w' ∧
      rest.map StepState.step = done'.map StepState.step ++ rest'.map StepState.step ∧
      (∀ row ∈ done', is_gate row.step = false) ∧ Halts rest' ∧ run'.status = stop_status rest' ∧
      Went defn run_id context done done' w w' := by
  obtain ⟨w₁, run₁, hbegun, hexecute⟩ := Engine.execute_run env engine depth h.free
    h.between.stored h.latest
  let P : Pass := ⟨engine, engine.execute depth run_id, run₁, defn, run_id⟩
  have hrunning : run₁.status = .RUNNING := by
    rw [hbegun.status]
    rcases hstatus with hqueued | hrunning
    · rw [if_pos hqueued]
    · rw [if_neg (by rw [hrunning]; decide), hrunning]
  have hcontext : P.run.context = context := hbegun.context.trans h.context
  -- the rows behind the run are skipped, and add no output
  obtain ⟨hstart, hskip⟩ := outputs_at_start (h.between.done_nodup hnodup) h.between.untried
  have hskipped : P.loop (done ++ rest) (Engine.stored_outputs (done ++ rest)) [] =
      P.loop rest (Engine.stored_outputs done) [] := by
    rw [Pass.loop_skip_all P _ _ _ fun r hr => (h.between.passed r hr).done, hstart, hskip]
  -- then the rows before the next gate are worked on
  obtain ⟨rest', hsplit, hhalts⟩ := ahead_split rest
  have hbetween₁ : Between env defn run_id done (ahead rest ++ rest') run₁ w₁ := by
    rw [← hsplit]
    refine ⟨hbegun.stored, h.between.rows, h.between.passed, h.between.untried, ?_⟩
    rw [hbegun.idem]
    exact h.between.unrecorded
  have hplain : ∀ row ∈ ahead rest, is_gate row.step = false := by
    intro row hrow
    obtain ⟨hmem, hgate⟩ := mem_ahead hrow
    simpa [undone_gate, (h.between.untried row hmem).not_done] using hgate
  obtain ⟨done', compensations, run₂, new, w₂, hloop, hbetween₂, hnames, hsame, helse, htrace,
    hstraight⟩ := loop_straight (P := P) (ahead rest) [] hplain hnodup hreturns hbetween₁
  have hgates : ∀ row ∈ done', is_gate row.step = false := by
    intro row hrow
    have hmem : row.step ∈ (ahead rest).map StepState.step := by
      rw [← hnames]
      exact List.mem_map_of_mem hrow
    obtain ⟨r, hr, hname⟩ := List.mem_map.mp hmem
    rw [← hname]
    exact hplain r hr
  -- and the pass stops
  have hrun₂ : run₂.status = .RUNNING := hsame.status.trans hrunning
  obtain ⟨run₃, w₃, entries, hend, hstored₃, hstatus₃, htrace₃, helse₃, hidem₃⟩ :=
    @loop_halts P run₂ _ w₂ env rest' (Engine.stored_outputs (done ++ done')) compensations hhalts
      (hbegun.id.trans h.id) hbetween₂.stored hrun₂
  have hwhole : (P.loop (done ++ rest) (Engine.stored_outputs (done ++ rest)) []).run (exec env) w₁ =
      (.ok run₃, w₃) := by
    rw [hskipped, hsplit, hloop, hend]
  refine ⟨done', rest', run₃, Engine.unlocked run_id w₃, hexecute _ _ hwhole, ?_, ?_, hgates, hhalts,
    hstatus₃.status, ?_⟩
  · refine ⟨⟨⟨hstored₃.run, hstored₃.rows⟩, hbetween₂.rows, hbetween₂.passed, hbetween₂.untried, ?_⟩,
      ?_, ?_, ?_, acquire_released _ _⟩
    · intro row hrow
      show w₃.idem.lookup _ _ = none
      rw [hidem₃]
      exact hbetween₂.unrecorded row hrow
    · rw [hstatus₃.id, show run₂.id = run₁.id by rw [hsame], hbegun.id, h.id]
    · rw [hstatus₃.context, hsame.context]
      exact hcontext
    · show get_workflow_latest w₃.registry _ = _
      rw [helse₃.registry, helse.registry, hbegun.elsewhere.registry, hstatus₃.workflow,
        hsame.workflow, hbegun.workflow]
      exact h.latest
  · rw [hnames, ← List.map_append, ← hsplit]
  · refine ⟨new ++ List.map Event.audited entries, ?_, ?_⟩
    · show w₃.trace = _
      rw [htrace₃, htrace, hbegun.trace, List.append_assoc]
      rfl
    · rw [invocations_of_append, invocations_of_audited, List.append_nil]
      rw [application_steps_plain hgates, hnames, ← hcontext]
      exact hstraight

end reached

/-! ## Approving a gate -/

/-- Runs, rows, records, locks and the registry are as before, and only audit records were
    written. -/
structure Calm (w w' : World) : Prop where
  runs : w'.store.runs = w.store.runs
  steps : w'.store.steps = w.store.steps
  idem : w'.idem = w.idem
  lock : w'.lock = w.lock
  registry : w'.registry = w.registry
  trace : ∃ entries, w'.trace = w.trace ++ List.map Event.audited entries

theorem Calm.trans {a b c : World} (h : Calm a b) (h' : Calm b c) : Calm a c where
  runs := h'.runs.trans h.runs
  steps := h'.steps.trans h.steps
  idem := h'.idem.trans h.idem
  lock := h'.lock.trans h.lock
  registry := h'.registry.trans h.registry
  trace := by
    obtain ⟨entries, htrace⟩ := h.trace
    obtain ⟨entries', htrace'⟩ := h'.trace
    exact ⟨entries ++ entries', by rw [htrace', htrace, List.map_append, List.append_assoc]⟩

theorem Calm.of_trace {w w' : World} (hruns : w'.store.runs = w.store.runs)
    (hsteps : w'.store.steps = w.store.steps) (hidem : w'.idem = w.idem) (hlock : w'.lock = w.lock)
    (hregistry : w'.registry = w.registry) (htrace : w'.trace = w.trace) : Calm w w' :=
  ⟨hruns, hsteps, hidem, hlock, hregistry, [], by rw [htrace]; exact (List.append_nil _).symm⟩

section approval
variable {env : Env} {args : ResolveArgs} {payload : TokenPayload} {gate : GateRequest}
  {d : ApprovalDecision} {w w' : World}

/-- The answer of a calm call. -/
theorem Calm.await {c : Call} {r : Except Exn c.Resp}
    (h : (Orchestrator.await c).run (exec env) w = (r, w')) (hcalm : Calm w (exec env c w).2) :
    Calm w w' := by
  rw [run_perform] at h
  rw [h] at hcalm
  exact hcalm

theorem mark_token_used_calm (token_id : String) (used_at : Time) (w : World) :
    Calm w (w.with_store (w.store.mark_token_used token_id used_at).2) := by
  unfold RunStore.mark_token_used
  split
  · exact .of_trace rfl rfl rfl rfl rfl rfl
  · split <;> exact .of_trace rfl rfl rfl rfl rfl rfl

theorem maybe_audit_calm {audited : Bool} {actor action : String} {inputs : JsonObj} {u : Unit}
    (h : (maybe_audit audited actor action inputs).run (exec env) w = (.ok u, w')) : Calm w w' := by
  unfold maybe_audit at h
  split at h
  · have hemit : w' = w.emit (.audited
        { actor := actor, action := action, inputs := inputs, outputs := [], run_id := none }) :=
      (congrArg Prod.snd h).symm
    rw [hemit]
    exact ⟨rfl, rfl, rfl, rfl, rfl, [_], rfl⟩
  · have hsame : w' = w := (congrArg Prod.snd h).symm
    rw [hsame]
    exact .of_trace rfl rfl rfl rfl rfl rfl

/-- What an approval does to the run: after calm work the run is set running, and then the
    gate step is marked done. -/
structure Approval (env : Env) (d : ApprovalDecision) (w w' : World) : Prop where
  resumes : ∃ w₁ w₂, Calm w w₁ ∧
    exec env (.update_run_status d.run_id .RUNNING none none) w₁ = (.ok (), w₂) ∧
    exec env (.advance_gate_step d.run_id d.step) w₂ = (.ok (), w')

theorem Approval.after_calm {w₁ : World} (h : Calm w w₁) (h' : Approval env d w₁ w') :
    Approval env d w w' := by
  obtain ⟨w₂, w₃, hcalm, hrest⟩ := h'.resumes
  exact ⟨w₂, w₃, h.trans hcalm, hrest⟩

theorem record_resolution_approves (happrove : args.decision = .approve)
    (h : (record_resolution args payload gate).run (exec env) w = (.ok d, w')) :
    Approval env d w w' := by
  obtain ⟨now, w₁, hnow, h⟩ := run_bind_returns h
  obtain ⟨u₂, w₂, hsave, h⟩ := run_bind_returns h
  obtain ⟨u₃, w₃, hgate, h⟩ := run_bind_returns h
  obtain ⟨u₄, w₄, haudit, h⟩ := run_bind_returns h
  obtain ⟨u₅, w₅, hstatus, h⟩ := run_bind_returns h
  obtain ⟨u₆, w₆, hresume, h⟩ := run_bind_returns h
  have hw₁ : Calm w w₁ := .await hnow (.of_trace rfl rfl rfl rfl rfl rfl)
  have hw₂ : Calm w₁ w₂ := .await hsave (.of_trace rfl rfl rfl rfl rfl rfl)
  have hw₃ : Calm w₂ w₃ := .await hgate (.of_trace rfl rfl rfl rfl rfl rfl)
  have hw₄ : Calm w₃ w₄ := maybe_audit_calm haudit
  have hd : args.approval_decision payload now = d := Except.ok.inj (congrArg Prod.fst h)
  have hw₆ : w₆ = w' := congrArg Prod.snd h
  rw [run_perform, happrove] at hstatus
  unfold resume_step at hresume
  rw [happrove] at hresume
  rw [← hd, ← hw₆]
  exact ⟨w₄, w₅, hw₁.trans (hw₂.trans (hw₃.trans hw₄)), hstatus, hresume⟩

theorem check_gate_approves (happrove : args.decision = .approve)
    (h : (check_gate args payload).run (exec env) w = (.ok d, w')) : Approval env d w w' := by
  obtain ⟨found, w₁, hget, h⟩ := run_bind_returns h
  have hw₁ : w = w₁ := congrArg Prod.snd hget
  rw [hw₁]
  cases found with
  | none => cases h
  | some gate =>
    simp only at h
    split at h
    · cases h
    · split at h
      · cases h
      · obtain ⟨u, w₂, -, h⟩ := run_bind_returns h
        cases h
      · exact record_resolution_approves happrove h

theorem use_token_approves (happrove : args.decision = .approve)
    (h : (use_token args payload).run (exec env) w = (.ok d, w')) : Approval env d w w' := by
  obtain ⟨now, w₁, hnow, h⟩ := run_bind_returns h
  have hw₁ : Calm w w₁ := .await hnow (.of_trace rfl rfl rfl rfl rfl rfl)
  apply Approval.after_calm hw₁
  split at h
  · obtain ⟨u, w₂, -, h⟩ := run_bind_returns h
    cases h
  · obtain ⟨found, w₂, hget, h⟩ := run_bind_returns h
    have hw₂ : w₁ = w₂ := congrArg Prod.snd hget
    rw [hw₂]
    cases found with
    | none => cases h
    | some token =>
      obtain ⟨used_at, w₃, hnow₃, h⟩ := run_bind_returns h
      obtain ⟨first_use, w₄, hmark, h⟩ := run_bind_returns h
      have hw₃ : Calm w₂ w₃ := .await hnow₃ (.of_trace rfl rfl rfl rfl rfl rfl)
      have hw₄ : Calm w₃ w₄ := .await hmark (mark_token_used_calm payload.tid used_at w₃)
      apply Approval.after_calm (hw₃.trans hw₄)
      split at h
      · exact check_gate_approves happrove h
      · obtain ⟨u, w₅, -, h⟩ := run_bind_returns h
        cases h

/-- **A call of `resolve_gate` that returns an approval** resumes the run. -/
theorem resolve_gate_approves {crypto : Crypto} (happrove : args.decision = .approve)
    (h : (resolve_gate crypto args).run (exec env) w = (.ok d, w')) : Approval env d w w' := by
  unfold resolve_gate at h
  split at h
  · cases h
  · obtain ⟨u, w₁, -, h⟩ := run_bind_returns h
    cases h
  · exact use_token_approves happrove h

end approval

theorem advance_row_append {name : String} (now : Time) {pre post : List StepState} {row : StepState}
    (hpre : ∀ r ∈ pre, r.step ≠ name) (hname : row.step = name) :
    RunStore.advance_row name now (pre ++ row :: post) =
      pre ++ { row with status := .SUCCEEDED, ended_at := some now } :: post := by
  induction pre with
  | nil => rw [List.nil_append, RunStore.advance_row, if_pos hname, List.nil_append]
  | cons r pre ih =>
    rw [List.cons_append, RunStore.advance_row, if_neg (hpre r List.mem_cons_self),
      ih fun x hx => hpre x (List.mem_cons_of_mem r hx), List.cons_append]

/-! ## Every gate in turn -/

/-- An approval of the gate that the run waits at. -/
def Approves (env : Env) (engine : Engine) (run_id : String) (w w' : World) : Prop :=
  ∃ args d gate, args.decision = .approve ∧
    (resolve_gate engine.crypto args).run (exec env) w = (.ok d, w') ∧
    next_gate (w.store.get_steps run_id) = some gate ∧ d.run_id = run_id ∧ d.step = gate.step

/-- `Driven env engine run_id w₁ n w`: `execute` was called in `w₁` and after each of `n`
    approvals. -/
inductive Driven (env : Env) (engine : Engine) (run_id : String) (w₁ : World) :
    Nat → World → Prop where
  | start (depth : Nat) :
      Driven env engine run_id w₁ 0 ((engine.execute (depth + 1) run_id).run (exec env) w₁).2
  | resume (depth : Nat) {n : Nat} {w w' : World} : Driven env engine run_id w₁ n w →
      Approves env engine run_id w w' →
      Driven env engine run_id w₁ (n + 1)
        ((engine.execute (depth + 1) run_id).run (exec env) w').2

section driven
variable {env : Env} {engine : Engine} {defn : WorkflowDef} {run_id : String} {context : JsonObj}
  {done rest : List StepState} {gate : StepState} {run : WorkflowRun} {w₁ w w' : World}

/-- **An approval** leaves the gate behind the run, and invokes no handler. -/
theorem approve_straight {d : ApprovalDecision} (hnodup : defn.steps.Nodup)
    (h : Reached env defn run_id context done (gate :: rest) run w)
    (hgate : is_gate gate.step = true) (hwaiting : run.status = .AWAITING_APPROVAL)
    (happroval : Approval env d w w') (hrun : d.run_id = run_id) (hstep : d.step = gate.step) :
    ∃ gate' run', Reached env defn run_id context (done ++ [gate']) rest run' w' ∧
      gate'.step = gate.step ∧ run'.status = .RUNNING ∧
      Went defn run_id context done [gate'] w w' := by
  obtain ⟨w₁, w₂, hcalm, hstatus, hadvance⟩ := happroval.resumes
  rw [hrun] at hstatus hadvance
  rw [hstep] at hadvance
  have hstored₁ : Stored run_id run (done ++ gate :: rest) w₁ :=
    ⟨by rw [hcalm.runs]; exact h.between.stored.run, by rw [hcalm.steps]; exact h.between.stored.rows⟩
  obtain ⟨w₂', run', hstatus', hstored₂, hrestatused, htrace₂, helse₂, hidem₂⟩ :=
    exec_update_run_status env .RUNNING none hstored₁ (by rw [hwaiting]; rfl)
  have hw₂ : w₂' = w₂ := by
    rw [hstatus] at hstatus'
    exact (congrArg Prod.snd hstatus').symm
  rw [hw₂] at hstored₂ htrace₂ helse₂ hidem₂
  have hw' : w' = w₂.tick.with_store
      (w₂.store.advance_gate_step run_id gate.step (env.time w₂.clock)) :=
    (congrArg Prod.snd hadvance).symm
  -- the row of the gate is the only one that changes
  let gate' : StepState := { gate with status := .SUCCEEDED, ended_at := some (env.time w₂.clock) }
  have hstored' : Stored run_id run' (done ++ gate' :: rest) w' := by
    rw [hw']
    have hsteps : w₂.store.advance_gate_step run_id gate.step (env.time w₂.clock) =
        { w₂.store with steps := w₂.store.steps.set run_id (done ++ gate' :: rest) } := by
      unfold RunStore.advance_gate_step
      rw [hstored₂.rows]
      simp only
      rw [advance_row_append _ (h.between.other_names hnodup).1 rfl]
    rw [hsteps]
    exact ⟨hstored₂.run, Dict.get?_set_self _ _ _⟩
  have hok : RowOk run_id gate := h.between.rows.ok gate (by simp)
  have houtput : gate.output = none := (h.between.untried gate List.mem_cons_self).output
  have hidem' : w'.idem = w.idem := by
    rw [hw']
    exact hidem₂.trans hcalm.idem
  obtain ⟨entries, htrace⟩ := hcalm.trace
  refine ⟨gate', run', ⟨?_, ?_, ?_, ?_, ?_⟩, rfl, hrestatused.status, ?_⟩
  · apply h.between.pass hstored' rfl ⟨hok.of_run, hok.key⟩
    · refine ⟨rfl, ?_⟩
      show gate.output.isSome = !is_gate gate.step
      rw [houtput, hgate]
      rfl
    · intro r _
      rw [hidem']
  · exact hrestatused.id.trans h.id
  · exact hrestatused.context.trans h.context
  · have hregistry : w'.registry = w.registry := by
      rw [hw']
      exact helse₂.registry.trans hcalm.registry
    rw [hregistry, hrestatused.workflow]
    exact h.latest
  · have hlock : w'.lock = w.lock := by
      rw [hw']
      exact helse₂.lock.trans hcalm.lock
    rw [hlock]
    exact h.free
  · refine ⟨List.map Event.audited entries, ?_, ?_⟩
    · rw [hw']
      show w₂.trace = _
      rw [htrace₂, htrace]
    · have hnone : application_steps [gate'] = [] := by
        show List.filter _ [gate.step] = []
        rw [List.filter_cons_of_neg (by simp [hgate]), List.filter_nil]
      have hsame : Engine.stored_outputs (done ++ [gate']) = Engine.stored_outputs done := by
        unfold Engine.stored_outputs
        rw [List.foldl_append]
        exact add_output_none houtput
      rw [invocations_of_audited, hnone, hsame]
      exact .nil _

/-- The gates among some rows. -/
def gates_among (rows : List StepState) : Nat := (rows.map StepState.step).countP fun step => is_gate step

theorem gates_among_append (a b : List StepState) :
    gates_among (a ++ b) = gates_among a + gates_among b := by
  unfold gates_among
  rw [List.map_append, List.countP_append]

theorem gates_among_eq_zero {rows : List StepState} :
    gates_among rows = 0 ↔ ∀ row ∈ rows, is_gate row.step = false := by
  unfold gates_among
  simp [List.countP_eq_zero]

/-- **After `n` approvals** the run has gone straight to gate `n + 1`, or to its end. -/
theorem driven_straight {run₁ : WorkflowRun} {rows₁ : List StepState} {n : Nat}
    (hnodup : defn.steps.Nodup) (hreturns : NeverRaise defn defn.steps)
    (hstart : Reached env defn run_id context [] rows₁ run₁ w₁) (hqueued : run₁.status = .QUEUED)
    (h : Driven env engine run_id w₁ n w) :
    ∃ done rest run, Reached env defn run_id context done rest run w ∧ Halts rest ∧
      run.status = stop_status rest ∧ gates_among done = n ∧
      Went defn run_id context [] done w₁ w := by
  induction h with
  | start depth =>
    obtain ⟨done, rest, run, w, hexecute, hreached, -, hplain, hhalts, hstatus, hwent⟩ :=
      execute_straight engine depth hnodup hreturns hstart (Or.inl hqueued)
    rw [hexecute]
    exact ⟨done, rest, run, hreached, hhalts, hstatus, gates_among_eq_zero.mpr hplain, hwent⟩
  | @resume depth n w w' _ happroves ih =>
    obtain ⟨done, rest, run, hreached, hhalts, hstatus, hcount, hwent⟩ := ih
    obtain ⟨args, d, gate, happrove, hresolve, hnext, hrun, hstep⟩ := happroves
    have hrows : w.store.get_steps run_id = done ++ rest := by
      unfold RunStore.get_steps
      rw [hreached.between.stored.rows, Option.getD_some]
    -- the gates behind the run are done, so the next gate is the one the run waits at
    have hbehind : done.find? undone_gate = none := by
      rw [List.find?_eq_none]
      intro row hrow
      simp [undone_gate, (hreached.between.passed row hrow).done]
    rw [hrows, next_gate, List.find?_append, hbehind, Option.none_or] at hnext
    rcases hhalts with rfl | ⟨first, more, rfl, hundone⟩
    · cases hnext
    rw [List.find?_cons_of_pos hundone] at hnext
    obtain rfl : first = gate := Option.some.inj hnext
    have hgate : is_gate first.step = true := by
      simp only [undone_gate, Bool.and_eq_true] at hundone
      exact hundone.1
    have hwaiting : run.status = .AWAITING_APPROVAL := by
      rw [hstatus]
      simp [stop_status, next_gate, hundone]
    obtain ⟨gate', run', hreached', hname, hrunning, hwent'⟩ := approve_straight hnodup hreached
      hgate hwaiting (resolve_gate_approves happrove hresolve) hrun hstep
    obtain ⟨done', rest', run'', w'', hexecute, hreached'', -, hplain, hhalts', hstatus', hwent''⟩ :=
      execute_straight engine depth hnodup hreturns hreached' (Or.inr hrunning)
    rw [hexecute]
    refine ⟨done ++ [gate'] ++ done', rest', run'', hreached'', hhalts', hstatus', ?_, ?_⟩
    · have hone : gates_among [gate'] = 1 := by simp [gates_among, hname, hgate]
      rw [gates_among_append, gates_among_append, hcount, hone, gates_among_eq_zero.mpr hplain]
    · exact (hwent.trans hwent').trans hwent''

/-- A run that was just created has no row behind it. -/
theorem started_reached {args : StartArgs} {w₀ : World}
    (hlatest : get_workflow_latest w₀.registry args.workflow_name = .ok defn)
    (hmiss : args.key.bind w₀.store.dedupe.get? = none)
    (hstart : (start_run args).run (exec env) w₀ = (.ok run, w₁))
    (hfresh : ∀ step ∈ defn.steps, w₀.idem.lookup env.json (run.id ++ ":" ++ step) = none)
    (hfree : (acquire_lock run.id w₀.lock).1 = true) :
    Reached env defn run.id run.context [] (initial_rows run.id 0 defn.steps) run w₁ ∧
      run.status = .QUEUED := by
  have hvalid : defn.validate_context args.context = .ok () := by
    rw [start_run_run, hlatest] at hstart
    cases hvalid : defn.validate_context args.context with
    | ok u => rfl
    | error e =>
      simp only [hvalid] at hstart
      cases hstart
  obtain ⟨w', hstart', hstored, hidem, -, hregistry, hlock⟩ := start_run_creates env args w₀ hlatest
    hvalid hmiss
  rw [hstart] at hstart'
  obtain rfl : run = args.new_run env defn w₀ := Except.ok.inj (congrArg Prod.fst hstart')
  obtain rfl : w₁ = w' := congrArg Prod.snd hstart'
  rw [new_run_id] at hfresh hfree ⊢
  refine ⟨⟨⟨hstored, ⟨initial_rows_steps _ _ _, ?_⟩, ?_, ?_, ?_⟩, rfl, rfl, ?_, ?_⟩, rfl⟩
  · intro row hrow
    obtain ⟨step, seq, rfl⟩ := mem_initial_rows hrow
    exact ⟨rfl, rfl⟩
  · intro row hrow
    cases hrow
  · intro row hrow
    obtain ⟨step, seq, rfl⟩ := mem_initial_rows hrow
    exact ⟨rfl, rfl⟩
  · intro row hrow
    have hstep : row.step ∈ defn.steps := by
      rw [← initial_rows_steps (args.new_id env w₀) 0 defn.steps]
      exact List.mem_map_of_mem hrow
    obtain ⟨step, seq, rfl⟩ := mem_initial_rows hrow
    rw [hidem]
    exact hfresh step hstep
  · rw [hregistry]
    exact hlatest
  · rw [hlock]
    exact hfree

end driven

/-- The application steps of a workflow. -/
def WorkflowDef.application_steps (defn : WorkflowDef) : List String :=
  defn.steps.filter fun step => !is_gate step

/-- **A resumed run goes straight through.** A run of a workflow with distinct step names is
    started and executed, and executed again after the approval of each gate. Its handlers, which
    never raise, are invoked once each and in the declared order, each given the context of the
    run and the outputs of the application steps before it. The run succeeds, and every row has the
    output that its handler returned. Nothing of this depends on where the gates are:
    handlers that look at nothing but what they are given answer as they would without a pause. -/
theorem resumed_run_goes_straight_through (env : Env) (engine : Engine) (args : StartArgs)
    (defn : WorkflowDef) (run : WorkflowRun) (w₀ w₁ w : World)
    (hlatest : get_workflow_latest w₀.registry args.workflow_name = .ok defn)
    (hdistinct : defn.steps.Nodup) (hreturns : NeverRaise defn defn.steps)
    (hmiss : args.key.bind w₀.store.dedupe.get? = none)
    (hstart : (start_run args).run (exec env) w₀ = (.ok run, w₁))
    (hfresh : ∀ step ∈ defn.steps, w₀.idem.lookup env.json (run.id ++ ":" ++ step) = none)
    (hfree : (acquire_lock run.id w₀.lock).1 = true)
    (hdriven : Driven env engine run.id w₁ (defn.steps.countP fun step => is_gate step) w) :
    ∃ new outputs run' rows, w.trace = w₁.trace ++ new ∧
      Straight defn.handlers run.id run.context ∅ defn.application_steps (invocations_of run.id new)
        outputs ∧
      Stored run.id run' rows w ∧ run'.status = .SUCCEEDED ∧
      rows.map StepState.step = defn.steps ∧
      (∀ row ∈ rows, row.status = .SUCCEEDED ∧ (is_gate row.step = false →
        ∃ ctx returned hooks, Event.invoked run.id row.step ctx (.returned returned hooks) ∈ new ∧
          row.output = some (returned.getD []))) ∧
      ((∀ step ∈ defn.application_steps, ∀ handler, defn.handlers step = some handler →
          ∀ trace ctx, handler trace ctx = handler [] ctx) →
        invocations_of run.id new =
          straight_through defn.handlers run.id run.context ∅ defn.application_steps) := by
  obtain ⟨hreached₁, hqueued⟩ := started_reached hlatest hmiss hstart hfresh hfree
  obtain ⟨done, rest, run', hreached, hhalts, hstatus, hcount, new, htrace, hstraight⟩ :=
    driven_straight hdistinct hreturns hreached₁ hqueued hdriven
  have hnames := hreached.between.rows.names
  -- all gates are behind the run, so nothing is left
  have hrest : rest = [] := by
    have hall : gates_among (done ++ rest) = gates_among done := by
      rw [hcount]
      unfold gates_among
      rw [hnames]
    rw [gates_among_append] at hall
    have hnone := gates_among_eq_zero.mp (by omega : gates_among rest = 0)
    rcases hhalts with rfl | ⟨gate, more, rfl, hundone⟩
    · rfl
    · have hnot := hnone gate List.mem_cons_self
      simp [undone_gate, hnot] at hundone
  subst hrest
  rw [List.append_nil] at hnames
  have hstored := hreached.between.stored
  rw [List.append_nil] at hstored
  have hsteps : Orchestrator.application_steps done = defn.application_steps := by
    unfold Orchestrator.application_steps WorkflowDef.application_steps
    rw [hnames]
  rw [hsteps, List.nil_append] at hstraight
  refine ⟨new, Engine.stored_outputs done, run', done, htrace, hstraight, hstored, hstatus, hnames,
    ?_, hstraight.eq_straight_through⟩
  intro row hrow
  have hpassed := hreached.between.passed row hrow
  refine ⟨hpassed.status, fun hplain => ?_⟩
  have happlication : row.step ∈ defn.application_steps := by
    unfold WorkflowDef.application_steps
    rw [List.mem_filter, ← hnames, hplain]
    exact ⟨List.mem_map_of_mem hrow, rfl⟩
  obtain ⟨ctx, returned, hooks, hmem, hget⟩ := hstraight.returned (hdistinct.filter _) happlication
  refine ⟨ctx, returned, hooks, (List.mem_filter.mp hmem).1, ?_⟩
  have hsome : row.output.isSome = true := by
    rw [hpassed.output, hplain]
    rfl
  obtain ⟨output, houtput⟩ := Option.isSome_iff_exists.mp hsome
  have hcollected : (Engine.stored_outputs done).get? row.step = some output :=
    get?_fold (hnames ▸ hdistinct) hrow houtput
  rw [hcollected] at hget
  rw [houtput, hget]

/-- Two steps with a gate between them. -/
def signed_filing : WorkflowDef :=
  plain_workflow ["file", "GATE:sign", "send"] (by decide)
    (fun step _ _ => .returned (some [("step", .str step)]) []) fun _ => none

/-- The run after the first call of `execute`. -/
def filing_waits : World :=
  ((reference_engine.execute 1 "id-0").run (exec reference_env) (queued_run signed_filing)).2

/-- The approval of its gate, with the signature check replaced by its outcome. -/
def filing_approval : Except Exn ApprovalDecision × World :=
  (use_token (resolve_with (first_token filing_waits) .approve "attorney")
    (first_token filing_waits).payload).run (exec reference_env) filing_waits

theorem filing_approves :
    Approves reference_env reference_engine "id-0" filing_waits filing_approval.2 := by
  have hanswer : filing_approval.1.toOption.map (fun d => (d.run_id, d.step)) =
      some ("id-0", "GATE:sign") := by decide +kernel
  have hnext : (next_gate (filing_waits.store.get_steps "id-0")).map (fun row => row.step) =
      some "GATE:sign" := by decide +kernel
  obtain ⟨gate, hgate, hname⟩ := Option.map_eq_some_iff.mp hnext
  obtain ⟨d, hd, hof⟩ := Option.map_eq_some_iff.mp hanswer
  have hok : filing_approval.1 = .ok d := by
    cases h : filing_approval.1 with
    | error e =>
      rw [h] at hd
      cases hd
    | ok d' =>
      rw [h] at hd
      rw [Option.some.inj hd]
  refine ⟨resolve_with (first_token filing_waits) .approve "attorney", d, gate, rfl, ?_, hgate,
    congrArg Prod.fst hof, (congrArg Prod.snd hof).trans hname.symm⟩
  show (resolve_gate reference_crypto _).run _ _ = _
  rw [resolve_gate_with]
  exact Prod.ext hok rfl

/-- A run with a gate between two steps is one such run. -/
theorem signed_filing_goes_straight_through : ∃ w new,
    Driven reference_env reference_engine "id-0" (queued_run signed_filing) 1 w ∧
      w.trace = (queued_run signed_filing).trace ++ new ∧
      invocations_of "id-0" new =
        straight_through signed_filing.handlers "id-0" [] ∅ ["file", "send"] := by
  have hdriven : Driven reference_env reference_engine "id-0" (queued_run signed_filing) 1 _ :=
    .resume 0 (.start 0) filing_approves
  let w₀ := World.fresh (.in_memory ∅) none (singleton_registry signed_filing)
  have hlatest : get_workflow_latest w₀.registry plain_start.workflow_name = .ok signed_filing :=
    latest_singleton signed_filing
  have hcreated := start_run_creates reference_env plain_start w₀ hlatest rfl rfl
  obtain ⟨w₁, hstart, -⟩ := hcreated
  have hqueued : queued_run signed_filing = w₁ := by
    show ((start_run plain_start).discard.run (exec reference_env) w₀).2 = w₁
    unfold Program.discard
    rw [run_bind_ok hstart]
    rfl
  have hid : (plain_start.new_run reference_env signed_filing w₀).id = "id-0" := by decide
  have hanswers : ∀ step handler, signed_filing.handlers step = some handler → ∀ trace ctx,
      handler trace ctx = .returned (some [("step", .str step)]) [] := by
    intro step handler hhandler trace ctx
    change (if is_gate step = true then none else some _) = _ at hhandler
    split at hhandler
    · cases hhandler
    · cases hhandler
      rfl
  have hreturns : NeverRaise signed_filing signed_filing.steps :=
    fun step _ handler hhandler trace ctx => ⟨_, _, hanswers step handler hhandler trace ctx⟩
  rw [← hid] at hdriven ⊢
  rw [hqueued] at hdriven ⊢
  obtain ⟨new, -, -, -, htrace, -, -, -, -, -, hsame⟩ := resumed_run_goes_straight_through
    reference_env reference_engine plain_start signed_filing _ w₀ w₁ _ hlatest (by decide) hreturns
    rfl hstart (fun _ _ => rfl) rfl hdriven
  refine ⟨_, new, hdriven, htrace, hsame ?_⟩
  intro step _ handler hhandler trace ctx
  rw [hanswers step handler hhandler, hanswers step handler hhandler]

end CaseAutomation.Orchestrator
