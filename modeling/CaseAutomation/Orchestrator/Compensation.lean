import CaseAutomation.Orchestrator.StoppedRuns

/-! # Compensation

    A step registers hooks that undo its effect. When a later step fails for good, the
    run parks and the hooks are called, the last registered first. The list of
    hooks is a local of one execution pass, while gates, crashes and re-drives split a run
    into many. So the hooks of the whole run are called exactly when none was left over from
    an earlier pass.

    What is outstanding is read off the trace of effects: a hook is registered when the output
    of its step is recorded, and settled when it is called.
-/

namespace CaseAutomation.Orchestrator

open Framework Program Filing

/-! ## Outstanding hooks -/

/-- The hooks of the handlers that returned, by idempotency key, and those registered but not
    called yet, the last registered first. -/
structure HookState where
  returned : String → List Compensation
  outstanding : List Compensation

/-- What one event does to the hooks of a run. -/
def HookState.note (run_id : String) (s : HookState) : Event → HookState
  | .invoked id _ ctx (.returned _ hooks) =>
    if id = run_id then
      { s with returned := fun key => if key = ctx.idem_key then hooks else s.returned key }
    else s
  | .recorded key _ =>
    -- `compensations.extend` comes right after the record
    ⟨fun k => if k = key then [] else s.returned k, (s.returned key).reverse ++ s.outstanding⟩
  | .compensated id fn =>
    if id = run_id then { s with outstanding := s.outstanding.erase fn } else s
  | _ => s

/-- The hooks of a run after some events. -/
def hook_state (run_id : String) (trace : List Event) : HookState :=
  trace.foldl (HookState.note run_id) ⟨fun _ => [], []⟩

/-- The hooks of a run that its succeeded steps have registered and that have not been called
    yet, the last registered first. -/
def outstanding (run_id : String) (trace : List Event) : List Compensation :=
  (hook_state run_id trace).outstanding

/-- The hooks of a run that were called, in order. -/
def compensated (run_id : String) (events : List Event) : List Compensation :=
  events.filterMap fun
    | .compensated id fn => if id = run_id then some fn else none
    | _ => none

/-- The event is not a call of a hook. -/
def Event.keeps_hooks : Event → Bool
  | .compensated _ _ => false
  | _ => true

/-- The call of `execute` calls every hook that was outstanding when the step failed, once and
    the last registered first. -/
def CompensatesAll (env : Env) (engine : Engine) (depth : Nat) (run_id : String) (w : World) :
    Prop :=
  compensated run_id (pass_events env engine depth run_id w) =
    outstanding run_id (w.trace ++ (pass_events env engine depth run_id w).filter
      Event.keeps_hooks)

/-- The call of `execute` parks the run. -/
def Parks (env : Env) (engine : Engine) (depth : Nat) (run_id : String) (w : World) : Prop :=
  ∃ run run', w.store.runs.get? run_id = some run ∧ run.status ≠ .PARKED ∧
    ((engine.execute depth run_id).run (exec env) w).2.store.runs.get? run_id = some run' ∧
    run'.status = .PARKED

/-! ## Hooks of one row -/

section events
variable (run_id : String) (s : HookState)

theorem note_audited (entries : List AuditEntry) :
    (List.map Event.audited entries).foldl (HookState.note run_id) s = s := by
  induction entries with
  | nil => rfl
  | cons entry rest ih => exact ih

theorem filter_audited (entries : List AuditEntry) :
    (List.map Event.audited entries).filter Event.keeps_hooks =
      List.map Event.audited entries := by
  induction entries with
  | nil => rfl
  | cons entry rest ih => rw [List.map_cons, List.filter_cons_of_pos rfl, ih]

theorem compensated_audited (entries : List AuditEntry) :
    compensated run_id (List.map Event.audited entries) = [] := by
  induction entries with
  | nil => rfl
  | cons entry rest ih => exact ih

theorem compensated_hooks (fns : List Compensation) :
    compensated run_id (fns.map (.compensated run_id)) = fns := by
  induction fns with
  | nil => rfl
  | cons fn rest ih =>
    unfold compensated at ih ⊢
    simp only [List.map_cons, List.filterMap_cons, if_pos, ih]

theorem filter_hooks (fns : List Compensation) :
    (fns.map (Event.compensated run_id)).filter Event.keeps_hooks = [] := by
  induction fns with
  | nil => rfl
  | cons fn rest ih => rw [List.map_cons, List.filter_cons_of_neg (by simp [Event.keeps_hooks]), ih]

theorem compensated_append (a b : List Event) :
    compensated run_id (a ++ b) = compensated run_id a ++ compensated run_id b := by
  unfold compensated
  rw [List.filterMap_append]

end events

/-- What a stretch of a pass does to the hooks: `called` are called, `registered` are registered. -/
structure HookEffect (run_id : String) (new : List Event) (called registered : List Compensation) :
    Prop where
  called : compensated run_id new = called
  registered : ∀ s, ((new.filter Event.keeps_hooks).foldl (HookState.note run_id) s).outstanding =
    registered.reverse ++ s.outstanding

/-- The hooks of a step that succeeds are registered. -/
theorem return_events_hooks (P : Pass) (row : StepState) (outputs : Dict String JsonObj)
    (returned : Option JsonObj) (hooks : List Compensation) :
    HookEffect P.run_id (.step_updated P.run_id row.step .RUNNING ::
      P.return_events row (P.context outputs row) returned hooks) [] hooks := by
  obtain ⟨entries, hentries⟩ := Engine.audit_events_eq P.engine "step.succeeded" P.run_id
    [("step", .str row.step)] (returned.getD [])
  unfold Pass.return_events
  rw [hentries]
  constructor
  · show compensated P.run_id (List.map Event.audited entries) = []
    exact compensated_audited P.run_id entries
  · intro s
    simp only [List.cons_append, List.nil_append]
    rw [List.filter_cons_of_pos rfl, List.filter_cons_of_pos rfl, List.filter_cons_of_pos rfl,
      List.filter_cons_of_pos rfl, filter_audited]
    simp only [List.foldl_cons, HookState.note, Pass.context, if_true]
    rw [note_audited]

/-- Stretches follow one another. -/
theorem HookEffect.append {run_id : String} {a b : List Event} {c c' r r' : List Compensation}
    (h : HookEffect run_id a c r) (h' : HookEffect run_id b c' r') :
    HookEffect run_id (a ++ b) (c ++ c') (r ++ r') := by
  constructor
  · rw [compensated_append, h.called, h'.called]
  · intro s
    rw [List.filter_append, List.foldl_append, h'.registered, h.registered, List.reverse_append,
      List.append_assoc]

/-- The hooks are called where the run parks. -/
theorem park_events_hooks (run_id step : String) (ctx : StepContext) (exn : Exn)
    (fns : List Compensation) (entries : List AuditEntry) :
    HookEffect run_id ([.step_updated run_id step .RUNNING, .invoked run_id step ctx (.raised exn)] ++
      (.step_updated run_id step .FAILED ::
        (fns.map (.compensated run_id) ++ List.map Event.audited entries))) fns [] := by
  constructor
  · show compensated run_id (fns.map (.compensated run_id) ++ List.map Event.audited entries) = fns
    rw [compensated_append, compensated_hooks, compensated_audited, List.append_nil]
  · intro s
    have hfilter : (fns.map (Event.compensated run_id) ++ List.map Event.audited entries).filter
        Event.keeps_hooks = List.map Event.audited entries := by
      rw [List.filter_append, filter_hooks, filter_audited, List.nil_append]
    simp only [List.cons_append, List.nil_append]
    rw [List.filter_cons_of_pos rfl, List.filter_cons_of_pos rfl, List.filter_cons_of_pos rfl,
      hfilter]
    simp only [List.foldl_cons, HookState.note]
    rw [note_audited]
    rfl

/-! ## Hooks of one pass -/

section pass
variable {env : Env} {P : Pass}

/-- The run is parked in this world. -/
def Parked (run_id : String) (w : World) : Prop :=
  ∃ run, w.store.runs.get? run_id = some run ∧ run.status = .PARKED

theorem not_parked {run_id : String} {run : WorkflowRun} {w : World}
    (hrun : w.store.runs.get? run_id = some run) (hstatus : run.status ≠ .PARKED) :
    ¬ Parked run_id w := by
  rintro ⟨run', hrun', hparked⟩
  rw [hrun] at hrun'
  obtain rfl := Option.some.inj hrun'
  exact hstatus hparked

/-- The `except` block calls all hooks if it parks the run. -/
theorem fail_step_hooks (row : StepState) {pre post : List StepState} {run : WorkflowRun}
    {w : World} (compensations : List Compensation) (exn : Exn) (hrunning : row.status = .RUNNING)
    (hof : row.run_id = P.run_id) (hstored : Stored P.run_id run (pre ++ row :: post) w)
    (hpre : ∀ r ∈ pre, r.step ≠ row.step) (hstatus : run.status ≠ .PARKED)
    (hparked : Parked P.run_id
      ((P.engine.fail_step P.again P.run_id row compensations exn).run (exec env) w).2) :
    ∃ entries, ((P.engine.fail_step P.again P.run_id row compensations exn).run (exec env) w).2.trace =
      w.trace ++ (.step_updated P.run_id row.step .FAILED ::
        (compensations.reverse.map (.compensated P.run_id) ++ List.map Event.audited entries)) := by
  by_cases hretry : ((classify_error exn row.attempt).retryable &&
      decide (row.attempt + 1 < MAX_ATTEMPTS)) = true
  · -- the retry is refused, and the run stays where it was
    obtain ⟨hretryable, hattempt⟩ := Bool.and_eq_true_iff.mp hretry
    obtain ⟨e, w', row', hfail, hhandled, -, -⟩ := Pass.fail_step_refused env P compensations
      hrunning hof hstored hpre hretryable (of_decide_eq_true hattempt)
    rw [hfail] at hparked
    exact absurd hparked (not_parked hhandled.stored.run hstatus)
  have hfatal := Bool.eq_false_iff.mpr hretry
  by_cases hrun : run.status = .RUNNING
  · obtain ⟨w', run', row', entries, hfail, -, -, htrace⟩ := Pass.fail_step_parks env P
      compensations hrunning hof hstored hpre hfatal hrun
    rw [hfail]
    exact ⟨entries, htrace⟩
  · obtain ⟨e, w', hfail, hsame⟩ := Pass.fail_step_unparked env P compensations hrunning hof
      hstored hpre hfatal hrun
    rw [hfail] at hparked
    exact absurd hparked (not_parked hsame hstatus)

/-- **A pass that parks the run** calls the hooks it was given and those it registered, and no
    others. The induction is over the rows left; `compensations` are the hooks so far. -/
theorem loop_hooks (hid : P.run.id = P.run_id) (rest : List StepState) :
    ∀ (outputs : Dict String JsonObj) (compensations : List Compensation) (run : WorkflowRun)
      (stored : List StepState) (w : World), Stored P.run_id run stored w →
      stored.map StepState.step = P.defn.steps →
      (∀ r ∈ rest, r.step ∈ P.defn.steps ∧ r.run_id = P.run_id) → run.status ≠ .PARKED →
      Parked P.run_id ((P.loop rest outputs compensations).run (exec env) w).2 →
      ∃ new registered, ((P.loop rest outputs compensations).run (exec env) w).2.trace =
          w.trace ++ new ∧
        HookEffect P.run_id new (compensations ++ registered).reverse registered := by
  induction rest with
  | nil =>
    intro outputs compensations run stored w hstored _ _ hstatus hparked
    exfalso
    by_cases hrunning : run.status = .RUNNING
    · obtain ⟨w', run', hloop, hstored', hsucceeded, -⟩ := Pass.loop_end env P outputs
        compensations hstored hrunning
      rw [hloop] at hparked
      refine not_parked hstored'.run ?_ hparked
      rw [hsucceeded.status]
      intro h
      cases h
    · obtain ⟨e, hloop⟩ := Pass.loop_end_refused env P outputs compensations hstored hrunning
      rw [hloop] at hparked
      exact not_parked hstored.run hstatus hparked
  | cons row rest ih =>
    intro outputs compensations run stored w hstored hnames hrest hstatus hparked
    obtain ⟨hdeclared, hof⟩ := hrest row List.mem_cons_self
    have hrest' : ∀ r ∈ rest, r.step ∈ P.defn.steps ∧ r.run_id = P.run_id :=
      fun r hr => hrest r (List.mem_cons_of_mem _ hr)
    by_cases hdone' : Engine.step_done row.status = true
    · rw [Pass.loop_skip P rest outputs compensations hdone'] at hparked ⊢
      exact ih _ _ run stored w hstored hnames hrest' hstatus hparked
    have hdone := Bool.eq_false_iff.mpr hdone'
    by_cases hgate' : is_gate row.step = true
    · -- a gate stops the run but does not park it
      exfalso
      by_cases hrunning : run.status = .RUNNING
      · obtain ⟨w', run', entries, hloop, hstored', hwaiting, -⟩ := Pass.loop_gate env P rest
          outputs compensations hdone hgate' hid hstored hrunning
        rw [hloop] at hparked
        refine not_parked hstored'.run ?_ hparked
        rw [hwaiting.status]
        intro h
        cases h
      · obtain ⟨e, w', hloop, hopened⟩ := Pass.loop_gate_refused env P rest outputs compensations
          hdone hgate' hid hstored hrunning
        rw [hloop] at hparked
        exact not_parked (hopened.keeps hstored).run hstatus hparked
    have hgate := Bool.eq_false_iff.mpr hgate'
    cases hlookup : w.idem.lookup env.json row.idem_key with
    | some existing =>
      obtain ⟨w', run', hloop, hhandled, -⟩ := Pass.loop_hit env P rest outputs compensations
        hdone hgate hlookup hstored
      rw [hloop] at hparked ⊢
      have htrace : w'.trace = w.trace := by rw [hhandled.trace, List.append_nil]
      rw [← htrace]
      exact ih _ _ run' stored w' hhandled.stored hnames hrest' (hhandled.same.status ▸ hstatus)
        hparked
    | none =>
      obtain ⟨pre, held, post, hsplit, hpre, hname, hlegal⟩ := find_named (hnames ▸ hdeclared)
      rw [hsplit] at hstored hnames
      by_cases hstart' : is_legal_step_transition held.status .RUNNING = true
      · obtain ⟨handler, hhandler⟩ := Option.isSome_iff_exists.mp
          (P.defn.handlers_total row.step hdeclared hgate)
        cases hresult : handler (w.trace ++ [.step_updated P.run_id row.step .RUNNING])
            (P.context outputs row) with
        | returned returned hooks =>
          obtain ⟨w', run', row', hloop, hhandled, hcompleted, -⟩ := Pass.loop_success env P rest
            outputs compensations hdone hgate hlookup hof hstored hpre hname hstart' hhandler
            hresult
          rw [hloop] at hparked ⊢
          have hnames' : (pre ++ row' :: post).map StepState.step = P.defn.steps := by
            rw [← hnames]
            simp [hcompleted.step, hname]
          obtain ⟨new, registered, htrace, heffect⟩ := ih _ _ run' _ w' hhandled.stored hnames'
            hrest' (hhandled.same.status ▸ hstatus) hparked
          have hrow := return_events_hooks P row outputs returned hooks
          refine ⟨(.step_updated P.run_id row.step .RUNNING ::
            P.return_events row (P.context outputs row) returned hooks) ++ new,
            hooks ++ registered, ?_, ?_⟩
          · rw [htrace, hhandled.trace, List.append_assoc]
          · have happend := hrow.append heffect
            rw [List.nil_append, List.append_assoc] at happend
            exact happend
        | raised exn =>
          obtain ⟨w', now, hloop, hhandled⟩ := Pass.loop_raise env P rest outputs compensations
            hdone hgate hlookup hof hstored hpre hname hstart' hhandler hresult
          rw [hloop] at hparked ⊢
          obtain ⟨entries, htrace⟩ := fail_step_hooks (Engine.running_row row now) compensations
            exn rfl hof hhandled.stored hpre hstatus hparked
          have heffect := park_events_hooks P.run_id row.step (P.context outputs row) exn
            compensations.reverse entries
          rw [hhandled.trace, List.append_assoc] at htrace
          have hall : (compensations ++ []).reverse = compensations.reverse := by
            rw [List.append_nil]
          exact ⟨_, [], htrace, hall ▸ heffect⟩
      · -- the table refuses to start the row
        obtain ⟨e, hloop⟩ := Pass.loop_stuck env P rest outputs compensations hdone hgate hlookup
          hof hstored hpre hname (Bool.eq_false_iff.mpr hstart')
        rw [hloop] at hparked
        exact absurd hparked (not_parked hstored.run hstatus)

end pass

/-! ## Hooks of the whole run -/

section run
variable {env : Env} {engine : Engine} {registry : Registry} {run_id : String} {w : World}

/-- **A parking pass calls its own hooks.** What `execute` calls are the hooks that this call
    of `execute` registered. -/
theorem parks_hooks (hfiled : Filed env w) (depth : Nat)
    (hparks : Parks env engine (depth + 1) run_id w) :
    ∃ registered, HookEffect run_id (pass_events env engine (depth + 1) run_id w)
      registered.reverse registered := by
  obtain ⟨run, last, hrun, hbefore, hlast, hparked⟩ := hparks
  obtain ⟨defn, rows, hdefn, hknown⟩ := known_of_filed hfiled hrun
  by_cases hfree : (acquire_lock run_id w.lock).1 = true
  · obtain ⟨w', run', hbegun, hexecute⟩ := Engine.execute_run env engine depth hfree hknown.stored
      hdefn
    let P : Pass := ⟨engine, engine.execute depth run_id, run', defn, run_id⟩
    have hloop := hexecute _ _ rfl
    rw [hloop] at hlast
    have hstatus : run'.status ≠ .PARKED := by
      rw [hbegun.status]
      split
      · intro h
        cases h
      · exact hbefore
    have hrows : ∀ r ∈ rows, r.step ∈ defn.steps ∧ r.run_id = run_id := by
      intro r hr
      refine ⟨?_, (hknown.rows.ok r hr).of_run⟩
      rw [← hknown.rows.names]
      exact List.mem_map_of_mem hr
    obtain ⟨new, registered, htrace, heffect⟩ := loop_hooks (P := P)
      (hbegun.id.trans hknown.id) rows (Engine.stored_outputs rows) [] run' rows w' hbegun.stored
      hknown.rows.names hrows hstatus ⟨last, hlast, hparked⟩
    refine ⟨registered, ?_⟩
    have hnew : pass_events env engine (depth + 1) run_id w = new := by
      unfold pass_events
      rw [hloop]
      show List.drop _ ((P.loop rows _ []).run (exec env) w').2.trace = new
      rw [htrace, hbegun.trace]
      exact List.drop_left
    rw [hnew]
    exact heffect
  · -- another worker has the run, and nothing changes
    rw [Engine.execute_held env engine depth (Bool.eq_false_iff.mpr hfree)] at hlast
    exact absurd ⟨last, hlast, hparked⟩ (not_parked hknown.stored.run hbefore)

/-- **Compensation is complete exactly when nothing was left over.** After any history, a call of
    `execute` that parks a run calls every outstanding hook of the run, the last registered first,
    if and only if no hook was outstanding when the call was made. -/
theorem parking_compensates_all_iff {ts : List (M Unit)}
    (hreach : History env engine registry w ts) (depth : Nat)
    (hparks : Parks env engine (depth + 1) run_id w) :
    CompensatesAll env engine (depth + 1) run_id w ↔ outstanding run_id w.trace = [] := by
  obtain ⟨registered, heffect⟩ := parks_hooks hreach.filed depth hparks
  have hall : outstanding run_id (w.trace ++
      (pass_events env engine (depth + 1) run_id w).filter Event.keeps_hooks) =
      registered.reverse ++ outstanding run_id w.trace := by
    unfold outstanding hook_state
    rw [List.foldl_append, heffect.registered]
  unfold CompensatesAll
  rw [hall, heffect.called]
  exact List.self_eq_append_right

end run

/-! ## Filing and sending

    The step `file` registers a hook that takes the filing back, and `send` fails. With a
    gate between the two the hook is lost. -/

section filing

def unfile : Compensation := ⟨"unfile", none⟩

def filing_workflow (steps : List String) (hsteps : steps ≠ []) : WorkflowDef :=
  plain_workflow steps hsteps
    (fun step _ _ =>
      if step = "send" then .raised (.value_error "no address") else .returned none [unfile])
    fun _ => none

def reviewed_filing : WorkflowDef := filing_workflow ["file", "GATE:review", "send"] (by decide)

theorem file_send_ne_nil : ["file", "send"] ≠ ([] : List String) := by decide

def direct_filing : WorkflowDef := filing_workflow ["file", "send"] file_send_ne_nil

theorem parks_of_status {w : World} (depth : Nat) {status : RunStatus}
    (hbefore : status_of w = some status) (hnot : status ≠ .PARKED)
    (hafter : status_of ((reference_engine.execute depth "id-0").run (exec reference_env) w).2 =
      some .PARKED) : Parks reference_env reference_engine depth "id-0" w := by
  obtain ⟨run, hrun, hstatus⟩ := Option.map_eq_some_iff.mp hbefore
  obtain ⟨run', hrun', hparked⟩ := Option.map_eq_some_iff.mp hafter
  exact ⟨run, run', hrun, hstatus ▸ hnot, hrun', hparked⟩

/-- The reviewed filing, filed and approved. -/
def filing_approved : World :=
  ((queued_run reviewed_filing).serve reference_env reference_engine
    (.execute 1 "id-0")).approve_first

/-- **A hook registered before a gate is not called** when the run parks after it. -/
theorem filing_not_taken_back :
    ∃ w ts, Interleaved reference_env reference_engine (singleton_registry reviewed_filing) "plain"
      w ts ∧ Parks reference_env reference_engine 1 "id-0" w ∧
      outstanding "id-0" w.trace = [unfile] ∧
      compensated "id-0" (pass_events reference_env reference_engine 1 "id-0" w) = [] ∧
      ¬ CompensatesAll reference_env reference_engine 1 "id-0" w := by
  obtain ⟨ts₁, h₁⟩ := queued_run_reachable reviewed_filing
  obtain ⟨ts₂, h₂⟩ := h₁.serve (.execute 1 "id-0")
  obtain ⟨ts₃, h₃⟩ := h₂.approve_first (by decide +kernel)
  have hcalled : compensated "id-0" (pass_events reference_env reference_engine 1 "id-0"
      filing_approved) = [] := by decide +kernel
  refine ⟨filing_approved, ts₃, h₃, ?_, by decide +kernel, hcalled, ?_⟩
  · have hrunning : status_of filing_approved = some .RUNNING := by decide +kernel
    exact parks_of_status 1 hrunning (by decide) (by decide +kernel)
  · intro hall
    unfold CompensatesAll at hall
    rw [hcalled] at hall
    exact absurd hall (by decide +kernel)

/-- The equivalence at work: without the gate the filing is taken back. -/
theorem direct_filing_taken_back :
    CompensatesAll reference_env reference_engine 1 "id-0" (queued_run direct_filing) := by
  obtain ⟨ts, hreach⟩ := queued_run_reachable direct_filing
  have hqueued : status_of (queued_run direct_filing) = some .QUEUED := by decide +kernel
  have hparks := parks_of_status 1 hqueued (by decide) (by decide +kernel)
  exact (parking_compensates_all_iff (interleaved_history hreach) 0 hparks).2 (by decide +kernel)

end filing

end CaseAutomation.Orchestrator
