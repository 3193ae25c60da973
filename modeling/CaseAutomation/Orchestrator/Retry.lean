import CaseAutomation.Orchestrator.Progress
import CaseAutomation.Orchestrator.Starts

/-! # Retries

    A handler that raises a retryable error is meant to be invoked again by the same call
    of `execute`, up to `MAX_ATTEMPTS` times. The row is first marked `FAILED` and then has to
    be reset to `PENDING`, which the table of step transitions never allows. So
    the law of retries holds of handlers that do not raise, and of no others.
-/

namespace CaseAutomation.Orchestrator

open Framework Program

/-! ## The law -/

/-- The handler of the step raises a retryable connector error on its first `k` invocations for
    a run, and returns from then on. -/
def FailsFirst (defn : WorkflowDef) (step : String) (k : Nat) : Prop :=
  ∀ handler, defn.handlers step = some handler → ∀ trace ctx,
    if invoked_count ctx.run_id step trace < k then
      ∃ cls source detail, cls.retryable = true ∧
        handler trace ctx = .raised (.connector cls source detail)
    else ∃ returned hooks, handler trace ctx = .returned returned hooks

/-- The law of retries for one call of `execute`. -/
structure RetryLaw (env : Env) (engine : Engine) (depth : Nat) (run_id step : String) (k : Nat)
    (w : World) : Prop where
  returns : ∃ run, ((engine.execute depth run_id).run (exec env) w).1 = .ok run
  /-- Fewer than `MAX_ATTEMPTS` failures: one more invocation, and the run goes on until it has
      succeeded or waits at a gate. -/
  retries : k < MAX_ATTEMPTS →
    invoked_count run_id step (pass_events env engine depth run_id w) = k + 1 ∧
      ∃ run, ((engine.execute depth run_id).run (exec env) w).2.store.runs.get? run_id = some run ∧
        (run.status = .SUCCEEDED ∨ run.status = .AWAITING_APPROVAL)
  /-- Otherwise the run is parked after `MAX_ATTEMPTS` invocations. -/
  gives_up : MAX_ATTEMPTS ≤ k →
    invoked_count run_id step (pass_events env engine depth run_id w) = MAX_ATTEMPTS ∧
      ∃ run, ((engine.execute depth run_id).run (exec env) w).2.store.runs.get? run_id = some run ∧
        run.status = .PARKED
  /-- The run is not left running with the step unfinished. -/
  finishes : ¬ ∃ run rows,
    Stored run_id run rows ((engine.execute depth run_id).run (exec env) w).2 ∧
      run.status = .RUNNING ∧ ∃ row ∈ rows, row.step = step ∧
        Engine.step_done row.status = false

/-- A call of `execute` is about to reach this step for the first time: nobody else has
    the run, no gate is in the way, no other row stops the pass. -/
structure Reaches (env : Env) (defn : WorkflowDef) (run_id step : String) (run : WorkflowRun)
    (rows : List StepState) (w : World) : Prop where
  stored : Stored run_id run rows w
  rows_ok : RowsOk defn run_id rows
  id : run.id = run_id
  latest : get_workflow_latest w.registry run.workflow = .ok defn
  status : run.status = .QUEUED ∨ run.status = .RUNNING
  unlocked : (acquire_lock run_id w.lock).1 = true
  application : is_gate step = false
  target : ∃ row ∈ ahead rows, row.step = step
  pending : ∀ row ∈ rows, row.step = step → row.status = .PENDING ∧ row.attempt = 0
  unrecorded : w.idem.lookup env.json (run_id ++ ":" ++ step) = none
  not_invoked : invoked_count run_id step w.trace = 0
  unstuck : ∀ row ∈ ahead rows, stuck env rows w row = false

section law
variable {env : Env} {engine : Engine} {defn : WorkflowDef} {run_id step : String}
  {run : WorkflowRun} {rows : List StepState} {w : World}

/-- The row of the step, the rows before it, and the rest. -/
theorem Reaches.split (h : Reaches env defn run_id step run rows w) :
    ∃ before row after rest, rows = before ++ row :: (after ++ rest) ∧
      ahead rows = before ++ row :: after ∧ Halts rest ∧ (∀ r ∈ before, r.step ≠ step) ∧
      row.step = step ∧ row.status = .PENDING ∧ row.attempt = 0 ∧ startable rows step = true := by
  obtain ⟨target, htarget, hname⟩ := h.target
  obtain ⟨before, row, after, hahead, hbefore, hrow, -⟩ :=
    find_named (hname ▸ List.mem_map_of_mem htarget : step ∈ (ahead rows).map StepState.step)
  obtain ⟨rest, hrows, hhalts⟩ := ahead_split rows
  have hsplit : rows = before ++ row :: (after ++ rest) := by
    rw [hahead] at hrows
    simpa using hrows
  have hmem : row ∈ rows := by
    rw [hsplit]
    exact List.mem_append_right _ List.mem_cons_self
  obtain ⟨hstatus, hattempt⟩ := h.pending row hmem hrow
  refine ⟨before, row, after, rest, hsplit, hahead, hhalts, hbefore, hrow, hstatus, hattempt, ?_⟩
  obtain ⟨pre, held, post, hheld, -, hheldname, hstart⟩ :=
    find_named (hrow ▸ List.mem_map_of_mem hmem : step ∈ rows.map StepState.step)
  have hheldmem : held ∈ rows := by
    rw [hheld]
    exact List.mem_append_right _ List.mem_cons_self
  rw [hstart, (h.pending held hheldmem hheldname).1]
  rfl

/-- The workflow's other handlers do not raise. -/
theorem neverRaise_of_ne {names : List String}
    (hothers : NeverRaise defn (defn.steps.filter fun name => name ≠ step))
    (hdeclared : ∀ name ∈ names, name ∈ defn.steps) (hne : ∀ name ∈ names, name ≠ step) :
    NeverRaise defn names := by
  intro name hname
  apply hothers
  rw [List.mem_filter]
  exact ⟨hdeclared name hname, by simpa using hne name hname⟩

/-- A handler that raises a retryable error at its first attempt ends the pass with an exception: the
    row is marked failed, and the table refuses to reset it. -/
theorem first_failure_raises {P : Pass} {row : StepState} {stored : List StepState} {handler : Handler}
    (rest : List StepState) (outputs : Dict String JsonObj) (compensations : List Compensation)
    (hundone : Engine.step_done row.status = false) (hplain : is_gate row.step = false)
    (hmiss : w.idem.lookup env.json row.idem_key = none) (hattempt : row.attempt = 0)
    (hrow : RowOk P.run_id row) (hdeclared : row.step ∈ P.defn.steps)
    (hstored : Stored P.run_id run stored w) (hrows : RowsOk P.defn P.run_id stored)
    (hstart : startable stored row.step = true) (hhandler : P.defn.handlers row.step = some handler)
    (hraises : ∃ cls source detail, cls.retryable = true ∧
      handler (w.trace ++ [.step_updated P.run_id row.step .RUNNING]) (P.context outputs row) =
        .raised (.connector cls source detail)) :
    ∃ e w', (P.loop (row :: rest) outputs compensations).run (exec env) w = (.error e, w') := by
  obtain ⟨cls, source, detail, hretryable, hraises⟩ := hraises
  obtain ⟨pre, held, post, hsplit, hpre, hheld, hlegal⟩ := find_named (hrows.names ▸ hdeclared)
  rw [hsplit] at hstored
  obtain ⟨w₁, now, hraised, hhandled⟩ := Pass.loop_raise env P rest outputs compensations
    hundone hplain hmiss hrow.of_run hstored hpre hheld (hlegal ▸ hstart) hhandler hraises
  let running := Engine.running_row row now
  have hrunning : running.status = .RUNNING := rfl
  have hretry : (classify_error (.connector cls source detail) running.attempt).retryable = true :=
    hretryable
  have hfirst : running.attempt + 1 < MAX_ATTEMPTS := by
    rw [show running.attempt = 0 from hattempt]
    decide
  obtain ⟨e, w', row', hfail, -⟩ := Pass.fail_step_refused env P compensations hrunning hrow.of_run
    hhandled.stored hpre hretry hfirst
  exact ⟨e, w', hraised.trans hfail⟩

/-- A handler that raises at least once makes `execute` raise. -/
theorem execute_raises_of_failure (engine : Engine) (h : Reaches env defn run_id step run rows w) {k : Nat}
    (hk : 0 < k) (hfails : FailsFirst defn step k)
    (hothers : NeverRaise defn (defn.steps.filter fun name => name ≠ step)) (depth : Nat) :
    ∃ e w', (engine.execute (depth + 1) run_id).run (exec env) w = (.error e, w') := by
  obtain ⟨before, row, after, rest, hsplit, hahead, -, hbefore, hname, hstatus, hattempt, hstart⟩ :=
    h.split
  obtain ⟨w₁, run₁, hbegun, hexecute⟩ := Engine.execute_run env engine depth h.unlocked h.stored
    h.latest
  have htrace : w₁.trace = w.trace := hbegun.trace
  have hidem : w₁.idem = w.idem := hbegun.idem
  let P : Pass := ⟨engine, engine.execute depth run_id, run₁, defn, run_id⟩
  suffices hloop : ∃ e w', (P.loop rows (Engine.stored_outputs rows) []).run (exec env) w₁ =
      (.error e, w') by
    obtain ⟨e, w', hloop⟩ := hloop
    exact ⟨e, _, hexecute _ _ hloop⟩
  have hrows : RowsOk P.defn P.run_id rows := h.rows_ok
  have hremaining : Remaining P (before ++ row :: (after ++ rest)) := hsplit ▸ Remaining.all hrows
  have hnames : ∀ name ∈ before.map StepState.step, name ≠ step := by
    intro name hmem
    obtain ⟨r, hr, rfl⟩ := List.mem_map.mp hmem
    exact hbefore r hr
  have hreturns : NeverRaise P.defn (before.map StepState.step) :=
    neverRaise_of_ne hothers (fun _ hmem => hremaining.left.names.subset hmem) hnames
  have hgates : ∀ r ∈ before, undone_gate r = false := by
    intro r hr
    have hin : r ∈ ahead rows := by
      rw [hahead]
      exact List.mem_append_left _ hr
    exact (mem_ahead hin).2
  obtain ⟨run₂, stored₂, new, w₂, hadvanced, hend⟩ := loop_rows env before
    (row :: (after ++ rest)) (Engine.stored_outputs rows) [] hremaining.left hgates hreturns
    hbegun.stored hrows
  rw [← hsplit] at hend
  rcases hend with ⟨-, e, hloop⟩ | ⟨-, -, outputs, compensations, hloop⟩
  · exact ⟨e, _, hloop⟩
  -- the pass has reached the step, which is as it was when the pass started
  have hstepname : row.step ∉ (undone before).map StepState.step := by
    intro hmem
    obtain ⟨r, hr, hsame⟩ := List.mem_map.mp hmem
    exact hbefore r (mem_undone.mp hr).1 (hsame.trans hname)
  have hmem : row ∈ before ++ row :: (after ++ rest) :=
    List.mem_append_right _ List.mem_cons_self
  have hrow : RowOk run_id row := hremaining.ok row hmem
  have hmiss : w₂.idem.lookup env.json row.idem_key = none := by
    have hlookup := hadvanced.lookup row.step (Or.inl hstepname)
    rw [show P.key row.step = row.idem_key from hrow.key.symm] at hlookup
    rw [hlookup, hidem, hrow.key, hname]
    exact h.unrecorded
  have hstart₂ : startable stored₂ row.step = true := by
    rw [hadvanced.startable row.step hstepname, hname]
    exact hstart
  have hcount : invoked_count run_id step (w₂.trace ++ [.step_updated P.run_id row.step .RUNNING])
      = 0 := by
    have hquiet := hadvanced.quiet row.step (Or.inl hstepname)
    rw [hadvanced.handled.trace, htrace, List.append_assoc, invoked_count_append,
      h.not_invoked, invoked_count_append]
    rw [hname] at hquiet
    rw [show invoked_count run_id step new = 0 from hquiet]
    rfl
  have hplain : is_gate row.step = false := hname ▸ h.application
  have hundone : Engine.step_done row.status = false := by
    rw [hstatus]
    rfl
  obtain ⟨handler, hhandler⟩ := Option.isSome_iff_exists.mp
    (P.defn.handlers_total row.step (hremaining.declared hmem) hplain)
  have hresult := hfails handler (hname ▸ hhandler)
    (w₂.trace ++ [.step_updated P.run_id row.step .RUNNING]) (P.context outputs row)
  rw [show invoked_count (P.context outputs row).run_id step _ = 0 from hcount, if_pos hk] at hresult
  obtain ⟨e, w', hraised⟩ := first_failure_raises (after ++ rest) outputs compensations hundone hplain
    hmiss hattempt hrow (hremaining.declared hmem) hadvanced.handled.stored hadvanced.rows hstart₂
    hhandler hresult
  exact ⟨e, w', hloop.trans hraised⟩

/-- Handlers that do not raise: the step's is invoked once and the pass goes on until it stops,
    unless a step name comes up again whose output is not given back. -/
theorem execute_ends (engine : Engine) (h : Reaches env defn run_id step run rows w)
    (hreturns : NeverRaise defn defn.steps) (depth : Nat) :
    (¬ RepeatsRecognised run_id w.idem.is_redis (ahead rows)
        (pass_events env engine (depth + 1) run_id w) ∧
      ∃ e w', (engine.execute (depth + 1) run_id).run (exec env) w = (.error e, w')) ∨
    RepeatsRecognised run_id w.idem.is_redis (ahead rows)
        (pass_events env engine (depth + 1) run_id w) ∧
      ∃ last w', (engine.execute (depth + 1) run_id).run (exec env) w = (.ok last, w') ∧
        w'.store.runs.get? run_id = some last ∧ last.status = stop_status rows ∧
        invoked_count run_id step (pass_events env engine (depth + 1) run_id w) = 1 := by
  obtain ⟨new, w', hnew, hend⟩ := @execute_stops env _ _ _ _ _ engine depth h.unlocked h.stored
    h.rows_ok h.id h.latest hreturns h.status
  have hevents : ∀ {r}, (engine.execute (depth + 1) run_id).run (exec env) w = (r, w') →
      pass_events env engine (depth + 1) run_id w = new := by
    intro r hexec
    unfold pass_events
    rw [hexec]
    show List.drop _ w'.trace = new
    rw [hnew, List.drop_left]
  rcases hend with ⟨hblocked, e, hexec⟩ | ⟨hpass, honce, last, hexec, hlast, hstop⟩
  · rw [hevents hexec]
    exact Or.inl ⟨fun hrepeats => hblocked ⟨h.unstuck, hrepeats⟩, e, w', hexec⟩
  · rw [hevents hexec]
    refine Or.inr ⟨hpass.repeats, last, w', hexec, hlast, hstop, ?_⟩
    -- the step's row has no record
    obtain ⟨row, hrow, rfl⟩ := h.target
    have hmem : row ∈ rows := (mem_ahead hrow).1
    refine honce row (mem_undone.mpr ⟨hrow, ?_⟩) ?_
    · rw [(h.pending row hmem rfl).1]
      rfl
    · rw [(h.rows_ok.ok row hmem).key]
      exact h.unrecorded

/-- **The law of retries holds of handlers that never fail, and of no others.** If the handler
    raises once, `execute` raises. If it never does, it is invoked once and the run
    goes on, unless a step name comes up again whose output the store does not give back. -/
theorem retry_law_iff_no_failure (h : Reaches env defn run_id step run rows w) {k : Nat}
    (hfails : FailsFirst defn step k)
    (hothers : NeverRaise defn (defn.steps.filter fun name => name ≠ step)) (depth : Nat) :
    RetryLaw env engine (depth + 1) run_id step k w ↔
      k = 0 ∧ RepeatsRecognised run_id w.idem.is_redis (ahead rows)
        (pass_events env engine (depth + 1) run_id w) := by
  by_cases hk : k = 0
  · subst hk
    have hreturns : NeverRaise defn defn.steps := by
      intro name hname handler hhandler trace ctx
      by_cases hstep : name = step
      · have hresult := hfails handler (hstep ▸ hhandler) trace ctx
        rwa [if_neg (Nat.not_lt_zero _)] at hresult
      · exact hothers name (List.mem_filter.mpr ⟨hname, by simpa using hstep⟩) handler hhandler
          trace ctx
    rcases execute_ends engine h hreturns depth with
      ⟨hblocked, e, w', hexec⟩ | ⟨hrepeats, last, w', hexec, hlast, hstop, honce⟩
    · refine iff_of_false ?_ fun hboth => hblocked hboth.2
      intro hlaw
      obtain ⟨last, hreturned⟩ := hlaw.returns
      rw [hexec] at hreturned
      cases hreturned
    have hstopped : last.status = .SUCCEEDED ∨ last.status = .AWAITING_APPROVAL := by
      rw [hstop]
      unfold stop_status
      split
      · exact Or.inr rfl
      · exact Or.inl rfl
    refine iff_of_true ⟨⟨last, by rw [hexec]⟩, ?_, ?_, ?_⟩ ⟨rfl, hrepeats⟩
    · intro _
      rw [hexec]
      exact ⟨honce, last, hlast, hstopped⟩
    · intro hmax
      exact absurd hmax (by decide)
    · rintro ⟨run', rows', hstored, hrunning, -⟩
      rw [hexec] at hstored
      rw [show w'.store.runs.get? run_id = some run' from hstored.run] at hlast
      obtain rfl := Option.some.inj hlast
      rw [hrunning] at hstopped
      rcases hstopped with h | h <;> cases h
  · refine iff_of_false ?_ fun hboth => hk hboth.1
    intro hlaw
    obtain ⟨e, w', hraised⟩ := execute_raises_of_failure engine h
      (Nat.pos_of_ne_zero hk) hfails hothers depth
    obtain ⟨last, hreturned⟩ := hlaw.returns
    rw [hraised] at hreturned
    cases hreturned

end law

/-! ## A handler that fails once

    `fetch` raises a transient error on its first `k` invocations. -/

section fetching

def fetch_workflow (k : Nat) : WorkflowDef :=
  plain_workflow ["fetch"] fetch_ne_nil
    (fun _ trace ctx =>
      if invoked_count ctx.run_id "fetch" trace < k then
        .raised (.connector .TransientError "crm" "timeout")
      else .returned none [])
    fun _ => none

theorem fetch_fails_first (k : Nat) : FailsFirst (fetch_workflow k) "fetch" k := by
  intro handler hhandler trace ctx
  obtain rfl : (fun trace ctx => if invoked_count ctx.run_id "fetch" trace < k then
      .raised (.connector .TransientError "crm" "timeout") else .returned none []) = handler :=
    Option.some.inj hhandler
  by_cases hfails : invoked_count ctx.run_id "fetch" trace < k
  · rw [if_pos hfails]
    exact ⟨.TransientError, "crm", "timeout", rfl, if_pos hfails⟩
  · rw [if_neg hfails]
    exact ⟨none, [], if_neg hfails⟩

theorem fetch_others (k : Nat) :
    NeverRaise (fetch_workflow k) ((fetch_workflow k).steps.filter fun name => name ≠ "fetch") := by
  intro name hname
  have hnone : name ∈ ([] : List String) := hname
  cases hnone

/-- The started run is about to reach the step. -/
theorem fetch_reaches (k : Nat) :
    ∃ run, Reaches reference_env (fetch_workflow k) "id-0" "fetch" run
      (initial_rows "id-0" 0 ["fetch"]) (queued_run (fetch_workflow k)) := by
  obtain ⟨run, hstored, hid, hflow, hstatus, hidem, htrace, hregistry, hlock⟩ :=
    queued_run_stored (rfl : (fetch_workflow k).name = "plain") rfl
  have hahead : ahead (initial_rows "id-0" 0 ["fetch"]) = initial_rows "id-0" 0 ["fetch"] := by
    have hplain : undone_gate (initial_row "id-0" "fetch" 0) = false := by decide
    simp [ahead, initial_rows, hplain]
  have hrow : ∀ row ∈ initial_rows "id-0" 0 ["fetch"], row = initial_row "id-0" "fetch" 0 :=
    fun row hrow => List.mem_singleton.mp hrow
  refine ⟨run, hstored, ⟨initial_rows_steps _ _ _, ?_⟩, hid, ?_, Or.inl hstatus, ?_, by decide, ?_,
    ?_, ?_, ?_, ?_⟩
  · intro row hmem
    rw [hrow row hmem]
    exact ⟨rfl, rfl⟩
  · rw [hregistry, hflow]
    exact latest_singleton _
  · rw [hlock]
    rfl
  · rw [hahead]
    exact ⟨_, List.mem_cons_self, rfl⟩
  · intro row hmem _
    rw [hrow row hmem]
    exact ⟨rfl, rfl⟩
  · rw [hidem]
    rfl
  · rw [htrace]
    rfl
  · intro row hmem
    rw [hahead] at hmem
    rw [hrow row hmem]
    have hstart : startable (initial_rows "id-0" 0 ["fetch"]) "fetch" = true := by decide
    unfold stuck
    rw [show (initial_row "id-0" "fetch" 0).step = "fetch" from rfl, hstart]
    simp

/-- **A step that fails once is not tried again**: `execute` raises after one invocation. -/
theorem flaky_step_not_retried :
    ∃ w ts run, Interleaved reference_env reference_engine (singleton_registry (fetch_workflow 1))
        "plain" w ts ∧
      Reaches reference_env (fetch_workflow 1) "id-0" "fetch" run
        (initial_rows "id-0" 0 ["fetch"]) w ∧
      FailsFirst (fetch_workflow 1) "fetch" 1 ∧
      NeverRaise (fetch_workflow 1) ((fetch_workflow 1).steps.filter fun name => name ≠ "fetch") ∧
      ¬ RetryLaw reference_env reference_engine 3 "id-0" "fetch" 1 w := by
  obtain ⟨ts, hreach⟩ := queued_run_reachable (fetch_workflow 1)
  obtain ⟨run, hreaches⟩ := fetch_reaches 1
  refine ⟨_, ts, run, hreach, hreaches, fetch_fails_first 1, fetch_others 1, ?_⟩
  intro hlaw
  have htwice := (hlaw.retries (by decide)).1
  have honce : invoked_count "id-0" "fetch"
      (pass_events reference_env reference_engine 3 "id-0" (queued_run (fetch_workflow 1))) = 1 := by
    decide +kernel
  rw [honce] at htwice
  exact absurd htwice (by decide)

/-- The law at work: a step that does not fail. -/
theorem steady_step_invoked_once :
    RetryLaw reference_env reference_engine 3 "id-0" "fetch" 0 (queued_run (fetch_workflow 0)) := by
  obtain ⟨run, hreaches⟩ := fetch_reaches 0
  have hdistinct : ((ahead (initial_rows "id-0" 0 ["fetch"])).map StepState.step).Nodup := by decide
  exact (retry_law_iff_no_failure hreaches (fetch_fails_first 0) (fetch_others 0) 2).mpr
    ⟨rfl, repeatsRecognised_of_nodup hdistinct _ _ _⟩

end fetching

end CaseAutomation.Orchestrator
