import CaseAutomation.Orchestrator.Filing
import CaseAutomation.Orchestrator.GateSafety

/-! # Stopped Runs

    `execute` looks at the status of a run only to start a queued one. On a run that waits,
    has succeeded, was rejected or was cancelled it makes a pass like any other, and
    only the transition table at the end of the pass stops it. So such a run is left as
    it is exactly when the pass is stopped before it writes anything: the lock is
    held, every row is done, or the first row that is not done is refused by the table of steps.
-/

namespace CaseAutomation.Orchestrator

open Framework Program Filing

/-! ## What counts as leaving a run alone -/

/-- The event is an invocation of a handler. -/
def Event.is_invocation : Event → Bool
  | .invoked _ _ _ _ => true
  | _ => false

/-- The invocations among some events. -/
def invocations (trace : List Event) : List Event := trace.filter Event.is_invocation

/-- The run is not to be worked on. -/
def RunStatus.stopped : RunStatus → Bool
  | .AWAITING_APPROVAL => true
  | .SUCCEEDED => true
  | .REJECTED => true
  | .CANCELLED => true
  | _ => false

/-- The first row that a pass has to deal with. -/
def first_undone (rows : List StepState) : Option StepState :=
  rows.find? fun row => !Engine.step_done row.status

/-- Another worker holds the run, or there is nothing to do, or the first thing to do is an
    application step that has no record and may not start. -/
def Inert (env : Env) (run_id : String) (w : World) : Prop :=
  (acquire_lock run_id w.lock).1 = false ∨
  ∀ row, first_undone (w.store.get_steps run_id) = some row →
    is_gate row.step = false ∧ w.idem.lookup env.json row.idem_key = none ∧
      startable (w.store.get_steps run_id) row.step = false

instance (env : Env) (run_id : String) (w : World) : Decidable (Inert env run_id w) :=
  inferInstanceAs (Decidable (_ ∨ ∀ row, _ = some row → _))

/-! ## Runs leave traces -/

section traces
variable {env : Env}

/-- No program shortens the trace. -/
theorem run_trace {α : Type} (env : Env) (p : M α) (w : World) :
    ∃ new, (p.run (exec env) w).2.trace = w.trace ++ new := by
  apply run_related (R := fun w w' : World => ∃ new, w'.trace = w.trace ++ new)
    (P := fun _ => True) (p := p)
  · intro w
    exact ⟨[], (List.append_nil _).symm⟩
  · rintro a b c ⟨new, h⟩ ⟨new', h'⟩
    exact ⟨new ++ new', by rw [h', h, List.append_assoc]⟩
  · intro c w _
    exact ⟨c.events w, exec_trace env c w⟩
  · exact Issues.trivial p

/-- A handler invoked before the rest of a program is seen at its end. -/
theorem invocations_grow {α : Type} (before : List Event) {p : M α} {w w' : World}
    {after : List Event} {run_id step : String} {ctx : StepContext} {result : HandlerResult}
    (h : w'.trace = w.trace ++ (before ++ .invoked run_id step ctx result :: after)) :
    invocations (p.run (exec env) w').2.trace ≠ invocations w.trace := by
  obtain ⟨new, hnew⟩ := run_trace env p w'
  intro heq
  have hlen := congrArg List.length heq
  rw [hnew, h] at hlen
  simp [invocations, Event.is_invocation] at hlen

/-- The run was stamped at or after the `n`-th reading of the clock. -/
def StampedSince (env : Env) (n : Nat) (run_id : String) (w : World) : Prop :=
  n ≤ w.clock ∧ ∃ run k, w.store.runs.get? run_id = some run ∧ run.updated_at = env.time k ∧ n ≤ k

/-- A pass stamps runs with later readings only. -/
theorem StampedSince.step {n : Nat} {run_id : String} {c : Call} {w : World}
    (h : StampedSince env n run_id w) (hc : c.of_pass = true) :
    StampedSince env n run_id (exec env c w).2 := by
  obtain ⟨hclock, run, k, hrun, hstamp, hk⟩ := h
  refine ⟨Nat.le_trans hclock (exec_clock_le env c w), ?_⟩
  have hchange := exec_store_change env c w
  generalize (exec env c w).2.store = s' at hchange
  generalize (exec env c w).2.clock = m at hchange
  cases hchange with
  | created => cases hc
  | @status id new cur err old hold hlegal =>
    by_cases hid : run_id = id
    · subst hid
      exact ⟨_, w.clock, Dict.get?_set_self _ _ _, rfl, hclock⟩
    · exact ⟨run, k, (Dict.get?_set_ne _ _ hid).trans hrun, hstamp, hk⟩
  | @current id step old hold =>
    by_cases hid : run_id = id
    · subst hid
      exact ⟨_, w.clock, Dict.get?_set_self _ _ _, rfl, hclock⟩
    · exact ⟨run, k, (Dict.get?_set_ne _ _ hid).trans hrun, hstamp, hk⟩
  | _ => exact ⟨run, k, hrun, hstamp, hk⟩

theorem StampedSince.run {α : Type} {n : Nat} {run_id : String} {p : M α} {w : World}
    (hp : Issues (fun c => c.of_pass = true) p) (h : StampedSince env n run_id w) :
    StampedSince env n run_id (p.run (exec env) w).2 := by
  apply run_related (R := fun w w' => StampedSince env n run_id w → StampedSince env n run_id w')
    (P := fun c => c.of_pass = true) (p := p)
  · intro w h
    exact h
  · intro a b c hab hbc h
    exact hbc (hab h)
  · intro c w hc h
    exact h.step hc
  · exact hp
  · exact h

end traces

/-! ## One pass over a stopped run -/

section stopped
variable {env : Env} {engine : Engine} {registry : Registry} {defn : WorkflowDef} {run_id : String}
  {run : WorkflowRun} {rows : List StepState} {w : World}

/-- The call of `execute` changes no row of the store and invokes no handler. -/
def LeftAlone (env : Env) (engine : Engine) (depth : Nat) (run_id : String) (w : World) : Prop :=
  ((engine.execute depth run_id).run (exec env) w).2.store = w.store ∧
    invocations ((engine.execute depth run_id).run (exec env) w).2.trace = invocations w.trace

/-- The pass leaves the store and the invocations as they were. -/
def PassIdle (env : Env) (P : Pass) (rows : List StepState) (outputs : Dict String JsonObj)
    (w : World) : Prop :=
  ((P.loop rows outputs []).run (exec env) w).2.store = w.store ∧
    invocations ((P.loop rows outputs []).run (exec env) w).2.trace = invocations w.trace

/-- A held lock keeps everybody out. -/
theorem left_alone_of_held (depth : Nat) (hheld : (acquire_lock run_id w.lock).1 = false) :
    LeftAlone env engine (depth + 1) run_id w := by
  unfold LeftAlone
  rw [Engine.execute_held env engine depth hheld]
  exact ⟨rfl, rfl⟩

/-- With the lock free, what matters is the pass. -/
theorem left_alone_iff_pass_idle (depth : Nat) (hfree : (acquire_lock run_id w.lock).1 = true)
    (hstored : Stored run_id run rows w)
    (hlatest : get_workflow_latest w.registry run.workflow = .ok defn)
    (hqueued : run.status ≠ .QUEUED) :
    LeftAlone env engine (depth + 1) run_id w ↔
      PassIdle env ⟨engine, engine.execute depth run_id, run, defn, run_id⟩ rows
        (Engine.stored_outputs rows) (Engine.locked run_id w) := by
  have hstored' : Stored run_id run rows (Engine.locked run_id w) := ⟨hstored.run, hstored.rows⟩
  obtain ⟨w', run', hpass, -, hsame⟩ := Engine.execute_locked_run env engine
    (engine.execute depth run_id) hstored' hlatest
  obtain ⟨rfl, rfl⟩ := hsame hqueued
  unfold LeftAlone PassIdle
  rw [Engine.execute_free env engine depth hfree, hpass]
  exact Iff.rfl

/-- What a reachable store says about a run. -/
structure Known (env : Env) (defn : WorkflowDef) (run_id : String) (run : WorkflowRun)
    (rows : List StepState) (w : World) : Prop where
  stored : Stored run_id run rows w
  rows : RowsOk defn run_id rows
  id : run.id = run_id
  stamped : ∃ k < w.clock, run.updated_at = env.time k
  unused : w.store.gates.get? (env.uuid w.uuids) = none

theorem known_of_filed (h : Filed env w) (hrun : w.store.runs.get? run_id = some run) :
    ∃ defn rows, get_workflow_latest w.registry run.workflow = .ok defn ∧
      Known env defn run_id run rows w := by
  obtain ⟨defn, rows, hlatest, hstored, hrows⟩ := h.known hrun
  exact ⟨defn, rows, hlatest, hstored, hrows, h.keyed run_id run hrun, h.stamped run_id run hrun,
    h.unused⟩

section first_row
variable {P : Pass} {row : StepState} {rest : List StepState} {outputs : Dict String JsonObj}

/-- A gate that is not done gets a new gate request. -/
theorem gate_changes_store (hknown : Known env P.defn P.run_id P.run rows w)
    (hstopped : P.run.status ≠ .RUNNING) (hdone : Engine.step_done row.status = false)
    (hgate : is_gate row.step = true) :
    ((P.loop (row :: rest) outputs []).run (exec env) w).2.store ≠ w.store := by
  obtain ⟨e, w', hloop, hopened⟩ := Pass.loop_gate_refused env P rest outputs [] hdone hgate
    hknown.id hknown.stored hstopped
  obtain ⟨gate, hopen⟩ := hopened.gate
  rw [hloop]
  intro hsame
  rw [show w'.store = w.store from hsame, hknown.unused] at hopen
  cases hopen

/-- A step whose output is on record moves the position of the run. -/
theorem hit_changes_store (htime : Function.Injective env.time)
    (hknown : Known env P.defn P.run_id P.run rows w)
    (hagain : Issues (fun c => c.of_pass = true) P.again)
    (hdone : Engine.step_done row.status = false) (hgate : is_gate row.step = false)
    {existing : JsonObj} (hhit : w.idem.lookup env.json row.idem_key = some existing) :
    ((P.loop (row :: rest) outputs []).run (exec env) w).2.store ≠ w.store := by
  obtain ⟨w', run', hloop, hhandled, hstamp, -, hclock⟩ := Pass.loop_hit env P rest outputs []
    hdone hgate hhit hknown.stored
  -- later calls only move the stamp forward
  have hsince : StampedSince env w.clock P.run_id w' :=
    ⟨Nat.le_of_lt hclock, run', w.clock, hhandled.stored.run, hstamp, Nat.le_refl _⟩
  have hpass : Issues (fun c => c.of_pass = true)
      (P.loop rest (outputs.set row.step existing) []) :=
    Engine.execute_loop_of_pass P.engine P.run P.defn P.run_id rest _ _ hagain
  obtain ⟨-, last, k, hlast, hlater, hk⟩ := hsince.run hpass
  obtain ⟨k₀, hk₀, hearlier⟩ := hknown.stamped
  rw [hloop]
  intro hsame
  rw [hsame, hknown.stored.run] at hlast
  obtain rfl := Option.some.inj hlast
  have heq : k = k₀ := htime (hlater.symm.trans hearlier)
  omega

/-- A step that may start has its handler invoked. -/
theorem start_invokes (hknown : Known env P.defn P.run_id P.run rows w) (hmem : row ∈ rows)
    (hdone : Engine.step_done row.status = false) (hgate : is_gate row.step = false)
    (hmiss : w.idem.lookup env.json row.idem_key = none)
    (hstart : startable rows row.step = true) :
    invocations ((P.loop (row :: rest) outputs []).run (exec env) w).2.trace ≠
      invocations w.trace := by
  have hof : row.run_id = P.run_id := (hknown.rows.ok row hmem).of_run
  have hdeclared : row.step ∈ P.defn.steps := by
    rw [← hknown.rows.names]
    exact List.mem_map_of_mem hmem
  obtain ⟨handler, hhandler⟩ := Option.isSome_iff_exists.mp
    (P.defn.handlers_total row.step hdeclared hgate)
  obtain ⟨pre, held, post, hrows, hpre, hname, hlegal⟩ := find_named (List.mem_map_of_mem hmem)
  have hstored := hknown.stored
  rw [hrows] at hstored
  rw [hlegal] at hstart
  cases hresult : handler (w.trace ++ [.step_updated P.run_id row.step .RUNNING])
      (P.context outputs row) with
  | returned returned hooks =>
    obtain ⟨w', run', row', hloop, hhandled, -⟩ := Pass.loop_success env P rest outputs [] hdone
      hgate hmiss hof hstored hpre hname hstart hhandler hresult
    rw [hloop]
    exact invocations_grow [_] hhandled.trace
  | raised exn =>
    obtain ⟨w', now, hloop, hhandled⟩ := Pass.loop_raise env P rest outputs [] hdone hgate hmiss
      hof hstored hpre hname hstart hhandler hresult
    rw [hloop]
    exact invocations_grow [_] hhandled.trace

end first_row

/-- The pass starts with the first row that is not done. -/
theorem loop_first_undone {P : Pass} {row : StepState} (outputs : Dict String JsonObj)
    (hfirst : first_undone rows = some row) :
    row ∈ rows ∧ Engine.step_done row.status = false ∧ ∃ rest outputs',
      P.loop rows outputs [] = P.loop (row :: rest) outputs' [] := by
  obtain ⟨hundone, before, rest, hsplit, hbefore⟩ := List.find?_eq_some_iff_append.mp hfirst
  refine ⟨?_, by simpa using hundone, rest, before.foldl Engine.add_output outputs, ?_⟩
  · rw [hsplit]
    exact List.mem_append_right _ List.mem_cons_self
  · rw [hsplit]
    apply Pass.loop_skip_all
    intro r hr
    simpa using hbefore r hr

/-- Every row is done, or the first one that is not may not start: nothing is written. -/
theorem pass_idle_of_refused {P : Pass} (hknown : Known env P.defn P.run_id P.run rows w)
    (hstopped : P.run.status ≠ .RUNNING) (outputs : Dict String JsonObj)
    (hcond : ∀ row, first_undone rows = some row → is_gate row.step = false ∧
      w.idem.lookup env.json row.idem_key = none ∧ startable rows row.step = false) :
    PassIdle env P rows outputs w := by
  unfold PassIdle
  cases hfirst : first_undone rows with
  | none =>
    -- the table refuses to complete the run again
    have hdone : ∀ r ∈ rows, Engine.step_done r.status = true := by
      intro r hr
      simpa using List.find?_eq_none.mp hfirst r hr
    have hskip := Pass.loop_skip_all P [] outputs [] hdone
    rw [List.append_nil] at hskip
    obtain ⟨e, hrefused⟩ := Pass.loop_end_refused env P (rows.foldl Engine.add_output outputs) []
      hknown.stored hstopped
    rw [hskip, hrefused]
    exact ⟨rfl, rfl⟩
  | some row =>
    obtain ⟨hgate, hmiss, hstart⟩ := hcond row hfirst
    obtain ⟨hmem, hdone, rest, outputs', hloop⟩ := loop_first_undone (P := P) outputs hfirst
    obtain ⟨pre, held, post, hrows, hpre, hname, hlegal⟩ := find_named (List.mem_map_of_mem hmem)
    have hof : row.run_id = P.run_id := (hknown.rows.ok row hmem).of_run
    have hstored := hknown.stored
    rw [hrows] at hstored
    obtain ⟨e, hstuck⟩ := Pass.loop_stuck env P rest outputs' [] hdone hgate hmiss hof hstored
      hpre hname (hlegal ▸ hstart)
    rw [hloop, hstuck]
    exact ⟨rfl, rfl⟩

/-- Otherwise something is written, as long as no two readings of the clock agree. -/
theorem refused_of_pass_idle {P : Pass} (htime : Function.Injective env.time)
    (hknown : Known env P.defn P.run_id P.run rows w)
    (hagain : Issues (fun c => c.of_pass = true) P.again) (hstopped : P.run.status ≠ .RUNNING)
    (outputs : Dict String JsonObj) (hidle : PassIdle env P rows outputs w) {row : StepState}
    (hfirst : first_undone rows = some row) :
    is_gate row.step = false ∧ w.idem.lookup env.json row.idem_key = none ∧
      startable rows row.step = false := by
  obtain ⟨hmem, hdone, rest, outputs', hloop⟩ := loop_first_undone (P := P) outputs hfirst
  unfold PassIdle at hidle
  rw [hloop] at hidle
  have hgate : is_gate row.step = false := by
    cases hg : is_gate row.step with
    | false => rfl
    | true => exact absurd hidle.1 (gate_changes_store hknown hstopped hdone hg)
  have hmiss : w.idem.lookup env.json row.idem_key = none := by
    cases hlookup : w.idem.lookup env.json row.idem_key with
    | none => rfl
    | some existing =>
      exact absurd hidle.1 (hit_changes_store htime hknown hagain hdone hgate hlookup)
  refine ⟨hgate, hmiss, ?_⟩
  cases hstart : startable rows row.step with
  | false => rfl
  | true => exact absurd hidle.2 (start_invokes hknown hmem hdone hgate hmiss hstart)

/-- **Stopped runs are left alone when they are inert, and only then.** In every reachable
    world, a call of `execute` on a run that waits, has succeeded, was rejected or was
    cancelled changes no row of the store and invokes no handler if another worker holds
    the run, every row is done, or the first row that is not done is an application step
    without a record that the table does not let start. In every other case it does, as
    long as no two readings of the clock agree. -/
theorem stopped_run_left_alone_iff {ts : List (M Unit)} (hreach : History env engine registry w ts)
    (hrun : w.store.runs.get? run_id = some run) (hstopped : run.status.stopped = true)
    (depth : Nat) :
    (Inert env run_id w → LeftAlone env engine (depth + 1) run_id w) ∧
    (Function.Injective env.time →
      LeftAlone env engine (depth + 1) run_id w → Inert env run_id w) := by
  obtain ⟨defn, rows, hdefn, hknown⟩ := known_of_filed hreach.filed hrun
  have hsteps : w.store.get_steps run_id = rows := by
    unfold RunStore.get_steps
    rw [hknown.stored.rows]
    rfl
  have hqueued : run.status ≠ .QUEUED := by
    intro h
    rw [h] at hstopped
    cases hstopped
  have hrunning : run.status ≠ .RUNNING := by
    intro h
    rw [h] at hstopped
    cases hstopped
  unfold Inert
  rw [hsteps]
  by_cases hfree : (acquire_lock run_id w.lock).1 = true
  · have hknown' : Known env defn run_id run rows (Engine.locked run_id w) :=
      ⟨⟨hknown.stored.run, hknown.stored.rows⟩, hknown.rows, hknown.id, hknown.stamped,
        hknown.unused⟩
    let P : Pass := ⟨engine, engine.execute depth run_id, run, defn, run_id⟩
    rw [left_alone_iff_pass_idle depth hfree hknown.stored hdefn hqueued]
    refine ⟨?_, ?_⟩
    · intro hinert
      have hcond := hinert.resolve_left (by simp [hfree])
      exact pass_idle_of_refused (P := P) hknown' hrunning _ hcond
    · intro htime hidle
      right
      intro row hfirst
      exact refused_of_pass_idle (P := P) htime hknown'
        (Engine.execute_of_pass engine depth run_id) hrunning _ hidle hfirst
  · have hheld : (acquire_lock run_id w.lock).1 = false := Bool.eq_false_iff.mpr hfree
    exact ⟨fun _ => left_alone_of_held depth hheld, fun _ _ => Or.inl hheld⟩

end stopped

/-! ## A redelivered job

    The run waiting for a signature is executed once more, and a run that has
    succeeded is executed once more. -/

section redelivered

/-- The number of gate requests in the store. -/
def gate_count (w : World) : Nat := w.store.gates.values.length

theorem signature_waiting_reachable (quorum : Int) :
    ∃ ts, Interleaved reference_env reference_engine
      (singleton_registry (signature_workflow quorum)) "plain" (signature_waiting quorum) ts := by
  have hboot : Interleaved reference_env reference_engine
      (singleton_registry (signature_workflow quorum)) "plain" (signature_start quorum) [] :=
    .boot ⟨_, _, rfl⟩
  obtain ⟨ts₁, h₁⟩ := hboot.serve (q := .start_run plain_start) (.start_run rfl)
  exact h₁.serve (.execute 1 "id-0")

/-- **A run waiting at a gate gets a second gate request** when its job is delivered again. -/
theorem waiting_run_not_left_alone :
    ∃ w ts run, Interleaved reference_env reference_engine
      (singleton_registry (signature_workflow 1)) "plain" w ts ∧
      w.store.runs.get? "id-0" = some run ∧ run.status = .AWAITING_APPROVAL ∧
      gate_count w = 1 ∧ gate_count (w.serve reference_env reference_engine (.execute 1 "id-0")) = 2 ∧
      ¬ LeftAlone reference_env reference_engine 1 "id-0" w := by
  obtain ⟨ts, hreach⟩ := signature_waiting_reachable 1
  have hsome : ((signature_waiting 1).store.runs.get? "id-0").isSome = true := by decide +kernel
  obtain ⟨run, hrun⟩ := Option.isSome_iff_exists.mp hsome
  have hstatus : ∀ r ∈ (signature_waiting 1).store.runs.get? "id-0",
      r.status = .AWAITING_APPROVAL := by decide +kernel
  refine ⟨_, ts, run, hreach, hrun, hstatus run hrun, by decide +kernel, by decide +kernel, ?_⟩
  intro halone
  have hcount : gate_count ((reference_engine.execute 1 "id-0").run (exec reference_env)
      (signature_waiting 1)).2 = gate_count (signature_waiting 1) := by
    unfold gate_count
    rw [halone.1]
  exact absurd hcount (by decide +kernel)

def finished_workflow : WorkflowDef :=
  plain_workflow ["draft"] draft_ne_nil (fun _ _ _ => .returned none []) fun _ => none

/-- A run of it, executed to its end. -/
def finished_run : World :=
  ((World.fresh (.in_memory ∅) none (singleton_registry finished_workflow)).serve reference_env
    reference_engine (.start_run plain_start)).serve reference_env reference_engine
      (.execute 1 "id-0")

/-- The equivalence at work: a run that has succeeded is left alone. -/
theorem finished_run_left_alone : LeftAlone reference_env reference_engine 1 "id-0" finished_run := by
  have hboot : Interleaved reference_env reference_engine (singleton_registry finished_workflow)
      "plain" (World.fresh (.in_memory ∅) none (singleton_registry finished_workflow)) [] :=
    .boot ⟨_, _, rfl⟩
  obtain ⟨ts₁, h₁⟩ := hboot.serve (q := .start_run plain_start) (.start_run rfl)
  obtain ⟨ts₂, h₂⟩ := h₁.serve (q := .execute 1 "id-0") (.execute 1 "id-0")
  have hsome : (finished_run.store.runs.get? "id-0").isSome = true := by decide +kernel
  obtain ⟨run, hrun⟩ := Option.isSome_iff_exists.mp hsome
  have hstatus : ∀ r ∈ finished_run.store.runs.get? "id-0", r.status.stopped = true := by
    decide +kernel
  have hinert : Inert reference_env "id-0" finished_run := by decide +kernel
  exact (stopped_run_left_alone_iff (interleaved_history h₂) hrun (hstatus run hrun) 0).1 hinert

end redelivered

end CaseAutomation.Orchestrator
