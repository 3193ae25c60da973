import CaseAutomation.Orchestrator.GateSafety
import CaseAutomation.Orchestrator.Walk

/-! # Exactly-Once Effects

    Once the output of a step has been recorded, the handler of that step is not
    invoked again for that run, whatever fails, crashes or is re-driven
    afterwards. This rests on `lookup` recognising what `record` wrote, and there the two
    idempotency stores differ: with Redis every record is recognised, in memory an empty
    output looks like a mere reservation.

    The histories are sequential (the run lock allows one pass at a time). A
    step of `recognisable` is any call, answered or failing, whose record (if it is one)
    the store can tell from a reservation.
-/

namespace CaseAutomation.Orchestrator

open Framework Program

/-- Faulty calls whose records can be recognised later. -/
def recognisable (env : Env) : Relation Call Call.Resp Exn World := fun c w r w' =>
  faulty env c w r w' ∧
    ∀ key output, c = .record key output → w.idem.is_redis = true ∨ output ≠ []

/-! ## The contract -/

section contract
variable {env : Env}

/-- Every recorded key is found by `lookup`. -/
def RecordsFound (env : Env) (w : World) : Prop :=
  ∀ key output, Event.recorded key output ∈ w.trace → ∃ v, w.idem.lookup env.json key = some v

/-- No record has been made under the key. -/
def Unrecorded (key : String) (w : World) : Prop :=
  ∀ output, Event.recorded key output ∉ w.trace

/-- A handler may be invoked only under a key without a record. -/
def once_guard : Call → World → Prop
  | .invoke _ _ ctx, w => Unrecorded ctx.idem_key w
  | _, _ => True

/-- One program at a time; only locks expire in between. -/
def once_contract (env : Env) : Contract Call Call.Resp Exn World where
  step := recognisable env
  inv := RecordsFound env
  rely := fun w w' => w'.idem = w.idem ∧ w'.trace = w.trace
  guar := fun _ _ => True
  guard := once_guard

/-- Every call keeps all records recognisable. -/
theorem RecordsFound.step {c : Call} {w w' : World} {r : Except Exn c.Resp}
    (hinv : RecordsFound env w) (h : recognisable env c w r w') : RecordsFound env w' := by
  obtain ⟨hfaulty, hrec⟩ := h
  rcases hfaulty.world with ⟨rfl, -⟩ | rfl
  · exact hinv
  intro key output hmem
  rw [exec_trace, List.mem_append] at hmem
  rw [exec_idem]
  -- the record is the one just made, or an older one
  by_cases hself : ∃ output', c = .record key output'
  · obtain ⟨output', rfl⟩ := hself
    simp only
    rw [IdemStore.lookup_record_self]
    by_cases hredis : w.idem.is_redis = true
    · rw [if_pos hredis]
      exact ⟨output', rfl⟩
    · have hne : output' ≠ [] := (hrec key output' rfl).resolve_left hredis
      rw [if_neg hredis, if_neg (by simpa using hne)]
      exact ⟨output', rfl⟩
  have hold : Event.recorded key output ∈ w.trace := by
    rcases hmem with hold | hnew
    · exact hold
    · exact absurd ⟨output, mem_events_recorded c w hnew⟩ hself
  obtain ⟨v, hv⟩ := hinv key output hold
  refine ⟨v, ?_⟩
  cases c with
  | reserve key' => simp only; rw [IdemStore.lookup_reserve, hv]
  | record key' output' =>
    have hne : key ≠ key' := by
      intro heq
      exact hself ⟨output', by rw [heq]⟩
    simp only
    rw [IdemStore.lookup_record_ne _ _ _ hne, hv]
  | _ => exact hv

/-- A key stays unrecorded unless a record is made. -/
theorem Unrecorded.step {c : Call} {w w' : World} {r : Except Exn c.Resp} {key : String}
    (hkey : Unrecorded key w) (hc : ∀ key output, c ≠ .record key output)
    (h : recognisable env c w r w') : Unrecorded key w' := by
  rcases h.1.world with ⟨rfl, -⟩ | rfl
  · exact hkey
  intro output hmem
  rw [exec_trace, List.mem_append] at hmem
  rcases hmem with hold | hnew
  · exact hkey output hold
  · exact hc key output (mem_events_recorded c w hnew)

/-! ## The walk through the programs -/

/-- A call that invokes no handler. -/
theorem once_free {c : Call} (hc : c.invokes = false) (w : World) : once_guard c w := by
  cases c <;> trivial

theorem once_await {c : Call} {R : c.Resp → World → Prop} {w : World} (hc : c.invokes = false)
    (hR : ∀ w' a w'', w'.trace = w.trace → RecordsFound env w' →
      recognisable env c w' (.ok a) w'' → R a w'') :
    Yields (once_contract env) R (await c) w := by
  apply Yields.perform
  intro w' hrely hinv
  refine ⟨once_free hc w', ?_⟩
  intro r w'' hstep
  refine ⟨RecordsFound.step hinv hstep, trivial, ?_⟩
  intro a ha
  subst ha
  exact hR w' a w'' hrely.2 hinv hstep

/-- A call that invokes no handler may be issued anywhere. -/
theorem once_call_free {c : Call} (hc : c.invokes = false) : Free (once_contract env) c := by
  intro w hinv
  refine ⟨once_free hc w, ?_⟩
  intro r w' hstep
  exact ⟨RecordsFound.step hinv hstep, trivial⟩

/-- Programs that invoke no handler are safe. -/
theorem once_no_invoke {α : Type} {p : M α} (hp : Issues (fun c => c.invokes = false) p)
    (w : World) : Yields (once_contract env) (fun _ _ => True) p w :=
  walk_free (hp.mono fun _ hc => once_call_free hc) w

theorem once_lenient (env : Env) : Lenient (once_contract env) where
  plain := by
    intro c hc
    apply once_call_free
    cases c <;> first | rfl | cases hc
  parked := fun _ _ => once_call_free rfl
  no_reset := by
    intro row w a w' hrow hstep
    exact exec_pending hrow hstep.1.ok

/-- A call that records nothing keeps a key unrecorded. -/
theorem once_keeps {c : Call} {key : String} {w : World} (hc : c.invokes = false)
    (hrec : ∀ key output, c ≠ .record key output) (hkey : Unrecorded key w) :
    Yields (once_contract env) (fun _ w => Unrecorded key w) (await c) w := by
  apply once_await hc
  intro w' a w'' htrace _ hstep
  have hkey' : Unrecorded key w' := by
    unfold Unrecorded
    rw [htrace]
    exact hkey
  exact hkey'.step hrec hstep

/-- The `try` block of a step whose key is unrecorded. -/
theorem once_try_step (engine : Engine) (defn : WorkflowDef) (run_id : String) (row : StepState)
    (ctx : StepContext) (compensations : List Compensation) {w : World}
    (hkey : Unrecorded ctx.idem_key w) :
    Yields (once_contract env) (fun _ _ => True)
      (engine.try_step defn run_id row ctx compensations) w := by
  unfold Engine.try_step
  cases defn.handlers row.step with
  | none => exact Yields.ret trivial
  | some handler =>
    apply Yields.bind (P := fun _ _ => True)
    · apply Yields.attempt (P := fun _ _ => True)
      · apply Yields.perform
        intro w' hrely hinv
        refine ⟨?_, ?_⟩
        · show Unrecorded ctx.idem_key w'
          unfold Unrecorded
          rw [hrely.2]
          exact hkey
        · intro r w'' hstep
          exact ⟨RecordsFound.step hinv hstep, trivial, fun _ _ => trivial⟩
      · intro _ _ _
        trivial
    · intro returned w' _
      apply once_no_invoke
      -- after the handler, only stores and the audit service are called
      rcases returned with e | ⟨output, hooks⟩
      · exact .ret
      refine .bind (.attempt (.bind (.perform rfl) fun _ => .perform rfl)) ?_
      intro recorded
      rcases recorded with e | u
      · exact .ret
      refine .bind (.perform rfl) ?_
      intro now
      refine .bind (.attempt (.bind (.perform rfl) fun _ =>
        .bind (Engine.audit_issues engine _ _ _ _ fun _ => rfl) fun _ => .perform rfl)) ?_
      intro completed
      rcases completed with e | u
      · exact .ret
      · exact .ret

theorem once_execute_loop (engine : Engine) (again : M WorkflowRun) (run : WorkflowRun)
    (defn : WorkflowDef) (run_id : String) (rows : List StepState)
    (outputs : Dict String JsonObj) (compensations : List Compensation) (w : World) :
    Yields (once_contract env) (fun _ _ => True)
      (engine.execute_loop again run defn run_id rows outputs compensations) w := by
  induction rows generalizing outputs compensations w with
  | nil =>
    apply once_no_invoke
    exact .bind (.perform rfl) fun _ =>
      .bind (Engine.audit_issues engine _ _ _ _ fun _ => rfl) fun _ =>
        Engine.reload_issues run_id rfl
  | cons row rest ih =>
    unfold Engine.execute_loop
    by_cases hdone : Engine.step_done row.status = true
    · rw [if_pos hdone]
      exact ih _ _ w
    rw [if_neg hdone]
    by_cases hgate : is_gate row.step = true
    · rw [if_pos hgate]
      apply once_no_invoke
      exact .bind (Engine.handle_gate_issues engine run row _ rfl rfl (fun _ _ => rfl)
        (fun _ => rfl) rfl fun _ => rfl) fun _ => Engine.reload_issues run_id rfl
    rw [if_neg hgate]
    -- a missing record means that none was ever made
    apply Yields.bind (P := fun found w => found = none → Unrecorded row.idem_key w)
    · apply once_await rfl
      intro w' found w'' _ hinv hstep hnone
      subst hnone
      have hexec : (Except.ok (w'.idem.lookup env.json row.idem_key) :
          Except Exn (Option JsonObj)) = .ok none ∧ w' = w'' := Prod.mk.inj hstep.1.ok
      obtain ⟨hlookup, rfl⟩ := hexec
      intro output hmem
      obtain ⟨v, hv⟩ := hinv row.idem_key output hmem
      rw [Except.ok.inj hlookup] at hv
      cases hv
    · intro found w₁ hfound
      cases found with
      | some existing =>
        apply Yields.bind (once_no_invoke (.perform rfl) w₁)
        intro _ w₂ _
        exact ih _ _ w₂
      | none =>
        have hkey₁ : Unrecorded row.idem_key w₁ := hfound rfl
        apply Yields.bind (once_keeps rfl (by intro _ _ h; cases h) hkey₁)
        intro now w₂ hkey₂
        apply Yields.bind (once_keeps rfl (by intro _ _ h; cases h) hkey₂)
        intro _ w₃ hkey₃
        apply Yields.bind (once_try_step engine defn run_id _ _ compensations hkey₃)
        intro done w₄ _
        cases done.result with
        | ok output => exact ih _ _ w₄
        | error e =>
          exact walk_fail_step (once_lenient env) engine again run_id _ _ e w₄
            (fun _ _ => once_call_free rfl) fun _ _ => once_call_free rfl

theorem once_execute_locked (engine : Engine) (again : M WorkflowRun) (run_id : String)
    (w : World) :
    Yields (once_contract env) (fun _ _ => True) (engine.execute_locked again run_id) w := by
  unfold Engine.execute_locked
  apply Yields.bind (P := fun _ _ => True) (once_no_invoke (.perform rfl) w)
  intro found w₁ _
  cases found with
  | none => exact Yields.raise
  | some run =>
    apply Yields.bind (P := fun _ _ => True)
    · exact once_no_invoke (Engine.begin_run_issues run_id run (fun _ => rfl) rfl) w₁
    intro run' w₂ _
    apply Yields.bind (P := fun _ _ => True) (once_no_invoke (.perform rfl) w₂)
    intro defn w₃ _
    apply Yields.bind (P := fun _ _ => True) (once_no_invoke (.perform rfl) w₃)
    intro rows w₄ _
    exact once_execute_loop engine _ run' defn run_id rows _ _ w₄

/-- Every request is safe where it starts. -/
theorem once_request (engine : Engine) (q : Request) (w : World) :
    Safe (once_contract env) (fun _ _ => True) (q.program engine) w := by
  cases q with
  | start_run args => exact (once_no_invoke (start_run_no_invoke args) w).discard
  | execute depth run_id =>
    exact (walk_execute (once_lenient env) engine depth run_id w
      fun again w => once_execute_locked engine again run_id w).discard
  | resolve_gate args => exact (once_no_invoke (resolve_gate_no_invoke _ args) w).discard
  | update_run_status run_id status =>
    exact Safe.weaken (once_no_invoke (.perform rfl) w) fun _ _ _ => trivial
  | recovery_sweep depth enqueue =>
    exact (walk_recovery_sweep (once_lenient env) engine depth enqueue w
      fun run_id again w => once_execute_locked engine again run_id w).discard

end contract

/-! ## Every history -/

/-- **Exactly once, when records are recognised.** In every sequential history of requests,
    with failing calls, crashes and re-drives, in which every record is made in Redis or
    has a non-empty output: a handler about to be invoked for a run and step has no record
    under the key of that run and step. -/
theorem recorded_step_not_invoked_again {env : Env} {engine : Engine} {registry : Registry}
    {name : String} {defn : WorkflowDef} (hlatest : get_workflow_latest registry name = .ok defn)
    {p : M Unit} {w : World}
    (h : Sequential (recognisable env) engine registry (Admitted engine.crypto name) p w)
    {run_id step : String} (hinvoke : invoking p = some (run_id, step)) (output : JsonObj) :
    Event.recorded (run_id ++ ":" ++ step) output ∉ w.trace := by
  -- the history is an interleaving, so the handler runs under the key of its run and step
  obtain ⟨ts, hreach, hlast⟩ := Sequential.interleaved (fun _ _ _ _ hs => hs.1)
    (fun _ _ hq => hq) h
  obtain ⟨handler, ctx, k, rfl, hrun⟩ := invoking_eq_some hinvoke
  have hkey : ctx.idem_key = run_id ++ ":" ++ step := by
    rcases hlast with hret | ⟨us, rfl⟩
    · cases hret
    · have hnext := hreach.invoke_key hlatest (t := us.length) List.getElem?_concat_length
      rw [hnext, hrun]
  -- every record is recognised, so the key has none
  have hsafe : RecordsFound env w ∧ Safe (once_contract env) (fun _ _ => True)
      (.call (.invoke handler step ctx) k) w := by
    refine Session.safe (C := once_contract env) ?_ ?_ ?_ ?_ ?_ h
    · intro w
      exact ⟨rfl, rfl⟩
    · intro a b c hab hbc
      exact ⟨hbc.1.trans hab.1, hbc.2.trans hab.2⟩
    · rintro w ⟨idem, lock, rfl⟩ key output hmem
      cases hmem
    · rintro w p _ ⟨q, -, rfl⟩
      exact once_request engine q w
    · rintro w w' hinv ⟨held, held', -, -, rfl⟩
      exact ⟨hinv, rfl, rfl⟩
  obtain ⟨hguard, -⟩ := hsafe.2 w ⟨rfl, rfl⟩ hsafe.1
  rw [← hkey]
  exact hguard output

/-! ## Redis recognises every record -/

theorem exec_is_redis (env : Env) (c : Call) (w : World) :
    (exec env c w).2.idem.is_redis = w.idem.is_redis := by
  rw [exec_idem]
  cases c with
  | reserve key => exact IdemStore.is_redis_reserve key w.idem
  | record key output => exact IdemStore.is_redis_record env.json key output w.idem
  | _ => rfl

/-- With Redis, every answered call is a recognisable one. -/
theorem steps_redis {α : Type} (env : Env) (n : Nat) (p : M α) (w : World)
    (hredis : w.idem.is_redis = true) :
    Steps (recognisable env) p w (Program.after (exec env) n p w).1 (Program.after (exec env) n p w).2 ∧
      (Program.after (exec env) n p w).2.idem.is_redis = true := by
  induction n generalizing p w with
  | zero => exact ⟨.here p w, hredis⟩
  | succ n ih =>
    cases p with
    | ret a => exact ⟨.here _ _, hredis⟩
    | raise e => exact ⟨.here _ _, hredis⟩
    | call c k =>
      have hnext : (exec env c w).2.idem.is_redis = true := by rw [exec_is_redis, hredis]
      obtain ⟨hsteps, hlast⟩ := ih (k (exec env c w).1) (exec env c w).2 hnext
      exact ⟨.next ⟨.answered, fun _ _ _ => Or.inl hredis⟩ hsteps, hlast⟩

/-! ## An empty output in memory

    The handler of `draft` returns `None`. Its record is made, then the store fails while the
    row is completed: the run parks. After a re-drive the handler is about to be invoked
    a second time, because the recorded `{}` reads as a reservation. -/

section empty_output

/-- There is a record under the key. -/
def has_record (key : String) (trace : List Event) : Bool :=
  trace.any fun
    | .recorded k _ => decide (k = key)
    | _ => false

theorem exists_of_has_record {key : String} {trace : List Event} (h : has_record key trace = true) :
    ∃ output, Event.recorded key output ∈ trace := by
  obtain ⟨event, hmem, hevent⟩ := List.any_eq_true.mp h
  cases event with
  | recorded k output =>
    have hk : k = key := by simpa using hevent
    subst hk
    exact ⟨output, hmem⟩
  | _ => cases hevent

def drafting : WorkflowDef :=
  plain_workflow ["draft", "send"] (by decide) (fun _ _ _ => .returned none []) fun _ => none

/-- A started run, with the given idempotency store. -/
def drafting_started (idem : IdemStore) : World :=
  (Program.after (exec reference_env) 10 ((start_run plain_start).discard)
    (World.fresh idem none (singleton_registry drafting))).2

/-- The pass up to and including the record of `draft`. -/
def draft_recorded (idem : IdemStore) : M Unit × World :=
  Program.after (exec reference_env) 13 ((reference_engine.execute 1 "id-0").discard)
    (drafting_started idem)

/-- The store fails; the pass runs to its end and parks the run. -/
def draft_parked : M Unit × World :=
  Program.after (exec reference_env) 20
    (lose (.other "OperationalError" "connection lost") (draft_recorded (.in_memory ∅)).1)
    (draft_recorded (.in_memory ∅)).2

def draft_redriven : M Unit × World :=
  Program.after (exec reference_env) 1 (await (.update_run_status "id-0" .RUNNING none none))
    draft_parked.2

/-- Seven calls into the next pass. -/
def draft_again : M Unit × World :=
  Program.after (exec reference_env) 7 ((reference_engine.execute 1 "id-0").discard)
    draft_redriven.2

/-- The history starts a run and executes it up to the record of `draft`. -/
theorem draft_recorded_sequential (idem : IdemStore) :
    Sequential (faulty reference_env) reference_engine (singleton_registry drafting)
      (Admitted reference_crypto "plain") (draft_recorded idem).1 (draft_recorded idem).2 := by
  have hboot : Sequential (faulty reference_env) reference_engine (singleton_registry drafting)
      (Admitted reference_crypto "plain") (.ret ())
      (World.fresh idem none (singleton_registry drafting)) := .boot ⟨_, _, rfl⟩
  have hstart := Session.start hboot ⟨.start_run plain_start, .start_run rfl, rfl⟩
  have hstarted := hstart.proceed (steps_answered reference_env 10 _ _)
  have hexec := Session.start hstarted ⟨.execute 1 "id-0", .execute 1 "id-0", rfl⟩
  exact hexec.proceed (steps_answered reference_env 13 _ _)

/-- **An empty output is not recognised in memory**: the record of `draft` has been made, and
    the handler of `draft` is about to be invoked again for the same run. -/
theorem empty_record_invoked_again :
    ∃ p w output, Sequential (faulty reference_env) reference_engine (singleton_registry drafting)
      (Admitted reference_crypto "plain") p w ∧ invoking p = some ("id-0", "draft") ∧
      Event.recorded ("id-0" ++ ":" ++ "draft") output ∈ w.trace := by
  obtain ⟨output, hrecorded⟩ := exists_of_has_record
    (show has_record ("id-0" ++ ":" ++ "draft") draft_again.2.trace = true by decide +kernel)
  refine ⟨draft_again.1, draft_again.2, output, ?_, by decide +kernel, hrecorded⟩
  have hlost := (draft_recorded_sequential (.in_memory ∅)).proceed
    (steps_lose reference_env (.other "OperationalError" "connection lost") _ _)
  have hparked := hlost.proceed (steps_answered reference_env 20 _ _)
  have hredrive := Session.start hparked
    ⟨.update_run_status "id-0" .RUNNING, .update_run_status "id-0" .RUNNING, rfl⟩
  have hredriven := hredrive.proceed (steps_answered reference_env 1 _ _)
  have hexec := Session.start hredriven ⟨.execute 1 "id-0", .execute 1 "id-0", rfl⟩
  exact hexec.proceed (steps_answered reference_env 7 _ _)

/-- The same crash with Redis: the next pass goes on to `send`. -/
def draft_resumed : M Unit × World :=
  Program.after (exec reference_env) 9 ((reference_engine.execute 1 "id-0").discard)
    (draft_recorded (.redis ∅)).2

/-- With Redis the recorded step is skipped, and `send` runs without a record of its own. -/
theorem redis_record_recognised :
    invoking draft_resumed.1 = some ("id-0", "send") ∧
      Event.recorded ("id-0" ++ ":" ++ "send") [] ∉ draft_resumed.2.trace := by
  have hnext : invoking draft_resumed.1 = some ("id-0", "send") := by decide +kernel
  have hboot : Sequential (recognisable reference_env) reference_engine
      (singleton_registry drafting) (Admitted reference_crypto "plain") (.ret ())
      (World.fresh (.redis ∅) none (singleton_registry drafting)) := .boot ⟨_, _, rfl⟩
  have hstart := Session.start hboot ⟨.start_run plain_start, .start_run rfl, rfl⟩
  obtain ⟨hsteps₁, hredis₁⟩ := steps_redis reference_env 10
    ((start_run plain_start).discard) (World.fresh (.redis ∅) none (singleton_registry drafting)) rfl
  have hexec := Session.start (hstart.proceed hsteps₁)
    ⟨.execute 1 "id-0", .execute 1 "id-0", rfl⟩
  obtain ⟨hsteps₂, hredis₂⟩ := steps_redis reference_env 13
    ((reference_engine.execute 1 "id-0").discard) _ hredis₁
  have hagain := Session.start (hexec.proceed hsteps₂)
    ⟨.execute 1 "id-0", .execute 1 "id-0", rfl⟩
  obtain ⟨hsteps₃, -⟩ := steps_redis reference_env 9
    ((reference_engine.execute 1 "id-0").discard) _ hredis₂
  have hresumed : Sequential (recognisable reference_env) reference_engine
      (singleton_registry drafting) (Admitted reference_crypto "plain") draft_resumed.1
      draft_resumed.2 := hagain.proceed hsteps₃
  exact ⟨hnext, recorded_step_not_invoked_again (latest_singleton drafting) hresumed hnext []⟩

end empty_output

end CaseAutomation.Orchestrator
