import CaseAutomation.Framework.Issues
import CaseAutomation.Orchestrator.Gates
import CaseAutomation.Orchestrator.Triggers

/-! # Which Calls the Helpers Make

    The helpers of the engine and the resolver, described by the calls they can
    make. `P` is whatever the caller needs to know about a call.
-/

namespace CaseAutomation.Orchestrator

open Framework Program

variable {P : Call → Prop}

namespace Engine

theorem audit_issues (engine : Engine) (action run_id : String) (inputs outputs : JsonObj)
    (haudit : ∀ entry, P (.audit entry)) :
    Issues P (audit engine action run_id inputs outputs) := by
  unfold audit
  split
  · exact .bind (.attempt (.perform (haudit _))) fun _ => .ret
  · exact .ret

theorem reload_issues (run_id : String) (hget : P (.get_run run_id)) :
    Issues P (reload run_id) := by
  refine .bind (.perform hget) fun found => ?_
  cases found with
  | none => exact .raise
  | some run => exact .ret

theorem begin_run_issues (run_id : String) (run : WorkflowRun)
    (hstart : run.status = .QUEUED → P (.update_run_status run_id .RUNNING none none))
    (hget : P (.get_run run_id)) : Issues P (begin_run run_id run) := by
  unfold begin_run
  split
  · next hqueued =>
    refine .bind (.perform (hstart hqueued)) ?_
    intro _
    refine .bind (.perform hget) ?_
    intro found
    cases found with
    | none => exact .raise
    | some run => exact .ret
  · exact .ret

theorem run_compensations_issues (run_id : String) (fns : List Compensation)
    (hcomp : ∀ fn, P (.compensate run_id fn)) : Issues P (run_compensations run_id fns) := by
  induction fns with
  | nil => exact .ret
  | cons fn rest ih => exact .bind (.attempt (.perform (hcomp fn))) fun _ => ih

theorem park_issues (engine : Engine) (run_id : String) (err : StepError)
    (compensations : List Compensation) (hcomp : ∀ fn, P (.compensate run_id fn))
    (hstatus : P (.update_run_status run_id .PARKED none (some err)))
    (haudit : ∀ entry, P (.audit entry)) :
    Issues P (park engine run_id err compensations) :=
  .bind (run_compensations_issues run_id _ hcomp) fun _ =>
    .bind (.perform hstatus) fun _ => audit_issues engine _ _ _ _ haudit

theorem issue_tokens_issues (engine : Engine) (gate_id run_id step : String) (ttl : Int)
    (channels : List Channel) (huuid : P .uuid4) (hnow : P .now)
    (hsave : ∀ token, P (.save_token token)) :
    Issues P (issue_tokens engine gate_id run_id step ttl channels) := by
  induction channels with
  | nil => exact .ret
  | cons channel rest ih =>
    exact .bind (.perform huuid) fun _ => .bind (.perform hnow) fun _ =>
      .bind (.perform (hsave _)) fun _ => ih

theorem handle_gate_issues (engine : Engine) (run : WorkflowRun) (row : StepState)
    (cfg : GateConfig) (huuid : P .uuid4) (hnow : P .now)
    (hcreate : ∀ gate_id now, P (.create_gate_request (gate_request run.id row.step gate_id cfg now)))
    (hsave : ∀ token, P (.save_token token))
    (hstatus : P (.update_run_status run.id .AWAITING_APPROVAL none none))
    (haudit : ∀ entry, P (.audit entry)) :
    Issues P (handle_gate engine run row cfg) :=
  .bind (.perform huuid) fun _ => .bind (.perform hnow) fun _ =>
    .bind (.perform (hcreate _ _)) fun _ =>
      .bind (issue_tokens_issues engine _ _ _ _ _ huuid hnow hsave) fun _ =>
        .bind (.perform hstatus) fun _ => audit_issues engine _ _ _ _ haudit

end Engine

theorem maybe_audit_issues (audited : Bool) (actor action : String) (inputs : JsonObj)
    (haudit : ∀ entry, P (.audit entry)) :
    Issues P (maybe_audit audited actor action inputs) := by
  unfold maybe_audit
  split
  · exact .bind (.attempt (.perform (haudit _))) fun _ => .ret
  · exact .ret

/-! ## Execution passes -/

/-- The calls an execution pass can make. It never creates runs, resolves gates or writes the
    row of a gate step. -/
def Call.of_pass : Call → Bool
  | .create_run _ _ => false
  | .advance_gate_step _ _ => false
  | .update_step row => !is_gate row.step
  | .update_gate_request _ => false
  | .mark_token_used _ _ => false
  | .save_approval_decision _ => false
  | _ => true

/-- The calls of a pass itself, without the lock around it. -/
def Call.in_pass : Call → Bool
  | .acquire _ => false
  | .release _ => false
  | c => c.of_pass

theorem Call.of_pass_of_in_pass {c : Call} (h : c.in_pass = true) : c.of_pass = true := by
  cases c with
  | acquire run_id => rfl
  | release run_id => rfl
  | _ => exact h

namespace Engine

theorem try_step_issues (engine : Engine) (defn : WorkflowDef) (run_id : String) (row : StepState)
    (ctx : StepContext) (compensations : List Compensation)
    (hinvoke : ∀ handler, P (.invoke handler row.step ctx)) (hreserve : P (.reserve row.idem_key))
    (hrecord : ∀ output, P (.record row.idem_key output)) (hnow : P .now)
    (hupdate : ∀ output now, P (.update_step (succeeded_row row output now)))
    (haudit : ∀ entry, P (.audit entry)) (hcurrent : P (.set_current_step run_id row.step)) :
    Issues P (try_step engine defn run_id row ctx compensations) := by
  unfold try_step
  cases defn.handlers row.step with
  | none => exact .ret
  | some handler =>
    refine .bind (.attempt (.perform (hinvoke handler))) ?_
    intro returned
    rcases returned with e | ⟨output, hooks⟩
    · exact .ret
    refine .bind (.attempt (.bind (.perform hreserve) fun _ => .perform (hrecord _))) ?_
    intro recorded
    rcases recorded with e | u
    · exact .ret
    refine .bind (.perform hnow) ?_
    intro now
    refine .bind (.attempt (.bind (.perform (hupdate _ now)) fun _ =>
      .bind (audit_issues engine _ _ _ _ haudit) fun _ => .perform hcurrent)) ?_
    intro completed
    rcases completed with e | u
    · exact .ret
    · exact .ret

theorem try_step_in_pass (engine : Engine) (defn : WorkflowDef) (run_id : String) (row : StepState)
    (ctx : StepContext) (compensations : List Compensation) (hrow : (!is_gate row.step) = true) :
    Issues (fun c => c.in_pass = true) (try_step engine defn run_id row ctx compensations) :=
  try_step_issues engine defn run_id row ctx compensations (fun _ => rfl) rfl (fun _ => rfl) rfl
    (fun _ _ => hrow) (fun _ => rfl) rfl

/-- The row that leaves the `try` block is the one it came with, or that row completed. -/
theorem try_step_returns (engine : Engine) (defn : WorkflowDef) (run_id : String)
    (row : StepState) (ctx : StepContext) (compensations : List Compensation) :
    Returns (fun done => done.row = row ∨ ∃ output now, done.row = succeeded_row row output now)
      (try_step engine defn run_id row ctx compensations) := by
  unfold try_step
  cases defn.handlers row.step with
  | none => exact Or.inl rfl
  | some handler =>
    apply Returns.bind
    intro returned
    rcases returned with e | ⟨output, hooks⟩
    · exact Or.inl rfl
    apply Returns.bind
    intro recorded
    rcases recorded with e | u
    · exact Or.inl rfl
    apply Returns.bind
    intro now
    apply Returns.bind
    intro completed
    rcases completed with e | u
    · exact Or.inr ⟨_, now, rfl⟩
    · exact Or.inr ⟨_, now, rfl⟩

/-- Either way it has the name it came with. -/
theorem try_step_returns_row (engine : Engine) (defn : WorkflowDef) (run_id : String)
    (row : StepState) (ctx : StepContext) (compensations : List Compensation) :
    Returns (fun done => done.row.step = row.step)
      (try_step engine defn run_id row ctx compensations) := by
  apply (try_step_returns engine defn run_id row ctx compensations).mono
  rintro done (hrow | ⟨output, now, hrow⟩)
  · rw [hrow]
  · rw [hrow]
    rfl

/-- A failed step ends in the recursive call, or parks the run. -/
theorem fail_step_leads (engine : Engine) {again : M WorkflowRun} {T : M WorkflowRun → Prop}
    (run_id : String) (row : StepState) (compensations : List Compensation) (exn : Exn)
    (hagain : T again) (hrow : (!is_gate row.step) = true) :
    Leads (fun c => c.in_pass = true) T
      (fail_step engine again run_id row compensations exn) := by
  unfold fail_step
  refine .bind (.perform rfl) ?_
  intro now
  refine .bind (.perform (by exact hrow)) ?_
  intro _
  split
  · exact .bind (.perform (by exact hrow)) fun _ => .tail hagain
  · apply Leads.of_issues
    exact .bind (park_issues engine run_id _ _ (fun _ => rfl) rfl fun _ => rfl) fun _ =>
      reload_issues run_id rfl

theorem execute_loop_leads (engine : Engine) {again : M WorkflowRun} {T : M WorkflowRun → Prop}
    (run : WorkflowRun) (defn : WorkflowDef) (run_id : String) (rows : List StepState)
    (outputs : Dict String JsonObj) (compensations : List Compensation) (hagain : T again) :
    Leads (fun c => c.in_pass = true) T
      (execute_loop engine again run defn run_id rows outputs compensations) := by
  induction rows generalizing outputs compensations with
  | nil =>
    apply Leads.of_issues
    exact .bind (.perform rfl) fun _ =>
      .bind (audit_issues engine _ _ _ _ fun _ => rfl) fun _ => reload_issues run_id rfl
  | cons row rest ih =>
    unfold execute_loop
    by_cases hdone : step_done row.status = true
    · rw [if_pos hdone]
      exact ih _ _
    rw [if_neg hdone]
    by_cases hgate : is_gate row.step = true
    · rw [if_pos hgate]
      apply Leads.of_issues
      exact .bind (handle_gate_issues engine run row _ rfl rfl (fun _ _ => rfl) (fun _ => rfl) rfl
        fun _ => rfl) fun _ => reload_issues run_id rfl
    rw [if_neg hgate]
    have hrow : (!is_gate row.step) = true := by simpa using hgate
    refine .bind (.perform rfl) ?_
    intro found
    cases found with
    | some existing => exact .bind (.perform rfl) fun _ => ih _ _
    | none =>
      refine .bind (.perform rfl) ?_
      intro now
      refine .bind (.perform (by exact hrow)) ?_
      intro _
      refine .bind_returns (try_step_in_pass engine defn run_id (running_row row now) _
        compensations hrow) (try_step_returns_row engine defn run_id _ _ compensations) ?_
      intro done hname
      cases done.result with
      | ok output => exact ih _ _
      | error e =>
        apply fail_step_leads engine run_id _ _ e hagain
        rw [hname]
        exact hrow

theorem execute_loop_of_pass (engine : Engine) {again : M WorkflowRun} (run : WorkflowRun)
    (defn : WorkflowDef) (run_id : String) (rows : List StepState)
    (outputs : Dict String JsonObj) (compensations : List Compensation)
    (hagain : Issues (fun c => c.of_pass = true) again) :
    Issues (fun c => c.of_pass = true)
      (execute_loop engine again run defn run_id rows outputs compensations) :=
  (execute_loop_leads (T := Issues fun c => c.of_pass = true) engine run defn run_id rows outputs
    compensations hagain).issues (fun _ => Call.of_pass_of_in_pass) fun _ h => h

/-- The pass under the lock ends in the recursive call, or makes the calls of a pass. -/
theorem execute_locked_leads (engine : Engine) {again : M WorkflowRun} {T : M WorkflowRun → Prop}
    (run_id : String) (hagain : T again) :
    Leads (fun c => c.in_pass = true) T (execute_locked engine again run_id) := by
  refine .bind (.perform rfl) ?_
  intro found
  cases found with
  | none => exact True.intro
  | some run =>
    refine .bind (begin_run_issues run_id run (fun _ => rfl) rfl) ?_
    intro run'
    refine .bind (.perform rfl) ?_
    intro defn
    refine .bind (.perform rfl) ?_
    intro rows
    exact execute_loop_leads engine run' defn run_id rows _ _ hagain

/-- An execution makes the calls of a pass. -/
theorem execute_of_pass (engine : Engine) (depth : Nat) (run_id : String) :
    Issues (fun c => c.of_pass = true) (execute engine depth run_id) := by
  induction depth with
  | zero => exact .raise
  | succ depth ih =>
    refine .bind (.perform rfl) ?_
    intro granted
    cases granted with
    | false =>
      refine .bind (.perform rfl) ?_
      intro found
      cases found with
      | none => exact .raise
      | some run => exact .ret
    | true =>
      apply Issues.tryFinally
      · exact (execute_locked_leads (T := Issues fun c => c.of_pass = true) engine run_id ih).issues
          (fun _ => Call.of_pass_of_in_pass) fun _ h => h
      · exact .perform rfl

end Engine

/-! ## The recovery sweep -/

/-- The calls of a sweep, around the executions of the runs it finds. -/
theorem recovery_sweep_issues (engine : Engine) (depth : Nat) (enqueue : Bool)
    (hfind : P .find_recoverable_runs) (hget : ∀ run_id, P (.get_run run_id))
    (henqueue : ∀ run_id, P (.enqueue run_id)) (hlog : ∀ event run_id exn, P (.log_error event run_id exn))
    (hexecute : ∀ run_id, Issues P (engine.execute depth run_id)) :
    Issues P (recovery_sweep engine depth enqueue) := by
  refine .bind (.perform hfind) ?_
  intro run_ids
  induction run_ids with
  | nil => exact .ret
  | cons run_id rest ih =>
    refine .bind (.perform (hget run_id)) ?_
    intro found
    cases found with
    | none => exact ih
    | some run =>
      simp only
      split
      · exact ih
      refine .bind ?_ fun _ => .bind ih fun _ => .ret
      unfold sweep_run
      split
      · exact .perform (henqueue run_id)
      refine .bind (.attempt (hexecute run_id)) ?_
      intro r
      cases r with
      | ok _ => exact .ret
      | error e => exact .perform (hlog _ _ _)

/-! ## Requests that invoke no handler -/

/-- The call invokes a handler. -/
def Call.invokes : Call → Bool
  | .invoke _ _ _ => true
  | _ => false

/-- The calls of `start_run`. -/
theorem start_run_issues (args : StartArgs) (hlatest : ∀ name, P (.get_workflow_latest name))
    (hnow : P .now) (huuid : P .uuid4)
    (hcreate : ∀ run run_id steps, P (.create_run run (initial_rows run_id 0 steps))) :
    Issues P (start_run args) := by
  refine .bind (.perform (hlatest _)) ?_
  intro defn
  refine .bind .ofExcept ?_
  intro _
  refine .bind (.perform hnow) ?_
  intro now
  apply Issues.bind
  · unfold StartArgs.choose_run_id
    split
    · exact .ret
    · exact .perform huuid
  intro run_id
  exact .perform (hcreate _ _ _)

theorem start_run_no_invoke (args : StartArgs) :
    Issues (fun c => c.invokes = false) (start_run args) :=
  start_run_issues args (fun _ => rfl) rfl rfl fun _ _ _ => rfl

/-- The calls of a resolution whose token verifies. -/
theorem use_token_issues (args : ResolveArgs) (payload : TokenPayload) (hnow : P .now)
    (htoken : P (.get_token payload.tid)) (hmark : ∀ at_time, P (.mark_token_used payload.tid at_time))
    (hgate : P (.get_gate_request payload.gid))
    (hdecide : ∀ at_time, P (.save_approval_decision (args.approval_decision payload at_time)))
    (hupdate : ∀ gate, P (.update_gate_request gate))
    (hstatus : P (.update_run_status payload.rid args.decision.run_status none none))
    (hadvance : P (.advance_gate_step payload.rid payload.step))
    (haudit : ∀ entry, P (.audit entry)) : Issues P (use_token args payload) := by
  have hlog : ∀ actor action inputs, Issues P (maybe_audit args.audited actor action inputs) :=
    fun _ _ _ => maybe_audit_issues _ _ _ _ haudit
  unfold use_token
  refine .bind (.perform hnow) ?_
  intro now
  split
  · exact .bind (hlog _ _ _) fun _ => .raise
  refine .bind (.perform htoken) ?_
  intro found
  cases found with
  | none => exact .raise
  | some token =>
    refine .bind (.perform hnow) ?_
    intro used_at
    refine .bind (.perform (hmark used_at)) ?_
    intro first_use
    split
    · unfold check_gate
      refine .bind (.perform hgate) ?_
      intro gate
      cases gate with
      | none => exact .raise
      | some gate =>
        simp only
        split
        · exact .raise
        split
        · exact .raise
        · exact .bind (hlog _ _ _) fun _ => .raise
        · unfold record_resolution
          refine .bind (.perform hnow) ?_
          intro decided_at
          refine .bind (.perform (hdecide decided_at)) ?_
          intro _
          refine .bind (.perform (hupdate _)) ?_
          intro _
          refine .bind (hlog _ _ _) ?_
          intro _
          refine .bind (.perform hstatus) ?_
          intro _
          apply Issues.bind
          · unfold resume_step
            cases args.decision with
            | approve => exact .perform hadvance
            | reject => exact .ret
          · intro _
            exact .ret
    · exact .bind (hlog _ _ _) fun _ => .raise

/-- The calls of a gate resolution. -/
def Call.of_resolution : Call → Bool
  | .now => true
  | .get_token _ => true
  | .mark_token_used _ _ => true
  | .get_gate_request _ => true
  | .save_approval_decision _ => true
  | .update_gate_request _ => true
  | .update_run_status _ _ _ _ => true
  | .advance_gate_step _ _ => true
  | .audit _ => true
  | _ => false

/-- The calls of a gate resolution, for the run and the step of the token. -/
def Call.resolves (payload : TokenPayload) : Call → Bool
  | .update_run_status run_id status _ _ =>
    decide (run_id = payload.rid ∧ (status = .RUNNING ∨ status = .REJECTED))
  | .advance_gate_step run_id step => decide (run_id = payload.rid ∧ step = payload.step)
  | c => c.of_resolution

theorem use_token_resolves (args : ResolveArgs) (payload : TokenPayload) :
    Issues (fun c => c.resolves payload = true) (use_token args payload) := by
  have hstatus : Call.resolves payload
      (.update_run_status payload.rid args.decision.run_status none none) = true := by
    cases args.decision <;> simp [Call.resolves, Decision.run_status]
  have hadvance : Call.resolves payload (.advance_gate_step payload.rid payload.step) = true := by
    simp [Call.resolves]
  exact use_token_issues args payload rfl rfl (fun _ => rfl) rfl (fun _ => rfl) (fun _ => rfl) hstatus
    hadvance fun _ => rfl

theorem resolve_gate_of_resolution (crypto : Crypto) (args : ResolveArgs) :
    Issues (fun c => c.of_resolution = true) (resolve_gate crypto args) := by
  unfold resolve_gate
  split
  · exact .raise
  · exact .bind (maybe_audit_issues _ _ _ _ fun _ => rfl) fun _ => .raise
  · next payload _ =>
    apply (use_token_resolves args payload).mono
    intro c hc
    cases c <;> first | rfl | exact hc

theorem resolve_gate_no_invoke (crypto : Crypto) (args : ResolveArgs) :
    Issues (fun c => c.invokes = false) (resolve_gate crypto args) := by
  apply (resolve_gate_of_resolution crypto args).mono
  intro c hc
  cases c with
  | invoke handler step ctx => cases hc
  | _ => rfl

end CaseAutomation.Orchestrator
