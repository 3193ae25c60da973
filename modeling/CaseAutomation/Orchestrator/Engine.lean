import CaseAutomation.Orchestrator.World
import CaseAutomation.Orchestrator.Tokens

/-! # The Workflow Engine

    `WorkflowEngine` of `orchestrator/engine.py`: `execute` drives one run until it
    finishes, waits at a gate, parks, or an exception escapes.

    Left out: log lines, tracing spans, and the length of the retry pause (the
    pause itself changes nothing in the stores).
-/

namespace CaseAutomation.Orchestrator

open Framework Program

def MAX_ATTEMPTS : Nat := 5

/-- The configuration of a `WorkflowEngine`; the stores and the lock are the `World`'s. -/
structure Engine where
  crypto : Crypto
  signing_key : Bytes
  /-- Whether an `audit_fn` was injected. -/
  audited : Bool

/-- `_classify_error`. -/
def classify_error (exn : Exn) (attempt : Nat) : StepError :=
  match exn with
  | .connector cls _ detail =>
    { error_class := cls.name, detail := detail, attempt := attempt, retryable := cls.retryable }
  | e =>
    { error_class := e.class_name, detail := slice_to e.to_str 200, attempt := attempt,
      retryable := false }

/-- `StepError.model_dump()`. -/
def StepError.model_dump (err : StepError) : JsonObj :=
  [("error_class", .str err.error_class), ("detail", .str err.detail),
    ("attempt", .int err.attempt), ("retryable", .bool err.retryable)]

namespace Engine

/-- `_audit`: exceptions of the audit service are swallowed. -/
def audit (engine : Engine) (action run_id : String) (inputs outputs : JsonObj) : M Unit :=
  if engine.audited then do
    let _ ← (await (.audit
      { actor := "workflow_engine", action := action, inputs := inputs, outputs := outputs,
        run_id := some run_id }) : M Unit).attempt
    pure ()
  else pure ()

/-- `result = await store.get_run(run_id); assert result is not None; return result`. -/
def reload (run_id : String) : M WorkflowRun := do
  match ← await (.get_run run_id) with
  | none => raise .assertion_error
  | some run => pure run

/-! ## Gates -/

/-- The loop that issues and stores one token per channel. The raw token leaves
    through the channel and is never stored. -/
def issue_tokens (engine : Engine) (gate_id run_id step : String) (ttl_seconds : Int) :
    List Channel → M Unit
  | [] => pure ()
  | channel :: rest => do
    let token_id ← await .uuid4
    let now ← await .now
    await (.save_token (issue_token engine.crypto gate_id run_id step channel
      engine.signing_key ttl_seconds token_id now).2)
    issue_tokens engine gate_id run_id step ttl_seconds rest

/-- The gate request `_handle_gate` creates. -/
def gate_request (run_id step gate_id : String) (cfg : GateConfig) (now : Time) : GateRequest where
  id := gate_id
  run_id := run_id
  step := step
  required_role := cfg.required_role
  quorum := cfg.quorum
  status := .pending
  channels := cfg.channels
  created_at := now
  expires_at := now + seconds cfg.ttl_seconds

/-- `_handle_gate`: create the request, issue its tokens, then park the run at the gate. -/
def handle_gate (engine : Engine) (run : WorkflowRun) (row : StepState) (cfg : GateConfig) :
    M Unit := do
  let gate_id ← await .uuid4
  let now ← await .now
  await (.create_gate_request (gate_request run.id row.step gate_id cfg now))
  issue_tokens engine gate_id run.id row.step cfg.ttl_seconds cfg.channels
  await (.update_run_status run.id .AWAITING_APPROVAL none none)
  audit engine "gate.requested" run.id
    [("step", .str row.step), ("gate_id", .str gate_id),
      ("channels", .arr (cfg.channels.map fun c => .str c.value))] []

/-! ## Parking -/

/-- Call the hooks in the given order, swallowing their exceptions. -/
def run_compensations (run_id : String) : List Compensation → M Unit
  | [] => pure ()
  | fn :: rest => do
    let _ ← (await (.compensate run_id fn) : M Unit).attempt
    run_compensations run_id rest

/-- `_park`. -/
def park (engine : Engine) (run_id : String) (err : StepError)
    (compensations : List Compensation) : M Unit := do
  run_compensations run_id compensations.reverse
  await (.update_run_status run_id .PARKED none (some err))
  audit engine "run.parked" run_id [("error", .obj err.model_dump)] []

/-! ## One step -/

/-- The locals when the `try` block of a step ends: the step row, the hooks
    registered so far in this pass, and the output or the exception. -/
structure Attempted where
  row : StepState
  compensations : List Compensation
  result : Except Exn JsonObj

/-- The row as it is written before the handler runs. -/
def running_row (row : StepState) (now : Time) : StepState :=
  { row with status := .RUNNING, started_at := some now }

/-- The row as it is written after the handler returned. -/
def succeeded_row (row : StepState) (output : JsonObj) (now : Time) : StepState :=
  { row with
    status := .SUCCEEDED
    output := some output
    ended_at := some now
    attempt := row.attempt + 1 }

/-- The row as it is written after an exception. -/
def failed_row (row : StepState) (err : StepError) (now : Time) : StepState :=
  { row with
    status := .FAILED
    error := some err
    attempt := row.attempt + 1
    ended_at := some now }

/-- The `try` block of a step: run the handler, record its output, complete the row. -/
def try_step (engine : Engine) (defn : WorkflowDef) (run_id : String) (row : StepState)
    (ctx : StepContext) (compensations : List Compensation) : M Attempted := do
  match defn.handlers row.step with
  | none => pure ⟨row, compensations, .error (.key_error row.step)⟩
  | some handler =>
    match ← (await (.invoke handler row.step ctx) :
        M (Option JsonObj × List Compensation)).attempt with
    | .error e => pure ⟨row, compensations, .error e⟩
    | .ok (returned, hooks) =>
      let output := returned.getD []
      match ← (do
          let _ ← await (.reserve row.idem_key)
          await (.record row.idem_key output) : M Unit).attempt with
      | .error e => pure ⟨row, compensations, .error e⟩
      | .ok () =>
        let compensations := compensations ++ hooks
        let now ← await .now
        let row := succeeded_row row output now
        match ← (do
            await (.update_step row)
            audit engine "step.succeeded" run_id [("step", .str row.step)] output
            await (.set_current_step run_id row.step) : M Unit).attempt with
        | .error e => pure ⟨row, compensations, .error e⟩
        | .ok () => pure ⟨row, compensations, .ok output⟩

/-- The `except Exception` block of a step: mark the row failed, then retry or park.
    `again` is the recursive call of `execute`. -/
def fail_step (engine : Engine) (again : M WorkflowRun) (run_id : String) (row : StepState)
    (compensations : List Compensation) (exn : Exn) : M WorkflowRun := do
  let err := classify_error exn row.attempt
  let now ← await .now
  let row := failed_row row err now
  await (.update_step row)
  if err.retryable && decide (row.attempt < MAX_ATTEMPTS) then do
    -- after the pause, the row is reset and the whole run re-executed
    await (.update_step { row with status := .PENDING })
    again
  else do
    park engine run_id err compensations
    reload run_id

/-! ## The execution pass -/

/-- The row needs no work: it succeeded, was skipped or was compensated. -/
def step_done (status : StepStatus) : Bool :=
  decide (status = .SUCCEEDED) || decide (status = .SKIPPED) || decide (status = .COMPENSATED)

/-- `outputs[step] = output` unless the output is `None`. -/
def add_output (outputs : Dict String JsonObj) (row : StepState) : Dict String JsonObj :=
  match row.output with
  | some output => outputs.set row.step output
  | none => outputs

/-- The `for` loop of `_execute` over the remaining rows, with the outputs and hooks
    accumulated so far, and the code after the loop. -/
def execute_loop (engine : Engine) (again : M WorkflowRun) (run : WorkflowRun)
    (defn : WorkflowDef) (run_id : String) :
    List StepState → Dict String JsonObj → List Compensation → M WorkflowRun
  | [], _, _ => do
    await (.update_run_status run_id .SUCCEEDED none none)
    audit engine "run.succeeded" run_id [] []
    reload run_id
  | row :: rest, outputs, compensations =>
    if step_done row.status then
      execute_loop engine again run defn run_id rest (add_output outputs row) compensations
    else if is_gate row.step then do
      handle_gate engine run row (defn.gate_config row.step)
      reload run_id
    else do
      match ← await (.lookup row.idem_key) with
      | some existing =>
        -- short-circuit: the recorded output is reused and the row is left as it is
        await (.set_current_step run_id row.step)
        execute_loop engine again run defn run_id rest (outputs.set row.step existing)
          compensations
      | none =>
        let now ← await .now
        let row := running_row row now
        await (.update_step row)
        let ctx : StepContext :=
          { run_id := run_id, context := run.context, step_outputs := outputs,
            idem_key := row.idem_key }
        let done ← try_step engine defn run_id row ctx compensations
        match done.result with
        | .ok output =>
          execute_loop engine again run defn run_id rest (outputs.set row.step output)
            done.compensations
        | .error e => fail_step engine again run_id done.row done.compensations e

/-- The outputs already stored when a pass starts. -/
def stored_outputs (rows : List StepState) : Dict String JsonObj :=
  rows.foldl add_output ∅

/-- The transition of a queued run to running, and the run read back. -/
def begin_run (run_id : String) (run : WorkflowRun) : M WorkflowRun :=
  if run.status = .QUEUED then do
    await (.update_run_status run_id .RUNNING none none)
    match ← await (.get_run run_id) with
    | none => raise (.other "AttributeError" "'NoneType' object has no attribute 'workflow'")
    | some run => pure run
  else pure run

/-- `_execute`: one pass, with the run lock held. -/
def execute_locked (engine : Engine) (again : M WorkflowRun) (run_id : String) :
    M WorkflowRun := do
  match ← await (.get_run run_id) with
  | none => raise (run_not_found run_id)
  | some run => do
    let run ← begin_run run_id run
    let defn ← await (.get_workflow_latest run.workflow)
    let steps ← await (.get_steps run_id)
    execute_loop engine again run defn run_id steps (stored_outputs steps) []

/-- `execute`: take the run lock and make a pass; if another worker holds the lock,
    return the run as it is. The first argument is the recursion depth left to the
    interpreter. -/
def execute (engine : Engine) : Nat → String → M WorkflowRun
  | 0, _ => raise .recursion_error
  | depth + 1, run_id => do
    if ← await (.acquire run_id) then
      (execute_locked engine (execute engine depth run_id) run_id).tryFinally
        (await (.release run_id))
    else
      match ← await (.get_run run_id) with
      | none => raise (run_not_found run_id)
      | some run => pure run

end Engine

end CaseAutomation.Orchestrator
