import CaseAutomation.Framework.Dict
import CaseAutomation.Orchestrator.States

/-! # The In-Memory Run Store

    `orchestrator/store.py`: runs, step rows, gate requests, tokens, decisions
    and dedupe keys. Each method is one atomic call. Methods that stamp a row
    take the instant they read as an argument; methods that raise return the
    exception and leave the store as it was.
-/

namespace CaseAutomation.Orchestrator

open Framework

/-- The dictionaries of `InMemoryRunStore`. -/
structure RunStore where
  runs : Dict String WorkflowRun
  steps : Dict String (List StepState)
  gates : Dict String GateRequest
  tokens : Dict String ApprovalToken
  decisions : List ApprovalDecision
  dedupe : Dict String String

/-- The exception of every access to a missing run. -/
def run_not_found (run_id : String) : Exn :=
  .key_error ("Run " ++ repr_str run_id ++ " not found.")

namespace RunStore

/-- The store `InMemoryRunStore()` starts with. -/
def empty : RunStore := ⟨∅, ∅, ∅, ∅, [], ∅⟩

/-! ## Runs -/

/-- The id of the run already created under the dedupe key of `run`, if any. -/
def dedupe_hit (s : RunStore) (run : WorkflowRun) : Option String :=
  match run.trigger.dedupe_key with
  | none => none
  | some key => if key = "" then none else s.dedupe.get? key

/-- `create_run`. -/
def create_run (s : RunStore) (run : WorkflowRun) (steps : List StepState) :
    Except Exn (WorkflowRun × RunStore) :=
  match s.dedupe_hit run with
  | some existing_id =>
    match s.runs.get? existing_id with
    | some existing => .ok (existing, s)
    | none => .error (.key_error existing_id)
  | none =>
    .ok (run, { s with
      runs := s.runs.set run.id run
      steps := s.steps.set run.id steps
      dedupe := match run.trigger.dedupe_key with
        | none => s.dedupe
        | some key => if key = "" then s.dedupe else s.dedupe.set key run.id })

/-- `get_run`. -/
def get_run (s : RunStore) (run_id : String) : Option WorkflowRun := s.runs.get? run_id

/-- The row `update_run_status` writes. -/
def updated_run (run : WorkflowRun) (status : RunStatus) (current_step : Option String)
    (last_error : Option StepError) (now : Time) : WorkflowRun :=
  { run with
    status := status
    updated_at := now
    current_step := match current_step with
      | none => run.current_step
      | some step => some step
    last_error := match last_error with
      | none => run.last_error
      | some err => some err }

/-- `update_run_status`. -/
def update_run_status (s : RunStore) (run_id : String) (status : RunStatus)
    (current_step : Option String) (last_error : Option StepError) (now : Time) :
    Except Exn RunStore :=
  match s.runs.get? run_id with
  | none => .error (run_not_found run_id)
  | some run =>
    if is_legal_run_transition run.status status then
      .ok { s with
        runs := s.runs.set run_id (updated_run run status current_step last_error now) }
    else
      .error (.illegal_transition ("Run " ++ run_id ++ ": " ++ run.status.repr ++ " → " ++
        status.repr ++ " is not a legal transition."))

/-- `set_current_step`. -/
def set_current_step (s : RunStore) (run_id step : String) (now : Time) :
    Except Exn RunStore :=
  match s.runs.get? run_id with
  | none => .error (run_not_found run_id)
  | some run =>
    .ok { s with
      runs := s.runs.set run_id { run with current_step := some step, updated_at := now } }

/-- `find_recoverable_runs`: queued and running runs, in creation order. -/
def find_recoverable_runs (s : RunStore) : List String :=
  (s.runs.values.filter fun r =>
    decide (r.status = .QUEUED) || decide (r.status = .RUNNING)).map WorkflowRun.id

/-! ## Steps -/

/-- `get_steps`. -/
def get_steps (s : RunStore) (run_id : String) : List StepState := (s.steps.get? run_id).getD []

/-- The first row of that name, marked `SUCCEEDED`. -/
def advance_row (step_name : String) (now : Time) : List StepState → List StepState
  | [] => []
  | row :: rest =>
    if row.step = step_name then
      { row with status := .SUCCEEDED, ended_at := some now } :: rest
    else row :: advance_row step_name now rest

/-- `advance_gate_step`: mark a gate step `SUCCEEDED`, bypassing the transition guard.
    A missing row is ignored. -/
def advance_gate_step (s : RunStore) (run_id step_name : String) (now : Time) : RunStore :=
  match s.steps.get? run_id with
  | none => s
  | some rows => { s with steps := s.steps.set run_id (advance_row step_name now rows) }

/-- Replace the first row of that name, if the status change is legal. -/
def update_row (step : StepState) : List StepState → Except Exn (List StepState)
  | [] => .error (.key_error ("Step " ++ repr_str step.step ++ " not found in run " ++
      repr_str step.run_id ++ "."))
  | row :: rest =>
    if row.step = step.step then
      if is_legal_step_transition row.status step.status then .ok (step :: rest)
      else .error (.illegal_transition ("Step " ++ repr_str step.step ++ ": " ++
        row.status.repr ++ " → " ++ step.status.repr ++ " is illegal."))
    else
      match update_row step rest with
      | .ok rest' => .ok (row :: rest')
      | .error e => .error e

/-- `update_step`. -/
def update_step (s : RunStore) (step : StepState) : Except Exn RunStore :=
  match update_row step (s.get_steps step.run_id) with
  | .ok rows => .ok { s with steps := s.steps.set step.run_id rows }
  | .error e => .error e

/-! ## Gates, tokens and decisions -/

/-- `create_gate_request` and `update_gate_request`: both overwrite the row. -/
def put_gate (s : RunStore) (gate : GateRequest) : RunStore :=
  { s with gates := s.gates.set gate.id gate }

/-- `save_token`. -/
def save_token (s : RunStore) (token : ApprovalToken) : RunStore :=
  { s with tokens := s.tokens.set token.id token }

/-- `mark_token_used`: atomic; `false` if the token is unknown or already used. -/
def mark_token_used (s : RunStore) (token_id : String) (used_at : Time) : Bool × RunStore :=
  match s.tokens.get? token_id with
  | none => (false, s)
  | some token =>
    if token.is_used then (false, s)
    else (true, { s with tokens := s.tokens.set token_id { token with used_at := some used_at } })

/-- `save_approval_decision`. -/
def save_approval_decision (s : RunStore) (decision : ApprovalDecision) : RunStore :=
  { s with decisions := s.decisions ++ [decision] }

end RunStore

end CaseAutomation.Orchestrator
