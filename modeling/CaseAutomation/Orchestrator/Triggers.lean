import CaseAutomation.Orchestrator.Engine

/-! # Starting and Recovering Runs

    `start_run` (`orchestrator/triggers.py`) and `recovery_sweep`
    (`orchestrator/recovery.py`).
-/

namespace CaseAutomation.Orchestrator

open Framework Program

/-- `a or b` on optional strings: `None` and `""` are false. -/
def str_or (a b : Option String) : Option String :=
  match a with
  | none => b
  | some s => if s = "" then b else some s

/-- The arguments of a `start_run` call. -/
structure StartArgs where
  workflow_name : String
  context : JsonObj
  trigger : TriggerRef
  idem_key : Option String
  run_id : Option String

/-- The trigger with the dedupe key the run is created under. -/
def StartArgs.deduped_trigger (args : StartArgs) : TriggerRef :=
  match str_or args.idem_key args.trigger.dedupe_key with
  | none => args.trigger
  | some key => if key = "" then args.trigger else { args.trigger with dedupe_key := some key }

/-- The row `start_run` creates for one step. -/
def initial_row (run_id step : String) (seq : Nat) : StepState where
  run_id := run_id
  step := step
  seq := seq
  status := .PENDING
  attempt := 0
  idem_key := run_id ++ ":" ++ step
  output := none
  error := none
  started_at := none
  ended_at := none

/-- One row per declared step, numbered from `seq`. -/
def initial_rows (run_id : String) : Nat → List String → List StepState
  | _, [] => []
  | seq, step :: rest => initial_row run_id step seq :: initial_rows run_id (seq + 1) rest

theorem initial_rows_steps (run_id : String) (seq : Nat) (steps : List String) :
    (initial_rows run_id seq steps).map StepState.step = steps := by
  induction steps generalizing seq with
  | nil => rfl
  | cons step rest ih => rw [initial_rows, List.map_cons, ih]; rfl

theorem mem_initial_rows {run_id : String} {seq : Nat} {steps : List String} {row : StepState}
    (h : row ∈ initial_rows run_id seq steps) : ∃ step seq, row = initial_row run_id step seq := by
  induction steps generalizing seq with
  | nil => cases h
  | cons step rest ih =>
    rcases List.mem_cons.mp h with rfl | h
    · exact ⟨step, seq, rfl⟩
    · exact ih h

/-- The run `start_run` creates. -/
def StartArgs.initial_run (args : StartArgs) (defn : WorkflowDef) (run_id : String)
    (now : Time) : WorkflowRun where
  id := run_id
  workflow := args.workflow_name
  workflow_version := defn.version
  status := .QUEUED
  current_step := none
  trigger := args.deduped_trigger
  context := args.context
  created_at := now
  updated_at := now
  last_error := none

/-- `run_id or str(uuid.uuid4())`. -/
def StartArgs.choose_run_id (args : StartArgs) : M String :=
  match str_or args.run_id none with
  | some id => pure id
  | none => await .uuid4

/-- `start_run`. -/
def start_run (args : StartArgs) : M WorkflowRun := do
  let defn ← await (.get_workflow_latest args.workflow_name)
  ofExcept (defn.validate_context args.context)
  let now ← await .now
  let run_id ← args.choose_run_id
  await (.create_run (args.initial_run defn run_id now) (initial_rows run_id 0 defn.steps))

/-- One run of the sweep: hand it to the queue, or execute it in process and log what
    it raises. -/
def sweep_run (engine : Engine) (depth : Nat) (enqueue : Bool) (run_id : String) : M Unit :=
  if enqueue then await (.enqueue run_id)
  else do
    match ← (engine.execute depth run_id).attempt with
    | .ok _ => pure ()
    | .error e => await (.log_error "recovery.execute_failed" run_id e)

/-- The loop of `recovery_sweep`. -/
def sweep_runs (engine : Engine) (depth : Nat) (enqueue : Bool) : List String → M (List String)
  | [] => pure []
  | run_id :: rest => do
    match ← await (.get_run run_id) with
    | none => sweep_runs engine depth enqueue rest
    | some run =>
      if run.status = .AWAITING_APPROVAL then sweep_runs engine depth enqueue rest
      else do
        sweep_run engine depth enqueue run_id
        let more ← sweep_runs engine depth enqueue rest
        pure (run_id :: more)

/-- `recovery_sweep`. `enqueue` says whether an `enqueue_fn` was given. -/
def recovery_sweep (engine : Engine) (depth : Nat) (enqueue : Bool) : M (List String) := do
  let recoverable ← await .find_recoverable_runs
  sweep_runs engine depth enqueue recoverable

end CaseAutomation.Orchestrator
