import CaseAutomation.Base.Errors

/-! # Run and Step State Machines

    Status enums, transition tables and the records of `orchestrator/states.py`.
    Descriptive fields that no modelled function reads (`StepState.input`,
    `GateRequest.risk_tier`) are left out.
-/

namespace CaseAutomation.Orchestrator

/-! ## Statuses and transition tables -/

inductive RunStatus where
  | QUEUED
  | RUNNING
  | AWAITING_APPROVAL
  | SUCCEEDED
  | PARKED
  | REJECTED
  | CANCELLED
  deriving DecidableEq, Repr

inductive StepStatus where
  | PENDING
  | RUNNING
  | SUCCEEDED
  | FAILED
  | COMPENSATED
  | SKIPPED
  deriving DecidableEq, Repr

/-- `repr` of a `RunStatus` member. -/
def RunStatus.repr : RunStatus → String
  | .QUEUED => "<RunStatus.QUEUED: 'queued'>"
  | .RUNNING => "<RunStatus.RUNNING: 'running'>"
  | .AWAITING_APPROVAL => "<RunStatus.AWAITING_APPROVAL: 'awaiting_approval'>"
  | .SUCCEEDED => "<RunStatus.SUCCEEDED: 'succeeded'>"
  | .PARKED => "<RunStatus.PARKED: 'parked'>"
  | .REJECTED => "<RunStatus.REJECTED: 'rejected'>"
  | .CANCELLED => "<RunStatus.CANCELLED: 'cancelled'>"

/-- `repr` of a `StepStatus` member. -/
def StepStatus.repr : StepStatus → String
  | .PENDING => "<StepStatus.PENDING: 'pending'>"
  | .RUNNING => "<StepStatus.RUNNING: 'running'>"
  | .SUCCEEDED => "<StepStatus.SUCCEEDED: 'succeeded'>"
  | .FAILED => "<StepStatus.FAILED: 'failed'>"
  | .COMPENSATED => "<StepStatus.COMPENSATED: 'compensated'>"
  | .SKIPPED => "<StepStatus.SKIPPED: 'skipped'>"

/-- `_RUN_TRANSITIONS`. -/
def run_transitions : RunStatus → List RunStatus
  | .QUEUED => [.RUNNING]
  | .RUNNING => [.SUCCEEDED, .AWAITING_APPROVAL, .PARKED, .CANCELLED]
  | .AWAITING_APPROVAL => [.RUNNING, .REJECTED, .CANCELLED]
  | .PARKED => [.RUNNING, .CANCELLED]
  | .SUCCEEDED => []
  | .REJECTED => []
  | .CANCELLED => []

/-- `_STEP_TRANSITIONS`. -/
def step_transitions : StepStatus → List StepStatus
  | .PENDING => [.RUNNING]
  | .RUNNING => [.SUCCEEDED, .FAILED]
  | .FAILED => [.RUNNING, .COMPENSATED]
  | .SUCCEEDED => [.COMPENSATED]
  | .COMPENSATED => []
  | .SKIPPED => []

def is_legal_run_transition (from_status to_status : RunStatus) : Bool :=
  decide (to_status ∈ run_transitions from_status)

def is_legal_step_transition (from_status to_status : StepStatus) : Bool :=
  decide (to_status ∈ step_transitions from_status)

/-! ## Records -/

/-- Captured error from a failed step. -/
structure StepError where
  error_class : String
  detail : String
  attempt : Nat
  retryable : Bool
  deriving DecidableEq, Repr

inductive TriggerKind where
  | event
  | schedule
  | agent
  deriving DecidableEq, Repr

/-- How a run was started. -/
structure TriggerRef where
  kind : TriggerKind
  source : String
  dedupe_key : Option String
  deriving DecidableEq, Repr

/-- A single workflow execution. -/
structure WorkflowRun where
  id : String
  workflow : String
  workflow_version : Int
  status : RunStatus
  current_step : Option String
  trigger : TriggerRef
  context : JsonObj
  created_at : Time
  updated_at : Time
  last_error : Option StepError

/-- Persisted state for a single step within a run. -/
structure StepState where
  run_id : String
  step : String
  seq : Nat
  status : StepStatus
  attempt : Nat
  idem_key : String
  output : Option JsonObj
  error : Option StepError
  started_at : Option Time
  ended_at : Option Time

inductive Channel where
  | mcp
  | web
  | email
  deriving DecidableEq, Repr

/-- The name of a channel. -/
def Channel.value : Channel → String
  | .mcp => "mcp"
  | .web => "web"
  | .email => "email"

inductive GateStatus where
  | pending
  | approved
  | rejected
  | expired
  deriving DecidableEq, Repr

/-- The `Literal` value of a gate status. -/
def GateStatus.value : GateStatus → String
  | .pending => "pending"
  | .approved => "approved"
  | .rejected => "rejected"
  | .expired => "expired"

/-- A human-approval gate blocking a run at a `GATE:*` step. -/
structure GateRequest where
  id : String
  run_id : String
  step : String
  required_role : String
  /-- N-of-M approvals required. -/
  quorum : Int
  status : GateStatus
  channels : List Channel
  created_at : Time
  expires_at : Time
  deriving DecidableEq, Repr

inductive Decision where
  | approve
  | reject
  deriving DecidableEq, Repr

/-- A recorded approval or rejection for a gate. -/
structure ApprovalDecision where
  gate_request_id : String
  run_id : String
  step : String
  decision : Decision
  actor : String
  channel : Channel
  token_id : String
  reason : Option String
  decided_at : Time
  deriving DecidableEq, Repr

/-- A single-use approval token (only the hash is persisted). -/
structure ApprovalToken where
  id : String
  gate_request_id : String
  run_id : String
  step : String
  key_id : String
  token_hash : String
  channel : Channel
  expires_at : Time
  used_at : Option Time
  deriving DecidableEq, Repr

/-- `ApprovalToken.is_used`. -/
def ApprovalToken.is_used (token : ApprovalToken) : Bool := token.used_at.isSome

end CaseAutomation.Orchestrator
