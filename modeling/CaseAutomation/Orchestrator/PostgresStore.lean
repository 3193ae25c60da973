import CaseAutomation.Framework.Table
import CaseAutomation.Orchestrator.Engine

/-! # The PostgreSQL Run Store

    `orchestrator/postgres_store.py` over the tables of `orchestrator/orm.py`. Every method
    is one transaction: it reads and writes the tables, and a violated constraint (a
    primary key, a `unique` column or a `ForeignKey`) is an `IntegrityError` that leaves them
    as they were.

    The database is a relational one without size limits: `JSONB` columns hold JSON values,
    `Integer` columns hold integers. The surrogate keys of the step and decision tables,
    which nothing reads, are left out, as are `find_queued_runs` and `get_step`, which the
    modelled programs do not call. Methods that stamp a row take the instant as an argument.
-/

namespace CaseAutomation.Orchestrator

open Framework

/-! ## Values of the columns -/

/-- The enumeration member with the given value. -/
def member_of {α : Type} (members : List α) (value : α → String) (cls s : String) : Except Exn α :=
  match members.find? fun a => value a = s with
  | some a => .ok a
  | none => .error (.value_error (repr_str s ++ " is not a valid " ++ cls))

def RunStatus.value : RunStatus → String
  | .QUEUED => "queued"
  | .RUNNING => "running"
  | .AWAITING_APPROVAL => "awaiting_approval"
  | .SUCCEEDED => "succeeded"
  | .PARKED => "parked"
  | .REJECTED => "rejected"
  | .CANCELLED => "cancelled"

/-- `RunStatus(s)`. -/
def RunStatus.of_value : String → Except Exn RunStatus :=
  member_of [.QUEUED, .RUNNING, .AWAITING_APPROVAL, .SUCCEEDED, .PARKED, .REJECTED, .CANCELLED]
    RunStatus.value "RunStatus"

def StepStatus.value : StepStatus → String
  | .PENDING => "pending"
  | .RUNNING => "running"
  | .SUCCEEDED => "succeeded"
  | .FAILED => "failed"
  | .COMPENSATED => "compensated"
  | .SKIPPED => "skipped"

/-- `StepStatus(s)`. -/
def StepStatus.of_value : String → Except Exn StepStatus :=
  member_of [.PENDING, .RUNNING, .SUCCEEDED, .FAILED, .COMPENSATED, .SKIPPED]
    StepStatus.value "StepStatus"

def TriggerKind.value : TriggerKind → String
  | .event => "event"
  | .schedule => "schedule"
  | .agent => "agent"

/-- The `Literal` of the field `kind`. -/
def TriggerKind.of_value : String → Except Exn TriggerKind :=
  member_of [.event, .schedule, .agent] TriggerKind.value "TriggerKind"

/-- The `Literal` of the field `channel`. -/
def Channel.of_value : String → Except Exn Channel :=
  member_of [.mcp, .web, .email] Channel.value "Channel"

/-- The `Literal` of the field `status` of a gate. -/
def GateStatus.of_value : String → Except Exn GateStatus :=
  member_of [.pending, .approved, .rejected, .expired] GateStatus.value "GateStatus"

def Decision.value : Decision → String
  | .approve => "approve"
  | .reject => "reject"

@[simp] theorem RunStatus.of_value_value (s : RunStatus) : RunStatus.of_value s.value = .ok s := by
  cases s <;> rfl

@[simp] theorem StepStatus.of_value_value (s : StepStatus) :
    StepStatus.of_value s.value = .ok s := by
  cases s <;> rfl

@[simp] theorem TriggerKind.of_value_value (k : TriggerKind) :
    TriggerKind.of_value k.value = .ok k := by
  cases k <;> rfl

@[simp] theorem Channel.of_value_value (c : Channel) : Channel.of_value c.value = .ok c := by
  cases c <;> rfl

@[simp] theorem GateStatus.of_value_value (s : GateStatus) :
    GateStatus.of_value s.value = .ok s := by
  cases s <;> rfl

/-- `o.get(name)`. -/
def json_field (o : JsonObj) (name : String) : Option Json :=
  (o.find? fun e => e.1 = name).map Prod.snd

/-- `pydantic.ValidationError`. -/
def validation_error (model : String) : Exn :=
  .other "ValidationError" ("validation error for " ++ model)

/-- `TriggerRef.model_dump(mode="json")`. -/
def TriggerRef.model_dump (t : TriggerRef) : JsonObj :=
  [("kind", .str t.kind.value), ("source", .str t.source),
    ("dedupe_key", match t.dedupe_key with
      | none => .null
      | some key => .str key)]

/-- `TriggerRef.model_validate`. -/
def TriggerRef.model_validate (o : JsonObj) : Except Exn TriggerRef :=
  match json_field o "kind", json_field o "source", json_field o "dedupe_key" with
  | some (.str kind), some (.str source), key =>
    match TriggerKind.of_value kind, key with
    | .ok kind, none => .ok ⟨kind, source, none⟩
    | .ok kind, some .null => .ok ⟨kind, source, none⟩
    | .ok kind, some (.str key) => .ok ⟨kind, source, some key⟩
    | _, _ => .error (validation_error "TriggerRef")
  | _, _, _ => .error (validation_error "TriggerRef")

/-- `StepError.model_validate`. -/
def StepError.model_validate (o : JsonObj) : Except Exn StepError :=
  match json_field o "error_class", json_field o "detail", json_field o "attempt",
    json_field o "retryable" with
  | some (.str error_class), some (.str detail), some (.int attempt), some (.bool retryable) =>
    .ok ⟨error_class, detail, attempt.toNat, retryable⟩
  | _, _, _, _ => .error (validation_error "StepError")

@[simp] theorem TriggerRef.validate_dump (t : TriggerRef) :
    TriggerRef.model_validate t.model_dump = .ok t := by
  obtain ⟨kind, source, key⟩ := t
  cases key <;> simp [model_validate, model_dump, json_field]

@[simp] theorem StepError.validate_dump (err : StepError) :
    StepError.model_validate err.model_dump = .ok err := by
  simp [model_validate, model_dump, json_field]

/-! ## The tables -/

/-- `workflow_runs`. -/
structure WorkflowRunORM where
  id : String
  workflow : String
  workflow_version : Int
  status : String
  current_step : Option String
  trigger : JsonObj
  context : JsonObj
  last_error : Option JsonObj
  dedupe_key : Option String
  created_at : Time
  updated_at : Time

/-- `workflow_step_states`. -/
structure WorkflowStepStateORM where
  run_id : String
  step : String
  seq : Nat
  status : String
  attempt : Nat
  idem_key : String
  output : Option JsonObj
  error : Option JsonObj
  started_at : Option Time
  ended_at : Option Time

/-- `gate_requests`. -/
structure GateRequestORM where
  id : String
  run_id : String
  step : String
  required_role : String
  quorum : Int
  status : String
  channels : List String
  created_at : Time
  expires_at : Time

/-- `approval_decisions`. -/
structure ApprovalDecisionORM where
  gate_request_id : String
  run_id : String
  step : String
  decision : String
  actor : String
  channel : String
  token_id : String
  reason : Option String
  decided_at : Time

/-- `approval_tokens`. -/
structure ApprovalTokenORM where
  id : String
  gate_request_id : String
  run_id : String
  step : String
  key_id : String
  token_hash : String
  channel : String
  expires_at : Time
  used_at : Option Time

/-- The database, one list of rows for each table. -/
structure Database where
  runs : List WorkflowRunORM
  steps : List WorkflowStepStateORM
  gates : List GateRequestORM
  decisions : List ApprovalDecisionORM
  tokens : List ApprovalTokenORM

namespace PostgresStore

/-! ## Mapping helpers -/

/-- `_run_to_orm`. -/
def run_to_orm (run : WorkflowRun) : WorkflowRunORM where
  id := run.id
  workflow := run.workflow
  workflow_version := run.workflow_version
  status := run.status.value
  current_step := run.current_step
  trigger := run.trigger.model_dump
  context := run.context
  last_error := run.last_error.map StepError.model_dump
  dedupe_key := run.trigger.dedupe_key
  created_at := run.created_at
  updated_at := run.updated_at

/-- `StepError.model_validate(o) if o else None`. -/
def error_from_json : Option JsonObj → Except Exn (Option StepError)
  | none => .ok none
  | some [] => .ok none
  | some o => do return some (← StepError.model_validate o)

/-- `_run_from_orm`. -/
def run_from_orm (orm : WorkflowRunORM) : Except Exn WorkflowRun := do
  let status ← RunStatus.of_value orm.status
  let trigger ← TriggerRef.model_validate orm.trigger
  let last_error ← error_from_json orm.last_error
  return {
    id := orm.id
    workflow := orm.workflow
    workflow_version := orm.workflow_version
    status := status
    current_step := orm.current_step
    trigger := trigger
    context := orm.context
    created_at := orm.created_at
    updated_at := orm.updated_at
    last_error := last_error }

/-- `_step_to_orm`. -/
def step_to_orm (step : StepState) : WorkflowStepStateORM where
  run_id := step.run_id
  step := step.step
  seq := step.seq
  status := step.status.value
  attempt := step.attempt
  idem_key := step.idem_key
  output := step.output
  error := step.error.map StepError.model_dump
  started_at := step.started_at
  ended_at := step.ended_at

/-- `_step_from_orm`. -/
def step_from_orm (orm : WorkflowStepStateORM) : Except Exn StepState := do
  let status ← StepStatus.of_value orm.status
  let error ← error_from_json orm.error
  return {
    run_id := orm.run_id
    step := orm.step
    seq := orm.seq
    status := status
    attempt := orm.attempt
    idem_key := orm.idem_key
    output := orm.output
    error := error
    started_at := orm.started_at
    ended_at := orm.ended_at }

/-- `_gate_to_orm`. -/
def gate_to_orm (gate : GateRequest) : GateRequestORM where
  id := gate.id
  run_id := gate.run_id
  step := gate.step
  required_role := gate.required_role
  quorum := gate.quorum
  status := gate.status.value
  channels := gate.channels.map Channel.value
  created_at := gate.created_at
  expires_at := gate.expires_at

/-- `_gate_from_orm`. -/
def gate_from_orm (orm : GateRequestORM) : Except Exn GateRequest := do
  let status ← GateStatus.of_value orm.status
  let channels ← orm.channels.mapM Channel.of_value
  return {
    id := orm.id
    run_id := orm.run_id
    step := orm.step
    required_role := orm.required_role
    quorum := orm.quorum
    status := status
    channels := channels
    created_at := orm.created_at
    expires_at := orm.expires_at }

/-- `_token_to_orm`. -/
def token_to_orm (token : ApprovalToken) : ApprovalTokenORM where
  id := token.id
  gate_request_id := token.gate_request_id
  run_id := token.run_id
  step := token.step
  key_id := token.key_id
  token_hash := token.token_hash
  channel := token.channel.value
  expires_at := token.expires_at
  used_at := token.used_at

/-- `_token_from_orm`. -/
def token_from_orm (orm : ApprovalTokenORM) : Except Exn ApprovalToken := do
  let channel ← Channel.of_value orm.channel
  return {
    id := orm.id
    gate_request_id := orm.gate_request_id
    run_id := orm.run_id
    step := orm.step
    key_id := orm.key_id
    token_hash := orm.token_hash
    channel := channel
    expires_at := orm.expires_at
    used_at := orm.used_at }

/-- The row `save_approval_decision` adds. -/
def decision_to_orm (d : ApprovalDecision) : ApprovalDecisionORM where
  gate_request_id := d.gate_request_id
  run_id := d.run_id
  step := d.step
  decision := d.decision.value
  actor := d.actor
  channel := d.channel.value
  token_id := d.token_id
  reason := d.reason
  decided_at := d.decided_at

@[simp] theorem error_from_dump (err : Option StepError) :
    error_from_json (err.map StepError.model_dump) = .ok err := by
  cases err with
  | none => rfl
  | some err =>
    show (do return some (← StepError.model_validate err.model_dump) : Except Exn _) = _
    rw [StepError.validate_dump]
    rfl

@[simp] theorem run_from_to_orm (run : WorkflowRun) : run_from_orm (run_to_orm run) = .ok run := by
  simp only [run_from_orm, run_to_orm, RunStatus.of_value_value, TriggerRef.validate_dump,
    error_from_dump]
  rfl

@[simp] theorem step_from_to_orm (step : StepState) :
    step_from_orm (step_to_orm step) = .ok step := by
  simp only [step_from_orm, step_to_orm, StepStatus.of_value_value, error_from_dump]
  rfl

theorem channels_from_values (channels : List Channel) :
    (channels.map Channel.value).mapM Channel.of_value = .ok channels := by
  induction channels with
  | nil => rfl
  | cons c rest ih =>
    rw [List.map_cons, List.mapM_cons, Channel.of_value_value, ih]
    rfl

@[simp] theorem gate_from_to_orm (gate : GateRequest) :
    gate_from_orm (gate_to_orm gate) = .ok gate := by
  simp only [gate_from_orm, gate_to_orm, GateStatus.of_value_value, channels_from_values]
  rfl

@[simp] theorem token_from_to_orm (token : ApprovalToken) :
    token_from_orm (token_to_orm token) = .ok token := by
  simp only [token_from_orm, token_to_orm, Channel.of_value_value]
  rfl

/-! ## Runs -/

/-- `sqlalchemy.exc.IntegrityError`. -/
def integrity_error (constraint : String) : Exn := .other "IntegrityError" constraint

/-- The tables before anything is stored. -/
def empty : Database := ⟨[], [], [], [], []⟩

variable (db : Database)

/-- The run a foreign key refers to is there. -/
def has_run (run_id : String) : Bool := (Table.select WorkflowRunORM.id run_id db.runs).isSome

/-- The gate request a foreign key refers to is there. -/
def has_gate (gate_id : String) : Bool := (Table.select GateRequestORM.id gate_id db.gates).isSome

/-- The columns of `uq_run_step`. -/
def step_key (orm : WorkflowStepStateORM) : String × String := (orm.run_id, orm.step)

/-- Insert a run and its steps. -/
def insert_run (run : WorkflowRunORM) (steps : List WorkflowStepStateORM) : Except Exn Database :=
  if has_run db run.id then .error (integrity_error "workflow_runs_pkey")
  -- `NULL`s are distinct
  else if db.runs.any fun r => r.dedupe_key.isSome && r.dedupe_key == run.dedupe_key then
    .error (integrity_error "workflow_runs_dedupe_key_key")
  else if (steps.map step_key).any (fun key => (Table.select step_key key db.steps).isSome) ||
      !decide (steps.map step_key).Nodup then
    .error (integrity_error "uq_run_step")
  else if steps.any fun step => step.run_id != run.id && !has_run db step.run_id then
    .error (integrity_error "workflow_step_states_run_id_fkey")
  else .ok { db with runs := db.runs ++ [run], steps := db.steps ++ steps }

/-- `create_run`. -/
def create_run (run : WorkflowRun) (steps : List StepState) :
    Except Exn (WorkflowRun × Database) :=
  let existing := match run.trigger.dedupe_key with
    | none => none
    | some key => if key = "" then none else Table.select WorkflowRunORM.dedupe_key (some key) db.runs
  match existing with
  | some orm => do return (← run_from_orm orm, db)
  | none => do return (run, ← insert_run db (run_to_orm run) (steps.map step_to_orm))

/-- `get_run`. -/
def get_run (run_id : String) : Except Exn (Option WorkflowRun) :=
  match Table.select WorkflowRunORM.id run_id db.runs with
  | none => .ok none
  | some orm => do return some (← run_from_orm orm)

/-- The row `update_run_status` leaves. -/
def updated_run (status : RunStatus) (current_step : Option String)
    (last_error : Option StepError) (now : Time) (orm : WorkflowRunORM) : WorkflowRunORM :=
  { orm with
    status := status.value
    updated_at := now
    current_step := match current_step with
      | none => orm.current_step
      | some step => some step
    last_error := match last_error with
      | none => orm.last_error
      | some err => some err.model_dump }

/-- `update_run_status`. -/
def update_run_status (run_id : String) (status : RunStatus) (current_step : Option String)
    (last_error : Option StepError) (now : Time) : Except Exn Database :=
  match Table.select WorkflowRunORM.id run_id db.runs with
  | none => .error (run_not_found run_id)
  | some orm => do
    let current ← RunStatus.of_value orm.status
    if is_legal_run_transition current status then
      return { db with
        runs := Table.update WorkflowRunORM.id run_id
          (updated_run status current_step last_error now) db.runs }
    else
      .error (.illegal_transition ("Run " ++ run_id ++ ": " ++ current.repr ++ " → " ++
        status.repr ++ " is not a legal transition."))

/-- `set_current_step`. -/
def set_current_step (run_id step : String) (now : Time) : Except Exn Database :=
  match Table.select WorkflowRunORM.id run_id db.runs with
  | none => .error (run_not_found run_id)
  | some _ => .ok { db with
      runs := Table.update WorkflowRunORM.id run_id
        (fun orm => { orm with current_step := some step, updated_at := now }) db.runs }

/-- `find_recoverable_runs`. -/
def find_recoverable_runs : List String :=
  (db.runs.filter fun orm =>
    orm.status == RunStatus.QUEUED.value || orm.status == RunStatus.RUNNING.value).map
    WorkflowRunORM.id

/-! ## Steps -/

/-- The exception of every access to a missing step. -/
def step_not_found (run_id step : String) : Exn :=
  .key_error ("Step " ++ repr_str step ++ " not found in run " ++ repr_str run_id ++ ".")

/-- `advance_gate_step`: unlike the store in memory, a missing row is an error. -/
def advance_gate_step (run_id step_name : String) (now : Time) : Except Exn Database :=
  match Table.select step_key (run_id, step_name) db.steps with
  | none => .error (step_not_found run_id step_name)
  | some _ => .ok { db with
      steps := Table.update step_key (run_id, step_name)
        (fun orm => { orm with status := StepStatus.SUCCEEDED.value, ended_at := some now })
        db.steps }

/-- `get_steps`: ordered by `seq`. -/
def get_steps (run_id : String) : Except Exn (List StepState) :=
  ((db.steps.filter fun orm => orm.run_id = run_id).mergeSort
    fun a b => decide (a.seq ≤ b.seq)).mapM step_from_orm

/-- The row `update_step` leaves: the key, the position and the idempotency key stay. -/
def updated_step (step : StepState) (orm : WorkflowStepStateORM) : WorkflowStepStateORM :=
  { orm with
    status := step.status.value
    attempt := step.attempt
    output := step.output
    error := step.error.map StepError.model_dump
    started_at := step.started_at
    ended_at := step.ended_at }

/-- `update_step`. -/
def update_step (step : StepState) : Except Exn Database :=
  match Table.select step_key (step.run_id, step.step) db.steps with
  | none => .error (step_not_found step.run_id step.step)
  | some orm => do
    let current ← StepStatus.of_value orm.status
    if is_legal_step_transition current step.status then
      return { db with
        steps := Table.update step_key (step.run_id, step.step) (updated_step step) db.steps }
    else
      .error (.illegal_transition ("Step " ++ repr_str step.step ++ ": " ++ current.repr ++
        " → " ++ step.status.repr ++ " is illegal."))

/-! ## Gates, tokens and decisions -/

/-- `create_gate_request`. -/
def create_gate_request (gate : GateRequest) : Except Exn Database :=
  if has_gate db gate.id then .error (integrity_error "gate_requests_pkey")
  else if !has_run db gate.run_id then .error (integrity_error "gate_requests_run_id_fkey")
  else .ok { db with gates := db.gates ++ [gate_to_orm gate] }

/-- `get_gate_request`. -/
def get_gate_request (gate_id : String) : Except Exn (Option GateRequest) :=
  match Table.select GateRequestORM.id gate_id db.gates with
  | none => .ok none
  | some orm => do return some (← gate_from_orm orm)

/-- `update_gate_request`: status, role and quorum only. -/
def update_gate_request (gate : GateRequest) : Except Exn Database :=
  match Table.select GateRequestORM.id gate.id db.gates with
  | none => .error (.key_error ("Gate " ++ repr_str gate.id ++ " not found."))
  | some _ => .ok { db with
      gates := Table.update GateRequestORM.id gate.id
        (fun orm => { orm with
          status := gate.status.value, required_role := gate.required_role,
          quorum := gate.quorum }) db.gates }

/-- `save_token`. -/
def save_token (token : ApprovalToken) : Except Exn Database :=
  if (Table.select ApprovalTokenORM.id token.id db.tokens).isSome then
    .error (integrity_error "approval_tokens_pkey")
  else if !has_gate db token.gate_request_id then
    .error (integrity_error "approval_tokens_gate_request_id_fkey")
  else if !has_run db token.run_id then .error (integrity_error "approval_tokens_run_id_fkey")
  else .ok { db with tokens := db.tokens ++ [token_to_orm token] }

/-- `get_token`. -/
def get_token (token_id : String) : Except Exn (Option ApprovalToken) :=
  match Table.select ApprovalTokenORM.id token_id db.tokens with
  | none => .ok none
  | some orm => do return some (← token_from_orm orm)

/-- `mark_token_used`. -/
def mark_token_used (token_id : String) (used_at : Time) : Bool × Database :=
  match Table.select ApprovalTokenORM.id token_id db.tokens with
  | none => (false, db)
  | some orm =>
    if orm.used_at.isSome then (false, db)
    else (true, { db with
      tokens := Table.update ApprovalTokenORM.id token_id
        (fun orm => { orm with used_at := some used_at }) db.tokens })

/-- `save_approval_decision`. -/
def save_approval_decision (d : ApprovalDecision) : Except Exn Database :=
  if !has_gate db d.gate_request_id then
    .error (integrity_error "approval_decisions_gate_request_id_fkey")
  else if !has_run db d.run_id then .error (integrity_error "approval_decisions_run_id_fkey")
  else .ok { db with decisions := db.decisions ++ [decision_to_orm d] }

/-! ## Calls -/

/-- A write: the new tables, or the exception and the old ones. -/
def commit (result : Except Exn Database) : Except Exn Unit × Database :=
  match result with
  | .ok db' => (.ok (), db')
  | .error e => (.error e, db)

/-- What the store answers at the instant `now` and leaves behind; `none` for calls that do not
    go to the store. -/
def call (now : Time) : (c : Call) → Database → Option (Except Exn c.Resp) × Database
  | .create_run run steps, db =>
    match create_run db run steps with
    | .ok (created, db') => (some (.ok created), db')
    | .error e => (some (.error e), db)
  | .get_run run_id, db => (some (get_run db run_id), db)
  | .update_run_status run_id status cur err, db =>
    let done := commit db (update_run_status db run_id status cur err now)
    (some done.1, done.2)
  | .set_current_step run_id step, db =>
    let done := commit db (set_current_step db run_id step now)
    (some done.1, done.2)
  | .advance_gate_step run_id step, db =>
    let done := commit db (advance_gate_step db run_id step now)
    (some done.1, done.2)
  | .find_recoverable_runs, db => (some (.ok (find_recoverable_runs db)), db)
  | .get_steps run_id, db => (some (get_steps db run_id), db)
  | .update_step step, db =>
    let done := commit db (update_step db step)
    (some done.1, done.2)
  | .create_gate_request gate, db =>
    let done := commit db (create_gate_request db gate)
    (some done.1, done.2)
  | .get_gate_request gate_id, db => (some (get_gate_request db gate_id), db)
  | .update_gate_request gate, db =>
    let done := commit db (update_gate_request db gate)
    (some done.1, done.2)
  | .save_token token, db =>
    let done := commit db (save_token db token)
    (some done.1, done.2)
  | .get_token token_id, db => (some (get_token db token_id), db)
  | .mark_token_used token_id used_at, db =>
    let done := mark_token_used db token_id used_at
    (some (.ok done.1), done.2)
  | .save_approval_decision d, db =>
    let done := commit db (save_approval_decision db d)
    (some done.1, done.2)
  | _, db => (none, db)

end PostgresStore

end CaseAutomation.Orchestrator
