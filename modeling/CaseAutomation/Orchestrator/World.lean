import CaseAutomation.Framework.Program
import CaseAutomation.Orchestrator.Dsl
import CaseAutomation.Orchestrator.Store
import CaseAutomation.Orchestrator.Idempotency

/-! # The World the Orchestrator Runs In

    Every `await` of the engine, the gate resolver, the triggers and the
    recovery sweep is one `Call`. `exec` says what each call does to the
    `World`: the run store, the idempotency store, the lock server, the
    workflow registry, the clock, the source of fresh ids, and the trace of
    effects seen from outside.
-/

namespace CaseAutomation.Orchestrator

open Framework

/-- What the machine and the standard library provide. -/
structure Env where
  /-- The successive readings of `datetime.now(tz=UTC)`. -/
  time : Nat → Time
  /-- The successive results of `uuid.uuid4()`. -/
  uuid : Nat → String
  /-- `uuid4` never repeats itself. -/
  uuid_injective : Function.Injective uuid
  json : JsonText

/-- The shared state. -/
structure World where
  store : RunStore
  idem : IdemStore
  /-- The keys held in Redis, or `none` when no Redis is configured. -/
  lock : Option (List String)
  registry : Registry
  /-- Readings of the clock so far. -/
  clock : Nat
  /-- Ids drawn so far. -/
  uuids : Nat
  trace : List Event

namespace World

/-- One more reading of the clock. -/
def tick (w : World) : World := { w with clock := w.clock + 1 }

/-- One more event. -/
def emit (w : World) (e : Event) : World := { w with trace := w.trace ++ [e] }

/-- The world with another store. -/
def with_store (w : World) (s : RunStore) : World := { w with store := s }

/-- A world before anything has happened: empty stores and the given configuration. -/
def fresh (idem : IdemStore) (lock : Option (List String)) (registry : Registry) : World where
  store := RunStore.empty
  idem := idem
  lock := lock
  registry := registry
  clock := 0
  uuids := 0
  trace := []

end World

/-! ## Calls -/

/-- One atomic call. -/
inductive Call where
  | now
  | uuid4
  | get_workflow_latest (name : String)
  | create_run (run : WorkflowRun) (steps : List StepState)
  | get_run (run_id : String)
  | update_run_status (run_id : String) (status : RunStatus) (current_step : Option String)
      (last_error : Option StepError)
  | set_current_step (run_id step : String)
  | advance_gate_step (run_id step_name : String)
  | find_recoverable_runs
  | get_steps (run_id : String)
  | update_step (step : StepState)
  | create_gate_request (gate : GateRequest)
  | get_gate_request (gate_id : String)
  | update_gate_request (gate : GateRequest)
  | save_token (token : ApprovalToken)
  | get_token (token_id : String)
  | mark_token_used (token_id : String) (used_at : Time)
  | save_approval_decision (decision : ApprovalDecision)
  | lookup (idem_key : String)
  | reserve (idem_key : String)
  | record (idem_key : String) (output : JsonObj)
  | acquire (run_id : String)
  | release (run_id : String)
  | invoke (handler : Handler) (step : String) (ctx : StepContext)
  | compensate (run_id : String) (fn : Compensation)
  | audit (entry : AuditEntry)
  | enqueue (run_id : String)
  | log_error (event run_id : String) (exn : Exn)

/-- What a call returns when it does not raise. -/
abbrev Call.Resp : Call → Type
  | .now => Time
  | .uuid4 => String
  | .get_workflow_latest _ => WorkflowDef
  | .create_run _ _ => WorkflowRun
  | .get_run _ => Option WorkflowRun
  | .update_run_status _ _ _ _ => Unit
  | .set_current_step _ _ => Unit
  | .advance_gate_step _ _ => Unit
  | .find_recoverable_runs => List String
  | .get_steps _ => List StepState
  | .update_step _ => Unit
  | .create_gate_request _ => Unit
  | .get_gate_request _ => Option GateRequest
  | .update_gate_request _ => Unit
  | .save_token _ => Unit
  | .get_token _ => Option ApprovalToken
  | .mark_token_used _ _ => Bool
  | .save_approval_decision _ => Unit
  | .lookup _ => Option JsonObj
  | .reserve _ => Bool
  | .record _ _ => Unit
  | .acquire _ => Bool
  | .release _ => Unit
  | .invoke _ _ _ => Option JsonObj × List Compensation
  | .compensate _ _ => Unit
  | .audit _ => Unit
  | .enqueue _ => Unit
  | .log_error _ _ _ => Unit

/-- Programs of the orchestrator. -/
abbrev M (α : Type) : Type := Program Call Call.Resp Exn α

/-- `await` one call. -/
abbrev await (c : Call) : M c.Resp := Program.perform c

/-- `_LOCK_PREFIX + run_id`. -/
def lock_key (run_id : String) : String := "cam:run_lock:" ++ run_id

/-- `SET key 1 NX EX ttl`, or always granted without Redis. -/
def acquire_lock (run_id : String) : Option (List String) → Bool × Option (List String)
  | none => (true, none)
  | some held =>
    if lock_key run_id ∈ held then (false, some held) else (true, some (lock_key run_id :: held))

/-- `DEL key`. -/
def release_lock (run_id : String) : Option (List String) → Option (List String)
  | none => none
  | some held => some (held.filter fun key => key ≠ lock_key run_id)

/-- The outcome of an invocation as the engine sees it. -/
def HandlerResult.outcome : HandlerResult → Except Exn (Option JsonObj × List Compensation)
  | .returned output compensations => .ok (output, compensations)
  | .raised exn => .error exn

/-- A stamped store write: it reads the clock once, unless it is refused. -/
def World.write (w : World) : Except Exn RunStore → Except Exn Unit × World
  | .ok s => (.ok (), w.tick.with_store s)
  | .error e => (.error e, w)

/-- **What each call does.** -/
def exec (env : Env) : (c : Call) → World → Except Exn c.Resp × World
  | .now, w => (.ok (env.time w.clock), w.tick)
  | .uuid4, w => (.ok (env.uuid w.uuids), { w with uuids := w.uuids + 1 })
  | .get_workflow_latest name, w => (get_workflow_latest w.registry name, w)
  | .create_run run steps, w =>
    match w.store.create_run run steps with
    | .ok (created, s) => (.ok created, w.with_store s)
    | .error e => (.error e, w)
  | .get_run run_id, w => (.ok (w.store.get_run run_id), w)
  | .update_run_status run_id status current_step last_error, w =>
    w.write (w.store.update_run_status run_id status current_step last_error
      (env.time w.clock))
  | .set_current_step run_id step, w =>
    w.write (w.store.set_current_step run_id step (env.time w.clock))
  | .advance_gate_step run_id step_name, w =>
    (.ok (), w.tick.with_store (w.store.advance_gate_step run_id step_name (env.time w.clock)))
  | .find_recoverable_runs, w => (.ok w.store.find_recoverable_runs, w)
  | .get_steps run_id, w => (.ok (w.store.get_steps run_id), w)
  | .update_step step, w =>
    match w.store.update_step step with
    | .ok s => (.ok (), (w.with_store s).emit (.step_updated step.run_id step.step step.status))
    | .error e => (.error e, w)
  | .create_gate_request gate, w => (.ok (), w.with_store (w.store.put_gate gate))
  | .get_gate_request gate_id, w => (.ok (w.store.gates.get? gate_id), w)
  | .update_gate_request gate, w => (.ok (), w.with_store (w.store.put_gate gate))
  | .save_token token, w => (.ok (), w.with_store (w.store.save_token token))
  | .get_token token_id, w => (.ok (w.store.tokens.get? token_id), w)
  | .mark_token_used token_id used_at, w =>
    (.ok (w.store.mark_token_used token_id used_at).1,
      w.with_store (w.store.mark_token_used token_id used_at).2)
  | .save_approval_decision decision, w =>
    (.ok (), w.with_store (w.store.save_approval_decision decision))
  | .lookup idem_key, w => (.ok (w.idem.lookup env.json idem_key), w)
  | .reserve idem_key, w =>
    (.ok (w.idem.reserve idem_key).1, { w with idem := (w.idem.reserve idem_key).2 })
  | .record idem_key output, w =>
    (.ok (), { w with idem := w.idem.record env.json idem_key output }.emit
      (.recorded idem_key output))
  | .acquire run_id, w =>
    (.ok (acquire_lock run_id w.lock).1, { w with lock := (acquire_lock run_id w.lock).2 })
  | .release run_id, w => (.ok (), { w with lock := release_lock run_id w.lock })
  | .invoke handler step ctx, w =>
    ((handler w.trace ctx).outcome,
      w.emit (.invoked ctx.run_id step ctx (handler w.trace ctx)))
  | .compensate run_id fn, w =>
    (match fn.fails with
      | none => .ok ()
      | some e => .error e, w.emit (.compensated run_id fn))
  | .audit entry, w => (.ok (), w.emit (.audited entry))
  | .enqueue run_id, w => (.ok (), w.emit (.enqueued run_id))
  | .log_error event run_id exn, w => (.ok (), w.emit (.logged_error event run_id exn))

section exec
variable (env : Env) (w : World)

/-- A refused `create_run` writes nothing. -/
theorem exec_create_run_eq (run : WorkflowRun) (rows : List StepState) :
    exec env (.create_run run rows) w =
      match w.store.create_run run rows with
      | .ok (created, s) => (.ok created, w.with_store s)
      | .error e => (.error e, w) := by
  simp only [exec]

/-- A refused `update_step` writes nothing. -/
theorem exec_update_step_eq (step : StepState) :
    exec env (.update_step step) w =
      match w.store.update_step step with
      | .ok s => (.ok (), (w.with_store s).emit (.step_updated step.run_id step.step step.status))
      | .error e => (.error e, w) :=
  rfl

theorem exec_update_run_status_eq (run_id : String) (status : RunStatus)
    (current_step : Option String) (last_error : Option StepError) :
    exec env (.update_run_status run_id status current_step last_error) w =
      w.write (w.store.update_run_status run_id status current_step last_error
        (env.time w.clock)) :=
  rfl

theorem exec_set_current_step_eq (run_id step : String) :
    exec env (.set_current_step run_id step) w =
      w.write (w.store.set_current_step run_id step (env.time w.clock)) :=
  rfl

end exec

end CaseAutomation.Orchestrator
