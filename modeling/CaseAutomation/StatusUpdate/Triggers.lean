import CaseAutomation.Framework.Threads
import CaseAutomation.Security.Hmac
import CaseAutomation.StatusUpdate.Workflow

/-! # Triggers of a Status Update

    `status_update/store.py` and `change_id.py`, the two triggers of `workflow.py` (a webhook event and a
    sweep), and the steps of the runs they start, on one status store.

    A `Call` is what runs without a switch to another coroutine. A trigger compares or checks in one
    stretch and then awaits `start_run`; a sweep sets the last known status only after that,
    and the run of a webhook sets it in its second step. A step may be invoked by the engine at any time once its run
    exists, those behind the gate once the run is approved.
-/

namespace CaseAutomation.StatusUpdate

open Framework Program Domain Security

/-! ## The status store -/

/-- `LastKnownStatusStore`. -/
structure LastKnownStatusStore where
  last_status : Dict String String
  transition_counters : Dict String Int
  /-- The run of each delivered change. -/
  delivered : Dict String String

namespace LastKnownStatusStore

def empty : LastKnownStatusStore := ⟨∅, ∅, ∅⟩

def get_last_status (store : LastKnownStatusStore) (matter_id : String) : Option String :=
  store.last_status.get? matter_id

def update_last_status (store : LastKnownStatusStore) (matter_id status : String) :
    LastKnownStatusStore :=
  { store with last_status := store.last_status.set matter_id status }

/-- `next_transition_counter`: the counter and the store that has it. -/
def next_transition_counter (store : LastKnownStatusStore) (matter_id : String) :
    Int × LastKnownStatusStore :=
  let n := (store.transition_counters.get? matter_id).getD 0 + 1
  (n, { store with transition_counters := store.transition_counters.set matter_id n })

def is_delivered (store : LastKnownStatusStore) (change_id : String) : Bool :=
  (store.delivered.get? change_id).isSome

def mark_delivered (store : LastKnownStatusStore) (change_id run_id : String) :
    LastKnownStatusStore :=
  { store with delivered := store.delivered.set change_id run_id }

end LastKnownStatusStore

/-! ## Change ids -/

/-- `derive_change_id`. -/
def derive_change_id (matter_id from_status to_status discriminator : String) : String :=
  let raw := matter_id ++ ":" ++ from_status ++ ":" ++ to_status ++ ":" ++ discriminator
  slice_to (hexdigest (sha256 (encode_utf8 raw))) 16

def webhook_change_id (matter_id from_status to_status provider_event_id : String) : String :=
  derive_change_id matter_id from_status to_status provider_event_id

def sweep_change_id (matter_id from_status to_status : String) (transition_counter : Int) : String :=
  derive_change_id matter_id from_status to_status (toString transition_counter)

/-! ## Checks -/

/-- What `handle_status_change_event` decides before it starts a run. -/
inductive Check where
  /-- The status is not allow-listed. -/
  | skip
  /-- The change was delivered before. -/
  | noop (change_id : String)
  | start (delta : MatterStatusDelta)

/-- `handle_status_change_event`, up to `start_run`. -/
def check_event (config : StatusUpdateConfig)
    (matter_id from_status to_status provider_event_id : String) (now : Time)
    (store : LastKnownStatusStore) : Check :=
  if should_trigger to_status config then
    let change_id := webhook_change_id matter_id from_status to_status provider_event_id
    if store.is_delivered change_id then .noop change_id
    else .start ⟨matter_id, from_status, to_status, change_id, "webhook", now, []⟩
  else .skip

/-- `sweep_matters` for one matter, from the comparison up to `start_run`. -/
def compare (config : StatusUpdateConfig) (matter_id current_status : String) (now : Time)
    (store : LastKnownStatusStore) : Option Check × LastKnownStatusStore :=
  match store.get_last_status matter_id with
  | none => (none, store)
  | some last_status =>
    if last_status = current_status then (none, store)
    else
      let (counter, store) := store.next_transition_counter matter_id
      let change_id := sweep_change_id matter_id last_status current_status counter
      if store.is_delivered change_id then (none, store)
      else (some (check_event config matter_id last_status current_status ("sweep-" ++ change_id) now
        store), store)

/-! ## The world -/

/-- A run of the workflow, with the change it was started for. -/
structure Run where
  id : String
  delta : MatterStatusDelta

/-- `{"delta": delta.model_dump(mode="json")}`. -/
def Run.context (iso : Time → String) (run : Run) : PyDict :=
  [("delta", .dict [("matter_id", .str run.delta.matter_id),
    ("from_status", .str run.delta.from_status), ("to_status", .str run.delta.to_status),
    ("change_id", .str run.delta.change_id), ("source", .str run.delta.source),
    ("detected_at", .str (iso run.delta.detected_at)), ("context", .dict run.delta.context)])]

/-- An e-mail that was sent. -/
structure Sent where
  run_id : String
  idem_key : String

/-- How `create_run` answers. -/
inductive CreateRun where
  | answered
  /-- It raises before or after the run was created. -/
  | failed (created : Bool) (error : Exn)

/-- What the outside provides. -/
structure Env where
  services : StatusUpdateServices
  iso : Time → String
  clock : Nat → Time
  /-- The successive answers of `get_matter` to the sweeps. -/
  matter : Nat → String → Except Exn Matter
  create_run : Nat → CreateRun
  /-- The successive results of `uuid.uuid4()`. -/
  uuid : Nat → String
  uuid_injective : Function.Injective uuid
  /-- How the successive calls of the steps are answered. -/
  answers : Nat → (c : Workflows.Call) → Except Exn c.Resp
  /-- An e-mail went out though the call raised. -/
  sent_anyway : Nat → Bool

structure World where
  status_store : LastKnownStatusStore
  /-- The runs, the latest first. -/
  runs : List Run
  /-- The runs whose gate is approved. -/
  approved : List String
  /-- The e-mails that were sent, the latest first. -/
  sent : List Sent
  ticks : Nat
  matter_calls : Nat
  starts : Nat
  uuids : Nat
  step_calls : Nat

/-! ## Calls -/

inductive Call where
  | get_matter (id : String)
  /-- The comparison of a sweep, up to `start_run`. -/
  | compare (matter_id current_status : String)
  /-- The checks of `handle_status_change_event`. -/
  | check_event (matter_id from_status to_status provider_event_id : String)
  | start_run (delta : MatterStatusDelta)
  | update_last_status (matter_id status : String)
  /-- The gate of the run is resolved with an approval. -/
  | approve (run_id : String)
  /-- The engine reads the context of a run to invoke a step. -/
  | load_run (run_id name : String)
  /-- A call of a step. -/
  | of_step (run_id : String) (c : Workflows.Call)

abbrev Call.Resp : Call → Type
  | .get_matter _ => Matter
  | .compare _ _ => Option Check
  | .check_event _ _ _ _ => Check
  | .start_run _ => String
  | .update_last_status _ _ => Unit
  | .approve _ => Unit
  | .load_run _ _ => PyDict
  | .of_step _ c => c.Resp

abbrev M (α : Type) : Type := Program Call Call.Resp Exn α

/-- One call, awaited. -/
abbrev await (c : Call) : M c.Resp := Program.perform c

/-- The steps behind the gate. -/
def AFTER_GATE : List String := ["send_email", "record_outcome"]

namespace World

/-- The run that `create_run` returns, and the world with it: the one that has the key, or a new one. -/
def with_run (env : Env) (delta : MatterStatusDelta) (w : World) : String × World :=
  match w.runs.find? fun run => decide (run.delta.change_id = delta.change_id) with
  | some run => (run.id, { w with uuids := w.uuids + 1 })
  | none => (env.uuid w.uuids, { w with
      uuids := w.uuids + 1
      runs := ⟨env.uuid w.uuids, delta⟩ :: w.runs })

/-- `start_run`. -/
def start_run (env : Env) (delta : MatterStatusDelta) (w : World) : Except Exn String × World :=
  let called := { w with starts := w.starts + 1 }
  match env.create_run w.starts with
  | .answered => (.ok (called.with_run env delta).1, (called.with_run env delta).2)
  | .failed created error =>
    (.error error, if created then (called.with_run env delta).2 else called)

/-- The context that a step is invoked with. -/
def load_run (env : Env) (run_id name : String) (w : World) : Except Exn PyDict :=
  match w.runs.find? fun run => decide (run.id = run_id) with
  | none => .error (.key_error run_id)
  | some run =>
    if name ∈ AFTER_GATE ∧ run_id ∉ w.approved then .error (.value_error "not approved")
    else .ok (run.context env.iso)

/-- What a call of a step does. -/
def of_step (env : Env) (run_id : String) (w : World) : (c : Workflows.Call) → Except Exn c.Resp × World
  | .update_last_status matter_id status =>
    (.ok (), { w with status_store := w.status_store.update_last_status matter_id status })
  | .mark_delivered change_id run_id =>
    (.ok (), { w with status_store := w.status_store.mark_delivered change_id run_id })
  | .send draft_id idem_key =>
    let called := { w with step_calls := w.step_calls + 1 }
    let delivered := { called with sent := ⟨run_id, idem_key⟩ :: called.sent }
    match env.answers w.step_calls (.send draft_id idem_key) with
    | .ok message_id => (.ok message_id, delivered)
    | .error e => (.error e, if env.sent_anyway w.step_calls then delivered else called)
  | c => (env.answers w.step_calls c, { w with step_calls := w.step_calls + 1 })

end World

/-- The effect of a call. -/
def exec (env : Env) : Program.Service Call Call.Resp Exn World
  | .get_matter id, w => (env.matter w.matter_calls id, { w with matter_calls := w.matter_calls + 1 })
  | .compare matter_id current_status, w =>
    let result := compare env.services.config matter_id current_status (env.clock w.ticks) w.status_store
    (.ok result.1, { w with ticks := w.ticks + 1, status_store := result.2 })
  | .check_event matter_id from_status to_status provider_event_id, w =>
    (.ok (check_event env.services.config matter_id from_status to_status provider_event_id
      (env.clock w.ticks) w.status_store), { w with ticks := w.ticks + 1 })
  | .start_run delta, w => w.start_run env delta
  | .update_last_status matter_id status, w =>
    (.ok (), { w with status_store := w.status_store.update_last_status matter_id status })
  | .approve run_id, w => (.ok (), { w with approved := run_id :: w.approved })
  | .load_run run_id name, w => (w.load_run env run_id name, w)
  | .of_step run_id c, w => w.of_step env run_id c

/-! ## Triggers -/

/-- What a trigger reports of a matter. -/
inductive Started where
  | noop (change_id : String)
  | run (run_id change_id : String)

/-- `handle_status_change_event`, from `start_run` on. -/
def start_checked : Check → M (Option Started)
  | .skip => .ret none
  | .noop change_id => .ret (some (.noop change_id))
  | .start delta => (await (.start_run delta)).bind fun run_id =>
    .ret (some (.run run_id delta.change_id))

/-- `handle_status_change_event`. -/
def handle_status_change_event (matter_id from_status to_status provider_event_id : String) :
    M (Option Started) :=
  (await (.check_event matter_id from_status to_status provider_event_id)).bind start_checked

/-- The body of the loop of `sweep_matters`. -/
def sweep_matter (matter_id : String) : M (Option Started) :=
  (await (.get_matter matter_id)).bind fun matter =>
  (await (.compare matter_id matter.status)).bind fun
  | none => .ret none
  | some check =>
    (start_checked check).bind fun
    | none => .ret none
    | some result =>
      (await (.update_last_status matter_id matter.status)).bind fun _ => .ret (some result)

/-- `sweep_matters`: an exception ends the sweep of its matter only. -/
def sweep_matters : List String → M (List Started)
  | [] => .ret []
  | matter_id :: rest =>
    (sweep_matter matter_id).attempt.bind fun result =>
    (sweep_matters rest).bind fun results =>
    .ret (match result with
      | .ok (some started) => started :: results
      | _ => results)

/-! ## Steps -/

/-- The calls of a step of a run. -/
def in_run {α : Type} (run_id : String) : Workflows.M α → M α
  | .ret a => .ret a
  | .raise e => .raise e
  | .call c k => .call (.of_step run_id c) fun r => in_run run_id (k r)

/-- One invocation of a step by the engine, with the outputs of earlier steps. -/
def invoke_step (svc : StatusUpdateServices) (run_id name : String)
    (output : String → Option PyDict) : M Unit :=
  (await (.load_run run_id name)).bind fun context =>
  match svc.step name with
  | some step => (in_run run_id (step ⟨run_id, context, output⟩)).bind fun _ => .ret ()
  | none => .raise (.key_error name)

/-- What happens side by side. -/
inductive Job where
  | webhook (matter_id from_status to_status provider_event_id : String)
  | sweep (matter_ids : List String)
  | approval (run_id : String)
  | step (run_id name : String) (output : String → Option PyDict)

def Job.program (svc : StatusUpdateServices) : Job → M Unit
  | .webhook matter_id from_status to_status provider_event_id =>
    (handle_status_change_event matter_id from_status to_status provider_event_id).discard
  | .sweep matter_ids => (sweep_matters matter_ids).discard
  | .approval run_id => await (.approve run_id)
  | .step run_id name output => invoke_step svc run_id name output

end CaseAutomation.StatusUpdate
