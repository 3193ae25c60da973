import CaseAutomation.Deadline.Compute
import CaseAutomation.Framework.Program

/-! # The World of the Deadline Engine

    The scheduled deadlines of `deadline/types.py`, the `DeadlineStore` of `deadline/schedule.py`,
    and the calls that the engine makes.

    A `Call` is what runs without a switch to another coroutine: the effect of one awaited
    operation (Redis, the notification port, the scheduler, the audit service), or a
    synchronous stretch of code on the store between two awaits. So reading a deadline,
    advancing its level and saving it again is one call in `escalate`, while
    `fire_reminder` and `mark_done` save the copy that they read before an await.
-/

namespace CaseAutomation.Deadline

open Framework

/-! ## Scheduled deadlines -/

inductive ReminderStatus where
  | armed
  | fired
  | missed
  | skipped_past
  deriving DecidableEq, Repr

structure ScheduledReminder where
  id : String
  deadline_id : String
  fire_at : DateTime
  offset : ReminderOffset
  status : ReminderStatus
  idempotency_key : String
  redundant_arm_ids : List String
  deriving DecidableEq

/-- The engine's persisted record for a deadline. -/
structure ScheduledDeadline where
  deadline_id : String
  matter_id : String
  rule_ref : RuleRef
  trace : ComputationTrace
  reminders : List ScheduledReminder
  flagged_past_due_on_create : Bool
  idempotency_key : String
  escalation_level : Int
  deriving DecidableEq

namespace ScheduledDeadline

/-- The first reminder with this key. -/
def reminder (sd : ScheduledDeadline) (key : String) : Option ScheduledReminder :=
  sd.reminders.find? fun r => decide (r.idempotency_key = key)

/-- The reminders with this key are marked fired. -/
def fire (sd : ScheduledDeadline) (key : String) : ScheduledDeadline :=
  { sd with reminders := sd.reminders.map fun r =>
      if r.idempotency_key = key then { r with status := .fired } else r }

/-- The armed reminders are skipped. -/
def finish (sd : ScheduledDeadline) : ScheduledDeadline :=
  { sd with reminders := sd.reminders.map fun r =>
      if r.status = .armed then { r with status := .skipped_past } else r }

/-- The next escalation level. -/
def advance (sd : ScheduledDeadline) : ScheduledDeadline :=
  { sd with escalation_level := max sd.escalation_level (sd.escalation_level + 1) }

/-- The scheduler jobs of the armed reminders. -/
def arm_ids (sd : ScheduledDeadline) : List String :=
  (sd.reminders.filter fun r => decide (r.status = .armed)).flatMap ScheduledReminder.redundant_arm_ids

end ScheduledDeadline

/-- `DeadlineStore`: a deadline is kept under its own id. -/
structure DeadlineStore where
  deadlines : Dict String ScheduledDeadline
  by_idem : Dict String String
  keyed : ∀ {id sd}, deadlines.get? id = some sd → sd.deadline_id = id

namespace DeadlineStore

def empty : DeadlineStore := ⟨∅, ∅, fun h => by cases h⟩

/-- `save`. -/
def save (store : DeadlineStore) (sd : ScheduledDeadline) : DeadlineStore where
  deadlines := store.deadlines.set sd.deadline_id sd
  by_idem := if sd.idempotency_key = "" then store.by_idem
    else store.by_idem.set sd.idempotency_key sd.deadline_id
  keyed := by
    intro id other hget
    obtain ⟨rfl, rfl⟩ | ⟨_, hold⟩ := Dict.get?_set_cases hget
    · rfl
    · exact store.keyed hold

/-- `get`. -/
def get (store : DeadlineStore) (deadline_id : String) : Option ScheduledDeadline :=
  store.deadlines.get? deadline_id

/-- `get_by_idem`. -/
def get_by_idem (store : DeadlineStore) (idem_key : String) : Option ScheduledDeadline :=
  match store.by_idem.get? idem_key with
  | none => none
  | some deadline_id => if deadline_id = "" then none else store.get deadline_id

theorem get_save (store : DeadlineStore) (sd : ScheduledDeadline) (id : String) :
    (store.save sd).get id = if id = sd.deadline_id then some sd else store.get id :=
  Dict.get?_set store.deadlines sd.deadline_id id sd

/-- A saved copy of a deadline replaces it. -/
theorem get_save_self {store : DeadlineStore} {sd sd' : ScheduledDeadline} {id : String}
    (h : store.get id = some sd) (hid : sd'.deadline_id = sd.deadline_id) :
    (store.save sd').get id = some sd' := by
  rw [get_save, hid, store.keyed h, if_pos rfl]

end DeadlineStore

/-! ## The world -/

/-- A notification: what was sent to whom under which key. -/
structure Notification where
  recipients : List String
  payload : JsonObj
  idem_key : String

/-- A job that was handed to the scheduler. -/
structure Arm where
  arm_id : String
  fire_at : DateTime
  job_ref : String
  idem_key : String

/-- What the outside provides. -/
structure Env where
  /-- The successive readings of `datetime.now(tz=UTC)`. -/
  time : Nat → DateTime
  /-- The successive results of `uuid.uuid4()`. -/
  uuid : Nat → String
  /-- `uuid4` never repeats itself. -/
  uuid_injective : Function.Injective uuid
  /-- A uuid is not the empty string. -/
  uuid_ne : ∀ n, uuid n ≠ ""
  /-- How the successive calls of outside services fail, if they do. -/
  fault : Nat → Option Exn

structure World where
  store : DeadlineStore
  /-- The dedup keys in Redis. -/
  redis : List String
  /-- The jobs handed to the scheduler so far. -/
  arms : List Arm
  /-- The notifications delivered so far. -/
  delivered : List Notification
  clock : Nat
  uuids : Nat
  /-- Calls of outside services so far. -/
  calls : Nat

/-- How often a notification with this key was delivered. -/
def World.sent (w : World) (key : String) : Nat :=
  w.delivered.countP fun n => decide (n.idem_key = key)

/-- Nothing has happened yet. -/
def World.fresh : World := ⟨.empty, [], [], [], 0, 0, 0⟩

/-! ## Calls -/

inductive Call where
  | now
  | uuid4
  | redis_get (key : String)
  | redis_set (key : String)
  | notify (notification : Notification)
  | arm (fire_at : DateTime) (job_ref idem_key : String)
  | cancel (arm_id : String)
  | audit (action : String)
  | get (deadline_id : String)
  | get_by_idem (idem_key : String)
  | save (sd : ScheduledDeadline)
  /-- `fire_reminder`: the copy it read, with the reminder marked fired, is saved. -/
  | save_fired (sd : ScheduledDeadline) (reminder_idem_key : String)
  /-- `escalate`: read, advance the level, save. -/
  | advance (deadline_id : String)
  /-- `mark_done` up to its first await; with nothing to cancel it saves at once. -/
  | close (deadline_id : String)
  /-- `mark_done`: the copy it read, with the armed reminders skipped, is saved. -/
  | save_done (sd : ScheduledDeadline)

abbrev Call.Resp : Call → Type
  | .now => DateTime
  | .uuid4 => String
  | .redis_get _ => Bool
  | .redis_set _ => Unit
  | .notify _ => String
  | .arm _ _ _ => String
  | .cancel _ => Unit
  | .audit _ => Unit
  | .get _ => Option ScheduledDeadline
  | .get_by_idem _ => Option ScheduledDeadline
  | .save _ => Unit
  | .save_fired _ _ => Unit
  | .advance _ => Option ScheduledDeadline
  | .close _ => Option ScheduledDeadline
  | .save_done _ => Unit

abbrev M (α : Type) : Type := Program Call Call.Resp Exn α

abbrev await (c : Call) : M c.Resp := Program.perform c

/-- One more call of an outside service: it fails, or does what it does. -/
def World.outside {α : Type} (w : World) (env : Env) (done : Except Exn α × World) :
    Except Exn α × World :=
  match env.fault w.calls with
  | some e => (.error e, { w with calls := w.calls + 1 })
  | none => (done.1, { done.2 with calls := w.calls + 1 })

/-- The world with another store. -/
def World.with_store (w : World) (store : DeadlineStore) : World := { w with store := store }

/-- **What each call does.** Redis always answers; the notification port, the scheduler
    and the audit service may fail, and then they do nothing. -/
def exec (env : Env) : (c : Call) → World → Except Exn c.Resp × World
  | .now, w => (.ok (env.time w.clock), { w with clock := w.clock + 1 })
  | .uuid4, w => (.ok (env.uuid w.uuids), { w with uuids := w.uuids + 1 })
  | .redis_get key, w => (.ok (decide (key ∈ w.redis)), w)
  | .redis_set key, w => (.ok (), { w with redis := key :: w.redis })
  | .notify n, w => w.outside env
      (.ok ("notif-" ++ n.idem_key), { w with delivered := w.delivered ++ [n] })
  | .arm fire_at job_ref idem_key, w => w.outside env
      (.ok (env.uuid w.uuids), { w with
        uuids := w.uuids + 1
        arms := w.arms ++ [⟨env.uuid w.uuids, fire_at, job_ref, idem_key⟩] })
  | .cancel _, w => w.outside env (.ok (), w)
  | .audit _, w => w.outside env (.ok (), w)
  | .get deadline_id, w => (.ok (w.store.get deadline_id), w)
  | .get_by_idem idem_key, w => (.ok (w.store.get_by_idem idem_key), w)
  | .save sd, w => (.ok (), w.with_store (w.store.save sd))
  | .save_fired sd key, w => (.ok (), w.with_store (w.store.save (sd.fire key)))
  | .advance deadline_id, w =>
    match w.store.get deadline_id with
    | none => (.ok none, w)
    | some sd => (.ok (some sd), w.with_store (w.store.save sd.advance))
  | .close deadline_id, w =>
    match w.store.get deadline_id with
    | none => (.ok none, w)
    | some sd => (.ok (some sd),
        if sd.arm_ids.isEmpty then w.with_store (w.store.save sd.finish) else w)
  | .save_done sd, w => (.ok (), w.with_store (w.store.save sd.finish))

/-! ## What the calls leave alone -/

theorem outside_store {α : Type} (w : World) (env : Env) (done : Except Exn α × World)
    (h : done.2.store = w.store) : (w.outside env done).2.store = w.store := by
  unfold World.outside
  split
  · rfl
  · exact h

/-- What a call does to the store. -/
def Call.on_store (store : DeadlineStore) : Call → DeadlineStore
  | .save sd => store.save sd
  | .save_fired sd key => store.save (sd.fire key)
  | .advance deadline_id =>
    match store.get deadline_id with
    | none => store
    | some sd => store.save sd.advance
  | .close deadline_id =>
    match store.get deadline_id with
    | none => store
    | some sd => if sd.arm_ids.isEmpty then store.save sd.finish else store
  | .save_done sd => store.save sd.finish
  | _ => store

/-- Only the calls on the store change the store, and they change it by its contents alone. -/
theorem exec_store (env : Env) (c : Call) (w : World) :
    (exec env c w).2.store = c.on_store w.store := by
  cases c with
  | notify n => exact outside_store w env _ rfl
  | arm fire_at job_ref idem_key => exact outside_store w env _ rfl
  | cancel arm_id => exact outside_store w env _ rfl
  | audit action => exact outside_store w env _ rfl
  | advance deadline_id =>
    simp only [exec, Call.on_store]
    split
    · rfl
    · rfl
  | close deadline_id =>
    simp only [exec, Call.on_store]
    split
    · rfl
    · split
      · rfl
      · rfl
  | _ => rfl

end CaseAutomation.Deadline
