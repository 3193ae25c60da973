import CaseAutomation.Base.JsonCodec
import CaseAutomation.Deadline.World
import Mathlib.Algebra.GroupWithZero.Nat
import Mathlib.Data.List.Sort

/-! # Scheduling a Deadline

    `tool_deadline_schedule` of `deadline/schedule.py`, the schedulers it arms its reminders on,
    and the keys of the reminders.

    A reminder is armed twice, under two job references that share the idempotency key
    of the reminder. The id of the deadline is drawn only after that, so no job reference
    can hold it: both carry the idempotency key of the deadline.
-/

namespace CaseAutomation.Deadline

open Framework

/-! ## Keys -/

/-- `idem`, the key of a reminder. -/
def reminder_key (idempotency_key : String) (rem : ReminderOffset) : String :=
  idempotency_key ++ ":" ++ toString rem.amount ++ ":" ++ rem.unit.value

/-- The key of an escalation notice. -/
def escalation_key (deadline_id : String) (level : Int) : String :=
  "esc:" ++ deadline_id ++ ":" ++ toString level

/-- `dedup_key`. -/
def dedup_key (reminder_idem_key : String) : String := "cam:reminder_fired:" ++ reminder_idem_key

theorem unit_no_colon (unit : ReminderUnit) : ':' ∉ unit.value.toList := by
  cases unit with
  | days => decide
  | business_days => decide

theorem int_no_colon (n : Int) : ':' ∉ (toString n).toList := by
  rw [JsonCodec.toList_toString_int]
  intro hmem
  have hchar := (JsonCodec.int_number n).chars ':' hmem
  cases hchar

/-- The key of a reminder determines the key of its deadline, the amount and the unit. -/
theorem reminder_key_injective {key key' : String} {rem rem' : ReminderOffset}
    (h : reminder_key key rem = reminder_key key' rem') :
    key = key' ∧ rem.amount = rem'.amount ∧ rem.unit = rem'.unit := by
  have hlist := congrArg String.toList h
  simp only [reminder_key, String.toList_append, List.append_assoc] at hlist
  have hsplit : (key.toList ++ ':' :: (toString rem.amount).toList) ++ ':' :: rem.unit.value.toList =
      (key'.toList ++ ':' :: (toString rem'.amount).toList) ++ ':' :: rem'.unit.value.toList := by
    simpa using hlist
  obtain ⟨hleft, hunit⟩ := last_separator (unit_no_colon rem.unit) (unit_no_colon rem'.unit) hsplit
  obtain ⟨hkey, hamount⟩ := last_separator (int_no_colon rem.amount) (int_no_colon rem'.amount) hleft
  refine ⟨String.toList_injective hkey, ?_, ?_⟩
  · rw [JsonCodec.toList_toString_int, JsonCodec.toList_toString_int] at hamount
    exact JsonCodec.int_text_injective hamount
  · have hvalue : rem.unit.value = rem'.unit.value := String.toList_injective hunit
    revert hvalue
    cases rem.unit with
    | days =>
      cases rem'.unit with
      | days => exact fun _ => rfl
      | business_days => decide
    | business_days =>
      cases rem'.unit with
      | days => decide
      | business_days => exact fun _ => rfl

/-- No reminder has the key of an escalation notice. -/
theorem reminder_key_ne_escalation_key (key deadline_id : String) (rem : ReminderOffset)
    (level : Int) : reminder_key key rem ≠ escalation_key deadline_id level := by
  intro h
  have hlist := congrArg String.toList h
  simp only [reminder_key, escalation_key, String.toList_append, List.append_assoc] at hlist
  have hsplit : (key.toList ++ ':' :: (toString rem.amount).toList) ++ ':' :: rem.unit.value.toList =
      ("esc:".toList ++ deadline_id.toList) ++ ':' :: (toString level).toList := by
    simpa using hlist
  obtain ⟨-, hlast⟩ := last_separator (unit_no_colon rem.unit) (int_no_colon level) hsplit
  -- a unit starts with a letter, a number does not
  rw [JsonCodec.toList_toString_int] at hlast
  have hchars := (JsonCodec.int_number level).chars
  rw [← hlast] at hchars
  cases hunit : rem.unit with
  | days =>
    rw [hunit] at hchars
    have hd := hchars 'd' (by decide)
    cases hd
  | business_days =>
    rw [hunit] at hchars
    have hb := hchars 'b' (by decide)
    cases hb

/-! ## The tool -/

/-- The arguments of `tool_deadline_schedule` that it reads. -/
structure ScheduleCall where
  matter_id : String
  rule : DeadlineRule
  trigger_inputs : Dict String DateTime
  rule_ref : RuleRef
  idempotency_key : String
  /-- An `audit_fn` is given. -/
  audited : Bool
  now : Option DateTime

/-- `_audit`: a failure is swallowed. -/
def audit (audited : Bool) (action : String) : M Unit :=
  if audited then (await (.audit action)).attempt.discard else .ret ()

/-- `PastDueOnCreateError`. -/
def past_due_on_create (due_at now : DateTime) : Exn :=
  .other "PastDueOnCreateError" ("Deadline due_at=" ++ due_at.isoformat ++ " is in the past " ++
    "(now=" ++ now.isoformat ++ ").")

/-- One reminder of the rule: it is armed on both paths, unless its time is over. -/
def schedule_reminder (idempotency_key : String) (due_at now : DateTime) (rem : ReminderOffset) :
    M ScheduledReminder := do
  let fire_at ← .ofExcept (fire_at due_at rem)
  let past ← .ofExcept (fire_at.lt now)
  if past then
    let id ← await .uuid4
    return {
      id := id
      deadline_id := ""
      fire_at := fire_at
      offset := rem
      status := .skipped_past
      idempotency_key := reminder_key idempotency_key rem
      redundant_arm_ids := [] }
  else
    let arm1 ← await (.arm fire_at ("deadline_reminder:" ++ idempotency_key)
      (reminder_key idempotency_key rem))
    let arm2 ← await (.arm fire_at ("deadline_reminder_backup:" ++ idempotency_key)
      (reminder_key idempotency_key rem))
    let id ← await .uuid4
    return {
      id := id
      deadline_id := ""
      fire_at := fire_at
      offset := rem
      status := .armed
      idempotency_key := reminder_key idempotency_key rem
      redundant_arm_ids := [arm1, arm2] }

/-- The reminders of the rule, in the order of the rule. -/
def schedule_reminders (idempotency_key : String) (due_at now : DateTime) :
    List ReminderOffset → M (List ScheduledReminder)
  | [] => return []
  | rem :: rest => do
    let reminder ← schedule_reminder idempotency_key due_at now rem
    let reminders ← schedule_reminders idempotency_key due_at now rest
    return reminder :: reminders

/-- `sorted(reminders, key=lambda r: r.fire_at)`; the reminders of a deadline share their
    UTC offset. -/
def by_fire_at (reminders : List ScheduledReminder) : List ScheduledReminder :=
  reminders.insertionSort fun a b => a.fire_at.wall ≤ b.fire_at.wall

/-- The record of a deadline that is past due when it is created. -/
def ScheduleCall.flagged (call : ScheduleCall) (trace : ComputationTrace) (deadline_id : String) :
    ScheduledDeadline where
  deadline_id := deadline_id
  matter_id := call.matter_id
  rule_ref := call.rule_ref
  trace := trace
  reminders := []
  flagged_past_due_on_create := true
  idempotency_key := call.idempotency_key
  escalation_level := 0

/-- The record of a deadline, with its id filled in in the reminders. -/
def ScheduleCall.scheduled (call : ScheduleCall) (trace : ComputationTrace)
    (reminders : List ScheduledReminder) (deadline_id : String) : ScheduledDeadline where
  deadline_id := deadline_id
  matter_id := call.matter_id
  rule_ref := call.rule_ref
  trace := trace
  reminders := by_fire_at (reminders.map fun r => { r with deadline_id := deadline_id })
  flagged_past_due_on_create := false
  idempotency_key := call.idempotency_key
  escalation_level := 0

theorem mem_scheduled {call : ScheduleCall} {trace : ComputationTrace}
    {rs : List ScheduledReminder} {id : String} {r : ScheduledReminder} :
    r ∈ (call.scheduled trace rs id).reminders ↔ ∃ r₀ ∈ rs, { r₀ with deadline_id := id } = r := by
  show r ∈ by_fire_at _ ↔ _
  rw [by_fire_at, (List.perm_insertionSort _ _).mem_iff, List.mem_map]

/-- `tool_deadline_schedule` once the due date is known. -/
def schedule_at (call : ScheduleCall) (now : DateTime) (trace : ComputationTrace) :
    M ScheduledDeadline := do
  let past ← .ofExcept (trace.due_at.lt now)
  if past then
    let deadline_id ← await .uuid4
    await (.save (call.flagged trace deadline_id))
    audit call.audited "deadline.past_due_on_create"
    .raise (past_due_on_create trace.due_at now)
  else
    .ofExcept (get_calendar call.rule.calendar_id)
    let reminders ← schedule_reminders call.idempotency_key trace.due_at now call.rule.reminders
    let deadline_id ← await .uuid4
    let sd := call.scheduled trace reminders deadline_id
    await (.save sd)
    audit call.audited "deadline.scheduled"
    return sd

/-- `now or datetime.now(tz=UTC)`. -/
def time_of : Option DateTime → M DateTime
  | some now => .ret now
  | none => await .now

/-- `tool_deadline_schedule`. -/
def tool_deadline_schedule (call : ScheduleCall) : M ScheduledDeadline := do
  let now ← time_of call.now
  match ← await (.get_by_idem call.idempotency_key) with
  | some existing => return existing
  | none =>
    let trace ← .ofExcept (compute_due_date call.rule call.trigger_inputs now call.rule_ref)
    schedule_at call now trace

/-! ## What the tool does

    Only the last steps write to the store. Until then the tool reads the clock, draws ids and
    arms jobs, and an exception leaves it there. -/

/-- Nothing was stored, sent or remembered in Redis. -/
structure Quiet (w w' : World) : Prop where
  store : w'.store = w.store
  redis : w'.redis = w.redis
  delivered : w'.delivered = w.delivered
  uuids : w.uuids ≤ w'.uuids

theorem Quiet.refl (w : World) : Quiet w w := ⟨rfl, rfl, rfl, le_refl _⟩

theorem Quiet.trans {a b c : World} (h : Quiet a b) (h' : Quiet b c) : Quiet a c :=
  ⟨h'.store.trans h.store, h'.redis.trans h.redis, h'.delivered.trans h.delivered,
    le_trans h.uuids h'.uuids⟩

/-- The outside call draws no ids and arms nothing, whether it fails or not. -/
structure Silent (w w' : World) : Prop extends Quiet w w' where
  no_ids : w'.uuids = w.uuids
  no_arms : w'.arms = w.arms

section run
variable (env : Env)

/-- Audits change nothing that the engine reads and never fail. -/
theorem audit_run (audited : Bool) (action : String) (w : World) :
    ∃ w', (audit audited action).run (exec env) w = (.ok (), w') ∧ Silent w w' := by
  cases audited with
  | false => exact ⟨w, rfl, Quiet.refl w, rfl, rfl⟩
  | true =>
    refine ⟨(exec env (.audit action) w).2, ?_, ?_⟩
    · rw [audit, if_pos rfl, Program.discard, Program.run_bind, Program.run_attempt,
        Program.run_perform]
      rfl
    · show Silent w (w.outside env (.ok (), w)).2
      unfold World.outside
      split
      · exact ⟨⟨rfl, rfl, rfl, le_refl _⟩, rfl, rfl⟩
      · exact ⟨⟨rfl, rfl, rfl, le_refl _⟩, rfl, rfl⟩

theorem time_of_run (now : Option DateTime) (w : World) :
    ∃ w', (time_of now).run (exec env) w = (.ok (now.getD (env.time w.clock)), w') ∧
      Silent w w' := by
  cases now with
  | none => exact ⟨_, rfl, ⟨rfl, rfl, rfl, le_refl _⟩, rfl, rfl⟩
  | some now => exact ⟨w, rfl, Quiet.refl w, rfl, rfl⟩

/-- What a reminder of the rule looks like when it is made. -/
structure Made (idempotency_key : String) (due_at now : DateTime) (r : ScheduledReminder) :
    Prop where
  fires : fire_at due_at r.offset = .ok r.fire_at
  key : r.idempotency_key = reminder_key idempotency_key r.offset
  status : r.fire_at.lt now = .ok true ∧ r.status = .skipped_past ∧ r.redundant_arm_ids = [] ∨
    r.fire_at.lt now = .ok false ∧ r.status = .armed ∧
      ∃ arm1 arm2, r.redundant_arm_ids = [arm1, arm2]

/-- The jobs of a new reminder. -/
def reminder_arms (idempotency_key : String) (r : ScheduledReminder) : List Arm :=
  match r.redundant_arm_ids with
  | [arm1, arm2] => [
      ⟨arm1, r.fire_at, "deadline_reminder:" ++ idempotency_key, r.idempotency_key⟩,
      ⟨arm2, r.fire_at, "deadline_reminder_backup:" ++ idempotency_key, r.idempotency_key⟩]
  | _ => []

/-- The ids that are drawn for a new reminder: its own, and those of its jobs. -/
def ids_drawn (due_at now : DateTime) (rem : ReminderOffset) : Nat :=
  match fire_at due_at rem with
  | .ok fire_at => if fire_at.lt now = .ok true then 1 else 3
  | .error _ => 0

/-- The world after a job was handed to the scheduler. -/
def World.armed (w : World) (fire_at : DateTime) (job_ref idem_key : String) : World :=
  { w with
    uuids := w.uuids + 1
    arms := w.arms ++ [⟨env.uuid w.uuids, fire_at, job_ref, idem_key⟩]
    calls := w.calls + 1 }

/-- The scheduler refuses the job or takes it. -/
theorem arm_cases (fire_at : DateTime) (job_ref idem_key : String) (w : World) :
    (∃ e, exec env (.arm fire_at job_ref idem_key) w =
      (.error e, { w with calls := w.calls + 1 })) ∨
    exec env (.arm fire_at job_ref idem_key) w =
      (.ok (env.uuid w.uuids), w.armed env fire_at job_ref idem_key) := by
  show (∃ e, w.outside env _ = _) ∨ w.outside env _ = _
  unfold World.outside
  split
  · next e _ => exact .inl ⟨e, rfl⟩
  · exact .inr rfl

variable {env}

theorem schedule_reminder_run {idempotency_key : String} {due_at now : DateTime}
    {rem : ReminderOffset} {w w' : World} {result : Except Exn ScheduledReminder}
    (h : (schedule_reminder idempotency_key due_at now rem).run (exec env) w = (result, w')) :
    Quiet w w' ∧ ∀ r, result = .ok r →
      Made idempotency_key due_at now r ∧ r.offset = rem ∧
      w'.arms = w.arms ++ reminder_arms idempotency_key r ∧
      w'.uuids = w.uuids + ids_drawn due_at now rem := by
  unfold schedule_reminder at h
  cases hfire : fire_at due_at rem with
  | error e =>
    simp only [hfire, Program.ofExcept, Program.monad_bind, Program.raise_bind,
      Program.run_raise, Prod.mk.injEq] at h
    obtain ⟨rfl, rfl⟩ := h
    exact ⟨Quiet.refl _, fun r hr => by cases hr⟩
  | ok time =>
    cases hpast : time.lt now with
    | error e =>
      simp only [hfire, hpast, Program.ofExcept, Program.monad_bind, Program.ret_bind,
        Program.raise_bind, Program.run_raise, Prod.mk.injEq] at h
      obtain ⟨rfl, rfl⟩ := h
      exact ⟨Quiet.refl _, fun r hr => by cases hr⟩
    | ok past =>
      simp only [hfire, hpast, Program.ofExcept, Program.monad_bind, Program.ret_bind] at h
      cases past with
      | true =>
        obtain ⟨rfl, rfl⟩ := Prod.mk.inj h
        refine ⟨⟨rfl, rfl, rfl, Nat.le_succ _⟩, ?_⟩
        intro r hr
        cases hr
        refine ⟨⟨hfire, rfl, .inl ⟨hpast, rfl, rfl⟩⟩, rfl, (List.append_nil _).symm, ?_⟩
        simp only [ids_drawn, hfire, hpast]
        rfl
      | false =>
        -- either job may be refused; then the first one stays with the scheduler
        simp only [Bool.false_eq_true, if_false] at h
        rw [Program.run_bind, Program.run_perform] at h
        obtain ⟨e, harm⟩ | harm := arm_cases env time ("deadline_reminder:" ++ idempotency_key)
          (reminder_key idempotency_key rem) w
        · rw [harm] at h
          obtain ⟨rfl, rfl⟩ := Prod.mk.inj h
          exact ⟨⟨rfl, rfl, rfl, le_refl _⟩, fun r hr => by cases hr⟩
        rw [harm] at h
        simp only at h
        rw [Program.run_bind, Program.run_perform] at h
        obtain ⟨e, harm2⟩ | harm2 := arm_cases env time
          ("deadline_reminder_backup:" ++ idempotency_key) (reminder_key idempotency_key rem)
          (w.armed env time ("deadline_reminder:" ++ idempotency_key)
            (reminder_key idempotency_key rem))
        · rw [harm2] at h
          obtain ⟨rfl, rfl⟩ := Prod.mk.inj h
          exact ⟨⟨rfl, rfl, rfl, Nat.le_succ _⟩, fun r hr => by cases hr⟩
        rw [harm2] at h
        obtain ⟨rfl, rfl⟩ := Prod.mk.inj h
        refine ⟨⟨rfl, rfl, rfl, by show w.uuids ≤ w.uuids + 1 + 1 + 1; omega⟩, ?_⟩
        intro r hr
        cases hr
        refine ⟨⟨hfire, rfl, .inr ⟨hpast, rfl, _, _, rfl⟩⟩, rfl, ?_, ?_⟩
        · show (w.arms ++ [_]) ++ [_] = _
          rw [List.append_assoc]
          rfl
        · simp only [ids_drawn, hfire, hpast]
          rfl

/-- The loop over the reminders of the rule. -/
theorem schedule_reminders_run {idempotency_key : String} {due_at now : DateTime}
    {rems : List ReminderOffset} {w w' : World} {result : Except Exn (List ScheduledReminder)}
    (h : (schedule_reminders idempotency_key due_at now rems).run (exec env) w = (result, w')) :
    Quiet w w' ∧ ∀ rs, result = .ok rs →
      (∀ r ∈ rs, Made idempotency_key due_at now r) ∧
      rs.map ScheduledReminder.offset = rems ∧
      w'.arms = w.arms ++ rs.flatMap (reminder_arms idempotency_key) ∧
      w'.uuids = w.uuids + (rems.map (ids_drawn due_at now)).sum := by
  induction rems generalizing w w' result with
  | nil =>
    obtain ⟨rfl, rfl⟩ := Prod.mk.inj h
    refine ⟨Quiet.refl _, ?_⟩
    intro rs hrs
    cases hrs
    simp
  | cons rem rest ih =>
    unfold schedule_reminders at h
    rw [Program.monad_bind, Program.run_bind] at h
    cases hfirst : (schedule_reminder idempotency_key due_at now rem).run (exec env) w with
    | mk first w₁ =>
    rw [hfirst] at h
    obtain ⟨hquiet, hmade⟩ := schedule_reminder_run hfirst
    cases first with
    | error e =>
      obtain ⟨rfl, rfl⟩ := Prod.mk.inj h
      exact ⟨hquiet, fun rs hrs => by cases hrs⟩
    | ok r =>
      simp only at h
      rw [Program.monad_bind, Program.run_bind] at h
      cases hloop : (schedule_reminders idempotency_key due_at now rest).run (exec env) w₁ with
      | mk others w₂ =>
      rw [hloop] at h
      obtain ⟨hquiet₂, hmade₂⟩ := ih hloop
      cases others with
      | error e =>
        obtain ⟨rfl, rfl⟩ := Prod.mk.inj h
        exact ⟨hquiet.trans hquiet₂, fun rs hrs => by cases hrs⟩
      | ok others =>
        obtain ⟨rfl, rfl⟩ := Prod.mk.inj h
        refine ⟨hquiet.trans hquiet₂, ?_⟩
        intro rs hrs
        cases hrs
        obtain ⟨hr, hoffset, harms, hids⟩ := hmade r rfl
        obtain ⟨hrs, hoffsets, harms₂, hids₂⟩ := hmade₂ others rfl
        refine ⟨?_, ?_, ?_, ?_⟩
        · intro x hx
          obtain rfl | hx := List.mem_cons.mp hx
          · exact hr
          · exact hrs x hx
        · rw [List.map_cons, hoffset, hoffsets]
        · rw [harms₂, harms, List.append_assoc, List.flatMap_cons]
        · rw [hids₂, hids, List.map_cons, List.sum_cons, Nat.add_assoc]

/-- A new deadline was filed under a fresh id. -/
structure Filed (env : Env) (w w' : World) (sd : ScheduledDeadline) : Prop where
  store : w'.store = w.store.save sd
  redis : w'.redis = w.redis
  delivered : w'.delivered = w.delivered
  fresh : ∃ n, w.uuids ≤ n ∧ n < w'.uuids ∧ sd.deadline_id = env.uuid n

/-- The call made a deadline with these reminders and armed their jobs. -/
structure Scheduled (env : Env) (call : ScheduleCall) (now : DateTime) (w w' : World)
    (trace : ComputationTrace) (reminders : List ScheduledReminder) (deadline_id : String) :
    Prop where
  filed : Filed env w w' (call.scheduled trace reminders deadline_id)
  made : ∀ r ∈ reminders, Made call.idempotency_key trace.due_at now r
  offsets : reminders.map ScheduledReminder.offset = call.rule.reminders
  arms : w'.arms = w.arms ++ reminders.flatMap (reminder_arms call.idempotency_key)
  id : deadline_id =
    env.uuid (w.uuids + (call.rule.reminders.map (ids_drawn trace.due_at now)).sum)

theorem Filed.of_silent {w w₁ w' : World} {sd : ScheduledDeadline} (h : Filed env w₁ w' sd)
    (hsilent : Silent w w₁) : Filed env w w' sd := by
  refine ⟨?_, h.redis.trans hsilent.redis, h.delivered.trans hsilent.delivered, ?_⟩
  · rw [h.store, hsilent.store]
  · rw [← hsilent.no_ids]
    exact h.fresh

theorem Scheduled.of_silent {call : ScheduleCall} {now : DateTime} {w w₁ w' : World}
    {trace : ComputationTrace} {reminders : List ScheduledReminder} {deadline_id : String}
    (h : Scheduled env call now w₁ w' trace reminders deadline_id) (hsilent : Silent w w₁) :
    Scheduled env call now w w' trace reminders deadline_id := by
  refine ⟨h.filed.of_silent hsilent, h.made, h.offsets, ?_, ?_⟩
  · rw [h.arms, hsilent.no_arms]
  · rw [h.id, hsilent.no_ids]

/-- **What scheduling can do once the due date is known**: raise, flag, or schedule. -/
theorem schedule_at_cases {call : ScheduleCall} {now : DateTime} {trace : ComputationTrace}
    {w w' : World} {result : Except Exn ScheduledDeadline}
    (h : (schedule_at call now trace).run (exec env) w = (result, w')) :
    (∃ e, result = .error e ∧ Quiet w w' ∧ trace.due_at.lt now ≠ .ok true) ∨
    (∃ id, result = .error (past_due_on_create trace.due_at now) ∧
      trace.due_at.lt now = .ok true ∧ Filed env w w' (call.flagged trace id)) ∨
    (∃ rs id, result = .ok (call.scheduled trace rs id) ∧
      trace.due_at.lt now = .ok false ∧ Scheduled env call now w w' trace rs id) := by
  unfold schedule_at at h
  rw [Program.monad_bind, Program.run_bind, Program.run_ofExcept] at h
  cases hpast : trace.due_at.lt now with
  | error e =>
    rw [hpast] at h
    obtain ⟨rfl, rfl⟩ := Prod.mk.inj h
    exact .inl ⟨e, rfl, Quiet.refl _, by simp⟩
  | ok past =>
  rw [hpast] at h
  cases past with
  | true =>
    refine .inr (.inl ⟨env.uuid w.uuids, ?_⟩)
    obtain ⟨w₁, haudit, hsilent⟩ := audit_run env call.audited "deadline.past_due_on_create"
      { w with
        uuids := w.uuids + 1
        store := w.store.save (call.flagged trace (env.uuid w.uuids)) }
    simp only [if_true] at h
    rw [Program.monad_bind, Program.run_bind, Program.run_perform] at h
    simp only [exec] at h
    rw [Program.monad_bind, Program.run_bind, Program.run_perform] at h
    simp only [exec, World.with_store] at h
    rw [Program.monad_bind, Program.run_bind_ok haudit] at h
    obtain ⟨rfl, rfl⟩ := Prod.mk.inj h
    refine ⟨rfl, rfl, hsilent.store, hsilent.redis, hsilent.delivered, w.uuids, le_refl _, ?_, rfl⟩
    rw [hsilent.no_ids]
    exact Nat.lt_succ_self _
  | false =>
    simp only [Bool.false_eq_true, if_false] at h
    rw [Program.monad_bind, Program.run_bind, Program.run_ofExcept] at h
    cases hcal : get_calendar call.rule.calendar_id with
    | error e =>
      rw [hcal] at h
      obtain ⟨rfl, rfl⟩ := Prod.mk.inj h
      exact .inl ⟨e, rfl, Quiet.refl _, by simp⟩
    | ok _ =>
    rw [hcal] at h
    simp only at h
    rw [Program.monad_bind, Program.run_bind] at h
    cases hloop : (schedule_reminders call.idempotency_key trace.due_at now
      call.rule.reminders).run (exec env) w with
    | mk reminders w₁ =>
    rw [hloop] at h
    obtain ⟨hquiet, hmade⟩ := schedule_reminders_run hloop
    cases reminders with
    | error e =>
      obtain ⟨rfl, rfl⟩ := Prod.mk.inj h
      exact .inl ⟨e, rfl, hquiet, by simp⟩
    | ok rs =>
      obtain ⟨hrs, hoffsets, harms, hids⟩ := hmade rs rfl
      refine .inr (.inr ⟨rs, env.uuid w₁.uuids, ?_⟩)
      obtain ⟨w₂, haudit, hsilent⟩ := audit_run env call.audited "deadline.scheduled"
        { w₁ with
          uuids := w₁.uuids + 1
          store := w₁.store.save (call.scheduled trace rs (env.uuid w₁.uuids)) }
      simp only at h
      rw [Program.monad_bind, Program.run_bind, Program.run_perform] at h
      simp only [exec] at h
      rw [Program.monad_bind, Program.run_bind, Program.run_perform] at h
      simp only [exec, World.with_store] at h
      rw [Program.monad_bind, Program.run_bind_ok haudit] at h
      obtain ⟨rfl, rfl⟩ := Prod.mk.inj h
      refine ⟨rfl, rfl, ?_, hrs, hoffsets, ?_, ?_⟩
      · refine ⟨?_, hsilent.redis.trans hquiet.redis, hsilent.delivered.trans hquiet.delivered,
          w₁.uuids, hquiet.uuids, ?_, rfl⟩
        · rw [hsilent.store, ← hquiet.store]
        · rw [hsilent.no_ids]
          exact Nat.lt_succ_self _
      · rw [hsilent.no_arms]
        exact harms
      · rw [← hids]

/-- **What `tool_deadline_schedule` can do**: return the deadline that is stored under the key,
    raise with the store as it was, flag, or schedule. -/
theorem schedule_cases {call : ScheduleCall} {w w' : World}
    {result : Except Exn ScheduledDeadline}
    (h : (tool_deadline_schedule call).run (exec env) w = (result, w')) :
    (∃ sd, w.store.get_by_idem call.idempotency_key = some sd ∧ result = .ok sd ∧
      Silent w w') ∨
    w.store.get_by_idem call.idempotency_key = none ∧
      ((∃ e, result = .error e ∧ Quiet w w') ∨
      ∃ trace, compute_due_date call.rule call.trigger_inputs (call.now.getD (env.time w.clock))
          call.rule_ref = .ok trace ∧
        ((∃ id, result = .error (past_due_on_create trace.due_at (call.now.getD (env.time w.clock))) ∧
          Filed env w w' (call.flagged trace id)) ∨
        (∃ rs id, result = .ok (call.scheduled trace rs id) ∧
          Scheduled env call (call.now.getD (env.time w.clock)) w w' trace rs id))) := by
  unfold tool_deadline_schedule at h
  obtain ⟨w₁, htime, hsilent⟩ := time_of_run env call.now w
  rw [Program.monad_bind, Program.run_bind_ok htime, Program.monad_bind, Program.run_bind,
    Program.run_perform] at h
  simp only [exec] at h
  rw [hsilent.store] at h
  cases hget : w.store.get_by_idem call.idempotency_key with
  | some sd =>
    rw [hget] at h
    obtain ⟨rfl, rfl⟩ := Prod.mk.inj h
    exact .inl ⟨sd, rfl, rfl, hsilent⟩
  | none =>
    rw [hget] at h
    simp only at h
    refine .inr ⟨rfl, ?_⟩
    rw [Program.monad_bind, Program.run_bind, Program.run_ofExcept] at h
    cases htrace : compute_due_date call.rule call.trigger_inputs
      (call.now.getD (env.time w.clock)) call.rule_ref with
    | error e =>
      rw [htrace] at h
      obtain ⟨rfl, rfl⟩ := Prod.mk.inj h
      exact .inl ⟨e, rfl, hsilent.toQuiet⟩
    | ok trace =>
      rw [htrace] at h
      simp only at h
      obtain ⟨e, he, hquiet, -⟩ | ⟨id, he, -, hfiled⟩ | ⟨rs, id, he, -, hmade⟩ :=
        schedule_at_cases h
      · exact .inl ⟨e, he, hsilent.trans hquiet⟩
      · exact .inr ⟨trace, rfl, .inl ⟨id, he, hfiled.of_silent hsilent⟩⟩
      · exact .inr ⟨trace, rfl, .inr ⟨rs, id, he, hmade.of_silent hsilent⟩⟩

/-- A deadline that is stored is returned, and nothing else happens. -/
theorem tool_existing {call : ScheduleCall} {now : DateTime} {w : World} {sd : ScheduledDeadline}
    (hnow : call.now = some now) (h : w.store.get_by_idem call.idempotency_key = some sd) :
    (tool_deadline_schedule call).run (exec env) w = (.ok sd, w) := by
  unfold tool_deadline_schedule
  rw [hnow]
  show (Program.bind (await (.get_by_idem call.idempotency_key)) _).run (exec env) w = _
  rw [Program.run_bind, Program.run_perform]
  simp only [exec, h]
  rfl

end run

/-! ## A rule with one reminder -/

/-- Nine o'clock UTC. -/
def nine_utc (d : Date) : DateTime := ⟨d, 32400000000, some 0⟩

/-- Twenty-one days after service, with a reminder a week before. -/
def answer_rule : DeadlineRule where
  rule_id := "answer"
  jurisdiction := "US"
  practice_area := none
  trigger := "served_date"
  offset := ⟨21, 0, 0, 0, 0⟩
  adjust := .next_business_day
  calendar_id := "us_federal"
  reminders := [⟨-7, .days, none⟩]
  escalation := []
  description := "Answer to the complaint"
  assumption_unconfirmed := false

def answer_call : ScheduleCall where
  matter_id := "m1"
  rule := answer_rule
  trigger_inputs := (∅ : Dict String DateTime).set "served_date" (nine_utc 739700)
  rule_ref := ⟨"answer", "v1", "US", none⟩
  idempotency_key := "k1"
  audited := false
  now := some (nine_utc 739701)

/-- Numbered ids, a clock that advances by a day, and services that fail as told. -/
def answer_env (fault : Nat → Option Exn) : Env where
  time n := nine_utc (739701 + n)
  uuid := numbered_id
  uuid_injective := numbered_id_injective
  uuid_ne := numbered_id_ne
  fault := fault

/-- The services never fail. -/
def calm_env : Env := answer_env fun _ => none

/-- The answer is scheduled and its reminder is armed. -/
def answer_world : World := ((tool_deadline_schedule answer_call).run (exec calm_env) .fresh).2

end CaseAutomation.Deadline
