import CaseAutomation.Deadline.Firing

/-! # Reminder Tasks in Production

    `CeleryScheduler.arm` of `sidecar/scheduler_celery.py` turns a job into a task of
    `sidecar/celery_app.py` that calls `fire_reminder`. The id that it hands to the task is what
    stands after the colon in the job reference: the idempotency key of the deadline. The store
    keeps deadlines under the uuid that is drawn when they are filed, so the task
    finds its deadline only if the key happens to be that uuid (`armed_tasks_fire_iff`).
-/

namespace CaseAutomation.Deadline

open Framework

/-! ## Tasks -/

/-- `text.split(sep, 1)`: what stands after the first separator, if there is one. -/
def after_first (sep : Char) (text : String) : Option String :=
  match text.toList.dropWhile (· ≠ sep) with
  | [] => none
  | _ :: rest => some (String.ofList rest)

/-- The arguments of `task_fire_reminder`. -/
structure Task where
  deadline_id : String
  reminder_idem_key : String

/-- `CeleryScheduler.arm`: the task of a job. -/
def celery_task (a : Arm) : Task where
  deadline_id := (after_first ':' a.job_ref).getD a.idem_key
  reminder_idem_key := a.idem_key

/-- `task_fire_reminder`: there may be a Redis client, and there is no audit function. -/
def task_fire_reminder (redis : Bool) (task : Task) : M Bool :=
  fire_reminder task.deadline_id task.reminder_idem_key redis false

/-- The task finds the deadline and a reminder with its key, and unless the reminder was sent before
    or the notification fails, it sends it. -/
structure CanFire (env : Env) (w : World) (sd : ScheduledDeadline) (task : Task) : Prop where
  deadline : w.store.get task.deadline_id = some sd
  reminder : ∃ r, sd.reminder task.reminder_idem_key = some r
  sends : ∀ redis, (redis = true → dedup_key task.reminder_idem_key ∉ w.redis) →
    env.fault w.calls = none → ∃ w', (task_fire_reminder redis task).run (exec env) w = (.ok true, w') ∧
      w'.sent task.reminder_idem_key = w.sent task.reminder_idem_key + 1

/-- The tasks that were armed between two states. -/
def new_tasks (w w' : World) : List Task := (w'.arms.drop w.arms.length).map celery_task

/-! ## When the tasks find their deadline -/

/-- `now` as the tool sees it. -/
def ScheduleCall.time (call : ScheduleCall) (env : Env) (w : World) : DateTime :=
  call.now.getD (env.time w.clock)

/-- The time of the reminder is over. -/
def is_past (due_at now : DateTime) (rem : ReminderOffset) : Prop :=
  ∀ t, fire_at due_at rem = .ok t → t.lt now = .ok true

/-- The uuid that the tool will draw for the deadline: after those of the reminders that it
    keeps and of their jobs. -/
def ScheduleCall.next_id (call : ScheduleCall) (env : Env) (w : World) (due_at : DateTime) : String :=
  env.uuid (w.uuids + (call.rule.reminders.map (ids_drawn due_at (call.time env w))).sum)

/-- There is nothing to arm, or the idempotency key is the uuid that will be drawn. -/
def ScheduleCall.Reachable (call : ScheduleCall) (env : Env) (w : World) : Prop :=
  w.store.get_by_idem call.idempotency_key ≠ none ∨
    ∀ trace, compute_due_date call.rule call.trigger_inputs (call.time env w) call.rule_ref =
        .ok trace →
      (∀ rem ∈ call.rule.reminders, is_past trace.due_at (call.time env w) rem) ∨
        call.idempotency_key = call.next_id env w trace.due_at

section tasks
variable {env : Env}

theorem after_first_reference (pre : List Char) (key : String) (hpre : ∀ c ∈ pre, c ≠ ':') :
    after_first ':' (String.ofList (pre ++ [':']) ++ key) = some key := by
  have hdrop : (String.ofList (pre ++ [':']) ++ key).toList.dropWhile (· ≠ ':') =
      ':' :: key.toList := by
    rw [String.toList_append, String.toList_ofList, List.append_assoc,
      List.dropWhile_append_of_pos]
    · simp
    · intro c hc
      simpa using hpre c hc
  unfold after_first
  rw [hdrop]
  simp

/-- The id that a task carries is the idempotency key of the deadline. -/
theorem celery_task_of_arm {key : String} {r : ScheduledReminder} {a : Arm}
    (h : a ∈ reminder_arms key r) : celery_task a = ⟨key, r.idempotency_key⟩ := by
  unfold reminder_arms at h
  split at h
  · next arm1 arm2 _ =>
    have hfirst : after_first ':' ("deadline_reminder:" ++ key) = some key :=
      after_first_reference "deadline_reminder".toList key (by simp)
    have hbackup : after_first ':' ("deadline_reminder_backup:" ++ key) = some key :=
      after_first_reference "deadline_reminder_backup".toList key (by simp)
    rw [List.mem_cons, List.mem_singleton] at h
    obtain rfl | rfl := h
    · simp [celery_task, hfirst]
    · simp [celery_task, hbackup]
  · cases h

/-- Reminders with the same key have the same time, so they are armed together. -/
theorem scheduled_waiting {call : ScheduleCall} {now : DateTime} {trace : ComputationTrace}
    {rs : List ScheduledReminder} {id : String} {r : ScheduledReminder}
    (hmade : ∀ r ∈ rs, Made call.idempotency_key trace.due_at now r) (hr : r ∈ rs)
    (harmed : r.status = .armed) :
    (call.scheduled trace rs id).waiting r.idempotency_key = true := by
  rw [ScheduledDeadline.waiting_iff]
  have hsome : ((call.scheduled trace rs id).reminder r.idempotency_key).isSome = true := by
    rw [ScheduledDeadline.reminder, List.find?_isSome]
    exact ⟨_, mem_scheduled.mpr ⟨r, hr, rfl⟩, by simp⟩
  obtain ⟨r', hr'⟩ := Option.isSome_iff_exists.mp hsome
  refine ⟨r', hr', ?_⟩
  obtain ⟨hmem, hkey⟩ := ScheduledDeadline.reminder_mem hr'
  obtain ⟨r₀, hr₀, rfl⟩ := mem_scheduled.mp hmem
  have hm := hmade r hr
  have hm₀ := hmade r₀ hr₀
  have hsame : reminder_key call.idempotency_key r₀.offset =
      reminder_key call.idempotency_key r.offset := by
    rw [← hm₀.key, ← hm.key]
    exact hkey
  obtain ⟨-, hamount, hunit⟩ := reminder_key_injective hsame
  have htime : r₀.fire_at = r.fire_at := by
    have h := hm₀.fires
    rw [fire_at, hamount, hunit] at h
    exact Except.ok.inj (h.symm.trans hm.fires)
  obtain ⟨-, hskipped, -⟩ | ⟨hahead, -⟩ := hm.status
  · rw [harmed] at hskipped
    cases hskipped
  · obtain ⟨hover, -⟩ | ⟨-, h, -⟩ := hm₀.status
    · rw [htime, hahead] at hover
      cases hover
    · exact h

/-- A reminder that is made has its jobs exactly if its time is not over. -/
theorem reminder_arms_nil_iff {key : String} {due_at now : DateTime} {r : ScheduledReminder}
    (h : Made key due_at now r) : reminder_arms key r = [] ↔ is_past due_at now r.offset := by
  obtain ⟨hover, -, harms⟩ | ⟨hahead, -, arm1, arm2, harms⟩ := h.status
  · rw [reminder_arms, harms]
    refine ⟨fun _ t ht => ?_, fun _ => rfl⟩
    rw [h.fires] at ht
    cases ht
    exact hover
  · rw [reminder_arms, harms]
    constructor
    · intro hnil
      cases hnil
    · intro hover
      have hpast := hover _ h.fires
      rw [hahead] at hpast
      cases hpast

/-- **When the armed tasks can fire.** Whenever the tool succeeds, all tasks that it armed find the
    deadline and send its reminders if and only if there was nothing to arm or the
    idempotency key is the uuid of the deadline. -/
theorem armed_tasks_fire_iff {call : ScheduleCall} {w w' : World} {sd : ScheduledDeadline}
    (h : (tool_deadline_schedule call).run (exec env) w = (.ok sd, w')) :
    (∀ task ∈ new_tasks w w', CanFire env w' sd task) ↔ call.Reachable env w := by
  obtain ⟨existing, hget, -, hsilent⟩ |
    ⟨hnone, ⟨e, he, -⟩ | ⟨trace, htrace, ⟨id, he, -⟩ | ⟨rs, id, hok, hmade⟩⟩⟩ := schedule_cases h
  · -- the stored deadline is returned and nothing is armed
    have htasks : new_tasks w w' = [] := by
      rw [new_tasks, hsilent.no_arms, List.drop_length]
      rfl
    rw [htasks]
    refine ⟨fun _ => .inl ?_, fun _ task htask => by cases htask⟩
    rw [hget]
    exact Option.some_ne_none existing
  · cases he
  · cases he
  · cases hok
    have htasks : new_tasks w w' =
        (rs.flatMap (reminder_arms call.idempotency_key)).map celery_task := by
      rw [new_tasks, hmade.arms, List.drop_left]
    have hid : id = call.next_id env w trace.due_at := hmade.id
    rw [htasks]
    constructor
    · intro hfire
      refine .inr fun trace' htrace' => ?_
      cases htrace.symm.trans htrace'
      by_cases hover : ∀ rem ∈ call.rule.reminders, is_past trace.due_at (call.time env w) rem
      · exact .inl hover
      · -- a task of a reminder that is ahead looks under the idempotency key
        simp only [not_forall] at hover
        obtain ⟨rem, hrem, hahead⟩ := hover
        rw [← hmade.offsets] at hrem
        obtain ⟨r, hr, rfl⟩ := List.mem_map.mp hrem
        have harms := mt (reminder_arms_nil_iff (hmade.made r hr)).mp hahead
        obtain ⟨a, ha⟩ := List.exists_mem_of_ne_nil _ harms
        have hcan := hfire _ (List.mem_map_of_mem (List.mem_flatMap.mpr ⟨r, hr, ha⟩))
        have hdeadline := hcan.deadline
        rw [celery_task_of_arm ha] at hdeadline
        refine .inr ?_
        rw [← hid]
        exact (w'.store.keyed hdeadline).symm
    · intro hreach task htask
      obtain ⟨a, ha, rfl⟩ := List.mem_map.mp htask
      obtain ⟨r, hr, harm⟩ := List.mem_flatMap.mp ha
      have hahead : ¬is_past trace.due_at (call.time env w) r.offset := by
        intro hover
        rw [(reminder_arms_nil_iff (hmade.made r hr)).mpr hover] at harm
        cases harm
      have hkey : call.idempotency_key = id := by
        obtain hstored | hreach := hreach
        · exact absurd hnone hstored
        · obtain hover | hkey := hreach trace htrace
          · refine absurd (hover r.offset ?_) hahead
            rw [← hmade.offsets]
            exact List.mem_map_of_mem hr
          · rw [hid]
            exact hkey
      have harmed : r.status = .armed := by
        obtain ⟨hover, -⟩ | ⟨-, harmed, -⟩ := (hmade.made r hr).status
        · refine absurd (fun t ht => ?_) hahead
          rw [(hmade.made r hr).fires] at ht
          cases ht
          exact hover
        · exact harmed
      have hwait : (call.scheduled trace rs id).waiting r.idempotency_key = true :=
        scheduled_waiting hmade.made hr harmed
      have hget : w'.store.get call.idempotency_key = some (call.scheduled trace rs id) := by
        rw [hmade.filed.store, DeadlineStore.get_save, hkey]
        exact if_pos rfl
      rw [celery_task_of_arm harm]
      refine ⟨hget, ?_, ?_⟩
      · obtain ⟨r', hr', -⟩ := ScheduledDeadline.waiting_iff.mp hwait
        exact ⟨r', hr'⟩
      · intro redis hredis hfault
        obtain ⟨w₁, hrun, hdelivered⟩ := fire_reminder_sends false hget hwait hredis hfault
        exact ⟨w₁, hrun, hdelivered.sent⟩

end tasks

/-! ## A task that finds nothing -/

/-- **The tasks of the answer find no deadline.** It is scheduled under the key `"k1"` and stored
    under the uuid `"id-3"`; both tasks look for `"k1"` and send nothing. -/
theorem answer_tasks_find_nothing :
    ((tool_deadline_schedule answer_call).run (exec calm_env) .fresh).1.toBool = true ∧
    (new_tasks .fresh answer_world).length = 2 ∧
    ∀ task ∈ new_tasks .fresh answer_world, answer_world.store.get task.deadline_id = none ∧
      ((task_fire_reminder true task).run (exec calm_env) answer_world).1.toOption = some false ∧
      ((task_fire_reminder true task).run (exec calm_env) answer_world).2.delivered.length = 0 := by
  decide +kernel

/-- A caller that guesses the uuid. -/
def lucky_call : ScheduleCall := { answer_call with idempotency_key := "id-3" }

/-- With the uuid for a key the tasks fire. -/
theorem lucky_tasks_fire : ∃ sd w',
    (tool_deadline_schedule lucky_call).run (exec calm_env) .fresh = (.ok sd, w') ∧
      (new_tasks .fresh w').length = 2 ∧
      ∀ task ∈ new_tasks .fresh w', CanFire calm_env w' sd task := by
  cases hrun : (tool_deadline_schedule lucky_call).run (exec calm_env) .fresh with
  | mk result w' =>
  have hok : ((tool_deadline_schedule lucky_call).run (exec calm_env) .fresh).1.toBool = true := by
    decide +kernel
  have htwo : (new_tasks .fresh
      ((tool_deadline_schedule lucky_call).run (exec calm_env) .fresh).2).length = 2 := by
    decide +kernel
  rw [hrun] at hok htwo
  cases result with
  | error e => cases hok
  | ok sd =>
    refine ⟨sd, w', rfl, htwo, (armed_tasks_fire_iff hrun).mpr (.inr fun trace htrace => .inr ?_)⟩
    have hid : ∀ trace ∈ (compute_due_date lucky_call.rule lucky_call.trigger_inputs
        (lucky_call.time calm_env .fresh) lucky_call.rule_ref).toOption,
        lucky_call.idempotency_key = lucky_call.next_id calm_env .fresh trace.due_at := by
      decide +kernel
    refine hid trace ?_
    rw [htrace]
    rfl

end CaseAutomation.Deadline
