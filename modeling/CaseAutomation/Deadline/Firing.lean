import CaseAutomation.Deadline.Schedule

/-! # Firing, Escalating, Completing

    The three operations of `deadline/firing.py` on a stored deadline, and what each of them does
    when nothing else runs in between.
-/

namespace CaseAutomation.Deadline

open Framework

/-! ## The operations -/

/-- `_resolve_recipients`. -/
def resolve_recipients (sd : ScheduledDeadline) : List String := ["case_manager:" ++ sd.matter_id]

/-- What `fire_reminder` sends. -/
def reminder_notice (deadline_id reminder_idem_key : String) (sd : ScheduledDeadline) :
    Notification where
  recipients := resolve_recipients sd
  payload := [("deadline_id", .str deadline_id), ("matter_id", .str sd.matter_id),
    ("due_at", .str sd.trace.due_at.isoformat)]
  idem_key := reminder_idem_key

/-- The dedup key is asked for, if there is a Redis client. -/
def already_fired (redis : Bool) (reminder_idem_key : String) : M Bool :=
  if redis then await (.redis_get (dedup_key reminder_idem_key)) else .ret false

/-- The dedup key is set, if there is a Redis client. -/
def remember_fired (redis : Bool) (reminder_idem_key : String) : M Unit :=
  if redis then await (.redis_set (dedup_key reminder_idem_key)) else .ret ()

/-- The rest of `fire_reminder` once an armed reminder was found. -/
def deliver (deadline_id reminder_idem_key : String) (redis audited : Bool)
    (sd : ScheduledDeadline) : M Bool := do
  let _ ← await (.notify (reminder_notice deadline_id reminder_idem_key sd))
  await (.save_fired sd reminder_idem_key)
  remember_fired redis reminder_idem_key
  audit audited "reminder.fired"
  return true

/-- A reminder with this key is waiting. -/
def ScheduledDeadline.waiting (sd : ScheduledDeadline) (reminder_idem_key : String) : Bool :=
  match sd.reminder reminder_idem_key with
  | none => false
  | some reminder => decide (reminder.status = .armed)

/-- A reminder that is waiting is among the reminders, armed. -/
theorem ScheduledDeadline.waiting_iff {sd : ScheduledDeadline} {key : String} :
    sd.waiting key = true ↔ ∃ r, sd.reminder key = some r ∧ r.status = .armed := by
  unfold ScheduledDeadline.waiting
  cases sd.reminder key with
  | none => simp
  | some r => simp

theorem ScheduledDeadline.reminder_mem {sd : ScheduledDeadline} {key : String}
    {r : ScheduledReminder} (h : sd.reminder key = some r) :
    r ∈ sd.reminders ∧ r.idempotency_key = key :=
  ⟨List.mem_of_find?_eq_some h, by simpa using List.find?_some h⟩

/-- A reminder that was marked fired does not wait. -/
theorem ScheduledDeadline.fire_not_waiting (sd : ScheduledDeadline) (key : String) :
    (sd.fire key).waiting key = false := by
  rw [Bool.eq_false_iff]
  intro hwait
  obtain ⟨r, hfind, harmed⟩ := waiting_iff.mp hwait
  obtain ⟨hmem, hkey⟩ := reminder_mem hfind
  obtain ⟨r₀, -, rfl⟩ := List.mem_map.mp hmem
  split at harmed
  · cases harmed
  · next hne =>
    rw [if_neg hne] at hkey
    exact hne hkey

/-- `fire_reminder`. -/
def fire_reminder (deadline_id reminder_idem_key : String) (redis audited : Bool) : M Bool := do
  let already ← already_fired redis reminder_idem_key
  if already then return false
  else
    match ← await (.get deadline_id) with
    | none => return false
    | some sd =>
      if sd.waiting reminder_idem_key then
        deliver deadline_id reminder_idem_key redis audited sd
      else return false

/-- What `escalate` sends. -/
def escalation_notice (deadline_id : String) (sd : ScheduledDeadline) (level : Int) :
    Notification where
  recipients := ["supervisor:" ++ sd.matter_id, "case_manager:" ++ sd.matter_id]
  payload := [("type", .str "escalation"), ("level", .int level), ("deadline_id", .str deadline_id)]
  idem_key := escalation_key deadline_id level

/-- `escalate`. The due date is compared with the clock only for a log line, but a due date without a
    time zone makes the comparison raise, after the level was saved. -/
def escalate (deadline_id : String) (audited : Bool) : M Int := do
  match ← await (.advance deadline_id) with
  | none => return 0
  | some sd =>
    let now ← await .now
    let _ ← .ofExcept (sd.trace.due_at.lt now)
    let new_level := sd.escalation_level + 1
    let _ ← await (.notify (escalation_notice deadline_id sd new_level))
    audit audited "deadline.escalated"
    return new_level

/-- The scheduler jobs are cancelled; a failure is swallowed. -/
def cancel_all : List String → M Unit
  | [] => return ()
  | arm_id :: rest => do
    (await (.cancel arm_id)).attempt.discard
    cancel_all rest

/-- `mark_done`. -/
def mark_done (deadline_id : String) (audited : Bool) : M Unit := do
  match ← await (.close deadline_id) with
  | none => return ()
  | some sd =>
    if sd.arm_ids.isEmpty then audit audited "deadline.done"
    else
      cancel_all sd.arm_ids
      await (.save_done sd)
      audit audited "deadline.done"

/-! ## One operation at a time -/

section run
variable {env : Env}

/-- A notification fails, or is delivered. -/
theorem notify_cases (env : Env) (n : Notification) (w : World) :
    (∃ e, env.fault w.calls = some e ∧
      exec env (.notify n) w = (.error e, { w with calls := w.calls + 1 })) ∨
    env.fault w.calls = none ∧ exec env (.notify n) w =
      (.ok ("notif-" ++ n.idem_key),
        { w with delivered := w.delivered ++ [n], calls := w.calls + 1 }) := by
  show (∃ e, _ ∧ w.outside env _ = _) ∨ _ ∧ w.outside env _ = _
  unfold World.outside
  cases hfault : env.fault w.calls with
  | some e => exact .inl ⟨e, rfl, rfl⟩
  | none => exact .inr ⟨rfl, rfl⟩

theorem already_fired_run (redis : Bool) (key : String) (w : World) :
    (already_fired redis key).run (exec env) w =
      (.ok (redis && decide (dedup_key key ∈ w.redis)), w) := by
  cases redis with
  | false => rfl
  | true =>
    rw [already_fired, if_pos rfl, Program.run_perform, Bool.true_and]
    rfl

theorem remember_fired_run (redis : Bool) (key : String) (w : World) :
    (remember_fired redis key).run (exec env) w =
      (.ok (), { w with redis := if redis then dedup_key key :: w.redis else w.redis }) := by
  cases redis with
  | false => rfl
  | true =>
    rw [remember_fired, if_pos rfl, Program.run_perform]
    rfl

/-- The reminder was delivered: it is marked fired in the copy that was read, and remembered. -/
structure Delivered (w w' : World) (deadline_id key : String) (redis : Bool)
    (sd : ScheduledDeadline) : Prop where
  store : w'.store = w.store.save (sd.fire key)
  redis : w'.redis = if redis then dedup_key key :: w.redis else w.redis
  delivered : w'.delivered = w.delivered ++ [reminder_notice deadline_id key sd]
  uuids : w'.uuids = w.uuids

theorem deliver_cases (env : Env) (deadline_id key : String) (redis audited : Bool)
    (sd : ScheduledDeadline) (w : World) :
    (∃ e, env.fault w.calls = some e ∧ (deliver deadline_id key redis audited sd).run (exec env) w =
      (.error e, { w with calls := w.calls + 1 })) ∨
    env.fault w.calls = none ∧
      ∃ w', (deliver deadline_id key redis audited sd).run (exec env) w = (.ok true, w') ∧
        Delivered w w' deadline_id key redis sd := by
  unfold deliver
  rw [Program.monad_bind, Program.run_bind, Program.run_perform]
  obtain ⟨e, hfault, hsend⟩ | ⟨hfault, hsend⟩ :=
    notify_cases env (reminder_notice deadline_id key sd) w
  · exact .inl ⟨e, hfault, by rw [hsend]⟩
  · refine .inr ⟨hfault, ?_⟩
    rw [hsend]
    simp only
    rw [Program.monad_bind, Program.run_bind, Program.run_perform]
    simp only [exec, World.with_store]
    rw [Program.monad_bind, Program.run_bind, remember_fired_run]
    simp only
    obtain ⟨w', haudit, hsilent⟩ := audit_run env audited "reminder.fired"
      { w with
        delivered := w.delivered ++ [reminder_notice deadline_id key sd]
        calls := w.calls + 1
        store := w.store.save (sd.fire key)
        redis := if redis then dedup_key key :: w.redis else w.redis }
    refine ⟨w', ?_, hsilent.store, hsilent.redis, hsilent.delivered, hsilent.no_ids⟩
    rw [Program.monad_bind, Program.run_bind_ok haudit]
    rfl

/-- **What `fire_reminder` can do**: nothing, fail to notify, or deliver. -/
theorem fire_reminder_cases {deadline_id key : String} {redis audited : Bool} {w w' : World}
    {result : Except Exn Bool}
    (h : (fire_reminder deadline_id key redis audited).run (exec env) w = (result, w')) :
    (result = .ok false ∧ w' = w ∧ (redis = true ∧ dedup_key key ∈ w.redis ∨
      ∀ sd, w.store.get deadline_id = some sd → sd.waiting key = false)) ∨
    ((redis = true → dedup_key key ∉ w.redis) ∧
      ∃ sd, w.store.get deadline_id = some sd ∧ sd.waiting key = true ∧
      ((∃ e, env.fault w.calls = some e ∧ result = .error e ∧
          w' = { w with calls := w.calls + 1 }) ∨
        env.fault w.calls = none ∧ result = .ok true ∧
          Delivered w w' deadline_id key redis sd)) := by
  unfold fire_reminder at h
  rw [Program.monad_bind, Program.run_bind, already_fired_run] at h
  simp only at h
  by_cases hdone : (redis && decide (dedup_key key ∈ w.redis)) = true
  · rw [if_pos hdone] at h
    obtain ⟨rfl, rfl⟩ := Prod.mk.inj h
    rw [Bool.and_eq_true, decide_eq_true_iff] at hdone
    exact .inl ⟨rfl, rfl, .inl hdone⟩
  rw [if_neg hdone, Program.monad_bind, Program.run_bind, Program.run_perform] at h
  simp only [exec] at h
  cases hget : w.store.get deadline_id with
  | none =>
    rw [hget] at h
    obtain ⟨rfl, rfl⟩ := Prod.mk.inj h
    exact .inl ⟨rfl, rfl, .inr fun sd hsd => by cases hsd⟩
  | some sd =>
    rw [hget] at h
    simp only at h
    cases hwait : sd.waiting key with
    | false =>
      rw [hwait] at h
      obtain ⟨rfl, rfl⟩ := Prod.mk.inj h
      refine .inl ⟨rfl, rfl, .inr fun sd' hsd' => ?_⟩
      cases hsd'
      exact hwait
    | true =>
      rw [hwait, if_pos rfl] at h
      have hnot : redis = true → dedup_key key ∉ w.redis := by
        intro hredis hmem
        exact hdone (by simp [hredis, hmem])
      refine .inr ⟨hnot, sd, rfl, hwait, ?_⟩
      obtain ⟨e, hfault, hrun⟩ | ⟨hfault, w₁, hrun, hdelivered⟩ :=
        deliver_cases env deadline_id key redis audited sd w
      · rw [hrun] at h
        obtain ⟨rfl, rfl⟩ := Prod.mk.inj h
        exact .inl ⟨e, hfault, rfl, rfl⟩
      · rw [hrun] at h
        obtain ⟨rfl, rfl⟩ := Prod.mk.inj h
        exact .inr ⟨hfault, rfl, hdelivered⟩

/-- A waiting reminder is sent, unless the notification fails. -/
theorem fire_reminder_sends {deadline_id key : String} {redis : Bool} (audited : Bool) {w : World}
    {sd : ScheduledDeadline} (hget : w.store.get deadline_id = some sd)
    (hwait : sd.waiting key = true) (hredis : redis = true → dedup_key key ∉ w.redis)
    (hfault : env.fault w.calls = none) :
    ∃ w', (fire_reminder deadline_id key redis audited).run (exec env) w = (.ok true, w') ∧
      Delivered w w' deadline_id key redis sd := by
  cases hrun : (fire_reminder deadline_id key redis audited).run (exec env) w with
  | mk result w' =>
  obtain ⟨-, -, ⟨hr, hmem⟩ | hidle⟩ | ⟨-, sd', hsd', -, ⟨e, he, -⟩ | ⟨-, rfl, hdelivered⟩⟩ :=
    fire_reminder_cases hrun
  · exact absurd hmem (hredis hr)
  · rw [hidle sd hget] at hwait
    cases hwait
  · rw [hfault] at he
    cases he
  · rw [hget] at hsd'
    cases hsd'
    exact ⟨w', rfl, hdelivered⟩

/-- One more notification with the key of the reminder. -/
theorem Delivered.sent {w w' : World} {deadline_id key : String} {redis : Bool}
    {sd : ScheduledDeadline} (h : Delivered w w' deadline_id key redis sd) :
    w'.sent key = w.sent key + 1 := by
  unfold World.sent
  rw [h.delivered, List.countP_append]
  simp [reminder_notice]

theorem Delivered.sent_other {w w' : World} {deadline_id key key' : String} {redis : Bool}
    {sd : ScheduledDeadline} (h : Delivered w w' deadline_id key redis sd) (hne : key' ≠ key) :
    w'.sent key' = w.sent key' := by
  unfold World.sent
  rw [h.delivered, List.countP_append]
  simp [reminder_notice, Ne.symm hne]

/-- A notice of an escalation was sent, or nothing was. -/
def Noticed (w w' : World) (deadline_id : String) : Prop :=
  w'.delivered = w.delivered ∨
    ∃ n level, n.idem_key = escalation_key deadline_id level ∧ w'.delivered = w.delivered ++ [n]

/-- An escalation sends no reminder. -/
theorem Noticed.sent {w w' : World} {deadline_id : String} (h : Noticed w w' deadline_id)
    (key : String) (rem : ReminderOffset) :
    w'.sent (reminder_key key rem) = w.sent (reminder_key key rem) := by
  unfold World.sent
  obtain hsame | ⟨n, level, hkey, hsent⟩ := h
  · rw [hsame]
  · have hne : n.idem_key ≠ reminder_key key rem := by
      rw [hkey]
      exact (reminder_key_ne_escalation_key key deadline_id rem level).symm
    rw [hsent, List.countP_append]
    simp [hne]

/-- **What `escalate` can do.** -/
theorem escalate_cases {deadline_id : String} {audited : Bool} {w w' : World}
    {result : Except Exn Int}
    (h : (escalate deadline_id audited).run (exec env) w = (result, w')) :
    (w.store.get deadline_id = none ∧ w' = w) ∨
    ∃ sd, w.store.get deadline_id = some sd ∧ w'.store = w.store.save sd.advance ∧
      w'.redis = w.redis ∧ w'.uuids = w.uuids ∧ Noticed w w' deadline_id := by
  unfold escalate at h
  rw [Program.monad_bind, Program.run_bind, Program.run_perform] at h
  simp only [exec] at h
  cases hget : w.store.get deadline_id with
  | none =>
    rw [hget] at h
    obtain ⟨rfl, rfl⟩ := Prod.mk.inj h
    exact .inl ⟨rfl, rfl⟩
  | some sd =>
    rw [hget] at h
    simp only [World.with_store] at h
    refine .inr ⟨sd, rfl, ?_⟩
    rw [Program.monad_bind, Program.run_bind, Program.run_perform] at h
    simp only [exec] at h
    rw [Program.monad_bind, Program.run_bind, Program.run_ofExcept] at h
    cases hlate : sd.trace.due_at.lt (env.time w.clock) with
    | error e =>
      rw [hlate] at h
      obtain ⟨rfl, rfl⟩ := Prod.mk.inj h
      exact ⟨rfl, rfl, rfl, .inl rfl⟩
    | ok late =>
      rw [hlate] at h
      simp only at h
      rw [Program.monad_bind, Program.run_bind, Program.run_perform] at h
      obtain ⟨e, -, hsend⟩ | ⟨-, hsend⟩ := notify_cases env
        (escalation_notice deadline_id sd (sd.escalation_level + 1))
        { w with
          store := w.store.save sd.advance
          clock := w.clock + 1 }
      · rw [hsend] at h
        obtain ⟨rfl, rfl⟩ := Prod.mk.inj h
        exact ⟨rfl, rfl, rfl, .inl rfl⟩
      · rw [hsend] at h
        simp only at h
        obtain ⟨w₁, haudit, hsilent⟩ := audit_run env audited "deadline.escalated"
          { w with
            store := w.store.save sd.advance
            clock := w.clock + 1
            delivered := w.delivered ++
              [escalation_notice deadline_id sd (sd.escalation_level + 1)]
            calls := w.calls + 1 }
        rw [Program.monad_bind, Program.run_bind_ok haudit] at h
        obtain ⟨rfl, rfl⟩ := Prod.mk.inj h
        exact ⟨hsilent.store, hsilent.redis, hsilent.no_ids, .inr ⟨_, _, rfl, hsilent.delivered⟩⟩

theorem cancel_all_run (env : Env) (arm_ids : List String) (w : World) :
    ∃ w', (cancel_all arm_ids).run (exec env) w = (.ok (), w') ∧ Silent w w' := by
  induction arm_ids generalizing w with
  | nil => exact ⟨w, rfl, Quiet.refl w, rfl, rfl⟩
  | cons arm_id rest ih =>
    have hone : Silent w (exec env (.cancel arm_id) w).2 := by
      show Silent w (w.outside env (.ok (), w)).2
      unfold World.outside
      split
      · exact ⟨⟨rfl, rfl, rfl, le_refl _⟩, rfl, rfl⟩
      · exact ⟨⟨rfl, rfl, rfl, le_refl _⟩, rfl, rfl⟩
    obtain ⟨w', hrun, hsilent⟩ := ih (exec env (.cancel arm_id) w).2
    refine ⟨w', ?_, hone.toQuiet.trans hsilent.toQuiet, hsilent.no_ids.trans hone.no_ids,
      hsilent.no_arms.trans hone.no_arms⟩
    rw [cancel_all, Program.monad_bind, Program.discard, Program.run_bind, Program.run_bind,
      Program.run_attempt, Program.run_perform]
    exact hrun

/-- **What `mark_done` does**: the armed reminders are skipped. -/
theorem mark_done_run (env : Env) (deadline_id : String) (audited : Bool) (w : World) :
    ∃ w', (mark_done deadline_id audited).run (exec env) w = (.ok (), w') ∧
      w'.redis = w.redis ∧ w'.delivered = w.delivered ∧ w'.uuids = w.uuids ∧
      (w.store.get deadline_id = none ∧ w'.store = w.store ∨
        ∃ sd, w.store.get deadline_id = some sd ∧ w'.store = w.store.save sd.finish) := by
  unfold mark_done
  rw [Program.monad_bind, Program.run_bind, Program.run_perform]
  simp only [exec]
  cases hget : w.store.get deadline_id with
  | none => exact ⟨w, rfl, rfl, rfl, rfl, .inl ⟨rfl, rfl⟩⟩
  | some sd =>
    simp only [World.with_store]
    cases hnone : sd.arm_ids.isEmpty with
    | true =>
      obtain ⟨w', haudit, hsilent⟩ := audit_run env audited "deadline.done"
        { w with store := w.store.save sd.finish }
      exact ⟨w', haudit, hsilent.redis, hsilent.delivered, hsilent.no_ids,
        .inr ⟨sd, rfl, hsilent.store⟩⟩
    | false =>
      obtain ⟨w₁, hcancel, hsilent₁⟩ := cancel_all_run env sd.arm_ids w
      obtain ⟨w', haudit, hsilent⟩ := audit_run env audited "deadline.done"
        { w₁ with store := w₁.store.save sd.finish }
      refine ⟨w', ?_, hsilent.redis.trans hsilent₁.redis, hsilent.delivered.trans hsilent₁.delivered,
        hsilent.no_ids.trans hsilent₁.no_ids, .inr ⟨sd, rfl, ?_⟩⟩
      · simp only [Bool.false_eq_true, if_false]
        rw [Program.monad_bind, Program.run_bind_ok hcancel, Program.monad_bind,
          Program.run_bind, Program.run_perform]
        exact haudit
      · rw [hsilent.store, ← hsilent₁.store]

end run

end CaseAutomation.Deadline
