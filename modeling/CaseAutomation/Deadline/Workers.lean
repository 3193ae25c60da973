import CaseAutomation.Deadline.Celery
import CaseAutomation.Deadline.Deadman
import CaseAutomation.Framework.Ghost
import CaseAutomation.Framework.Handlers

/-! # The Workers

    The tasks of `sidecar/celery_app.py`, run next to the service that schedules the deadlines. Both
    share Redis and the broker, but every task builds its own `DeadlineStore` (`_make_deps`), which
    is empty and thrown away at the end.

    `workers_never_remind` says what comes of it, in every interleaving of the service with any
    number of tasks: no reminder is sent, nothing is escalated, and no drift is found.
-/

namespace CaseAutomation.Deadline

open Framework

/-! ## The tasks -/

/-- `_make_deps`: the calls on the store go to a store of the task. -/
def own_store : Handler Call Call.Resp Exn DeadlineStore
  | .get deadline_id, store => some (.ok (store.get deadline_id), store)
  | .get_by_idem idem_key, store => some (.ok (store.get_by_idem idem_key), store)
  | .save sd, store => some (.ok (), store.save sd)
  | .save_fired sd key, store => some (.ok (), store.save (sd.fire key))
  | .advance deadline_id, store =>
    match store.get deadline_id with
    | none => some (.ok none, store)
    | some sd => some (.ok (some sd), store.save sd.advance)
  | .close deadline_id, store =>
    match store.get deadline_id with
    | none => some (.ok none, store)
    | some sd => some (.ok (some sd), if sd.arm_ids.isEmpty then store.save sd.finish else store)
  | .save_done sd, store => some (.ok (), store.save sd.finish)
  | _, _ => none

/-- `_sweep_reconcile_async`: there is no case connector. -/
def sweep_reconcile (store : DeadlineStore) : List String → M Int
  | [] => return 0
  | mid :: rest => do
    let now ← await .now
    let findings ← .ofExcept (reconcile store none mid now).findings
    let drift_count ← sweep_reconcile store rest
    return findings.length + drift_count

/-- `CeleryScheduler.heartbeat`. -/
def celery_heartbeat : M DateTime := await .now

/-- The monitor of `_deadman_check_async`: the default threshold, and nobody to alert. -/
def celery_monitor : Deadman.DeadmanMonitor := ⟨300000000, false, false⟩

/-- `check_once`, on a `CeleryScheduler`. -/
def celery_check_once : M Bool := do
  match ← celery_heartbeat.attempt with
  | .error _ => return false
  | .ok last_beat =>
    let now ← await .now
    return (celery_monitor.check_once (.ok last_beat) now).1

/-- What a task returns, without the arguments that it repeats. -/
inductive TaskResult where
  | fired (fired : Bool)
  | escalated (escalated : Bool) (new_level : Int)
  | drift (matter_count : Nat) (drift_count : Int)
  | liveness (healthy : Bool) (age_seconds : Int)
  deriving DecidableEq

inductive WorkerTask where
  | fire_reminder (task : Task)
  | escalate (deadline_id : String)
  | sweep_reconcile (matter_ids : List String)
  | deadman_check

/-- The body of a task, before it gets its store. -/
def WorkerTask.body (redis : Bool) : WorkerTask → M TaskResult
  | .fire_reminder task => do
    let fired ← task_fire_reminder redis task
    return .fired fired
  | .escalate deadline_id => do
    let new_level ← Deadline.escalate deadline_id false
    return .escalated (0 < new_level) new_level
  | .sweep_reconcile matter_ids => do
    let drift_count ← Deadline.sweep_reconcile .empty matter_ids
    return .drift matter_ids.length drift_count
  | .deadman_check => do
    let last_beat ← celery_heartbeat
    let now ← await .now
    let age_seconds ← .ofExcept (now.sub last_beat)
    let healthy ← celery_check_once
    return .liveness healthy age_seconds

/-- The task, as a worker runs it. -/
def WorkerTask.program (redis : Bool) (task : WorkerTask) : M TaskResult :=
  (task.body redis).handled own_store .empty

/-! ## The deployment -/

/-- The operations of the service. -/
inductive ServiceCall where
  | schedule (call : ScheduleCall)
  | mark_done (deadline_id : String) (audited : Bool)

def ServiceCall.program : ServiceCall → M Unit
  | .schedule call => (tool_deadline_schedule call).discard
  | .mark_done deadline_id audited => Deadline.mark_done deadline_id audited

/-- What is started: an operation of the service, or any task at any time. -/
inductive Deployed : M Unit → Prop where
  | service (call : ServiceCall) : Deployed call.program
  | worker (redis : Bool) (task : WorkerTask) : Deployed (task.program redis).discard

/-- Dedup keys reach the end of their time. -/
def Expires (w w' : World) : Prop := ∃ key, w' = { w with redis := w.redis.filter (· ≠ key) }

/-- All interleavings, call by call. -/
abbrev Deployment (env : Env) : World → List (M Unit) → Prop :=
  Pool (fun _ c w r w' => exec env c w = (r, w')) Expires (· = .fresh) (fun _ => Deployed)

/-- The deadline was never escalated and none of its reminders was sent. -/
structure Unsent (sd : ScheduledDeadline) : Prop where
  level : sd.escalation_level = 0
  waiting : ∀ r ∈ sd.reminders, r.status ≠ .fired

/-- What a task says when it found nothing to do. -/
def TaskResult.Idle : TaskResult → Prop
  | .fired sent => sent = false
  | .escalated raised level => raised = false ∧ level = 0
  | .drift _ found => found = 0
  | .liveness _ _ => True

/-! ## What the service does to the store -/

/-- A call that sends nothing, escalates nothing and saves no record of either. -/
def SendsNothing : Call → Prop
  | .save sd => Unsent sd
  | .save_done sd => Unsent sd
  | .save_fired _ _ => False
  | .advance _ => False
  | .notify _ => False
  | .redis_set _ => False
  | _ => True

/-- Nobody was reminded of anything. -/
structure Unreminded (w : World) : Prop where
  delivered : w.delivered = []
  redis : w.redis = []
  store : ∀ id sd, w.store.get id = some sd → Unsent sd

theorem Unsent.finish {sd : ScheduledDeadline} (h : Unsent sd) : Unsent sd.finish := by
  refine ⟨h.level, ?_⟩
  intro r hr
  obtain ⟨r₀, hr₀, rfl⟩ := List.mem_map.mp hr
  have hwaiting := h.waiting r₀ hr₀
  by_cases harmed : r₀.status = .armed
  · simp [harmed]
  · simpa [harmed] using hwaiting

theorem Unreminded.save {w : World} (h : Unreminded w) {sd : ScheduledDeadline} (hsd : Unsent sd) :
    Unreminded (w.with_store (w.store.save sd)) := by
  refine ⟨h.delivered, h.redis, ?_⟩
  intro id sd' hget
  have hcases : (w.store.save sd).get id = some sd' := hget
  rw [DeadlineStore.get_save] at hcases
  split at hcases
  · obtain rfl := Option.some.inj hcases
    exact hsd
  · exact h.store id sd' hcases

/-- The outside fails, or leaves the store, Redis and what was delivered as they are. -/
theorem Unreminded.outside {α : Type} {env : Env} {w w' : World} {done : Except Exn α}
    (h : Unreminded w) (hstore : w'.store = w.store) (hredis : w'.redis = w.redis)
    (hdelivered : w'.delivered = w.delivered) : Unreminded (w.outside env (done, w')).2 := by
  unfold World.outside
  split
  · exact ⟨h.delivered, h.redis, h.store⟩
  · refine ⟨hdelivered.trans h.delivered, hredis.trans h.redis, ?_⟩
    intro id sd hget
    have hget' : w'.store.get id = some sd := hget
    rw [hstore] at hget'
    exact h.store id sd hget'

/-- **One call.** -/
theorem exec_unreminded {env : Env} {c : Call} {w : World} (h : Unreminded w) (hc : SendsNothing c) :
    Unreminded (exec env c w).2 := by
  cases c with
  | now => exact ⟨h.delivered, h.redis, h.store⟩
  | uuid4 => exact ⟨h.delivered, h.redis, h.store⟩
  | redis_get key => exact h
  | redis_set key => exact hc.elim
  | notify n => exact hc.elim
  | arm fire_at job_ref idem_key => exact h.outside rfl rfl rfl
  | cancel arm_id => exact h.outside rfl rfl rfl
  | audit action => exact h.outside rfl rfl rfl
  | get deadline_id => exact h
  | get_by_idem idem_key => exact h
  | save sd => exact h.save hc
  | save_fired sd key => exact hc.elim
  | advance deadline_id => exact hc.elim
  | close deadline_id =>
    simp only [exec]
    split
    · exact h
    · next sd hget =>
      show Unreminded (if sd.arm_ids.isEmpty then _ else w)
      split
      · exact h.save (h.store _ _ hget).finish
      · exact h
  | save_done sd => exact h.save hc.finish

theorem audit_sends_nothing (audited : Bool) (action : String) : Issues SendsNothing (audit audited action) := by
  unfold audit
  split
  · have hcall : SendsNothing (.audit action) := True.intro
    exact (Issues.perform hcall).attempt.discard
  · exact Issues.ret

theorem issues_schedule_reminder (key : String) (due_at now : DateTime) (rem : ReminderOffset) :
    Issues SendsNothing (schedule_reminder key due_at now rem) := by
  unfold schedule_reminder
  refine Issues.ofExcept.bind fun fire_at => Issues.ofExcept.bind fun past => ?_
  split
  · exact (Issues.perform True.intro).bind fun _ => Issues.ret
  · exact (Issues.perform True.intro).bind fun _ => (Issues.perform True.intro).bind fun _ =>
      (Issues.perform True.intro).bind fun _ => Issues.ret

/-- A new reminder is armed or skipped. -/
theorem returns_schedule_reminder (key : String) (due_at now : DateTime) (rem : ReminderOffset) :
    Returns (fun r => r.status ≠ .fired) (schedule_reminder key due_at now rem) := by
  unfold schedule_reminder
  refine Returns.bind fun fire_at => Returns.bind fun past => ?_
  split
  · refine Returns.bind fun id => ?_
    show ReminderStatus.skipped_past ≠ .fired
    decide
  · refine Returns.bind fun arm1 => Returns.bind fun arm2 => Returns.bind fun id => ?_
    show ReminderStatus.armed ≠ .fired
    decide

theorem issues_schedule_reminders (key : String) (due_at now : DateTime) (rems : List ReminderOffset) :
    Issues SendsNothing (schedule_reminders key due_at now rems) := by
  induction rems with
  | nil => exact Issues.ret
  | cons rem rest ih =>
    rw [schedule_reminders]
    exact (issues_schedule_reminder key due_at now rem).bind fun _ => ih.bind fun _ => Issues.ret

theorem returns_schedule_reminders (key : String) (due_at now : DateTime)
    (rems : List ReminderOffset) :
    Returns (fun rs => ∀ r ∈ rs, r.status ≠ .fired) (schedule_reminders key due_at now rems) := by
  induction rems with
  | nil =>
    intro r hr
    cases hr
  | cons rem rest ih =>
    rw [schedule_reminders]
    refine (returns_schedule_reminder key due_at now rem).bind_of fun r hr =>
      ih.bind_of fun rs hrs => ?_
    exact List.forall_mem_cons.mpr ⟨hr, hrs⟩

theorem unsent_flagged (call : ScheduleCall) (trace : ComputationTrace) (id : String) :
    Unsent (call.flagged trace id) := by
  refine ⟨rfl, ?_⟩
  intro r hr
  cases hr

theorem unsent_scheduled (call : ScheduleCall) (trace : ComputationTrace) (id : String)
    {rs : List ScheduledReminder} (hrs : ∀ r ∈ rs, r.status ≠ .fired) :
    Unsent (call.scheduled trace rs id) := by
  refine ⟨rfl, ?_⟩
  intro r hr
  obtain ⟨r₀, hr₀, rfl⟩ := mem_scheduled.mp hr
  exact hrs r₀ hr₀

theorem issues_schedule_at (call : ScheduleCall) (now : DateTime) (trace : ComputationTrace) :
    Issues SendsNothing (schedule_at call now trace) := by
  unfold schedule_at
  refine Issues.ofExcept.bind fun past => ?_
  split
  · refine (Issues.perform True.intro).bind fun id => ?_
    have hsave : SendsNothing (.save (call.flagged trace id)) := unsent_flagged call trace id
    exact (Issues.perform hsave).bind fun _ => (audit_sends_nothing _ _).bind fun _ => Issues.raise
  · refine Issues.ofExcept.bind fun _ => ?_
    refine Issues.bind_returns (issues_schedule_reminders _ _ _ _)
      (returns_schedule_reminders _ _ _ _) fun rs hrs => ?_
    refine (Issues.perform True.intro).bind fun id => ?_
    have hsave : SendsNothing (.save (call.scheduled trace rs id)) := unsent_scheduled call trace id hrs
    exact (Issues.perform hsave).bind fun _ => (audit_sends_nothing _ _).bind fun _ => Issues.ret

theorem issues_schedule (call : ScheduleCall) : Issues SendsNothing (tool_deadline_schedule call) := by
  unfold tool_deadline_schedule
  have htime : Issues SendsNothing (time_of call.now) := by
    cases call.now with
    | none => exact Issues.perform True.intro
    | some now => exact Issues.ret
  refine htime.bind fun now => (Issues.perform True.intro).bind fun existing => ?_
  cases existing with
  | some sd => exact Issues.ret
  | none => exact Issues.ofExcept.bind fun trace => issues_schedule_at call now trace

/-! ## What a task does -/

/-- Without a case system each deadline of the matter is a finding. -/
theorem reconcile_alone {store : DeadlineStore} {mid : String} {now : DateTime} {found : List Drift}
    (h : (reconcile store none mid now).findings = .ok found) :
    found.length = (store.list_for_matter mid).length := by
  have hscan : ∀ engine : List ScheduledDeadline, ∀ drifts,
      engine_drifts mid now [] engine = .ok drifts → drifts.length = engine.length := by
    intro engine
    induction engine with
    | nil =>
      intro drifts hdrifts
      obtain rfl := Except.ok.inj hdrifts
      rfl
    | cons sd rest ih =>
      intro drifts hdrifts
      have hone : engine_drift mid now [] sd = .ok [⟨mid, some sd.deadline_id, .missing_in_case,
          "Rule " ++ repr_str sd.rule_ref.rule_id ++
            " scheduled in engine but not found in case system.", now⟩] := rfl
      rw [engine_drifts, hone] at hdrifts
      cases hrest : engine_drifts mid now [] rest with
      | error e =>
        rw [hrest] at hdrifts
        cases hdrifts
      | ok others =>
        rw [hrest] at hdrifts
        obtain rfl := Except.ok.inj hdrifts
        simp [ih others hrest]
  unfold reconcile at h
  simp only [Option.getD_none] at h
  cases hdrifts : engine_drifts mid now [] (store.list_for_matter mid) with
  | error e =>
    rw [hdrifts] at h
    cases h
  | ok drifts =>
    rw [hdrifts] at h
    obtain rfl := Except.ok.inj h
    simpa using hscan _ drifts hdrifts

/-- The sweep counts the deadlines of the matters. -/
theorem returns_sweep (store : DeadlineStore) (matter_ids : List String) :
    Returns (fun drift_count : Int =>
      drift_count = ((matter_ids.map fun mid => (store.list_for_matter mid).length).sum : Nat))
      (sweep_reconcile store matter_ids) := by
  induction matter_ids with
  | nil => exact rfl
  | cons mid rest ih =>
    rw [sweep_reconcile]
    refine Returns.bind fun now => Returns.bind_ofExcept fun found hfound => ?_
    refine ih.bind_of fun drift_count hcount => ?_
    show (found.length : Int) + drift_count = _
    rw [hcount, reconcile_alone hfound, List.map_cons, List.sum_cons]
    push_cast
    rfl

theorem issues_sweep (store : DeadlineStore) (matter_ids : List String) :
    Issues SendsNothing (sweep_reconcile store matter_ids) := by
  induction matter_ids with
  | nil => exact Issues.ret
  | cons mid rest ih =>
    rw [sweep_reconcile]
    exact (Issues.perform True.intro).bind fun _ => Issues.ofExcept.bind fun _ =>
      ih.bind fun _ => Issues.ret

/-- With a store of its own, a task finds no deadline: it asks Redis and the clock, and is idle. -/
theorem task_idle (redis : Bool) (task : WorkerTask) :
    Issues SendsNothing (task.program redis) ∧ Returns TaskResult.Idle (task.program redis) := by
  cases task with
  | fire_reminder task =>
    cases redis with
    | false => exact ⟨True.intro, rfl⟩
    | true =>
      refine ⟨⟨True.intro, fun r => ?_⟩, fun r => ?_⟩
      · rcases r with _ | _ | _
        · exact True.intro
        · exact True.intro
        · exact True.intro
      · rcases r with _ | _ | _
        · exact True.intro
        · exact rfl
        · exact rfl
  | escalate deadline_id => exact ⟨True.intro, rfl, rfl⟩
  | sweep_reconcile matter_ids =>
    have hnothing : ∀ mid, (DeadlineStore.empty.list_for_matter mid).length = 0 := fun _ => rfl
    have hissues : Issues SendsNothing (WorkerTask.body redis (.sweep_reconcile matter_ids)) :=
      (issues_sweep .empty matter_ids).bind fun _ => Issues.ret
    refine ⟨(hissues.handled _).mono fun _ h => h.1, Returns.handled ?_ _⟩
    refine (returns_sweep .empty matter_ids).bind_of fun drift_count hcount => ?_
    show drift_count = 0
    rw [hcount]
    simp [hnothing]
  | deadman_check =>
    have hnow : SendsNothing .now := True.intro
    have hissues : Issues SendsNothing (WorkerTask.body redis .deadman_check) := by
      refine (Issues.perform hnow).bind fun last_beat => (Issues.perform hnow).bind fun now =>
        Issues.ofExcept.bind fun age => Issues.bind ?_ fun healthy => Issues.ret
      refine (Issues.perform hnow).attempt.bind fun last_beat => ?_
      cases last_beat with
      | error e => exact Issues.ret
      | ok beat => exact (Issues.perform hnow).bind fun _ => Issues.ret
    refine ⟨(hissues.handled _).mono fun _ h => h.1, Returns.handled ?_ _⟩
    exact Returns.bind fun _ => Returns.bind fun _ => Returns.bind fun _ => Returns.bind fun _ =>
      True.intro

/-- The dead-man check reads the clock four times and looks at nothing else. -/
theorem deadman_task_run {env : Env} (hutc : ∀ n, (env.time n).utcoffset = some 0) (redis : Bool)
    (w : World) : ((WorkerTask.deadman_check.program redis).run (exec env) w).1 =
      .ok (.liveness
        (decide ((env.time (w.clock + 3)).wall - (env.time (w.clock + 2)).wall ≤ 300000000))
        ((env.time (w.clock + 1)).wall - (env.time w.clock).wall)) := by
  have hage : (env.time (w.clock + 1)).sub (env.time w.clock) =
      .ok ((env.time (w.clock + 1)).wall - (env.time w.clock).wall) :=
    Deadman.sub_readings ⟨_, hutc w.clock⟩ ⟨_, hutc (w.clock + 1)⟩
  have hcheck := Deadman.check_once_ok celery_monitor ⟨_, hutc (w.clock + 2)⟩ ⟨_, hutc (w.clock + 3)⟩
  unfold WorkerTask.program
  rw [run_handled]
  show (Program.run _ (Program.bind (.ofExcept ((env.time (w.clock + 1)).sub (env.time w.clock))) _) _).1 = _
  rw [hage]
  show Except.ok (TaskResult.liveness (celery_monitor.check_once (.ok (env.time (w.clock + 2)))
    (env.time (w.clock + 3))).1 _) = _
  rw [hcheck]
  rfl

/-! ## The deployment -/

/-- What every program of the deployment keeps, and may ask for. -/
abbrev deployment_contract (env : Env) (i : Nat) : Contract Call Call.Resp Exn World :=
  threadContract (fun _ c w r w' => exec env c w = (r, w')) Unreminded (fun _ _ _ => True)
    (fun _ c _ => SendsNothing c) i

theorem safe_issues {α : Type} {env : Env} {i : Nat} {p : M α} (h : Issues SendsNothing p) (w : World) :
    Safe (deployment_contract env i) (fun _ _ => True) p w := by
  refine Safe.of_issues (A := fun _ => True) (fun _ _ _ _ => True.intro) ?_ h True.intro
  intro c w' hc hinv _
  refine ⟨hc, ?_⟩
  intro r w'' hexec
  have hnext : Unreminded (exec env c w').2 := exec_unreminded hinv hc
  rw [hexec] at hnext
  exact ⟨hnext, fun _ _ => True.intro, True.intro⟩

theorem issues_cancel_all (arm_ids : List String) : Issues SendsNothing (cancel_all arm_ids) := by
  induction arm_ids with
  | nil => exact Issues.ret
  | cons arm_id rest ih =>
    rw [cancel_all]
    have hcancel : SendsNothing (.cancel arm_id) := True.intro
    exact (Issues.perform hcancel).attempt.discard.bind fun _ => ih

/-- The copy that `mark_done` saves back was read from the store. -/
theorem mark_done_unreminded {env : Env} {i : Nat} (deadline_id : String) (audited : Bool) (w : World) :
    Safe (deployment_contract env i) (fun _ _ => True) (mark_done deadline_id audited) w := by
  unfold mark_done
  rw [Program.monad_bind]
  refine Safe.bind (P := fun r _ => ∀ sd, r = .ok (some sd) → Unsent sd) ?_ ?_ ?_
  · refine Safe.perform fun w' _ hinv => ⟨True.intro, fun r w'' hexec => ?_⟩
    have hclose : SendsNothing (.close deadline_id) := True.intro
    have hnext : Unreminded (exec env (.close deadline_id) w').2 := exec_unreminded hinv hclose
    rw [hexec] at hnext
    refine ⟨hnext, fun _ _ => True.intro, ?_⟩
    intro sd hsd
    have hread : (exec env (.close deadline_id) w').1 = .ok (some sd) := by
      rw [hexec]
      exact hsd
    simp only [exec] at hread
    split at hread
    · cases hread
    · next sd' hget =>
      obtain rfl := Option.some.inj (Except.ok.inj hread)
      exact hinv.store _ _ hget
  · intro closed w' hclosed
    cases closed with
    | none => exact safe_issues Issues.ret w'
    | some sd =>
      have hsave : SendsNothing (.save_done sd) := hclosed sd rfl
      refine safe_issues ?_ w'
      show Issues SendsNothing (if sd.arm_ids.isEmpty then _ else _)
      split
      · exact audit_sends_nothing _ _
      · exact (issues_cancel_all _).bind fun _ => (Issues.perform hsave).bind fun _ =>
          audit_sends_nothing _ _
  · intro e w' _
    exact True.intro

/-- **No worker ever reminds anybody.** However the operations of the service and the tasks of the
    workers interleave, nothing is delivered and no dedup key is set; what the service stores is never
    marked sent and never escalated. Every task says so, whatever it is answered, and the
    dead-man check of the workers tells nothing but the time between two readings of the clock. -/
theorem workers_never_remind {env : Env} {w : World} {ts : List (M Unit)}
    (h : Deployment env w ts) :
    w.delivered = [] ∧ w.redis = [] ∧
    (∀ deadline_id sd, w.store.get deadline_id = some sd →
      sd.escalation_level = 0 ∧ ∀ r ∈ sd.reminders, r.status ≠ .fired) ∧
    (∀ redis task, Returns TaskResult.Idle (WorkerTask.program redis task)) ∧
    ((∀ n, (env.time n).utcoffset = some 0) → ∀ redis,
      ((WorkerTask.deadman_check.program redis).run (exec env) w).1 = .ok (.liveness
        (decide ((env.time (w.clock + 3)).wall - (env.time (w.clock + 2)).wall ≤ 300000000))
        ((env.time (w.clock + 1)).wall - (env.time w.clock).wall))) := by
  have hsafe : Unreminded w ∧ ∀ i p, ts[i]? = some p →
      Safe (deployment_contract env i) (fun _ _ => True) p w := by
    refine Pool.safe (fun _ _ => True.intro) (fun _ _ _ _ _ _ => True.intro) ?_ ?_ ?_ h
    · intro w₀ hfresh
      subst hfresh
      refine ⟨rfl, rfl, ?_⟩
      intro id sd hget
      cases hget
    · intro w₀ p _ hdeployed i
      cases hdeployed with
      | service call =>
        cases call with
        | schedule call => exact safe_issues (issues_schedule call).discard w₀
        | mark_done deadline_id audited => exact mark_done_unreminded deadline_id audited w₀
      | worker redis task => exact safe_issues (task_idle redis task).1.discard w₀
    · intro w₀ w₁ hinv hexpires
      obtain ⟨key, rfl⟩ := hexpires
      refine ⟨⟨hinv.delivered, ?_, hinv.store⟩, fun _ => True.intro⟩
      show w₀.redis.filter _ = []
      rw [hinv.redis]
      rfl
  have hinv := hsafe.1
  refine ⟨hinv.delivered, hinv.redis, ?_, fun redis task => (task_idle redis task).2, ?_⟩
  · intro deadline_id sd hget
    have hunsent := hinv.store deadline_id sd hget
    exact ⟨hunsent.level, hunsent.waiting⟩
  · intro hutc redis
    exact deadman_task_run hutc redis w

/-- The answer is scheduled with two armed jobs. A worker that runs one of them under the uuid of the
    deadline sends nothing all the same. -/
theorem answer_never_sent : ∃ w ts, Deployment calm_env w ts ∧ w.arms.length = 2 ∧
    (w.store.get "id-3").isSome = true ∧ w.delivered = [] := by
  have hboot : Deployment calm_env .fresh [] := .boot rfl
  obtain ⟨ts, hscheduled⟩ : ∃ ts, Deployment calm_env
      ((ServiceCall.schedule answer_call).program.run (exec calm_env) .fresh).2 ts :=
    Pool.served (fun _ _ _ => rfl) hboot (.service (.schedule answer_call))
  let job : WorkerTask := .fire_reminder ⟨"id-3", reminder_key "k1" ⟨-7, .days, none⟩⟩
  obtain ⟨ts', hfired⟩ : ∃ ts, Deployment calm_env ((job.program true).discard.run (exec calm_env)
      ((ServiceCall.schedule answer_call).program.run (exec calm_env) .fresh).2).2 ts :=
    Pool.served (fun _ _ _ => rfl) hscheduled (.worker true job)
  refine ⟨_, ts', hfired, ?_, ?_, (workers_never_remind hfired).1⟩
  · decide +kernel
  · decide +kernel

end CaseAutomation.Deadline
