import CaseAutomation.Deadline.ReminderKeys

/-! # Scheduling Again

    A call of `tool_deadline_schedule` is repeated with the same arguments: a step is retried, or entered
    again after a crash. A deadline that is past due when it is created is stored with a flag before
    the call raises, and the next call finds it under its key and returns it like any other.

    * `Indexed`: in the states that the engine comes to, the index has no dangling entries.
    * `schedule_again_iff`: the repetitions end like the first call, and none of them returns a flagged
      deadline, exactly for the calls of `Repeatable`.
-/

namespace CaseAutomation.Deadline

open Framework

/-! ## The index of the store -/

/-- Ids have been drawn, and an index entry leads to a deadline that has this key. -/
structure Indexed (env : Env) (w : World) : Prop where
  drawn : ∀ sd, Stored w sd → ∃ n, n < w.uuids ∧ sd.deadline_id = env.uuid n
  entries : ∀ key id, w.store.by_idem.get? key = some id →
    key ≠ "" ∧ ∃ sd, w.store.get id = some sd ∧ sd.idempotency_key = key

section indexed
variable {env : Env} {w w' : World} {sd : ScheduledDeadline} {key : String}

theorem Indexed.congr (h : Indexed env w) (hstore : w'.store = w.store) (huuids : w.uuids ≤ w'.uuids) :
    Indexed env w' := by
  refine ⟨?_, ?_⟩
  · intro x hx
    unfold Stored at hx
    rw [hstore] at hx
    obtain ⟨n, hn, hid⟩ := h.drawn x hx
    exact ⟨n, by omega, hid⟩
  · rw [hstore]
    exact h.entries

/-- A deadline is saved under an id that has been drawn: a new one, or one with the same key. -/
theorem Indexed.save (h : Indexed env w) (hstore : w'.store = w.store.save sd)
    (huuids : w.uuids ≤ w'.uuids) (hid : ∃ n, n < w'.uuids ∧ sd.deadline_id = env.uuid n)
    (hsame : ∀ x, Stored w x → x.deadline_id = sd.deadline_id →
      x.idempotency_key = sd.idempotency_key) : Indexed env w' := by
  have hget : ∀ id, w'.store.get id = if id = sd.deadline_id then some sd else w.store.get id := by
    intro id
    rw [hstore, DeadlineStore.get_save]
  refine ⟨?_, ?_⟩
  · intro x hx
    unfold Stored at hx
    rw [hget] at hx
    split at hx
    · cases hx
      exact hid
    · obtain ⟨n, hn, hxid⟩ := h.drawn x hx
      exact ⟨n, by omega, hxid⟩
  · intro key id hindex
    have hold : w.store.by_idem.get? key = some id →
        key ≠ "" ∧ ∃ x, w'.store.get id = some x ∧ x.idempotency_key = key := by
      intro hentry
      obtain ⟨hne, x, hx, hkey⟩ := h.entries key id hentry
      rw [hget]
      by_cases heq : id = sd.deadline_id
      · rw [if_pos heq]
        refine ⟨hne, sd, rfl, ?_⟩
        rw [← hkey]
        exact (hsame x (stored_of_get hx) ((w.store.keyed hx).trans heq)).symm
      · rw [if_neg heq]
        exact ⟨hne, x, hx, hkey⟩
    rw [hstore] at hindex
    change (if sd.idempotency_key = "" then w.store.by_idem
      else w.store.by_idem.set sd.idempotency_key sd.deadline_id).get? key = some id at hindex
    by_cases hempty : sd.idempotency_key = ""
    · rw [if_pos hempty] at hindex
      exact hold hindex
    · rw [if_neg hempty, Dict.get?_set] at hindex
      split at hindex
      · next hkey =>
        cases hindex
        rw [hkey]
        exact ⟨hempty, sd, by rw [hget, if_pos rfl], rfl⟩
      · exact hold hindex

theorem Filed.indexed (h : Indexed env w) (hfiled : Filed env w w' sd) : Indexed env w' := by
  obtain ⟨n, hlow, hhigh, hid⟩ := hfiled.fresh
  refine h.save hfiled.store (by omega) ⟨n, hhigh, hid⟩ ?_
  intro x hx heq
  -- no stored deadline has the new id
  obtain ⟨m, hm, hxid⟩ := h.drawn x hx
  rw [hxid, hid] at heq
  have hsame := env.uuid_injective heq
  omega

/-- Any request keeps it. -/
theorem indexed_serve (h : Indexed env w) (request : Request) : Indexed env (serve env w request) := by
  have heffect := serve_cases env w request
  generalize serve env w request = w₁ at heffect ⊢
  -- a saved copy has the id and the key of the deadline
  have hcopy : ∀ {id : String} {sd sd' : ScheduledDeadline}, w.store.get id = some sd →
      w₁.store = w.store.save sd' → w₁.uuids = w.uuids → sd'.deadline_id = sd.deadline_id →
      sd'.idempotency_key = sd.idempotency_key → Indexed env w₁ := by
    intro id sd sd' hget hstore huuids hid hkey
    have hsd := stored_of_get hget
    refine h.save hstore huuids.ge ?_ ?_
    · rw [huuids, hid]
      exact h.drawn sd hsd
    · intro x hx heq
      rw [hid] at heq
      unfold Stored at hx hsd
      rw [heq] at hx
      cases hx.symm.trans hsd
      exact hkey.symm
  cases heffect with
  | quiet hstore hdelivered hredis huuids => exact h.congr hstore huuids
  | filed hnone hfiled hnew => exact hfiled.indexed h
  | advanced hget hstore hredis huuids hnoticed => exact hcopy hget hstore huuids rfl rfl
  | finished hget hstore hredis huuids hdelivered => exact hcopy hget hstore huuids rfl rfl
  | delivered hget hwait hdelivered => exact hcopy hget hdelivered.store hdelivered.uuids rfl rfl

theorem indexed_served (env : Env) (requests : List Request) : Indexed env (served env requests) := by
  induction requests using List.reverseRecOn with
  | nil =>
    refine ⟨?_, ?_⟩
    · intro sd hsd
      cases hsd
    · intro key id hindex
      cases hindex
  | append_singleton requests request ih =>
    unfold served
    rw [List.foldl_append]
    exact indexed_serve ih request

/-- **What is known after a new deadline is filed.** -/
theorem Filed.get_by_idem (h : Indexed env w) (hfiled : Filed env w w' sd) (key : String) :
    w'.store.get_by_idem key =
      if key = sd.idempotency_key ∧ key ≠ "" then some sd else w.store.get_by_idem key := by
  obtain ⟨n, hlow, hhigh, hid⟩ := hfiled.fresh
  have hne : sd.deadline_id ≠ "" := by
    rw [hid]
    exact env.uuid_ne n
  have hother : w.store.get sd.deadline_id = none := by
    rw [Option.eq_none_iff_forall_ne_some]
    intro x hx
    obtain ⟨m, hm, hxid⟩ := h.drawn x (stored_of_get hx)
    rw [w.store.keyed hx, hid] at hxid
    have hsame := env.uuid_injective hxid
    omega
  have hindex : w'.store.by_idem.get? key = if key = sd.idempotency_key ∧ key ≠ "" then
      some sd.deadline_id else w.store.by_idem.get? key := by
    rw [hfiled.store]
    change (if sd.idempotency_key = "" then w.store.by_idem
      else w.store.by_idem.set sd.idempotency_key sd.deadline_id).get? key = _
    by_cases hempty : sd.idempotency_key = ""
    · rw [if_pos hempty, if_neg]
      rintro ⟨hkey, hkey'⟩
      exact hkey' (hkey.trans hempty)
    · rw [if_neg hempty, Dict.get?_set]
      by_cases hkey : key = sd.idempotency_key
      · rw [if_pos hkey, if_pos ⟨hkey, hkey ▸ hempty⟩]
      · rw [if_neg hkey, if_neg fun hboth => hkey hboth.1]
  unfold DeadlineStore.get_by_idem
  rw [hindex]
  by_cases hkey : key = sd.idempotency_key ∧ key ≠ ""
  · rw [if_pos hkey, if_pos hkey]
    simp only [if_neg hne]
    rw [hfiled.store, DeadlineStore.get_save, if_pos rfl]
  · rw [if_neg hkey, if_neg hkey]
    cases hentry : w.store.by_idem.get? key with
    | none => rfl
    | some id =>
      obtain ⟨-, x, hget, -⟩ := h.entries key id hentry
      have hsame : id ≠ sd.deadline_id := by
        rintro rfl
        cases hget.symm.trans hother
      simp only
      rw [hfiled.store, DeadlineStore.get_save, if_neg hsame]

end indexed

/-! ## What a call comes to -/

/-- The times of the reminders, each compared with `now`. -/
def reminder_times (due_at now : DateTime) (rems : List ReminderOffset) : Except Exn (List DateTime) :=
  rems.mapM fun rem => do
    let t ← fire_at due_at rem
    let _ ← t.lt now
    .ok t

/-- What is computed for a new deadline, and whether it is past due. -/
def computed (call : ScheduleCall) (now : DateTime) : Except Exn (ComputationTrace × Bool) := do
  let trace ← compute_due_date call.rule call.trigger_inputs now call.rule_ref
  let past ← trace.due_at.lt now
  if past then .ok (trace, true)
  else do
    let _ ← reminder_times trace.due_at now call.rule.reminders
    .ok (trace, false)

section services
variable {env : Env} {w w' : World}

/-- The services answer from here on. -/
def Answering (env : Env) (w : World) : Prop := ∀ n, w.calls ≤ n → env.fault n = none

theorem Answering.run {α : Type} (h : Answering env w) (p : M α) :
    Answering env (p.run (exec env) w).2 :=
  fun n hn => h n ((calls_mono p w).trans hn)

/-- The scheduler takes a job. -/
theorem arm_taken (h : Answering env w) (fire_at : DateTime) (job_ref idem_key : String) :
    exec env (.arm fire_at job_ref idem_key) w =
      (.ok (env.uuid w.uuids), w.armed env fire_at job_ref idem_key) := by
  show w.outside env _ = _
  unfold World.outside
  rw [h w.calls le_rfl]
  rfl

theorem schedule_reminder_answers {idempotency_key : String} {due_at now : DateTime}
    {rem : ReminderOffset} {result : Except Exn ScheduledReminder} (h : Answering env w)
    (hrun : (schedule_reminder idempotency_key due_at now rem).run (exec env) w = (result, w')) :
    result.map ScheduledReminder.fire_at = (do
      let t ← fire_at due_at rem
      let _ ← t.lt now
      .ok t) := by
  unfold schedule_reminder at hrun
  cases hfire : fire_at due_at rem with
  | error e =>
    simp only [hfire, Program.ofExcept, Program.monad_bind, Program.raise_bind, Program.run_raise,
      Prod.mk.injEq] at hrun
    obtain ⟨rfl, rfl⟩ := hrun
    rfl
  | ok time =>
    cases hpast : time.lt now with
    | error e =>
      simp only [hfire, hpast, Program.ofExcept, Program.monad_bind, Program.ret_bind,
        Program.raise_bind, Program.run_raise, Prod.mk.injEq] at hrun
      obtain ⟨rfl, rfl⟩ := hrun
      simp only [bind, Except.bind, hpast]
      rfl
    | ok past =>
      simp only [hfire, hpast, Program.ofExcept, Program.monad_bind, Program.ret_bind] at hrun
      simp only [bind, Except.bind, hpast]
      cases past with
      | true =>
        obtain ⟨rfl, rfl⟩ := Prod.mk.inj hrun
        rfl
      | false =>
        -- both jobs are taken
        have hfirst := arm_taken h time ("deadline_reminder:" ++ idempotency_key)
          (reminder_key idempotency_key rem)
        have hnext : Answering env (w.armed env time ("deadline_reminder:" ++ idempotency_key)
            (reminder_key idempotency_key rem)) := fun n hn => h n (Nat.le_of_succ_le hn)
        simp only [Bool.false_eq_true, if_false] at hrun
        rw [Program.run_bind, Program.run_perform, hfirst] at hrun
        simp only at hrun
        rw [Program.run_bind, Program.run_perform, arm_taken hnext] at hrun
        obtain ⟨rfl, rfl⟩ := Prod.mk.inj hrun
        rfl

/-- **The loop raises what the times raise.** -/
theorem schedule_reminders_answer {idempotency_key : String} {due_at now : DateTime}
    {rems : List ReminderOffset} {result : Except Exn (List ScheduledReminder)}
    (h : Answering env w)
    (hrun : (schedule_reminders idempotency_key due_at now rems).run (exec env) w = (result, w')) :
    result.map (List.map ScheduledReminder.fire_at) = reminder_times due_at now rems := by
  induction rems generalizing w w' result with
  | nil =>
    obtain ⟨rfl, rfl⟩ := Prod.mk.inj hrun
    rfl
  | cons rem rest ih =>
    unfold schedule_reminders at hrun
    rw [Program.monad_bind, Program.run_bind] at hrun
    unfold reminder_times
    rw [List.mapM_cons]
    have hnext := h.run (schedule_reminder idempotency_key due_at now rem)
    cases hfirst : (schedule_reminder idempotency_key due_at now rem).run (exec env) w with
    | mk first w₁ =>
    rw [hfirst] at hrun hnext
    have htime := schedule_reminder_answers h hfirst
    rw [← htime]
    cases first with
    | error e =>
      obtain ⟨rfl, rfl⟩ := Prod.mk.inj hrun
      rfl
    | ok r =>
      simp only at hrun
      rw [Program.monad_bind, Program.run_bind] at hrun
      cases hloop : (schedule_reminders idempotency_key due_at now rest).run (exec env) w₁ with
      | mk others w₂ =>
      rw [hloop] at hrun
      have htimes := ih hnext hloop
      unfold reminder_times at htimes
      rw [← htimes]
      cases others with
      | error e =>
        obtain ⟨rfl, rfl⟩ := Prod.mk.inj hrun
        rfl
      | ok others =>
        obtain ⟨rfl, rfl⟩ := Prod.mk.inj hrun
        rfl

/-- `schedule_at` returns if the times can be computed. -/
theorem schedule_at_answer {call : ScheduleCall} {now : DateTime} {trace : ComputationTrace}
    {result : Except Exn ScheduledDeadline} (h : Answering env w)
    (hcalendar : get_calendar call.rule.calendar_id = .ok ()) (hpast : trace.due_at.lt now = .ok false)
    (hrun : (schedule_at call now trace).run (exec env) w = (result, w')) :
    result.map (fun _ => ()) =
      (reminder_times trace.due_at now call.rule.reminders).map fun _ => () := by
  unfold schedule_at at hrun
  rw [Program.monad_bind, Program.run_bind, Program.run_ofExcept, hpast] at hrun
  simp only [Bool.false_eq_true, if_false] at hrun
  rw [Program.monad_bind, Program.run_bind, Program.run_ofExcept, hcalendar] at hrun
  simp only at hrun
  rw [Program.monad_bind, Program.run_bind] at hrun
  cases hloop : (schedule_reminders call.idempotency_key trace.due_at now call.rule.reminders).run
    (exec env) w with
  | mk reminders w₁ =>
  rw [hloop] at hrun
  rw [← schedule_reminders_answer h hloop]
  cases reminders with
  | error e =>
    obtain ⟨rfl, rfl⟩ := Prod.mk.inj hrun
    rfl
  | ok rs =>
    obtain ⟨w₂, haudit, -⟩ := audit_run env call.audited "deadline.scheduled"
      { w₁ with
        uuids := w₁.uuids + 1
        store := w₁.store.save (call.scheduled trace rs (env.uuid w₁.uuids)) }
    simp only at hrun
    rw [Program.monad_bind, Program.run_bind, Program.run_perform] at hrun
    simp only [exec] at hrun
    rw [Program.monad_bind, Program.run_bind, Program.run_perform] at hrun
    simp only [exec, World.with_store] at hrun
    rw [Program.monad_bind, Program.run_bind_ok haudit] at hrun
    obtain ⟨rfl, rfl⟩ := Prod.mk.inj hrun
    rfl

/-- What a call for which nothing is stored comes to. -/
inductive NewDeadline (env : Env) (call : ScheduleCall) (now : DateTime) (w w' : World) :
    Except Exn ScheduledDeadline → Prop where
  | raises {e : Exn} : computed call now = .error e → w'.store = w.store → w.uuids ≤ w'.uuids →
      NewDeadline env call now w w' (.error e)
  | past_due {trace : ComputationTrace} {id : String} : computed call now = .ok (trace, true) →
      Filed env w w' (call.flagged trace id) →
      NewDeadline env call now w w' (.error (past_due_on_create trace.due_at now))
  | scheduled {trace : ComputationTrace} {rs : List ScheduledReminder} {id : String} :
      computed call now = .ok (trace, false) → Filed env w w' (call.scheduled trace rs id) →
      NewDeadline env call now w w' (.ok (call.scheduled trace rs id))

/-- **What is computed decides**, if the services answer. -/
theorem new_outcome {call : ScheduleCall} {now : DateTime} {result : Except Exn ScheduledDeadline}
    (h : Answering env w) (hnow : call.now = some now)
    (hnone : w.store.get_by_idem call.idempotency_key = none)
    (hrun : (tool_deadline_schedule call).run (exec env) w = (result, w')) :
    NewDeadline env call now w w' result := by
  unfold tool_deadline_schedule at hrun
  rw [hnow] at hrun
  change (Program.bind (await (.get_by_idem call.idempotency_key)) _).run (exec env) w = _ at hrun
  rw [Program.run_bind, Program.run_perform] at hrun
  simp only [exec, hnone] at hrun
  rw [Program.monad_bind, Program.run_bind, Program.run_ofExcept] at hrun
  cases htrace : compute_due_date call.rule call.trigger_inputs now call.rule_ref with
  | error e =>
    rw [htrace] at hrun
    obtain ⟨rfl, rfl⟩ := Prod.mk.inj hrun
    exact .raises (by rw [computed, htrace]; rfl) rfl le_rfl
  | ok trace =>
    rw [htrace] at hrun
    simp only at hrun
    have hcases := schedule_at_cases hrun
    cases hpast : trace.due_at.lt now with
    | error e =>
      -- the comparison raises
      have hcomputed : computed call now = .error e := by
        simp only [computed, htrace, hpast, bind, Except.bind]
      unfold schedule_at at hrun
      rw [Program.monad_bind, Program.run_bind, Program.run_ofExcept, hpast] at hrun
      obtain ⟨rfl, rfl⟩ := Prod.mk.inj hrun
      exact .raises hcomputed rfl le_rfl
    | ok past =>
      cases past with
      | true =>
        have hcomputed : computed call now = .ok (trace, true) := by
          simp only [computed, htrace, hpast, bind, Except.bind, if_true]
        obtain ⟨e, -, -, hnot⟩ | ⟨id, rfl, -, hfiled⟩ | ⟨rs, id, -, hahead, -⟩ := hcases
        · exact absurd hpast hnot
        · exact .past_due hcomputed hfiled
        · cases hpast.symm.trans hahead
      | false =>
        have hanswer := schedule_at_answer h (get_calendar_of_trace htrace) hpast hrun
        cases htimes : reminder_times trace.due_at now call.rule.reminders with
        | error e =>
          have hcomputed : computed call now = .error e := by
            simp only [computed, htrace, hpast, htimes, bind, Except.bind, Bool.false_eq_true, if_false]
          rw [htimes] at hanswer
          obtain ⟨e', rfl, hquiet, -⟩ | ⟨id, rfl, hlate, -⟩ | ⟨rs, id, rfl, -, -⟩ := hcases
          · cases hanswer
            exact .raises hcomputed hquiet.store hquiet.uuids
          · cases hpast.symm.trans hlate
          · cases hanswer
        | ok ts =>
          have hcomputed : computed call now = .ok (trace, false) := by
            simp only [computed, htrace, hpast, htimes, bind, Except.bind, Bool.false_eq_true, if_false]
          rw [htimes] at hanswer
          obtain ⟨e', rfl, -, -⟩ | ⟨id, rfl, -, -⟩ | ⟨rs, id, rfl, -, hmade⟩ := hcases
          · cases hanswer
          · cases hanswer
          · exact .scheduled hcomputed hmade.filed

end services

/-! ## Repeated calls -/

/-- The call and its repetitions with the same arguments: how the last one ends, and the state after it. -/
def again (env : Env) (call : ScheduleCall) (w : World) : Nat → Except Exn ScheduledDeadline × World
  | 0 => (tool_deadline_schedule call).run (exec env) w
  | n + 1 => (tool_deadline_schedule call).run (exec env) (again env call w n).2

/-- Every repetition ends like the first call, and no flagged deadline is returned. -/
def Idempotent (env : Env) (call : ScheduleCall) (w : World) : Prop :=
  ∀ n, (again env call w n).1 = (again env call w 0).1 ∧
    ∀ sd, (again env call w n).1 = .ok sd → sd.flagged_past_due_on_create = false

/-- What is stored under the key is not flagged. If nothing is stored, the computation raises, or the
    deadline is past due and has no key, or it is to be scheduled under a key. -/
def Repeatable (w : World) (call : ScheduleCall) (now : DateTime) : Prop :=
  match w.store.get_by_idem call.idempotency_key with
  | some sd => sd.flagged_past_due_on_create = false
  | none =>
    match computed call now with
    | .error _ => True
    | .ok (_, past) => if past then call.idempotency_key = "" else call.idempotency_key ≠ ""

section again
variable {env : Env} {call : ScheduleCall} {now : DateTime} {w w' : World} {sd : ScheduledDeadline}

theorem again_stored (hnow : call.now = some now)
    (h : w.store.get_by_idem call.idempotency_key = some sd) (n : Nat) :
    again env call w n = (.ok sd, w) := by
  induction n with
  | zero => exact tool_existing hnow h
  | succ n ih =>
    rw [again, ih]
    exact tool_existing hnow h

/-- The first call and the ones after it. -/
theorem again_succ (env : Env) (call : ScheduleCall) (w : World) (n : Nat) :
    again env call w (n + 1) = again env call (again env call w 0).2 n := by
  induction n with
  | zero => rfl
  | succ n ih =>
    show (tool_deadline_schedule call).run (exec env) (again env call w (n + 1)).2 = _
    rw [ih]
    rfl

theorem again_answering (h : Answering env w) (n : Nat) : Answering env (again env call w n).2 := by
  induction n with
  | zero => exact h.run _
  | succ n ih => exact ih.run _

/-- The call raises this, and does not find anything afterwards. -/
def Refused (call : ScheduleCall) (now : DateTime) (e : Exn) : Prop :=
  computed call now = .error e ∨ ∃ trace, computed call now = .ok (trace, true) ∧
    call.idempotency_key = "" ∧ e = past_due_on_create trace.due_at now

theorem refused_once {e : Exn} (hindexed : Indexed env w) (h : Answering env w)
    (hnow : call.now = some now) (hnone : w.store.get_by_idem call.idempotency_key = none)
    (hrefused : Refused call now e) :
    ((tool_deadline_schedule call).run (exec env) w).1 = .error e ∧
      Indexed env ((tool_deadline_schedule call).run (exec env) w).2 ∧
      ((tool_deadline_schedule call).run (exec env) w).2.store.get_by_idem call.idempotency_key =
        none := by
  cases hrun : (tool_deadline_schedule call).run (exec env) w with
  | mk result w' =>
  cases new_outcome h hnow hnone hrun with
  | raises hcomputed hstore huuids =>
    refine ⟨?_, hindexed.congr hstore huuids, by rw [hstore]; exact hnone⟩
    obtain herror | ⟨trace, hlate, -⟩ := hrefused
    · cases hcomputed.symm.trans herror
      rfl
    · cases hcomputed.symm.trans hlate
  | past_due hcomputed hfiled =>
    obtain herror | ⟨trace, hlate, hempty, rfl⟩ := hrefused
    · cases hcomputed.symm.trans herror
    · cases hcomputed.symm.trans hlate
      refine ⟨rfl, hfiled.indexed hindexed, ?_⟩
      -- the flagged deadline is not in the index
      rw [hfiled.get_by_idem hindexed, if_neg fun hboth => hboth.2 hempty]
      exact hnone
  | scheduled hcomputed hfiled =>
    obtain herror | ⟨trace, hlate, -⟩ := hrefused
    · cases hcomputed.symm.trans herror
    · cases hcomputed.symm.trans hlate

theorem again_refused {e : Exn} (hindexed : Indexed env w) (h : Answering env w)
    (hnow : call.now = some now) (hnone : w.store.get_by_idem call.idempotency_key = none)
    (hrefused : Refused call now e) (n : Nat) : (again env call w n).1 = .error e := by
  have hall : ∀ n, (again env call w n).1 = .error e ∧ Indexed env (again env call w n).2 ∧
      (again env call w n).2.store.get_by_idem call.idempotency_key = none := by
    intro n
    induction n with
    | zero => exact refused_once hindexed h hnow hnone hrefused
    | succ n ih => exact refused_once ih.2.1 (again_answering h n) hnow ih.2.2 hrefused
  exact (hall n).1

/-- **When a call can be repeated.** -/
theorem idempotent_iff (hindexed : Indexed env w) (h : Answering env w) (hnow : call.now = some now) :
    Idempotent env call w ↔ Repeatable w call now := by
  unfold Repeatable
  cases hstored : w.store.get_by_idem call.idempotency_key with
  | some sd =>
    have hall : ∀ n, again env call w n = (.ok sd, w) := again_stored hnow hstored
    unfold Idempotent
    constructor
    · intro hidempotent
      exact (hidempotent 0).2 sd (by rw [hall])
    · intro hflag n
      rw [hall, hall]
      refine ⟨rfl, ?_⟩
      intro sd' hsd'
      cases hsd'
      exact hflag
  | none =>
    simp only
    have hrepeats : ∀ {e}, Refused call now e → Idempotent env call w := by
      intro e hrefused n
      have hn := again_refused hindexed h hnow hstored hrefused
      rw [hn n, hn 0]
      exact ⟨rfl, fun sd hsd => by cases hsd⟩
    cases hrun : again env call w 0 with
    | mk result w' =>
    have hnext : ∀ n, again env call w (n + 1) = again env call w' n := by
      intro n
      rw [again_succ, hrun]
    cases new_outcome h hnow hstored hrun with
    | raises hcomputed hstore huuids =>
      rw [hcomputed]
      exact ⟨fun _ => trivial, fun _ => hrepeats (.inl hcomputed)⟩
    | @past_due trace id hcomputed hfiled =>
      rw [hcomputed]
      simp only [if_true]
      constructor
      · intro hall
        by_contra hne
        -- the second call finds the flagged deadline
        have hfound : w'.store.get_by_idem call.idempotency_key =
            some (call.flagged trace id) := by
          rw [hfiled.get_by_idem hindexed, if_pos ⟨rfl, hne⟩]
        have hflag := (hall 1).2 _ (by rw [hnext, again_stored hnow hfound])
        cases hflag
      · intro hempty
        exact hrepeats (.inr ⟨_, hcomputed, hempty, rfl⟩)
    | @scheduled trace rs id hcomputed hfiled =>
      rw [hcomputed]
      simp only [Bool.false_eq_true, if_false]
      constructor
      · intro hall hempty
        -- without a key the second call makes a deadline of its own
        have hnone : w'.store.get_by_idem call.idempotency_key = none := by
          rw [hfiled.get_by_idem hindexed, if_neg fun hboth => hboth.2 hempty]
          exact hstored
        have hsame := (hall 1).1
        have hsecond := hnext 0
        rw [hrun] at hsame
        cases hrun' : again env call w' 0 with
        | mk result' w'' =>
        rw [hsecond, hrun'] at hsame
        have hansw' : Answering env w' := by
          have hrest := @again_answering env call w h 0
          rwa [hrun] at hrest
        cases new_outcome hansw' hnow hnone hrun' with
        | raises => cases hsame
        | past_due => cases hsame
        | scheduled hcomputed' hfiled' =>
          obtain ⟨n, hlow, hhigh, hid⟩ := hfiled.fresh
          obtain ⟨m, hlow', hhigh', hid'⟩ := hfiled'.fresh
          have hids := congrArg ScheduledDeadline.deadline_id (Except.ok.inj hsame)
          rw [hid, hid'] at hids
          have heq := env.uuid_injective hids
          omega
      · intro hne n
        have hfound : w'.store.get_by_idem call.idempotency_key =
            some (call.scheduled trace rs id) := by
          rw [hfiled.get_by_idem hindexed, if_pos ⟨rfl, hne⟩]
        cases n with
        | zero =>
          rw [hrun]
          exact ⟨rfl, fun sd hsd => by cases hsd; rfl⟩
        | succ n =>
          rw [hnext, again_stored hnow hfound, hrun]
          exact ⟨rfl, fun sd hsd => by cases hsd; rfl⟩

end again

end CaseAutomation.Deadline
