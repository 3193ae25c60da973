import CaseAutomation.Deadline.Ledger
import CaseAutomation.Deadline.Preview

/-! # Keys of Reminders

    Every reminder is to be delivered on its own. `fire_reminder` knows a reminder by its key, and marks
    all reminders with that key as fired. So as many notifications are delivered as there are armed
    reminders exactly if they have different keys, that is, if the reminders of the rule differ in
    amount or unit (`own_delivery_iff`).
-/

namespace CaseAutomation.Deadline

open Framework

/-! ## Firing one after another -/

/-- The armed reminders of a deadline. -/
def ScheduledDeadline.armed (sd : ScheduledDeadline) : List ScheduledReminder :=
  sd.reminders.filter fun r => decide (r.status = .armed)

/-- The reminders with these keys are fired, one after another. -/
def fire_each (env : Env) (deadline_id : String) (redis audited : Bool) (w : World)
    (keys : List String) : World :=
  keys.foldl (fun w key => ((fire_reminder deadline_id key redis audited).run (exec env) w).2) w

/-- The stored reminders have different keys, and one notification is delivered for each armed one, in
    whatever order they are fired. -/
structure OwnDelivery (env : Env) (sd : ScheduledDeadline) (redis audited : Bool) (w : World) :
    Prop where
  distinct : (sd.reminders.map (·.idempotency_key)).Nodup
  delivered : ∀ rs : List ScheduledReminder, rs.Perm sd.armed →
    (fire_each env sd.deadline_id redis audited w (rs.map (·.idempotency_key))).delivered.length =
      w.delivered.length + rs.length

section firing
variable {env : Env} {w w' : World} {sd : ScheduledDeadline} {deadline_id key key' : String}
  {redis audited : Bool}

/-- No call is forgotten. -/
theorem calls_mono {α : Type} (p : M α) (w : World) : w.calls ≤ (p.run (exec env) w).2.calls := by
  have houtside : ∀ {β : Type} (w : World) (done : Except Exn β × World),
      w.calls ≤ (w.outside env done).2.calls := by
    intro β w done
    unfold World.outside
    split
    · exact Nat.le_succ _
    · exact Nat.le_succ _
  induction p generalizing w with
  | ret a => exact le_rfl
  | raise e => exact le_rfl
  | call op k ih =>
    refine le_trans ?_ (ih _ _)
    cases op with
    | notify n => exact houtside w _
    | arm fire_at job_ref idem_key => exact houtside w _
    | cancel arm_id => exact houtside w _
    | audit action => exact houtside w _
    | advance id =>
      simp only [exec]
      split
      · exact le_rfl
      · exact le_rfl
    | close id =>
      simp only [exec]
      split
      · exact le_rfl
      · split
        · exact le_rfl
        · exact le_rfl
    | _ => exact le_rfl

/-- The other reminders go on waiting. -/
theorem fire_waiting_other (sd : ScheduledDeadline) (hne : key' ≠ key) :
    (sd.fire key).waiting key' = sd.waiting key' := by
  have hkeeps : ∀ r : ScheduledReminder,
      (if r.idempotency_key = key then { r with status := .fired } else r).idempotency_key =
        r.idempotency_key := by
    intro r
    split
    · rfl
    · rfl
  have hfound : (sd.fire key).reminder key' = (sd.reminder key').map fun r =>
      if r.idempotency_key = key then { r with status := .fired } else r := by
    show List.find? _ (List.map _ _) = Option.map _ (List.find? _ _)
    rw [List.find?_map]
    congr 2
    funext r
    simp only [Function.comp, hkeeps]
  unfold ScheduledDeadline.waiting
  rw [hfound]
  cases hreminder : sd.reminder key' with
  | none => rfl
  | some r =>
    have hkey := (ScheduledDeadline.reminder_mem hreminder).2
    rw [Option.map_some, if_neg (by rw [hkey]; exact hne)]

/-- An armed reminder waits under its key, if no other has it. -/
theorem waiting_of_distinct (hdistinct : (sd.reminders.map (·.idempotency_key)).Nodup)
    {r : ScheduledReminder} (hr : r ∈ sd.armed) : sd.waiting r.idempotency_key = true := by
  obtain ⟨hmem, harmed⟩ := List.mem_filter.mp hr
  rw [ScheduledDeadline.waiting_iff]
  cases hfound : sd.reminder r.idempotency_key with
  | none =>
    have hnone := List.find?_eq_none.mp hfound r hmem
    simp at hnone
  | some r' =>
    obtain ⟨hmem', hkey⟩ := ScheduledDeadline.reminder_mem hfound
    obtain rfl := List.inj_on_of_nodup_map hdistinct hmem' hmem hkey
    exact ⟨r', rfl, of_decide_eq_true harmed⟩

/-- **Every reminder that waits is delivered.** -/
theorem fire_each_delivers {keys : List String} (hport : ∀ n, w.calls ≤ n → env.fault n = none)
    (hget : w.store.get deadline_id = some sd) (hdistinct : keys.Nodup)
    (hwait : ∀ key ∈ keys, sd.waiting key = true)
    (hredis : redis = true → ∀ key ∈ keys, dedup_key key ∉ w.redis) :
    (fire_each env deadline_id redis audited w keys).delivered.length =
      w.delivered.length + keys.length := by
  induction keys generalizing w sd with
  | nil => rfl
  | cons key rest ih =>
    obtain ⟨hnot, hrest⟩ := List.nodup_cons.mp hdistinct
    obtain ⟨w₁, hrun, hdelivered⟩ := fire_reminder_sends audited hget
      (hwait key List.mem_cons_self) (fun h => hredis h key List.mem_cons_self) (hport _ le_rfl)
    have hcalls : w.calls ≤ w₁.calls := by
      have h := @calls_mono env _ (fire_reminder deadline_id key redis audited) w
      rwa [hrun] at h
    have hget₁ : w₁.store.get deadline_id = some (sd.fire key) := by
      rw [hdelivered.store]
      exact DeadlineStore.get_save_self hget rfl
    have hlength : w₁.delivered.length = w.delivered.length + 1 := by
      rw [hdelivered.delivered, List.length_append]
      rfl
    have hne : ∀ key' ∈ rest, key' ≠ key := by
      rintro key' hkey' rfl
      exact hnot hkey'
    have hwait₁ : ∀ key' ∈ rest, (sd.fire key).waiting key' = true := by
      intro key' hkey'
      rw [fire_waiting_other sd (hne key' hkey')]
      exact hwait key' (List.mem_cons_of_mem _ hkey')
    have hredis₁ : redis = true → ∀ key' ∈ rest, dedup_key key' ∉ w₁.redis := by
      intro h key' hkey' hmem
      rw [hdelivered.redis, if_pos h] at hmem
      obtain heq | hmem := List.mem_cons.mp hmem
      · exact hne key' hkey' (dedup_key_injective heq)
      · exact hredis h key' (List.mem_cons_of_mem _ hkey') hmem
    have hloop := ih (fun n hn => hport n (hcalls.trans hn)) hget₁ hrest hwait₁ hredis₁
    show (fire_each env deadline_id redis audited
      ((fire_reminder deadline_id key redis audited).run (exec env) w).2 rest).delivered.length = _
    rw [hrun, hloop, hlength, List.length_cons]
    omega

/-- **Nothing is delivered under a key that is remembered.** -/
theorem fire_each_le (keys : List String) (w : World) :
    (fire_each env deadline_id redis audited w keys).delivered.length ≤ w.delivered.length +
      keys.countP fun key => decide (redis = true → dedup_key key ∉ w.redis) := by
  induction keys generalizing w with
  | nil => exact le_rfl
  | cons key rest ih =>
    show (fire_each env deadline_id redis audited
      ((fire_reminder deadline_id key redis audited).run (exec env) w).2 rest).delivered.length ≤ _
    rw [List.countP_cons]
    cases hrun : (fire_reminder deadline_id key redis audited).run (exec env) w with
    | mk result w₁ =>
    refine (ih w₁).trans ?_
    obtain ⟨-, rfl, -⟩ | ⟨hfree, sd, -, -, ⟨e, -, -, rfl⟩ | ⟨-, -, hdelivered⟩⟩ :=
      fire_reminder_cases hrun
    · omega
    · show w.delivered.length +
        rest.countP (fun key => decide (redis = true → dedup_key key ∉ w.redis)) ≤ _
      omega
    · -- one more notification, and one more key that is remembered
      have hmore : rest.countP (fun key => decide (redis = true → dedup_key key ∉ w₁.redis)) ≤
          rest.countP fun key => decide (redis = true → dedup_key key ∉ w.redis) := by
        refine List.countP_mono_left fun key' _ hkey' => decide_eq_true fun h hmem => ?_
        refine of_decide_eq_true hkey' h ?_
        rw [hdelivered.redis, if_pos h]
        exact List.mem_cons_of_mem _ hmem
      rw [hdelivered.delivered, List.length_append, if_pos (decide_eq_true hfree)]
      show _ + 1 + _ ≤ _
      omega

end firing

/-! ## Keys of stored reminders -/

/-- The reminders of a stored deadline have their keys from its own. -/
def Named (w : World) : Prop := ∀ sd, Stored w sd →
  ∀ r ∈ sd.reminders, r.idempotency_key = reminder_key sd.idempotency_key r.offset

section named
variable {env : Env} {w w' : World}

theorem Named.save (h : Named w) {sd : ScheduledDeadline} (hstore : w'.store = w.store.save sd)
    (hsd : ∀ r ∈ sd.reminders, r.idempotency_key = reminder_key sd.idempotency_key r.offset) :
    Named w' := by
  intro x hx
  unfold Stored at hx
  rw [hstore, DeadlineStore.get_save] at hx
  split at hx
  · cases hx
    exact hsd
  · exact h x hx

/-- Saved reminders with other states only. -/
theorem named_map {sd : ScheduledDeadline} {f : ScheduledReminder → ScheduledReminder}
    (hsd : ∀ r ∈ sd.reminders, r.idempotency_key = reminder_key sd.idempotency_key r.offset)
    (hf : ∀ r, (f r).idempotency_key = r.idempotency_key ∧ (f r).offset = r.offset) :
    ∀ r ∈ sd.reminders.map f, r.idempotency_key = reminder_key sd.idempotency_key r.offset := by
  intro r hr
  obtain ⟨r₀, hr₀, rfl⟩ := List.mem_map.mp hr
  rw [(hf r₀).1, (hf r₀).2]
  exact hsd r₀ hr₀

/-- Any request keeps it. -/
theorem named_serve (h : Named w) (request : Request) : Named (serve env w request) := by
  have heffect := serve_cases env w request
  generalize serve env w request = w₁ at heffect ⊢
  cases heffect with
  | quiet hstore hdelivered hredis huuids =>
    intro x hx
    unfold Stored at hx
    rw [hstore] at hx
    exact h x hx
  | filed hnone hfiled hnew => exact h.save hfiled.store fun r hr => (hnew.reminders r hr).1
  | advanced hget hstore hredis huuids hnoticed =>
    have hold := h _ (stored_of_get hget)
    exact h.save hstore hold
  | finished hget hstore hredis huuids hdelivered =>
    refine h.save hstore (named_map (h _ (stored_of_get hget)) fun r => ?_)
    split
    · exact ⟨rfl, rfl⟩
    · exact ⟨rfl, rfl⟩
  | delivered hget hwait hdelivered =>
    refine h.save hdelivered.store (named_map (h _ (stored_of_get hget)) fun r => ?_)
    split
    · exact ⟨rfl, rfl⟩
    · exact ⟨rfl, rfl⟩

theorem named_served (env : Env) (requests : List Request) : Named (served env requests) := by
  induction requests using List.reverseRecOn with
  | nil =>
    intro sd hsd
    cases hsd
  | append_singleton requests request ih =>
    unfold served
    rw [List.foldl_append]
    exact named_serve ih request

end named

/-! ## What a call configures -/

/-- The reminders that a call is about: those of the rule, or of the deadline that is there already. -/
def configured (w : World) (call : ScheduleCall) : List ReminderOffset :=
  match w.store.get_by_idem call.idempotency_key with
  | some sd => sd.reminders.map (·.offset)
  | none => call.rule.reminders

/-- One of the reminders to be delivered is already remembered in Redis. -/
def Remembered (w : World) (call : ScheduleCall) (now : DateTime) : Prop :=
  match w.store.get_by_idem call.idempotency_key with
  | some sd => ∃ r ∈ sd.reminders, r.status = .armed ∧ dedup_key r.idempotency_key ∈ w.redis
  | none => ∃ rem ∈ call.rule.reminders, Upcoming call now rem ∧
      dedup_key (reminder_key call.idempotency_key rem) ∈ w.redis

/-- The reminders differ in amount or unit. -/
def DistinctOffsets (rems : List ReminderOffset) : Prop :=
  (rems.map fun rem => (rem.amount, rem.unit)).Nodup

section calls
variable {env : Env} {call : ScheduleCall} {w w' : World} {sd : ScheduledDeadline} {redis audited : Bool}

/-- Keys are distinct exactly if the offsets are. -/
theorem distinct_keys_iff
    (hnamed : ∀ r ∈ sd.reminders, r.idempotency_key = reminder_key sd.idempotency_key r.offset) :
    (sd.reminders.map (·.idempotency_key)).Nodup ↔
      DistinctOffsets (sd.reminders.map (·.offset)) := by
  unfold DistinctOffsets List.Nodup
  rw [List.map_map, List.pairwise_map, List.pairwise_map]
  refine List.Pairwise.iff_of_mem ?_
  intro a b ha hb
  rw [hnamed a ha, hnamed b hb]
  show _ ↔ (a.offset.amount, a.offset.unit) ≠ (b.offset.amount, b.offset.unit)
  constructor
  · intro hkeys heq
    obtain ⟨hamount, hunit⟩ := Prod.mk.inj heq
    exact hkeys (by rw [reminder_key, reminder_key, hamount, hunit])
  · intro hoffsets hkey
    obtain ⟨-, hamount, hunit⟩ := reminder_key_injective hkey
    exact hoffsets (by rw [hamount, hunit])

/-- Deliveries of a stored deadline. -/
theorem own_delivery_of_stored (hport : ∀ n, w.calls ≤ n → env.fault n = none)
    (hget : w.store.get sd.deadline_id = some sd)
    (hnamed : ∀ r ∈ sd.reminders, r.idempotency_key = reminder_key sd.idempotency_key r.offset) :
    OwnDelivery env sd redis audited w ↔ DistinctOffsets (sd.reminders.map (·.offset)) ∧
      (redis = true → ∀ r ∈ sd.armed, dedup_key r.idempotency_key ∉ w.redis) := by
  rw [← distinct_keys_iff hnamed]
  constructor
  · rintro ⟨hdistinct, hdelivered⟩
    refine ⟨hdistinct, ?_⟩
    have hall := hdelivered sd.armed (List.Perm.refl _)
    have hle := @fire_each_le env sd.deadline_id redis audited (sd.armed.map (·.idempotency_key)) w
    have hcount := List.countP_le_length (p := fun key =>
      decide (redis = true → dedup_key key ∉ w.redis)) (l := sd.armed.map (·.idempotency_key))
    rw [List.length_map] at hcount
    -- each of them has been delivered
    have hevery := List.countP_eq_length.mp (show (sd.armed.map (·.idempotency_key)).countP
      (fun key => decide (redis = true → dedup_key key ∉ w.redis)) =
        (sd.armed.map (·.idempotency_key)).length by rw [List.length_map]; omega)
    intro h r hr
    exact of_decide_eq_true (hevery _ (List.mem_map_of_mem hr)) h
  · rintro ⟨hdistinct, hfree⟩
    refine ⟨hdistinct, ?_⟩
    intro rs hperm
    have hkeys : (rs.map (·.idempotency_key)).Nodup := by
      rw [(hperm.map _).nodup_iff]
      exact (List.filter_sublist.map _).nodup hdistinct
    have hloop := @fire_each_delivers env w sd sd.deadline_id redis audited _ hport hget hkeys
      (by
        intro key hkey
        obtain ⟨r, hr, rfl⟩ := List.mem_map.mp hkey
        exact waiting_of_distinct hdistinct (hperm.mem_iff.mp hr))
      (by
        intro h key hkey
        obtain ⟨r, hr, rfl⟩ := List.mem_map.mp hkey
        exact hfree h r (hperm.mem_iff.mp hr))
    rw [hloop, List.length_map]

theorem get_of_get_by_idem {key : String} (h : w.store.get_by_idem key = some sd) :
    w.store.get sd.deadline_id = some sd := by
  unfold DeadlineStore.get_by_idem at h
  split at h
  · cases h
  · split at h
    · cases h
    · exact stored_of_get h

/-- The stored reminders have the offsets of the rule. -/
theorem offsets_of_scheduled {trace : ComputationTrace} {rs : List ScheduledReminder} (id : String)
    (hoffsets : rs.map ScheduledReminder.offset = call.rule.reminders) :
    ((call.scheduled trace rs id).reminders.map (·.offset)).Perm call.rule.reminders := by
  have hperm : (call.scheduled trace rs id).reminders.Perm
      (rs.map fun r => { r with deadline_id := id }) := List.perm_insertionSort _ _
  have hmap := hperm.map fun r : ScheduledReminder => r.offset
  rw [List.map_map] at hmap
  rw [← hoffsets]
  exact hmap

theorem remembered_of_scheduled {now : DateTime} {trace : ComputationTrace}
    {rs : List ScheduledReminder} {id : String}
    (hnone : w.store.get_by_idem call.idempotency_key = none)
    (htrace : compute_due_date call.rule call.trigger_inputs now call.rule_ref = .ok trace)
    (hmade : Scheduled env call now w w' trace rs id) :
    (∀ r ∈ (call.scheduled trace rs id).armed, dedup_key r.idempotency_key ∉ w.redis) ↔
      ¬ Remembered w call now := by
  unfold Remembered
  rw [hnone]
  constructor
  · rintro hfree ⟨rem, hrem, hupcoming, hmem⟩
    rw [← hmade.offsets] at hrem
    obtain ⟨r, hr, rfl⟩ := List.mem_map.mp hrem
    have hr' := hmade.made r hr
    have harmed := (armed_iff_upcoming htrace hr').mpr hupcoming
    rw [← hr'.key] at hmem
    exact hfree { r with deadline_id := id }
      (List.mem_filter.mpr ⟨mem_scheduled.mpr ⟨r, hr, rfl⟩, decide_eq_true harmed⟩) hmem
  · intro hnot r hr hmem
    obtain ⟨hstored, harmed⟩ := List.mem_filter.mp hr
    obtain ⟨r₀, hr₀, rfl⟩ := mem_scheduled.mp hstored
    have hr' := hmade.made r₀ hr₀
    refine hnot ⟨r₀.offset, ?_, (armed_iff_upcoming htrace hr').mp (of_decide_eq_true harmed), ?_⟩
    · rw [← hmade.offsets]
      exact List.mem_map_of_mem hr₀
    · rw [← hr'.key]
      exact hmem

end calls

/-- **Every reminder is delivered on its own, if the rule lets it.** For every call that returns, in any state that
    the engine comes to: the stored reminders have different keys, and firing the armed ones in any order
    delivers one notification each, if and only if the reminders that were configured
    differ in amount or unit and none of those to be delivered is already remembered in Redis. -/
theorem own_delivery_iff {env : Env} {requests : List Request} {call : ScheduleCall} {w' : World}
    {sd : ScheduledDeadline} {redis audited : Bool}
    (h : (tool_deadline_schedule call).run (exec env) (served env requests) = (.ok sd, w'))
    (hport : ∀ n, w'.calls ≤ n → env.fault n = none) :
    OwnDelivery env sd redis audited w' ↔
      DistinctOffsets (configured (served env requests) call) ∧
      (redis = true → ¬ Remembered (served env requests) call
        (call.now.getD (env.time (served env requests).clock))) := by
  have hnamed := named_served env requests
  generalize served env requests = w at h hnamed ⊢
  obtain ⟨existing, hfound, hsd, hsilent⟩ |
    ⟨hnone, ⟨e, he, -⟩ | ⟨trace, htrace, ⟨id, he, -⟩ | ⟨rs, id, hsd, hmade⟩⟩⟩ := schedule_cases h
  · -- the deadline that is there already
    cases hsd
    have hget := get_of_get_by_idem hfound
    rw [own_delivery_of_stored hport (by rw [hsilent.store]; exact hget) (hnamed _ hget), hsilent.redis]
    unfold configured Remembered
    rw [hfound]
    refine and_congr_right fun _ => imp_congr_right fun _ => ?_
    constructor
    · rintro hfree ⟨r, hr, harmed, hmem⟩
      exact hfree r (List.mem_filter.mpr ⟨hr, decide_eq_true harmed⟩) hmem
    · intro hnot r hr hmem
      obtain ⟨hstored, harmed⟩ := List.mem_filter.mp hr
      exact hnot ⟨r, hstored, of_decide_eq_true harmed, hmem⟩
  · cases he
  · cases he
  · cases hsd
    have hnew := @new_scheduled _ _ trace _ id hmade.made hmade.offsets
    rw [own_delivery_of_stored hport
      (by rw [hmade.filed.store, DeadlineStore.get_save, if_pos rfl])
      (fun r hr => (hnew.reminders r hr).1),
      hmade.filed.redis, remembered_of_scheduled hnone htrace hmade]
    unfold DistinctOffsets configured
    rw [hnone, ((offsets_of_scheduled id hmade.offsets).map _).nodup_iff]

/-- The three reminders of the answer are delivered, each on its own. -/
theorem three_reminders_delivered : ∃ sd w',
    (tool_deadline_schedule three_reminders).run (exec calm_env) (served calm_env []) = (.ok sd, w') ∧
      DistinctOffsets (configured (served calm_env []) three_reminders) ∧
      OwnDelivery calm_env sd true false w' := by
  have hruns : (((tool_deadline_schedule three_reminders).run (exec calm_env)
      (served calm_env [])).1.toOption.map fun sd => sd.reminders.length) = some 3 := by
    decide +kernel
  obtain ⟨sd, hsd, -⟩ := ok_of_toOption_map hruns
  have hdistinct : DistinctOffsets (configured (served calm_env []) three_reminders) := by
    show List.Nodup _
    decide
  refine ⟨sd, _, Prod.fst_eq_iff.mp hsd, hdistinct, ?_⟩
  refine (own_delivery_iff (Prod.fst_eq_iff.mp hsd) (fun _ _ => rfl)).mpr ⟨hdistinct, ?_⟩
  rintro - ⟨rem, -, -, hmem⟩
  cases hmem

/-- The e-mail and the telephone call share a key, and one notification is delivered for both. -/
theorem one_notification_for_two : ¬ ∀ (env : Env) (requests : List Request) (call : ScheduleCall)
    (w' : World) (sd : ScheduledDeadline) (redis audited : Bool),
    (tool_deadline_schedule call).run (exec env) (served env requests) = (.ok sd, w') →
    (∀ n, w'.calls ≤ n → env.fault n = none) → OwnDelivery env sd redis audited w' := by
  intro hclaim
  let run := (tool_deadline_schedule labelled_reminders).run (exec calm_env) (served calm_env [])
  have hruns : (run.1.toOption.map fun sd => (run.2.delivered.length, sd.armed.length,
      (fire_each calm_env sd.deadline_id false false run.2
        (sd.armed.map (·.idempotency_key))).delivered.length)) = some (0, 2, 1) := by
    decide +kernel
  obtain ⟨sd, hsd, hlengths⟩ := ok_of_toOption_map hruns
  have hdelivered : (fire_each calm_env sd.deadline_id false false run.2
      (sd.armed.map (·.idempotency_key))).delivered.length =
        run.2.delivered.length + sd.armed.length :=
    (hclaim calm_env [] labelled_reminders _ sd false false (Prod.fst_eq_iff.mp hsd)
      (fun _ _ => rfl)).delivered sd.armed (List.Perm.refl _)
  simp only [Prod.mk.injEq] at hlengths
  omega

end CaseAutomation.Deadline
