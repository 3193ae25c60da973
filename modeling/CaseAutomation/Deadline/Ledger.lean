import CaseAutomation.Deadline.Updates
import Mathlib.Data.List.Induction

/-! # The Delivery Ledger

    One call after the other, from an empty store. Three records speak about a reminder: its
    stored status, the dedup key in Redis and the notifications that were delivered. They agree
    in every state (`Ledger`), because no two reminders share a key: the key of a
    reminder determines the key of its deadline (`reminder_key_injective`), a stored deadline is
    found again under its own key, and no escalation notice has the key of a reminder.

    `serve_cases` says once what a call can do; the invariant and the theorem about finished
    deadlines split on its five cases.
-/

namespace CaseAutomation.Deadline

open Framework

/-! ## Histories -/

inductive Request where
  | schedule (call : ScheduleCall)
  | fire_reminder (deadline_id reminder_idem_key : String) (redis audited : Bool)
  | escalate (deadline_id : String) (audited : Bool)
  | mark_done (deadline_id : String) (audited : Bool)
  /-- A dedup key in Redis reaches the end of its seven days. -/
  | expire (key : String)

/-- The state after a request. -/
def serve (env : Env) (w : World) : Request → World
  | .schedule call => ((tool_deadline_schedule call).run (exec env) w).2
  | .fire_reminder deadline_id key redis audited =>
    ((fire_reminder deadline_id key redis audited).run (exec env) w).2
  | .escalate deadline_id audited => ((escalate deadline_id audited).run (exec env) w).2
  | .mark_done deadline_id audited => ((mark_done deadline_id audited).run (exec env) w).2
  | .expire key => { w with redis := w.redis.filter (· ≠ key) }

/-- The state after a history that starts with nothing. -/
def served (env : Env) (requests : List Request) : World :=
  requests.foldl (serve env) .fresh

/-- The key under which a deadline is to be scheduled. -/
def Request.key? : Request → Option String
  | .schedule call => some call.idempotency_key
  | _ => none

/-- The reminders of the rule differ in amount or unit. -/
def DistinctReminders (rule : DeadlineRule) : Prop :=
  (rule.reminders.map fun rem => (rem.amount, rem.unit)).Nodup

/-- Deadlines have distinct keys. A key that is not empty may be used again: the call then returns
    the deadline that it made before. -/
def DistinctKeys (requests : List Request) : Prop :=
  (requests.filterMap Request.key?).Pairwise fun key key' => key = key' → key ≠ ""

/-! ## What a request can do -/

/-- A deadline with no history: well-formed keys, and nothing fired yet. -/
structure New (call : ScheduleCall) (sd : ScheduledDeadline) : Prop where
  key : sd.idempotency_key = call.idempotency_key
  reminders : ∀ r ∈ sd.reminders,
    r.idempotency_key = reminder_key sd.idempotency_key r.offset ∧ r.status ≠ .fired
  distinct : DistinctReminders call.rule → (sd.reminders.map (·.idempotency_key)).Nodup

theorem new_flagged (call : ScheduleCall) (trace : ComputationTrace) (id : String) :
    New call (call.flagged trace id) := by
  refine ⟨rfl, ?_, fun _ => List.nodup_nil⟩
  intro r hr
  cases hr

theorem new_scheduled {call : ScheduleCall} {now : DateTime} {trace : ComputationTrace}
    {rs : List ScheduledReminder} (id : String)
    (hmade : ∀ r ∈ rs, Made call.idempotency_key trace.due_at now r)
    (hoffsets : rs.map ScheduledReminder.offset = call.rule.reminders) :
    New call (call.scheduled trace rs id) := by
  refine ⟨rfl, ?_, ?_⟩
  · intro r hr
    obtain ⟨r₀, hr₀, rfl⟩ := mem_scheduled.mp hr
    have hm := hmade r₀ hr₀
    refine ⟨hm.key, ?_⟩
    show r₀.status ≠ .fired
    obtain ⟨-, h, -⟩ | ⟨-, h, -⟩ := hm.status
    · rw [h]
      decide
    · rw [h]
      decide
  · intro hdistinct
    have hperm : ((call.scheduled trace rs id).reminders.map (·.idempotency_key)).Perm
        (rs.map (·.idempotency_key)) := by
      have h := (List.perm_insertionSort (fun a b : ScheduledReminder =>
        a.fire_at.wall ≤ b.fire_at.wall) (rs.map fun r => { r with deadline_id := id })).map
          (·.idempotency_key)
      rw [List.map_map] at h
      exact h
    rw [hperm.nodup_iff]
    have hkeys : rs.map (·.idempotency_key) =
        call.rule.reminders.map (reminder_key call.idempotency_key) := by
      rw [← hoffsets, List.map_map]
      exact List.map_congr_left fun r hr => (hmade r hr).key
    rw [hkeys]
    -- distinct amounts and units give distinct keys
    refine List.Nodup.map_on ?_ (List.Nodup.of_map _ hdistinct)
    intro a ha b hb hab
    obtain ⟨-, hamount, hunit⟩ := reminder_key_injective hab
    exact List.inj_on_of_nodup_map hdistinct ha hb (by rw [hamount, hunit])

/-- **What a request can do to the records.** -/
inductive Effect (env : Env) (w w' : World) : Request → Prop where
  /-- Nothing is stored or sent; dedup keys may run out. -/
  | quiet {request : Request} : w'.store = w.store → w'.delivered = w.delivered →
      (∀ key ∈ w'.redis, key ∈ w.redis) → w.uuids ≤ w'.uuids → Effect env w w' request
  /-- A new deadline is filed. -/
  | filed {call : ScheduleCall} {sd : ScheduledDeadline} :
      w.store.get_by_idem call.idempotency_key = none → Filed env w w' sd → New call sd →
      Effect env w w' (.schedule call)
  | advanced {deadline_id : String} {audited : Bool} {sd : ScheduledDeadline} :
      w.store.get deadline_id = some sd → w'.store = w.store.save sd.advance →
      w'.redis = w.redis → w'.uuids = w.uuids → Noticed w w' deadline_id →
      Effect env w w' (.escalate deadline_id audited)
  | finished {deadline_id : String} {audited : Bool} {sd : ScheduledDeadline} :
      w.store.get deadline_id = some sd → w'.store = w.store.save sd.finish →
      w'.redis = w.redis → w'.uuids = w.uuids → w'.delivered = w.delivered →
      Effect env w w' (.mark_done deadline_id audited)
  | delivered {deadline_id key : String} {redis audited : Bool} {sd : ScheduledDeadline} :
      w.store.get deadline_id = some sd → sd.waiting key = true →
      Delivered w w' deadline_id key redis sd →
      Effect env w w' (.fire_reminder deadline_id key redis audited)

theorem serve_cases (env : Env) (w : World) (request : Request) :
    Effect env w (serve env w request) request := by
  cases request with
  | schedule call =>
    show Effect env w ((tool_deadline_schedule call).run (exec env) w).2 _
    cases hrun : (tool_deadline_schedule call).run (exec env) w with
    | mk result w' =>
    obtain ⟨sd, -, -, hsilent⟩ |
      ⟨hnone, ⟨e, -, hquiet⟩ | ⟨trace, -, ⟨id, -, hfiled⟩ | ⟨rs, id, -, hmade⟩⟩⟩ := schedule_cases hrun
    · exact .quiet hsilent.store hsilent.delivered (fun _ h => hsilent.redis ▸ h) hsilent.uuids
    · exact .quiet hquiet.store hquiet.delivered (fun _ h => hquiet.redis ▸ h) hquiet.uuids
    · exact .filed hnone hfiled (new_flagged call trace id)
    · exact .filed hnone hmade.filed (new_scheduled id hmade.made hmade.offsets)
  | fire_reminder deadline_id key redis audited =>
    show Effect env w ((fire_reminder deadline_id key redis audited).run (exec env) w).2 _
    cases hrun : (fire_reminder deadline_id key redis audited).run (exec env) w with
    | mk result w' =>
    obtain ⟨-, rfl, -⟩ | ⟨-, sd, hget, hwait, ⟨e, -, -, rfl⟩ | ⟨-, -, hdelivered⟩⟩ :=
      fire_reminder_cases hrun
    · exact .quiet rfl rfl (fun _ h => h) (le_refl _)
    · exact .quiet rfl rfl (fun _ h => h) (le_refl _)
    · exact .delivered hget hwait hdelivered
  | escalate deadline_id audited =>
    show Effect env w ((escalate deadline_id audited).run (exec env) w).2 _
    cases hrun : (escalate deadline_id audited).run (exec env) w with
    | mk result w' =>
    obtain ⟨-, rfl⟩ | ⟨sd, hget, hstore, hredis, huuids, hnoticed⟩ := escalate_cases hrun
    · exact .quiet rfl rfl (fun _ h => h) (le_refl _)
    · exact .advanced hget hstore hredis huuids hnoticed
  | mark_done deadline_id audited =>
    show Effect env w ((mark_done deadline_id audited).run (exec env) w).2 _
    obtain ⟨w', hrun, hredis, hdelivered, huuids, ⟨-, hstore⟩ | ⟨sd, hget, hstore⟩⟩ :=
      mark_done_run env deadline_id audited w
    · rw [hrun]
      exact .quiet hstore hdelivered (fun _ h => hredis ▸ h) (le_of_eq huuids.symm)
    · rw [hrun]
      exact .finished hget hstore hredis huuids hdelivered
  | expire key =>
    refine .quiet rfl rfl ?_ (le_refl _)
    intro k hk
    exact (List.mem_filter.mp hk).1

/-! ## The invariant -/

/-- The deadline is in the store. -/
def Stored (w : World) (sd : ScheduledDeadline) : Prop := w.store.get sd.deadline_id = some sd

theorem stored_of_get {w : World} {id : String} {sd : ScheduledDeadline}
    (h : w.store.get id = some sd) : Stored w sd := by
  unfold Stored
  rw [w.store.keyed h]
  exact h

/-- The reminders carry their own keys, one each. -/
structure WellKeyed (sd : ScheduledDeadline) : Prop where
  named : ∀ r ∈ sd.reminders, r.idempotency_key = reminder_key sd.idempotency_key r.offset
  distinct : (sd.reminders.map (·.idempotency_key)).Nodup

/-- The key belongs to a reminder of a stored deadline with this status. -/
def KeyOf (w : World) (key : String) (status : ReminderStatus → Prop) : Prop :=
  ∃ sd r, Stored w sd ∧ r ∈ sd.reminders ∧ r.idempotency_key = key ∧ status r.status

/-- **The invariant of a history** whose deadlines were scheduled under these keys. -/
structure Ledger (env : Env) (keys : List String) (w : World) : Prop where
  /-- Ids that were not drawn yet are free. -/
  drawn : ∀ sd, Stored w sd → ∃ n, n < w.uuids ∧ sd.deadline_id = env.uuid n
  asked : ∀ sd, Stored w sd → sd.idempotency_key ∈ keys
  indexed : ∀ sd, Stored w sd → sd.idempotency_key ≠ "" →
    w.store.by_idem.get? sd.idempotency_key = some sd.deadline_id
  one : ∀ sd sd', Stored w sd → Stored w sd' → sd.idempotency_key = sd'.idempotency_key → sd = sd'
  keyed : ∀ sd, Stored w sd → WellKeyed sd
  /-- A fired reminder was sent once, the others were not. -/
  counted : ∀ sd, Stored w sd → ∀ r ∈ sd.reminders,
    w.sent r.idempotency_key = if r.status = .fired then 1 else 0
  /-- Whatever was sent is an escalation notice or belongs to a stored reminder. -/
  accounted : ∀ n ∈ w.delivered, (∃ id level, n.idem_key = escalation_key id level) ∨
    KeyOf w n.idem_key fun _ => True
  remembered : ∀ key, dedup_key key ∈ w.redis → KeyOf w key (· = .fired)

theorem ledger_fresh (env : Env) : Ledger env [] .fresh := by
  have hnone : ∀ sd, ¬Stored .fresh sd := by
    intro sd h
    cases h
  refine ⟨?_, ?_, ?_, ?_, ?_, ?_, ?_, ?_⟩
  · exact fun sd h => absurd h (hnone sd)
  · exact fun sd h => absurd h (hnone sd)
  · exact fun sd h => absurd h (hnone sd)
  · exact fun sd _ h => absurd h (hnone sd)
  · exact fun sd h => absurd h (hnone sd)
  · exact fun sd h => absurd h (hnone sd)
  · intro n hn
    cases hn
  · intro key hkey
    cases hkey

section steps
variable {env : Env} {keys : List String} {w w' : World}

theorem dedup_key_injective {key key' : String} (h : dedup_key key = dedup_key key') :
    key = key' :=
  (String.append_right_inj "cam:reminder_fired:").mp h

/-- A key belongs to one reminder of one stored deadline. -/
theorem Ledger.unique (h : Ledger env keys w) {sd sd' : ScheduledDeadline}
    {r r' : ScheduledReminder} (hsd : Stored w sd) (hr : r ∈ sd.reminders) (hsd' : Stored w sd')
    (hr' : r' ∈ sd'.reminders) (hkey : r.idempotency_key = r'.idempotency_key) :
    sd = sd' ∧ r = r' := by
  have hnamed := (h.keyed sd hsd).named r hr
  have hnamed' := (h.keyed sd' hsd').named r' hr'
  rw [hnamed, hnamed'] at hkey
  obtain ⟨hsame, -⟩ := reminder_key_injective hkey
  obtain rfl := h.one sd sd' hsd hsd' hsame
  refine ⟨rfl, List.inj_on_of_nodup_map (h.keyed sd hsd).distinct hr hr' ?_⟩
  rw [hnamed, hnamed', hkey]

/-- Nothing is stored or sent. -/
theorem Ledger.quiet (h : Ledger env keys w) {keys' : List String} (hkeys : ∀ k ∈ keys, k ∈ keys')
    (hstore : w'.store = w.store) (hdelivered : w'.delivered = w.delivered)
    (hredis : ∀ key ∈ w'.redis, key ∈ w.redis) (huuids : w.uuids ≤ w'.uuids) :
    Ledger env keys' w' := by
  have hstored : ∀ sd, Stored w' sd ↔ Stored w sd := by
    intro sd
    unfold Stored
    rw [hstore]
  have hsent : ∀ key, w'.sent key = w.sent key := by
    intro key
    unfold World.sent
    rw [hdelivered]
  have hkeyof : ∀ key status, KeyOf w key status → KeyOf w' key status := by
    intro key status hk
    obtain ⟨sd, r, hsd, hr⟩ := hk
    exact ⟨sd, r, (hstored sd).mpr hsd, hr⟩
  refine ⟨?_, ?_, ?_, ?_, ?_, ?_, ?_, ?_⟩
  · intro sd hsd
    obtain ⟨n, hn, hid⟩ := h.drawn sd ((hstored sd).mp hsd)
    exact ⟨n, by omega, hid⟩
  · exact fun sd hsd => hkeys _ (h.asked sd ((hstored sd).mp hsd))
  · intro sd hsd hne
    rw [hstore]
    exact h.indexed sd ((hstored sd).mp hsd) hne
  · exact fun sd sd' hsd hsd' => h.one sd sd' ((hstored sd).mp hsd) ((hstored sd').mp hsd')
  · exact fun sd hsd => h.keyed sd ((hstored sd).mp hsd)
  · intro sd hsd r hr
    rw [hsent]
    exact h.counted sd ((hstored sd).mp hsd) r hr
  · intro n hn
    rw [hdelivered] at hn
    exact (h.accounted n hn).imp_right (hkeyof _ _)
  · exact fun key hkey => hkeyof _ _ (h.remembered key (hredis _ hkey))

/-- No stored deadline has the key under which a new one is filed. -/
theorem Ledger.key_free (h : Ledger env keys w) {key : String}
    (hnone : w.store.get_by_idem key = none) (hempty : ∀ k ∈ keys, k = key → k ≠ "")
    {sd : ScheduledDeadline} (hsd : Stored w sd) : sd.idempotency_key ≠ key := by
  intro hkey
  have hne : sd.idempotency_key ≠ "" := hempty _ (h.asked sd hsd) hkey
  have hindex := h.indexed sd hsd hne
  obtain ⟨n, -, hid⟩ := h.drawn sd hsd
  rw [hkey] at hindex
  have hid_ne : sd.deadline_id ≠ "" := by
    rw [hid]
    exact env.uuid_ne n
  unfold DeadlineStore.get_by_idem at hnone
  rw [hindex] at hnone
  simp only [if_neg hid_ne] at hnone
  rw [hsd] at hnone
  cases hnone

/-- A new deadline is filed: its reminders have keys under which nothing was sent. -/
theorem Ledger.filed (h : Ledger env keys w) {call : ScheduleCall} {sd : ScheduledDeadline}
    (hdistinct : DistinctReminders call.rule)
    (hempty : ∀ k ∈ keys, k = call.idempotency_key → k ≠ "")
    (hnone : w.store.get_by_idem call.idempotency_key = none) (hfiled : Filed env w w' sd)
    (hnew : New call sd) : Ledger env (keys ++ [call.idempotency_key]) w' := by
  obtain ⟨n, hlow, hhigh, hid⟩ := hfiled.fresh
  have hfree : ∀ old, Stored w old → old.idempotency_key ≠ sd.idempotency_key := by
    intro old hold
    rw [hnew.key]
    exact h.key_free hnone hempty hold
  -- the id was not drawn before
  have hother : ∀ old, Stored w old → old.deadline_id ≠ sd.deadline_id := by
    intro old hold heq
    obtain ⟨m, hm, hold_id⟩ := h.drawn old hold
    rw [hold_id, hid] at heq
    have := env.uuid_injective heq
    omega
  have hstored : ∀ x, Stored w' x ↔ x = sd ∨ Stored w x := by
    intro x
    unfold Stored
    rw [hfiled.store, DeadlineStore.get_save]
    constructor
    · intro hx
      split at hx
      · exact .inl (Option.some.inj hx).symm
      · exact .inr hx
    · intro hx
      obtain rfl | hx := hx
      · exact if_pos rfl
      · rw [if_neg (hother x hx)]
        exact hx
  have hsent : ∀ key, w'.sent key = w.sent key := by
    intro key
    unfold World.sent
    rw [hfiled.delivered]
  have hkeyof : ∀ key status, KeyOf w key status → KeyOf w' key status := by
    intro key status hk
    obtain ⟨x, r, hx, hr⟩ := hk
    exact ⟨x, r, (hstored x).mpr (.inr hx), hr⟩
  refine ⟨?_, ?_, ?_, ?_, ?_, ?_, ?_, ?_⟩
  · intro x hx
    obtain rfl | hx := (hstored x).mp hx
    · exact ⟨n, hhigh, hid⟩
    · obtain ⟨m, hm, hx_id⟩ := h.drawn x hx
      exact ⟨m, by omega, hx_id⟩
  · intro x hx
    obtain rfl | hx := (hstored x).mp hx
    · rw [hnew.key]
      exact List.mem_append_right _ (List.mem_singleton_self _)
    · exact List.mem_append_left _ (h.asked x hx)
  · intro x hx hne
    rw [hfiled.store]
    unfold DeadlineStore.save
    obtain rfl | hx := (hstored x).mp hx
    · rw [if_neg hne, Dict.get?_set, if_pos rfl]
    · split
      · exact h.indexed x hx hne
      · rw [Dict.get?_set, if_neg (hfree x hx)]
        exact h.indexed x hx hne
  · intro x y hx hy hkey
    obtain rfl | hx := (hstored x).mp hx
    · obtain rfl | hy := (hstored y).mp hy
      · rfl
      · exact absurd hkey.symm (hfree y hy)
    · obtain rfl | hy := (hstored y).mp hy
      · exact absurd hkey (hfree x hx)
      · exact h.one x y hx hy hkey
  · intro x hx
    obtain rfl | hx := (hstored x).mp hx
    · exact ⟨fun r hr => (hnew.reminders r hr).1, hnew.distinct hdistinct⟩
    · exact h.keyed x hx
  · intro x hx r hr
    rw [hsent]
    obtain rfl | hx := (hstored x).mp hx
    · -- whatever was sent under this key would belong to an older deadline
      rw [if_neg (hnew.reminders r hr).2, World.sent, List.countP_eq_zero]
      intro notice hmem hkey
      have hkey : notice.idem_key = r.idempotency_key := of_decide_eq_true hkey
      rw [(hnew.reminders r hr).1] at hkey
      obtain ⟨id, level, hesc⟩ | ⟨old, r', hold, hr', hr_key, -⟩ := h.accounted notice hmem
      · exact reminder_key_ne_escalation_key _ _ _ _ (hkey.symm.trans hesc)
      · rw [(h.keyed old hold).named r' hr', hkey] at hr_key
        exact hfree old hold (reminder_key_injective hr_key).1
    · exact h.counted x hx r hr
  · intro notice hmem
    rw [hfiled.delivered] at hmem
    exact (h.accounted notice hmem).imp_right (hkeyof _ _)
  · intro key hkey
    rw [hfiled.redis] at hkey
    exact hkeyof _ _ (h.remembered key hkey)

/-- The update of a stored deadline: the reminders keep their keys, and stay fired. -/
structure Update (w w' : World) (sd sd' : ScheduledDeadline)
    (f : ScheduledReminder → ScheduledReminder) : Prop where
  stored : Stored w sd
  id : sd'.deadline_id = sd.deadline_id
  key : sd'.idempotency_key = sd.idempotency_key
  reminders : sd'.reminders = sd.reminders.map f
  store : w'.store = w.store.save sd'
  uuids : w'.uuids = w.uuids
  same : ∀ r, (f r).idempotency_key = r.idempotency_key ∧ (f r).offset = r.offset ∧
    (r.status = .fired → (f r).status = .fired)

theorem Update.stored_iff {sd sd' : ScheduledDeadline}
    {f : ScheduledReminder → ScheduledReminder} (h : Update w w' sd sd' f)
    (x : ScheduledDeadline) : Stored w' x ↔ x = sd' ∨ Stored w x ∧ x ≠ sd := by
  unfold Stored
  rw [h.store, DeadlineStore.get_save, h.id]
  constructor
  · intro hx
    split at hx
    · exact .inl (Option.some.inj hx).symm
    · next hne => exact .inr ⟨hx, fun heq => hne (congrArg _ heq)⟩
  · intro hx
    obtain rfl | ⟨hx, hne⟩ := hx
    · rw [if_pos h.id]
    · rw [if_neg ?_]
      · exact hx
      · intro hid
        rw [hid, h.stored] at hx
        exact hne (Option.some.inj hx).symm

theorem Update.keyOf {sd sd' : ScheduledDeadline} {f : ScheduledReminder → ScheduledReminder}
    (h : Update w w' sd sd' f) {key : String} {status : ReminderStatus → Prop}
    (hstatus : ∀ r, status r.status → status (f r).status) (hk : KeyOf w key status) :
    KeyOf w' key status := by
  obtain ⟨x, r, hx, hr, hkey, hs⟩ := hk
  by_cases heq : x = sd
  · subst heq
    refine ⟨sd', f r, (h.stored_iff sd').mpr (.inl rfl), ?_, ?_, hstatus r hs⟩
    · rw [h.reminders]
      exact List.mem_map_of_mem hr
    · rw [(h.same r).1]
      exact hkey
  · exact ⟨x, r, (h.stored_iff x).mpr (.inr ⟨hx, heq⟩), hr, hkey, hs⟩

/-- An update that is accounted for. -/
theorem Ledger.update (h : Ledger env keys w) {sd sd' : ScheduledDeadline}
    {f : ScheduledReminder → ScheduledReminder} (hup : Update w w' sd sd' f)
    (hmine : ∀ r ∈ sd.reminders, w'.sent r.idempotency_key =
      if (f r).status = .fired then 1 else 0)
    (hothers : ∀ x, Stored w x → x ≠ sd → ∀ r ∈ x.reminders,
      w'.sent r.idempotency_key = w.sent r.idempotency_key)
    (hsources : ∀ n ∈ w'.delivered, n ∈ w.delivered ∨
      (∃ id level, n.idem_key = escalation_key id level) ∨
      ∃ r ∈ sd.reminders, r.idempotency_key = n.idem_key)
    (hredis : ∀ key, dedup_key key ∈ w'.redis → dedup_key key ∈ w.redis ∨
      ∃ r ∈ sd.reminders, r.idempotency_key = key ∧ (f r).status = .fired) :
    Ledger env keys w' := by
  have hmem : ∀ r ∈ sd.reminders, f r ∈ sd'.reminders := by
    intro r hr
    rw [hup.reminders]
    exact List.mem_map_of_mem hr
  have hnew : Stored w' sd' := (hup.stored_iff sd').mpr (.inl rfl)
  have hold := h.keyed sd hup.stored
  refine ⟨?_, ?_, ?_, ?_, ?_, ?_, ?_, ?_⟩
  · intro x hx
    rw [hup.uuids]
    obtain rfl | ⟨hx, -⟩ := (hup.stored_iff x).mp hx
    · rw [hup.id]
      exact h.drawn sd hup.stored
    · exact h.drawn x hx
  · intro x hx
    obtain rfl | ⟨hx, -⟩ := (hup.stored_iff x).mp hx
    · rw [hup.key]
      exact h.asked sd hup.stored
    · exact h.asked x hx
  · intro x hx hne
    rw [hup.store]
    unfold DeadlineStore.save
    obtain rfl | ⟨hx, hxne⟩ := (hup.stored_iff x).mp hx
    · rw [if_neg hne, Dict.get?_set, if_pos rfl]
    · split
      · exact h.indexed x hx hne
      · rw [Dict.get?_set, if_neg]
        · exact h.indexed x hx hne
        · intro hkey
          rw [hup.key] at hkey
          exact hxne (h.one x sd hx hup.stored hkey)
  · intro x y hx hy hkey
    obtain rfl | ⟨hx, hxne⟩ := (hup.stored_iff x).mp hx
    · obtain rfl | ⟨hy, hyne⟩ := (hup.stored_iff y).mp hy
      · rfl
      · rw [hup.key] at hkey
        exact absurd (h.one y sd hy hup.stored hkey.symm) hyne
    · obtain rfl | ⟨hy, -⟩ := (hup.stored_iff y).mp hy
      · rw [hup.key] at hkey
        exact absurd (h.one x sd hx hup.stored hkey) hxne
      · exact h.one x y hx hy hkey
  · intro x hx
    obtain rfl | ⟨hx, -⟩ := (hup.stored_iff x).mp hx
    · refine ⟨?_, ?_⟩
      · intro r hr
        rw [hup.reminders] at hr
        obtain ⟨r₀, hr₀, rfl⟩ := List.mem_map.mp hr
        rw [(hup.same r₀).1, (hup.same r₀).2.1, hup.key]
        exact hold.named r₀ hr₀
      · rw [hup.reminders, List.map_map]
        have hkeys : sd.reminders.map ((·.idempotency_key) ∘ f) =
            sd.reminders.map (·.idempotency_key) :=
          List.map_congr_left fun r _ => (hup.same r).1
        rw [hkeys]
        exact hold.distinct
    · exact h.keyed x hx
  · intro x hx r hr
    obtain rfl | ⟨hx, hxne⟩ := (hup.stored_iff x).mp hx
    · rw [hup.reminders] at hr
      obtain ⟨r₀, hr₀, rfl⟩ := List.mem_map.mp hr
      rw [(hup.same r₀).1]
      exact hmine r₀ hr₀
    · rw [hothers x hx hxne r hr]
      exact h.counted x hx r hr
  · intro n hn
    obtain hn | hesc | ⟨r, hr, hkey⟩ := hsources n hn
    · exact (h.accounted n hn).imp_right (hup.keyOf fun _ h => h)
    · exact .inl hesc
    · exact .inr ⟨sd', f r, hnew, hmem r hr, (hup.same r).1.trans hkey, trivial⟩
  · intro key hkey
    obtain hkey | ⟨r, hr, hkey, hfired⟩ := hredis key hkey
    · exact hup.keyOf (fun r => (hup.same r).2.2) (h.remembered key hkey)
    · exact ⟨sd', f r, hnew, hmem r hr, (hup.same r).1.trans hkey, hfired⟩

/-- A level is advanced; reminders are not sent. -/
theorem Ledger.advanced (h : Ledger env keys w) {deadline_id : String} {sd : ScheduledDeadline}
    (hget : w.store.get deadline_id = some sd) (hstore : w'.store = w.store.save sd.advance)
    (hredis : w'.redis = w.redis) (huuids : w'.uuids = w.uuids)
    (hnoticed : Noticed w w' deadline_id) : Ledger env keys w' := by
  have hup : Update w w' sd sd.advance id :=
    ⟨stored_of_get hget, rfl, rfl, (List.map_id _).symm, hstore, huuids, fun _ => ⟨rfl, rfl, id⟩⟩
  have hsent : ∀ x, Stored w x → ∀ r ∈ x.reminders,
      w'.sent r.idempotency_key = w.sent r.idempotency_key := by
    intro x hx r hr
    rw [(h.keyed x hx).named r hr]
    exact hnoticed.sent _ _
  refine h.update hup ?_ (fun x hx _ => hsent x hx) ?_ ?_
  · intro r hr
    rw [hsent sd hup.stored r hr]
    exact h.counted sd hup.stored r hr
  · intro n hn
    obtain hsame | ⟨notice, level, hkey, hdelivered⟩ := hnoticed
    · rw [hsame] at hn
      exact .inl hn
    · rw [hdelivered, List.mem_append, List.mem_singleton] at hn
      obtain hn | rfl := hn
      · exact .inl hn
      · exact .inr (.inl ⟨deadline_id, level, hkey⟩)
  · intro key hkey
    rw [hredis] at hkey
    exact .inl hkey

/-- The armed reminders are skipped; nothing is sent. -/
theorem Ledger.finished (h : Ledger env keys w) {deadline_id : String} {sd : ScheduledDeadline}
    (hget : w.store.get deadline_id = some sd) (hstore : w'.store = w.store.save sd.finish)
    (hredis : w'.redis = w.redis) (huuids : w'.uuids = w.uuids)
    (hdelivered : w'.delivered = w.delivered) : Ledger env keys w' := by
  have hup : Update w w' sd sd.finish fun r =>
      if r.status = .armed then { r with status := .skipped_past } else r := by
    refine ⟨stored_of_get hget, rfl, rfl, rfl, hstore, huuids, ?_⟩
    intro r
    split
    · next harmed =>
      refine ⟨rfl, rfl, fun hfired => ?_⟩
      rw [harmed] at hfired
      cases hfired
    · exact ⟨rfl, rfl, fun hfired => hfired⟩
  have hsent : ∀ key, w'.sent key = w.sent key := by
    intro key
    unfold World.sent
    rw [hdelivered]
  refine h.update hup ?_ (fun _ _ _ _ _ => hsent _) ?_ ?_
  · intro r hr
    rw [hsent, h.counted sd hup.stored r hr]
    by_cases harmed : r.status = .armed
    · simp [harmed]
    · simp [harmed]
  · intro n hn
    rw [hdelivered] at hn
    exact .inl hn
  · intro key hkey
    rw [hredis] at hkey
    exact .inl hkey

/-- An armed reminder is sent for the first time, and marked fired. -/
theorem Ledger.delivered (h : Ledger env keys w) {deadline_id key : String} {redis : Bool}
    {sd : ScheduledDeadline} (hget : w.store.get deadline_id = some sd)
    (hwait : sd.waiting key = true) (hdel : Delivered w w' deadline_id key redis sd) :
    Ledger env keys w' := by
  obtain ⟨r₁, hfind, harmed⟩ := ScheduledDeadline.waiting_iff.mp hwait
  obtain ⟨hr₁, hkey₁⟩ := ScheduledDeadline.reminder_mem hfind
  have hsd : Stored w sd := stored_of_get hget
  have hup : Update w w' sd (sd.fire key) fun r =>
      if r.idempotency_key = key then { r with status := .fired } else r := by
    refine ⟨hsd, rfl, rfl, rfl, hdel.store, hdel.uuids, ?_⟩
    intro r
    split
    · exact ⟨rfl, rfl, fun _ => rfl⟩
    · exact ⟨rfl, rfl, fun hfired => hfired⟩
  refine h.update hup ?_ ?_ ?_ ?_
  · intro r hr
    by_cases hkey : r.idempotency_key = key
    · obtain ⟨-, rfl⟩ := h.unique hsd hr hsd hr₁ (hkey.trans hkey₁.symm)
      have hcount := h.counted sd hsd r hr
      rw [if_neg (by rw [harmed]; decide)] at hcount
      rw [hkey] at hcount ⊢
      rw [hdel.sent, hcount]
      simp
    · rw [hdel.sent_other hkey, h.counted sd hsd r hr]
      simp [hkey]
  · intro x hx hne r hr
    refine hdel.sent_other fun hkey => ?_
    exact hne (h.unique hx hr hsd hr₁ (hkey.trans hkey₁.symm)).1
  · intro n hn
    rw [hdel.delivered, List.mem_append, List.mem_singleton] at hn
    obtain hn | rfl := hn
    · exact .inl hn
    · exact .inr (.inr ⟨r₁, hr₁, hkey₁⟩)
  · intro k hk
    rw [hdel.redis] at hk
    split at hk
    · obtain hk | hk := List.mem_cons.mp hk
      · refine .inr ⟨r₁, hr₁, ?_, ?_⟩
        · rw [dedup_key_injective hk]
          exact hkey₁
        · simp [hkey₁]
      · exact .inl hk
    · exact .inl hk

/-- **One request keeps the ledger.** -/
theorem ledger_serve {request : Request} (h : Ledger env keys w)
    (hrule : ∀ call, request = .schedule call → DistinctReminders call.rule)
    (hkeys : ∀ k ∈ keys, ∀ k' ∈ request.key?, k = k' → k ≠ "") :
    Ledger env (keys ++ request.key?.toList) (serve env w request) := by
  have hmore : ∀ k ∈ keys, k ∈ keys ++ request.key?.toList := fun k hk => List.mem_append_left _ hk
  have hsame : request.key? = none → keys ++ request.key?.toList = keys := by
    intro hnone
    rw [hnone]
    exact List.append_nil keys
  cases serve_cases env w request with
  | quiet hstore hdelivered hredis huuids => exact h.quiet hmore hstore hdelivered hredis huuids
  | @filed call sd hnone hfiled hnew =>
    exact h.filed (hrule call rfl) (fun k hk => hkeys k hk _ rfl) hnone hfiled hnew
  | advanced hget hstore hredis huuids hnoticed =>
    rw [hsame rfl]
    exact h.advanced hget hstore hredis huuids hnoticed
  | finished hget hstore hredis huuids hdelivered =>
    rw [hsame rfl]
    exact h.finished hget hstore hredis huuids hdelivered
  | delivered hget hwait hdel =>
    rw [hsame rfl]
    exact h.delivered hget hwait hdel

end steps

theorem served_append (env : Env) (requests more : List Request) :
    served env (requests ++ more) = more.foldl (serve env) (served env requests) := by
  rw [served, List.foldl_append]
  rfl

/-- The histories that the ledger is about. -/
structure Orderly (requests : List Request) : Prop where
  rules : ∀ call, .schedule call ∈ requests → DistinctReminders call.rule
  keys : DistinctKeys requests

theorem Orderly.left {requests more : List Request} (h : Orderly (requests ++ more)) :
    Orderly requests := by
  refine ⟨fun call hcall => h.rules call (List.mem_append_left _ hcall), ?_⟩
  have hkeys := h.keys
  unfold DistinctKeys at hkeys ⊢
  rw [List.filterMap_append, List.pairwise_append] at hkeys
  exact hkeys.1

/-- **A whole history keeps the ledger.** -/
theorem ledger_served {env : Env} {requests : List Request} (h : Orderly requests) :
    Ledger env (requests.filterMap Request.key?) (served env requests) := by
  induction requests using List.reverseRecOn with
  | nil => exact ledger_fresh env
  | append_singleton requests request ih =>
    have hkeys := h.keys
    unfold DistinctKeys at hkeys
    rw [List.filterMap_append, List.pairwise_append] at hkeys
    rw [served_append, List.filterMap_append]
    have hlast : [request].filterMap Request.key? = request.key?.toList := by
      cases hk : request.key? with
      | none => simp [hk]
      | some k => simp [hk]
    rw [hlast] at hkeys ⊢
    refine ledger_serve (ih h.left) ?_ ?_
    · intro call hcall
      exact h.rules call (List.mem_append_right _ (by rw [hcall]; exact List.mem_singleton_self _))
    · intro k hk k' hk'
      exact hkeys.2.2 k hk k' (by simpa using hk')

/-! ## Finished deadlines -/

/-- The deadline has a reminder with this key, and none of its reminders is armed. -/
def Silenced (deadline_id key : String) (w : World) : Prop :=
  ∃ sd, w.store.get deadline_id = some sd ∧ Disarmed sd ∧
    key ∈ sd.reminders.map (·.idempotency_key)

theorem Silenced.ahead {w w' : World} {deadline_id key : String} (h : Silenced deadline_id key w)
    (hahead : ∀ sd, w.store.get deadline_id = some sd →
      ∃ sd', w'.store.get deadline_id = some sd' ∧ Ahead sd sd') : Silenced deadline_id key w' := by
  obtain ⟨sd, hsd, hdis, hkey⟩ := h
  obtain ⟨sd', hsd', ha⟩ := hahead sd hsd
  refine ⟨sd', hsd', hdis.ahead ha, ?_⟩
  rw [onward_keys ha.reminders]
  exact hkey

/-- **One request after the end**: nothing is sent for a reminder of a finished deadline. -/
theorem silenced_serve {env : Env} {keys : List String} {w : World} {deadline_id key : String}
    (request : Request) (h : Ledger env keys w) (hs : Silenced deadline_id key w) :
    Silenced deadline_id key (serve env w request) ∧ (serve env w request).sent key = w.sent key := by
  obtain ⟨sd, hsd, hdis, hmem⟩ := hs
  obtain ⟨r, hr, hrkey⟩ := List.mem_map.mp hmem
  have hstored : Stored w sd := stored_of_get hsd
  have hsame : ∀ w' : World, w'.delivered = w.delivered → w'.sent key = w.sent key := by
    intro w' hdelivered
    unfold World.sent
    rw [hdelivered]
  have hs : Silenced deadline_id key w := ⟨sd, hsd, hdis, hmem⟩
  cases serve_cases env w request with
  | quiet hstore hdelivered _ _ =>
    refine ⟨hs.ahead fun sd hsd => ⟨sd, ?_, Ahead.refl sd⟩, hsame _ hdelivered⟩
    rw [hstore]
    exact hsd
  | @filed call new _ hfiled _ =>
    refine ⟨hs.ahead fun sd hsd => ⟨sd, ?_, Ahead.refl sd⟩, hsame _ hfiled.delivered⟩
    -- the new deadline has another id
    obtain ⟨n, hlow, -, hid⟩ := hfiled.fresh
    obtain ⟨m, hm, hold⟩ := h.drawn sd (stored_of_get hsd)
    rw [w.store.keyed hsd] at hold
    rw [hfiled.store, DeadlineStore.get_save, if_neg ?_]
    · exact hsd
    · intro heq
      rw [hold, hid] at heq
      have := env.uuid_injective heq
      omega
  | @advanced _ _ other hget hstore _ _ hnoticed =>
    refine ⟨hs.ahead ?_, ?_⟩
    · rw [hstore]
      exact save_ahead hget rfl (ahead_advance other)
    · rw [← hrkey, (h.keyed sd hstored).named r hr]
      exact hnoticed.sent _ _
  | @finished _ _ other hget hstore _ _ hdelivered =>
    refine ⟨hs.ahead ?_, hsame _ hdelivered⟩
    rw [hstore]
    exact save_ahead hget rfl (ahead_finish other)
  | @delivered _ key' _ _ other hget hwait hdel =>
    refine ⟨hs.ahead ?_, ?_⟩
    · rw [hdel.store]
      exact save_ahead hget rfl (ahead_fire other key')
    · refine hdel.sent_other fun hkey => ?_
      -- the reminder that is sent is armed, so it is not one of these
      obtain ⟨r₁, hfind, harmed⟩ := ScheduledDeadline.waiting_iff.mp hwait
      obtain ⟨hr₁, hkey₁⟩ := ScheduledDeadline.reminder_mem hfind
      obtain ⟨rfl, rfl⟩ := h.unique hstored hr (stored_of_get hget) hr₁
        (hrkey.trans (hkey.trans hkey₁.symm))
      exact hdis r hr harmed

/-- **The rest of a history after the end.** -/
theorem silenced_served {env : Env} {before after : List Request} {deadline_id key : String}
    (horderly : Orderly (before ++ after)) (h : Silenced deadline_id key (served env before)) :
    (served env (before ++ after)).sent key = (served env before).sent key ∧
      Silenced deadline_id key (served env (before ++ after)) := by
  induction after using List.reverseRecOn with
  | nil =>
    rw [List.append_nil]
    exact ⟨rfl, h⟩
  | append_singleton after request ih =>
    rw [← List.append_assoc] at horderly ⊢
    obtain ⟨hsent, hs⟩ := ih horderly.left
    rw [served_append]
    obtain ⟨hs', hsent'⟩ := silenced_serve request (ledger_served horderly.left) hs
    exact ⟨hsent'.trans hsent, hs'⟩

/-! ## The ledger of a history -/

/-- After `mark_done` the reminders of the deadline are silenced, and it sends nothing itself. -/
theorem silenced_mark_done (env : Env) {w : World} {deadline_id : String} (audited : Bool)
    {sd : ScheduledDeadline} {r : ScheduledReminder} (hsd : w.store.get deadline_id = some sd)
    (hr : r ∈ sd.reminders) :
    Silenced deadline_id r.idempotency_key (serve env w (.mark_done deadline_id audited)) ∧
      (serve env w (.mark_done deadline_id audited)).sent r.idempotency_key =
        w.sent r.idempotency_key := by
  obtain ⟨w', hrun, -, hdelivered, -, ⟨hnone, -⟩ | ⟨sd', hget, hstore⟩⟩ :=
    mark_done_run env deadline_id audited w
  · rw [hsd] at hnone
    cases hnone
  · rw [hsd] at hget
    cases hget
    show Silenced _ _ ((mark_done deadline_id audited).run (exec env) w).2 ∧
      ((mark_done deadline_id audited).run (exec env) w).2.sent _ = _
    rw [hrun]
    refine ⟨⟨sd.finish, ?_, disarmed_finish sd, ?_⟩, ?_⟩
    · rw [hstore]
      exact DeadlineStore.get_save_self hsd rfl
    · rw [onward_keys (ahead_finish sd).reminders]
      exact List.mem_map_of_mem hr
    · unfold World.sent
      rw [hdelivered]

/-- A reminder whose notification failed is armed, and the next try delivers it. -/
theorem Ledger.retry {env : Env} {keys : List String} {w w' : World} (h : Ledger env keys w)
    {deadline_id key : String} {redis audited : Bool} {e : Exn}
    (hrun : (fire_reminder deadline_id key redis audited).run (exec env) w = (.error e, w')) :
    ∃ sd r, w'.store.get deadline_id = some sd ∧ r ∈ sd.reminders ∧ r.idempotency_key = key ∧
      r.status = .armed ∧ ∀ redis' audited', env.fault w'.calls = none →
        ∃ w'', (fire_reminder deadline_id key redis' audited').run (exec env) w' = (.ok true, w'') ∧
          w''.sent key = 1 := by
  obtain ⟨hfalse, -⟩ | ⟨-, sd, hget, hwait, ⟨e', -, -, rfl⟩ | ⟨-, htrue, -⟩⟩ :=
    fire_reminder_cases hrun
  · cases hfalse
  · obtain ⟨r, hfind, harmed⟩ := ScheduledDeadline.waiting_iff.mp hwait
    obtain ⟨hr, rfl⟩ := ScheduledDeadline.reminder_mem hfind
    have hsd : Stored w sd := stored_of_get hget
    have hunfired : r.status ≠ .fired := by
      rw [harmed]
      decide
    have hzero : w.sent r.idempotency_key = 0 := by
      rw [h.counted sd hsd r hr, if_neg hunfired]
    -- a key in Redis belongs to a fired reminder
    have hredis : dedup_key r.idempotency_key ∉ w.redis := by
      intro hmem
      obtain ⟨sd', r', hsd', hr', hkey, hfired⟩ := h.remembered _ hmem
      obtain ⟨-, rfl⟩ := h.unique hsd hr hsd' hr' hkey.symm
      exact hunfired hfired
    refine ⟨sd, r, hget, hr, rfl, harmed, ?_⟩
    intro redis' audited' hfault
    obtain ⟨w'', hrun', hdel⟩ := fire_reminder_sends (w := { w with calls := w.calls + 1 }) audited'
      hget hwait (fun _ => hredis) hfault
    refine ⟨w'', hrun', ?_⟩
    rw [hdel.sent]
    exact congrArg (· + 1) hzero
  · cases htrue

/-- **The ledger of a history.** After any sequence of calls from an empty store: a reminder is marked
    fired if and only if it was delivered once, and otherwise it was not delivered; the next
    `fire_reminder` returns `True` exactly if it delivers; if its notification fails the reminder
    is armed and can be delivered; and from a `mark_done` on, no reminder of the deadline
    was delivered. -/
theorem sequential_delivery_ledger {env : Env} {requests : List Request} (h : Orderly requests) :
    (∀ id sd r, (served env requests).store.get id = some sd → r ∈ sd.reminders →
      (r.status = .fired ↔ (served env requests).sent r.idempotency_key = 1) ∧
        (r.status ≠ .fired → (served env requests).sent r.idempotency_key = 0)) ∧
    (∀ id key redis audited result w',
      (fire_reminder id key redis audited).run (exec env) (served env requests) = (result, w') →
      (result = .ok true ↔ w'.sent key = (served env requests).sent key + 1) ∧
        (result ≠ .ok true → w'.delivered = (served env requests).delivered)) ∧
    (∀ id key redis audited e w',
      (fire_reminder id key redis audited).run (exec env) (served env requests) = (.error e, w') →
      ∃ sd r, w'.store.get id = some sd ∧ r ∈ sd.reminders ∧ r.idempotency_key = key ∧
        r.status = .armed ∧ ∀ redis' audited', env.fault w'.calls = none →
          ∃ w'', (fire_reminder id key redis' audited').run (exec env) w' = (.ok true, w'') ∧
            w''.sent key = 1) ∧
    (∀ before after id audited sd, requests = before ++ .mark_done id audited :: after →
      (served env before).store.get id = some sd → ∀ r ∈ sd.reminders,
        (served env requests).sent r.idempotency_key =
          (served env before).sent r.idempotency_key) := by
  have hledger : Ledger env (requests.filterMap Request.key?) (served env requests) :=
    ledger_served h
  refine ⟨?_, ?_, ?_, ?_⟩
  · intro id sd r hsd hr
    have hcount := hledger.counted sd (stored_of_get hsd) r hr
    by_cases hfired : r.status = .fired
    · rw [if_pos hfired] at hcount
      exact ⟨⟨fun _ => hcount, fun _ => hfired⟩, fun hne => absurd hfired hne⟩
    · rw [if_neg hfired] at hcount
      refine ⟨⟨fun hf => absurd hf hfired, fun hone => ?_⟩, fun _ => hcount⟩
      omega
  · intro id key redis audited result w' hrun
    obtain ⟨rfl, rfl, -⟩ | ⟨-, sd, -, -, ⟨e, -, rfl, rfl⟩ | ⟨-, rfl, hdel⟩⟩ := fire_reminder_cases hrun
    · refine ⟨⟨?_, ?_⟩, fun _ => rfl⟩
      · intro hok
        cases hok
      · intro hsent
        omega
    · refine ⟨⟨?_, ?_⟩, fun _ => rfl⟩
      · intro hok
        cases hok
      · intro hsent
        have hsame : (served env requests).sent key = (served env requests).sent key + 1 := hsent
        omega
    · exact ⟨⟨fun _ => hdel.sent, fun _ => rfl⟩, fun hne => absurd rfl hne⟩
  · intro id key redis audited e w' hrun
    exact hledger.retry hrun
  · rintro before after id audited sd rfl hsd r hr
    have hsplit : before ++ .mark_done id audited :: after =
        (before ++ [.mark_done id audited]) ++ after := by simp
    rw [hsplit] at h ⊢
    have hdone : served env (before ++ [.mark_done id audited]) =
        serve env (served env before) (.mark_done id audited) := served_append env before _
    obtain ⟨hsilenced, hsent⟩ := silenced_mark_done env audited hsd hr
    rw [← hdone] at hsilenced hsent
    rw [(silenced_served h hsilenced).1, hsent]

/-- The first notification fails: it is the third call of a service, after the two jobs. -/
def flaky_env : Env :=
  answer_env fun n => if n = 2 then some (.other "ConnectionError" "Notification delivery failed.")
    else none

/-- The answer is scheduled, its reminder fails once and is then sent; later calls come late. -/
def answer_history : List Request :=
  [.schedule answer_call, .fire_reminder "id-3" "k1:-7:days" true false,
    .fire_reminder "id-3" "k1:-7:days" false false, .escalate "id-3" false,
    .fire_reminder "id-3" "k1:-7:days" true false, .mark_done "id-3" false]

theorem answer_history_orderly : Orderly answer_history := by
  refine ⟨?_, ?_⟩
  · intro call hcall
    simp only [answer_history, List.mem_cons, Request.schedule.injEq, reduceCtorEq, List.not_mem_nil,
      or_false] at hcall
    rw [hcall]
    show ([((-7 : Int), ReminderUnit.days)]).Nodup
    exact List.nodup_singleton _
  · exact List.pairwise_singleton _ _

/-- The ledger at work: one delivery, and a fired reminder. -/
theorem answer_history_ledger : ∃ sd r, (served flaky_env answer_history).store.get "id-3" = some sd ∧
    r ∈ sd.reminders ∧ r.status = .fired ∧
    (served flaky_env answer_history).sent r.idempotency_key = 1 := by
  have hsome : ((served flaky_env answer_history).store.get "id-3").isSome = true := by
    decide +kernel
  obtain ⟨sd, hsd⟩ := Option.isSome_iff_exists.mp hsome
  have hfired : ∀ sd ∈ (served flaky_env answer_history).store.get "id-3",
      ∃ r ∈ sd.reminders, r.status = .fired := by
    decide +kernel
  obtain ⟨r, hr, hstatus⟩ := hfired sd hsd
  have hledger := (sequential_delivery_ledger answer_history_orderly).1 "id-3" sd r hsd hr
  exact ⟨sd, r, hsd, hr, hstatus, hledger.1.mp hstatus⟩

end CaseAutomation.Deadline
