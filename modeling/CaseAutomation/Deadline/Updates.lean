import CaseAutomation.Deadline.Firing
import CaseAutomation.Framework.Issues
import CaseAutomation.Framework.Threads

/-! # Concurrent Updates of One Deadline

    `escalate` reads and saves without an await in between. `fire_reminder` and `mark_done` read
    the whole record, await the notification port or the scheduler, and then save the copy
    that they read: whatever was saved in the meantime is lost.

    A save is *current* when the store still holds the copy. In the runs where every save is
    current (`updates_kept_when_current`), levels only rise and are handed out once, no reminder
    is armed again, and a deadline that was marked done has no armed reminder.
-/

namespace CaseAutomation.Deadline

open Framework Program

/-! ## Jobs -/

/-- A call on the deadline. -/
inductive Job where
  | fire_reminder (reminder_idem_key : String) (redis audited : Bool)
  | escalate (audited : Bool)
  | mark_done (audited : Bool)

/-- What a job returns. -/
inductive Outcome where
  | fired (delivered : Bool)
  | level (new_level : Int)
  | done
  deriving DecidableEq

def Job.program (deadline_id : String) : Job → M Outcome
  | .fire_reminder key redis audited => do
    let delivered ← Deadline.fire_reminder deadline_id key redis audited
    return .fired delivered
  | .escalate audited => do
    let new_level ← Deadline.escalate deadline_id audited
    return .level new_level
  | .mark_done audited => do
    Deadline.mark_done deadline_id audited
    return .done

/-- What is saved back is a change of what is stored. -/
def Current (w : World) : Call → Prop
  | .save_fired sd _ => w.store.get sd.deadline_id = some sd
  | .save_done sd => w.store.get sd.deadline_id = some sd
  | _ => True

/-- The calls of the runs where every save is current. -/
def current (env : Env) (_ : Nat) : Relation Call Call.Resp Exn World :=
  fun c w r w' => exec env c w = (r, w') ∧ Current w c

/-! ## Onward changes -/

/-- A reminder that is not armed is never armed again. -/
def Onward (r r' : ScheduledReminder) : Prop :=
  r'.idempotency_key = r.idempotency_key ∧ (r.status ≠ .armed → r'.status ≠ .armed)

/-- The level did not fall and no reminder was armed again. -/
structure Ahead (sd sd' : ScheduledDeadline) : Prop where
  level : sd.escalation_level ≤ sd'.escalation_level
  reminders : List.Forall₂ Onward sd.reminders sd'.reminders

theorem Ahead.refl (sd : ScheduledDeadline) : Ahead sd sd :=
  ⟨le_refl _, List.forall₂_same.mpr fun _ _ => ⟨rfl, fun h => h⟩⟩

theorem Onward.trans {a b c : ScheduledReminder} (h : Onward a b) (h' : Onward b c) : Onward a c :=
  ⟨h'.1.trans h.1, fun ha => h'.2 (h.2 ha)⟩

theorem onward_trans {as bs cs : List ScheduledReminder} (h : List.Forall₂ Onward as bs)
    (h' : List.Forall₂ Onward bs cs) : List.Forall₂ Onward as cs := by
  induction h generalizing cs with
  | nil => exact h'
  | cons hab _ ih =>
    cases h' with
    | cons hbc hrest => exact .cons (hab.trans hbc) (ih hrest)

theorem Ahead.trans {a b c : ScheduledDeadline} (h : Ahead a b) (h' : Ahead b c) : Ahead a c :=
  ⟨le_trans h.level h'.level, onward_trans h.reminders h'.reminders⟩

/-- The reminders are the same ones. -/
theorem onward_keys {as bs : List ScheduledReminder} (h : List.Forall₂ Onward as bs) :
    bs.map (·.idempotency_key) = as.map (·.idempotency_key) := by
  induction h with
  | nil => rfl
  | cons hab _ ih => rw [List.map_cons, List.map_cons, hab.1, ih]

/-- No reminder of the deadline is armed. -/
def Disarmed (sd : ScheduledDeadline) : Prop := ∀ r ∈ sd.reminders, r.status ≠ .armed

theorem Disarmed.ahead {sd sd' : ScheduledDeadline} (h : Disarmed sd) (ha : Ahead sd sd') :
    Disarmed sd' := by
  intro r' hr'
  obtain ⟨k, hk, rfl⟩ := List.getElem_of_mem hr'
  obtain ⟨hlength, honward⟩ := List.forall₂_iff_get.mp ha.reminders
  have hk₀ : k < sd.reminders.length := by omega
  exact (honward k hk₀ hk).2 (h _ (List.getElem_mem hk₀))

theorem disarmed_finish (sd : ScheduledDeadline) : Disarmed sd.finish := by
  intro r hr
  obtain ⟨r₀, -, rfl⟩ := List.mem_map.mp hr
  split
  · intro h
    cases h
  · next hne => exact hne

/-- A change of each reminder on its own. -/
theorem forall₂_map {f : ScheduledReminder → ScheduledReminder} (hf : ∀ r, Onward r (f r))
    (rs : List ScheduledReminder) : List.Forall₂ Onward rs (rs.map f) := by
  rw [List.forall₂_map_right_iff]
  exact List.forall₂_same.mpr fun r _ => hf r

theorem ahead_fire (sd : ScheduledDeadline) (key : String) : Ahead sd (sd.fire key) := by
  refine ⟨le_refl _, forall₂_map (fun r => ?_) sd.reminders⟩
  split
  · exact ⟨rfl, fun _ h => by cases h⟩
  · exact ⟨rfl, fun h => h⟩

theorem ahead_finish (sd : ScheduledDeadline) : Ahead sd sd.finish := by
  refine ⟨le_refl _, forall₂_map (fun r => ?_) sd.reminders⟩
  split
  · exact ⟨rfl, fun _ h => by cases h⟩
  · exact ⟨rfl, fun h => h⟩

theorem ahead_advance (sd : ScheduledDeadline) : Ahead sd sd.advance :=
  ⟨le_max_left _ _, (Ahead.refl sd).reminders⟩

/-! ## What one call does -/

/-- Level `n` was handed to job `i`. -/
def hand (deadline_id : String) (i : Nat) : (c : Call) → Except Exn c.Resp → List (Nat × Int) →
    List (Nat × Int)
  | .advance id, .ok (some sd), handed =>
    if id = deadline_id then (i, sd.escalation_level + 1) :: handed else handed
  | _, _, handed => handed

/-- The runs where every save is current, with the levels that were handed out. -/
def handing (env : Env) (deadline_id : String) (i : Nat) :
    Relation Call Call.Resp Exn (World × List (Nat × Int)) :=
  fun c s r s' => current env i c s.1 r s'.1 ∧ s'.2 = hand deadline_id i c r s.2

/-- The deadline is stored, and each level was handed out once. -/
structure Levels (deadline_id : String) (s : World × List (Nat × Int)) : Prop where
  stored : ∃ sd, s.1.store.get deadline_id = some sd ∧ ∀ p ∈ s.2, p.2 ≤ sd.escalation_level
  once : (s.2.map Prod.snd).Nodup

/-- The deadline moved on, and no level was taken back. -/
structure Moved (deadline_id : String) (s s' : World × List (Nat × Int)) : Prop where
  ahead : ∀ sd, s.1.store.get deadline_id = some sd →
    ∃ sd', s'.1.store.get deadline_id = some sd' ∧ Ahead sd sd'
  handed : ∀ p ∈ s.2, p ∈ s'.2

section jobs
variable {env : Env} {deadline_id : String}

theorem Moved.refl (s : World × List (Nat × Int)) : Moved deadline_id s s :=
  ⟨fun sd hsd => ⟨sd, hsd, Ahead.refl sd⟩, fun _ hp => hp⟩

theorem Moved.trans {a b c : World × List (Nat × Int)} (h : Moved deadline_id a b)
    (h' : Moved deadline_id b c) : Moved deadline_id a c := by
  refine ⟨?_, fun p hp => h'.handed p (h.handed p hp)⟩
  intro sd hsd
  obtain ⟨sd₁, hsd₁, hahead⟩ := h.ahead sd hsd
  obtain ⟨sd₂, hsd₂, hahead₂⟩ := h'.ahead sd₁ hsd₁
  exact ⟨sd₂, hsd₂, hahead.trans hahead₂⟩

/-- A call that leaves the deadline and the levels alone, or moves the deadline on. -/
theorem Levels.moved {s s' : World × List (Nat × Int)} (h : Levels deadline_id s)
    (hahead : ∀ sd, s.1.store.get deadline_id = some sd →
      ∃ sd', s'.1.store.get deadline_id = some sd' ∧ Ahead sd sd') (hsame : s'.2 = s.2) :
    Levels deadline_id s' ∧ Moved deadline_id s s' := by
  obtain ⟨sd, hsd, hle⟩ := h.stored
  obtain ⟨sd', hsd', ha⟩ := hahead sd hsd
  refine ⟨⟨⟨sd', hsd', ?_⟩, ?_⟩, hahead, ?_⟩
  · intro p hp
    rw [hsame] at hp
    exact le_trans (hle p hp) ha.level
  · rw [hsame]
    exact h.once
  · intro p hp
    rw [hsame]
    exact hp

/-- Saving a change of the stored record moves it on; other deadlines are not touched. -/
theorem save_ahead {store : DeadlineStore} {id : String} {old new : ScheduledDeadline}
    (hold : store.get id = some old) (hid : new.deadline_id = old.deadline_id)
    (hahead : Ahead old new) : ∀ sd, store.get deadline_id = some sd →
      ∃ sd', (store.save new).get deadline_id = some sd' ∧ Ahead sd sd' := by
  intro sd hsd
  rw [DeadlineStore.get_save, hid, store.keyed hold]
  by_cases heq : deadline_id = id
  · subst heq
    rw [if_pos rfl]
    rw [hold] at hsd
    cases hsd
    exact ⟨new, rfl, hahead⟩
  · rw [if_neg heq]
    exact ⟨sd, hsd, Ahead.refl sd⟩

/-- A call that does not create a deadline. -/
def Call.updates : Call → Bool
  | .save _ => false
  | _ => true

/-- **One call**: in a run where every save is current, the deadline moves on. -/
theorem handing_step {i : Nat} {c : Call} {s s' : World × List (Nat × Int)}
    {r : Except Exn c.Resp} (hc : c.updates = true) (hinv : Levels deadline_id s)
    (hstep : handing env deadline_id i c s r s') :
    Levels deadline_id s' ∧ Moved deadline_id s s' := by
  obtain ⟨⟨hexec, hcurrent⟩, hhand⟩ := hstep
  have hstore : s'.1.store = c.on_store s.1.store := by
    have h := exec_store env c s.1
    rwa [hexec] at h
  have hsame : ∀ sd, s.1.store.get deadline_id = some sd →
      ∃ sd', s.1.store.get deadline_id = some sd' ∧ Ahead sd sd' :=
    fun sd hsd => ⟨sd, hsd, Ahead.refl sd⟩
  cases c with
  | save sd => cases hc
  | save_fired sd key =>
    refine hinv.moved ?_ hhand
    rw [hstore]
    exact save_ahead hcurrent rfl (ahead_fire sd key)
  | save_done sd =>
    refine hinv.moved ?_ hhand
    rw [hstore]
    exact save_ahead hcurrent rfl (ahead_finish sd)
  | close id =>
    refine hinv.moved ?_ hhand
    rw [hstore, Call.on_store]
    split
    · exact hsame
    · next sd hget =>
      split
      · exact save_ahead hget rfl (ahead_finish sd)
      · exact hsame
  | advance id =>
    cases hget : s.1.store.get id with
    | none =>
      simp only [exec, hget] at hexec
      obtain ⟨rfl, -⟩ := Prod.mk.inj hexec
      refine hinv.moved ?_ hhand
      rw [hstore, Call.on_store, hget]
      exact hsame
    | some sd =>
      simp only [exec, hget] at hexec
      obtain ⟨rfl, -⟩ := Prod.mk.inj hexec
      have hahead : ∀ sd, s.1.store.get deadline_id = some sd →
          ∃ sd', s'.1.store.get deadline_id = some sd' ∧ Ahead sd sd' := by
        rw [hstore, Call.on_store, hget]
        exact save_ahead hget rfl (ahead_advance sd)
      by_cases hid : id = deadline_id
      · -- the next level is above every level that was handed out
        subst hid
        have hnew : s'.2 = (i, sd.escalation_level + 1) :: s.2 := by
          rw [hhand, hand, if_pos rfl]
        obtain ⟨sd₀, hsd₀, hle⟩ := hinv.stored
        rw [hget] at hsd₀
        cases hsd₀
        have hlevel : sd.advance.escalation_level = sd.escalation_level + 1 := by
          show max sd.escalation_level (sd.escalation_level + 1) = _
          omega
        have hsaved : s'.1.store.get id = some sd.advance := by
          rw [hstore, Call.on_store, hget]
          exact DeadlineStore.get_save_self hget rfl
        refine ⟨⟨⟨sd.advance, hsaved, ?_⟩, ?_⟩, hahead, ?_⟩
        · intro p hp
          rw [hnew] at hp
          rw [hlevel]
          obtain rfl | hp := List.mem_cons.mp hp
          · exact le_refl _
          · have := hle p hp
            omega
        · rw [hnew, List.map_cons, List.nodup_cons]
          refine ⟨?_, hinv.once⟩
          intro hmem
          obtain ⟨p, hp, heq⟩ := List.mem_map.mp hmem
          have := hle p hp
          omega
        · intro p hp
          rw [hnew]
          exact List.mem_cons_of_mem _ hp
      · refine hinv.moved hahead ?_
        rw [hhand, hand, if_neg hid]
  | _ =>
    refine hinv.moved ?_ hhand
    rw [hstore]
    exact hsame

/-! ## What one job does -/

/-- What a job may assume and must keep. -/
def update_contract (env : Env) (deadline_id : String) (i : Nat) :
    Contract Call Call.Resp Exn (World × List (Nat × Int)) :=
  threadContract (handing env deadline_id) (Levels deadline_id) (fun _ => Moved deadline_id)
    (fun _ c _ => c.updates = true) i

/-- What stays true as the deadline moves on stays true along any program. -/
theorem safe_keeps {α : Type} {i : Nat} {A : World × List (Nat × Int) → Prop} {p : M α}
    {s : World × List (Nat × Int)} (hA : ∀ s s', Moved deadline_id s s' → A s → A s')
    (hp : Issues (fun c => c.updates = true) p) (h : A s) :
    Safe (update_contract env deadline_id i) (fun _ s' => A s') p s := by
  refine Safe.of_issues (P := fun c => c.updates = true) (fun s s' => hA s s') ?_ hp h
  intro c s hc hinv hs
  refine ⟨hc, ?_⟩
  intro r s' hstep
  obtain ⟨hinv', hmoved⟩ := handing_step hc hinv hstep
  exact ⟨hinv', fun _ _ => hmoved, hA s s' hmoved hs⟩

/-- One call, with what it did. -/
theorem safe_update {i : Nat} {c : Call} {s : World × List (Nat × Int)} (hc : c.updates = true) :
    Safe (update_contract env deadline_id i)
      (fun r s' => ∃ s, Levels deadline_id s ∧ handing env deadline_id i c s r s') (await c) s := by
  apply Safe.perform
  intro s₁ _ hinv
  refine ⟨hc, ?_⟩
  intro r s₂ hstep
  obtain ⟨hinv', hmoved⟩ := handing_step hc hinv hstep
  exact ⟨hinv', fun _ _ => hmoved, s₁, hinv, hstep⟩

theorem issues_audit (audited : Bool) (action : String) :
    Issues (fun c => c.updates = true) (audit audited action) := by
  cases audited with
  | false => exact Issues.ret
  | true => exact Issues.discard (Issues.attempt (Issues.perform rfl))

theorem issues_fire_reminder (id key : String) (redis audited : Bool) :
    Issues (fun c => c.updates = true) (fire_reminder id key redis audited) := by
  have hremember : Issues (fun c => c.updates = true) (remember_fired redis key) := by
    cases redis with
    | false => exact Issues.ret
    | true => exact Issues.perform rfl
  have halready : Issues (fun c => c.updates = true) (already_fired redis key) := by
    cases redis with
    | false => exact Issues.ret
    | true => exact Issues.perform rfl
  refine Issues.bind halready fun already => ?_
  cases already with
  | true => exact Issues.ret
  | false =>
    refine Issues.bind (Issues.perform rfl) fun found => ?_
    cases found with
    | none => exact Issues.ret
    | some sd =>
      show Issues _ (if sd.waiting key = true then _ else _)
      split
      · refine Issues.bind (Issues.perform rfl) fun _ => Issues.bind (Issues.perform rfl) fun _ => ?_
        exact Issues.bind hremember fun _ =>
          Issues.bind (issues_audit audited "reminder.fired") fun _ => Issues.ret
      · exact Issues.ret

/-- The level that `escalate` returns was handed to it. -/
theorem safe_escalate {i : Nat} {s : World × List (Nat × Int)} (audited : Bool) :
    Safe (update_contract env deadline_id i) (fun r s' => ∀ n, r = .ok n → (i, n) ∈ s'.2)
      (escalate deadline_id audited) s := by
  refine Safe.bind (safe_update rfl) ?_ ?_
  · intro found s₁ hfound
    obtain ⟨s₀, hinv, ⟨hexec, -⟩, hhand⟩ := hfound
    obtain ⟨sd₀, hsd₀, -⟩ := hinv.stored
    simp only [exec, hsd₀] at hexec
    obtain ⟨hsd, -⟩ := Prod.mk.inj hexec
    cases hsd
    have hmine : (i, sd₀.escalation_level + 1) ∈ s₁.2 := by
      rw [hhand, hand, if_pos rfl]
      exact List.mem_cons_self
    have hkeeps : ∀ s s' : World × List (Nat × Int), Moved deadline_id s s' →
        (i, sd₀.escalation_level + 1) ∈ s.2 → (i, sd₀.escalation_level + 1) ∈ s'.2 :=
      fun s s' hmoved hmem => hmoved.handed _ hmem
    refine Safe.bind (safe_keeps hkeeps (Issues.perform rfl) hmine) ?_ (fun _ _ _ n hn => by cases hn)
    intro now s₂ hmine
    refine Safe.bind (safe_keeps hkeeps Issues.ofExcept hmine) ?_ (fun _ _ _ n hn => by cases hn)
    intro _ s₃ hmine
    refine Safe.bind (safe_keeps hkeeps (Issues.perform rfl) hmine) ?_ (fun _ _ _ n hn => by cases hn)
    intro _ s₄ hmine
    refine Safe.bind (safe_keeps hkeeps (issues_audit audited "deadline.escalated") hmine) ?_
      (fun _ _ _ n hn => by cases hn)
    intro _ s₅ hmine n hn
    cases hn
    exact hmine
  · intro e s' _ n hn
    cases hn

/-- The deadline is stored without an armed reminder. -/
def Closed (deadline_id : String) (s : World × List (Nat × Int)) : Prop :=
  ∃ sd, s.1.store.get deadline_id = some sd ∧ Disarmed sd

/-- A deadline without armed reminders stays so. -/
theorem Closed.moved {s s' : World × List (Nat × Int)} (hmoved : Moved deadline_id s s')
    (h : Closed deadline_id s) : Closed deadline_id s' := by
  obtain ⟨sd, hsd, hdis⟩ := h
  obtain ⟨sd', hsd', hahead⟩ := hmoved.ahead sd hsd
  exact ⟨sd', hsd', hdis.ahead hahead⟩

/-- Cancelling never raises. -/
theorem safe_cancel_all {i : Nat} (arm_ids : List String) (s : World × List (Nat × Int)) :
    Safe (update_contract env deadline_id i) (fun r _ => r = .ok ()) (cancel_all arm_ids) s := by
  induction arm_ids generalizing s with
  | nil => exact Safe.ret rfl
  | cons arm_id rest ih =>
    have hattempt : Safe (update_contract env deadline_id i) (fun r _ => ∃ a, r = .ok a)
        (await (.cancel arm_id)).attempt s := Safe.attempt (safe_update rfl) fun r _ _ => ⟨r, rfl⟩
    have hone : Safe (update_contract env deadline_id i) (fun r _ => r = .ok ())
        (await (.cancel arm_id)).attempt.discard s := by
      refine Safe.bind hattempt (fun _ _ _ => Safe.ret rfl) ?_
      intro e _ h
      obtain ⟨a, ha⟩ := h
      cases ha
    refine Safe.bind hone (fun _ s' _ => ih s') ?_
    intro e _ h
    cases h

/-- `mark_done` leaves no reminder armed. -/
theorem safe_mark_done {i : Nat} {s : World × List (Nat × Int)} (audited : Bool) :
    Safe (update_contract env deadline_id i) (fun _ s' => Closed deadline_id s')
      (mark_done deadline_id audited) s := by
  have haudit : ∀ s, Closed deadline_id s → Safe (update_contract env deadline_id i)
      (fun _ s' => Closed deadline_id s') (audit audited "deadline.done") s :=
    fun s hs => safe_keeps (fun _ _ => Closed.moved) (issues_audit audited "deadline.done") hs
  refine Safe.bind (safe_update rfl) ?_ ?_
  · intro found s₁ hfound
    obtain ⟨s₀, hinv, ⟨hexec, -⟩, -⟩ := hfound
    obtain ⟨sd, hsd, -⟩ := hinv.stored
    simp only [exec, hsd] at hexec
    obtain ⟨hfound, hworld⟩ := Prod.mk.inj hexec
    cases hfound
    show Safe _ _ (if sd.arm_ids.isEmpty = true then _ else _) s₁
    cases hnone : sd.arm_ids.isEmpty with
    | true =>
      -- nothing to cancel: read and saved without an await in between
      refine haudit s₁ ⟨sd.finish, ?_, disarmed_finish sd⟩
      rw [hnone, if_pos rfl] at hworld
      rw [← hworld]
      exact DeadlineStore.get_save_self hsd rfl
    | false =>
      refine Safe.bind (safe_cancel_all sd.arm_ids s₁) ?_ ?_
      · intro _ s₂ _
        refine Safe.bind (safe_update rfl) ?_ ?_
        · intro _ s₃ hsaved
          obtain ⟨s₄, -, ⟨hexec, hcurrent⟩, -⟩ := hsaved
          obtain ⟨-, hworld⟩ := Prod.mk.inj hexec
          refine haudit s₃ ⟨sd.finish, ?_, disarmed_finish sd⟩
          rw [← hworld, ← s₀.1.store.keyed hsd]
          exact DeadlineStore.get_save_self hcurrent rfl
        · intro e s₃ hsaved
          obtain ⟨s₄, -, ⟨hexec, -⟩, -⟩ := hsaved
          cases (Prod.mk.inj hexec).1
      · intro e _ h
        cases h
  · intro e s₁ hfound
    obtain ⟨s₀, hinv, ⟨hexec, -⟩, -⟩ := hfound
    obtain ⟨sd, hsd, -⟩ := hinv.stored
    simp only [exec, hsd] at hexec
    cases (Prod.mk.inj hexec).1

/-- What a job has achieved when it ends. -/
def achieved (deadline_id : String) (i : Nat) (job : Job) (r : Except Exn Outcome)
    (s : World × List (Nat × Int)) : Prop :=
  (∀ n, r = .ok (.level n) → (i, n) ∈ s.2) ∧
    ((∃ audited, job = .mark_done audited) → Closed deadline_id s)

theorem achieved_moved {i : Nat} {job : Job} {r : Except Exn Outcome}
    {s s' : World × List (Nat × Int)} (hmoved : Moved deadline_id s s')
    (h : achieved deadline_id i job r s) : achieved deadline_id i job r s' :=
  ⟨fun n hn => hmoved.handed _ (h.1 n hn), fun hdone => (h.2 hdone).moved hmoved⟩

theorem safe_job {i : Nat} {s : World × List (Nat × Int)} (job : Job) :
    Safe (update_contract env deadline_id i) (achieved deadline_id i job)
      (job.program deadline_id) s := by
  cases job with
  | fire_reminder key redis audited =>
    have hfire : Safe (update_contract env deadline_id i) (fun _ _ => True)
        (fire_reminder deadline_id key redis audited) s :=
      safe_keeps (fun _ _ _ h => h) (issues_fire_reminder deadline_id key redis audited) trivial
    refine Safe.bind hfire (fun delivered s' _ => ⟨?_, ?_⟩) (fun e s' _ => ⟨?_, ?_⟩)
    · intro n hn
      cases hn
    · rintro ⟨audited, h⟩
      cases h
    · intro n hn
      cases hn
    · rintro ⟨audited, h⟩
      cases h
  | escalate audited =>
    refine Safe.bind (safe_escalate audited) (fun level s' hlevel => ⟨?_, ?_⟩)
      (fun e s' _ => ⟨?_, ?_⟩)
    · intro n hn
      cases hn
      exact hlevel level rfl
    · rintro ⟨audited, h⟩
      cases h
    · intro n hn
      cases hn
    · rintro ⟨audited, h⟩
      cases h
  | mark_done audited =>
    refine Safe.bind (safe_mark_done audited) (fun _ s' hclosed => ⟨?_, fun _ => hclosed⟩)
      (fun e s' hclosed => ⟨?_, fun _ => hclosed⟩)
    · intro n hn
      cases hn
    · intro n hn
      cases hn

end jobs

/-- **No lost update.** Any number of `fire_reminder`, `escalate` and `mark_done` calls on one stored
    deadline, in any order, where every save is current: the level never falls, no
    reminder is armed again, no level is returned twice, and once a `mark_done` has ended no
    reminder is armed. -/
theorem updates_kept_when_current {env : Env} {deadline_id : String} {jobs : List Job}
    {w₀ w w' : World} {sd₀ : ScheduledDeadline} {ts ts' : List (M Outcome)}
    (hstored : w₀.store.get deadline_id = some sd₀)
    (h : Interleaving (current env) w₀ (jobs.map (Job.program deadline_id)) w ts)
    (h' : Interleaving (current env) w ts w' ts') :
    (∃ sd sd', w.store.get deadline_id = some sd ∧ w'.store.get deadline_id = some sd' ∧
      sd.escalation_level ≤ sd'.escalation_level ∧
      List.Forall₂ (fun r r' : ScheduledReminder => r'.idempotency_key = r.idempotency_key ∧
        (r.status = .fired ∨ r.status = .skipped_past → r'.status ≠ .armed))
        sd.reminders sd'.reminders) ∧
    (∀ (i j : Nat) (n : Int), i ≠ j → ts[i]? = some (.ret (.level n)) →
      ts[j]? ≠ some (.ret (.level n))) ∧
    (∀ (i : Nat) (p : M Outcome) (audited : Bool), jobs[i]? = some (.mark_done audited) →
      ts[i]? = some p → p.ended = true →
      ∀ sd, w.store.get deadline_id = some sd → ∀ r ∈ sd.reminders, r.status ≠ .armed) := by
  obtain ⟨handed, hghost⟩ := h.with_ghost (hand deadline_id) []
  obtain ⟨handed', hghost'⟩ := h'.with_ghost (hand deadline_id) handed
  have hinit : Levels deadline_id (w₀, []) := by
    refine ⟨⟨sd₀, hstored, ?_⟩, List.nodup_nil⟩
    intro p hp
    cases hp
  have hstart : ∀ i p, (jobs.map (Job.program deadline_id))[i]? = some p →
      Safe (threadContract (handing env deadline_id) (Levels deadline_id)
        (fun _ => Moved deadline_id) (fun _ c _ => c.updates = true) i)
        (fun r s => ∀ job, jobs[i]? = some job → achieved deadline_id i job r s) p (w₀, []) := by
    intro i p hp
    rw [List.getElem?_map, Option.map_eq_some_iff] at hp
    obtain ⟨job, hjob, rfl⟩ := hp
    refine Safe.weaken (safe_job job) fun r s hdone job' hjob' => ?_
    rw [hjob] at hjob'
    cases hjob'
    exact hdone
  have hstable : ∀ (i : Nat) (r : Except Exn Outcome) (s s' : World × List (Nat × Int)),
      Moved deadline_id s s' → (∀ job, jobs[i]? = some job → achieved deadline_id i job r s) →
      ∀ job, jobs[i]? = some job → achieved deadline_id i job r s' :=
    fun i r s s' hmoved hdone job hjob => achieved_moved hmoved (hdone job hjob)
  obtain ⟨hinv, hsafe⟩ := Interleaving.safe (fun _ => Moved.refl) (fun _ => Moved.trans)
    hstable hinit hstart hghost
  have hmoved : Moved deadline_id (w, handed) (w', handed') :=
    Interleaving.related Moved.refl Moved.trans
      (fun i c s r s' hs hc hstep => (handing_step hc hs hstep).2)
      (fun _ => Moved.refl) (fun _ => Moved.trans) hstable hinv hsafe hghost'
  have hlength : ts.length = jobs.length := by rw [h.length_eq, List.length_map]
  have hjob : ∀ (i : Nat) (p : M Outcome), ts[i]? = some p → ∃ job, jobs[i]? = some job := by
    intro i p hp
    have hi : i < ts.length := (List.getElem?_eq_some_iff.mp hp).1
    exact ⟨jobs[i], List.getElem?_eq_getElem (hlength ▸ hi)⟩
  have hlevel : ∀ (i : Nat) (n : Int), ts[i]? = some (.ret (.level n)) → (i, n) ∈ handed := by
    intro i n hi
    obtain ⟨job, hj⟩ := hjob i _ hi
    exact (hsafe i _ hi job hj).1 n rfl
  refine ⟨?_, ?_, ?_⟩
  · obtain ⟨sd, hsd, -⟩ := hinv.stored
    obtain ⟨sd', hsd', hahead⟩ := hmoved.ahead sd hsd
    refine ⟨sd, sd', hsd, hsd', hahead.level, hahead.reminders.imp ?_⟩
    intro r r' honward
    refine ⟨honward.1, fun hstatus => honward.2 ?_⟩
    obtain hr | hr := hstatus
    · rw [hr]
      decide
    · rw [hr]
      decide
  · intro i j n hij hi hj
    have hsame := List.inj_on_of_nodup_map hinv.once (hlevel i n hi) (hlevel j n hj) rfl
    exact hij (Prod.mk.inj hsame).1
  · intro i p audited hdone hp hended sd hsd
    have hclosed : Closed deadline_id (w, handed) := by
      have hi := hsafe i p hp
      cases p with
      | ret a => exact (hi _ hdone).2 ⟨audited, rfl⟩
      | raise e => exact (hi _ hdone).2 ⟨audited, rfl⟩
      | call c k => cases hended
    obtain ⟨sd', hsd', hdis⟩ := hclosed
    rw [hsd] at hsd'
    cases hsd'
    exact hdis

/-! ## A stale copy -/

section stale

/-- The answer with a second reminder on the last day. -/
def two_reminders : ScheduleCall :=
  { answer_call with
    rule := { answer_rule with reminders := [⟨-7, .days, none⟩, ⟨-1, .days, none⟩] } }

def two_reminders_world : World :=
  ((tool_deadline_schedule two_reminders).run (exec calm_env) .fresh).2

def stale_jobs : List Job :=
  [.fire_reminder "k1:-7:days" false false, .escalate false, .mark_done false, .escalate false]

/-- The jobs of the schedule take their turns. -/
def turns (schedule : List Nat) (s : World × List (M Outcome)) :
    Option (World × List (M Outcome)) :=
  play (fun _ c w => some (exec calm_env c w)) schedule s.1 s.2

theorem turns_interleave {schedule : List Nat} {s s' : World × List (M Outcome)}
    (h : turns schedule s = some s') :
    Interleaving (fun _ => Service.rel (exec calm_env)) s.1 s.2 s'.1 s'.2 :=
  Interleaving.of_play_exec h

/-- The firing job reads the deadline; then it is escalated and marked done. -/
def before_save : Option (World × List (M Outcome)) :=
  turns [0, 1, 1, 1, 2, 2, 2, 2, 2, 2]
    (two_reminders_world, stale_jobs.map (Job.program "id-6"))

/-- The firing job sends, and saves its copy. -/
def after_save : Option (World × List (M Outcome)) := before_save.bind (turns [0, 0])

/-- The deadline is escalated again. -/
def next_escalation : Option (World × List (M Outcome)) := after_save.bind (turns [3, 3, 3])

/-- What the job has returned, if it has. -/
def returned : M Outcome → Option Outcome
  | .ret a => some a
  | _ => none

theorem of_returned {p : M Outcome} {a : Outcome} (h : returned p = some a) : p = .ret a := by
  cases p with
  | ret b => rw [show b = a from Option.some.inj h]
  | raise e => cases h
  | call c k => cases h

/-- The level and the states of the reminders. -/
def record (w : World) : Option (Int × List ReminderStatus) :=
  (w.store.get "id-6").map fun sd => (sd.escalation_level, sd.reminders.map (·.status))

/-- The job with this number has returned this. -/
def has_returned (ts : List (M Outcome)) (i : Nat) (a : Outcome) : Bool :=
  decide (ts[i]?.bind returned = some a)

theorem of_has_returned {ts : List (M Outcome)} {i : Nat} {a : Outcome}
    (h : has_returned ts i a = true) : ts[i]? = some (.ret a) := by
  obtain ⟨p, hp, hret⟩ := Option.bind_eq_some_iff.mp (of_decide_eq_true h)
  rw [hp, of_returned hret]

/-- **A stale copy undoes the others.** After the escalation to level 1 and `mark_done`, the firing
    job saves what it had read: the level falls to 0, the other reminder is armed again
    although the deadline is done, and the next escalation returns level 1 once more. -/
theorem stale_save_undoes :
    two_reminders_world.store.get "id-6" ≠ none ∧
    ∃ w ts w₁ ts₁ w₂ ts₂, Interleaving (fun _ => Service.rel (exec calm_env)) two_reminders_world
        (stale_jobs.map (Job.program "id-6")) w ts ∧
      Interleaving (fun _ => Service.rel (exec calm_env)) w ts w₁ ts₁ ∧
      Interleaving (fun _ => Service.rel (exec calm_env)) w₁ ts₁ w₂ ts₂ ∧
      record w = some (1, [.skipped_past, .skipped_past]) ∧
      record w₁ = some (0, [.fired, .armed]) ∧
      ts₁[2]? = some (.ret .done) ∧
      ts₂[1]? = some (.ret (.level 1)) ∧ ts₂[3]? = some (.ret (.level 1)) := by
  refine ⟨by decide +kernel, ?_⟩
  have hplayed : next_escalation.isSome = true := by decide +kernel
  obtain ⟨⟨w₂, ts₂⟩, hend⟩ := Option.isSome_iff_exists.mp hplayed
  obtain ⟨⟨w₁, ts₁⟩, hsaved, hlast⟩ := Option.bind_eq_some_iff.mp hend
  obtain ⟨⟨w, ts⟩, hread, hsave⟩ := Option.bind_eq_some_iff.mp hsaved
  have hbefore : ∀ s ∈ before_save, record s.1 = some (1, [.skipped_past, .skipped_past]) := by
    decide +kernel
  have hafter : ∀ s ∈ after_save, record s.1 = some (0, [.fired, .armed]) ∧
      has_returned s.2 2 .done = true := by
    decide +kernel
  have hagain : ∀ s ∈ next_escalation, has_returned s.2 1 (.level 1) = true ∧
      has_returned s.2 3 (.level 1) = true := by
    decide +kernel
  exact ⟨w, ts, w₁, ts₁, w₂, ts₂, turns_interleave hread, turns_interleave hsave,
    turns_interleave hlast, hbefore _ hread, (hafter _ hsaved).1,
    of_has_returned (hafter _ hsaved).2, of_has_returned (hagain _ hend).1,
    of_has_returned (hagain _ hend).2⟩

instance (w : World) (c : Call) : Decidable (Current w c) :=
  match c with
  | .save_fired sd _ => inferInstanceAs (Decidable (w.store.get sd.deadline_id = some sd))
  | .save_done sd => inferInstanceAs (Decidable (w.store.get sd.deadline_id = some sd))
  | .now | .uuid4 | .redis_get _ | .redis_set _ | .notify _ | .arm _ _ _ | .cancel _ | .audit _
  | .get _ | .get_by_idem _ | .save _ | .advance _ | .close _ => isTrue trivial

/-- The same jobs one after the other. -/
def one_by_one : Option (World × List (M Outcome)) :=
  play (fun _ c w => if Current w c then some (exec calm_env c w) else none)
    [0, 0, 0, 1, 1, 1, 2, 2, 2, 2, 3, 3, 3] two_reminders_world
    (stale_jobs.map (Job.program "id-6"))

/-- One job after the other: the deadline is done at level 2, with one reminder fired. -/
theorem one_by_one_kept : ∃ (w : World) (sd : ScheduledDeadline),
    record w = some (2, [.fired, .skipped_past]) ∧ w.store.get "id-6" = some sd ∧
      ∀ r ∈ sd.reminders, r.status ≠ .armed := by
  have hplayed : one_by_one.isSome = true := by decide +kernel
  obtain ⟨⟨w, ts⟩, hend⟩ := Option.isSome_iff_exists.mp hplayed
  have hrecord : ∀ s ∈ one_by_one, record s.1 = some (2, [.fired, .skipped_past]) ∧
      has_returned s.2 2 .done = true := by
    decide +kernel
  have hreach : Interleaving (current calm_env) two_reminders_world
      (stale_jobs.map (Job.program "id-6")) w ts := by
    apply Interleaving.of_play _ hend
    intro i c w r w' hexec
    split at hexec
    · next hcurrent => exact ⟨Option.some.inj hexec, hcurrent⟩
    · cases hexec
  have hsome : (two_reminders_world.store.get "id-6").isSome = true := by decide +kernel
  obtain ⟨sd₀, hsd₀⟩ := Option.isSome_iff_exists.mp hsome
  obtain ⟨⟨sd, -, hsd, -⟩, -, hdone⟩ := updates_kept_when_current hsd₀ hreach (.here w ts)
  refine ⟨w, sd, (hrecord _ hend).1, hsd, ?_⟩
  exact hdone 2 _ false rfl (of_has_returned (hrecord _ hend).2) rfl sd hsd

end stale

end CaseAutomation.Deadline
