import CaseAutomation.Deadline.Firing
import CaseAutomation.Framework.Threads

/-! # Redundant Firing Jobs

    Every reminder is armed on two paths, so two jobs for one reminder at one time are the
    normal case. `fire_reminder` looks at the Redis key and at the stored status, then awaits the
    notification, and only then saves the new status and sets the key: two jobs that have
    both looked send twice.

    A job is *inside* from the moment it finds the reminder armed until it has saved the
    status or failed to notify. Where no job finds the reminder armed while another one is
    inside, the reminder is delivered at most once (`delivered_once_when_alone`).
-/

namespace CaseAutomation.Deadline

open Framework Program

/-- The answer tells the job that the reminder is armed. -/
def found_armed (key : String) : (c : Call) → Except Exn c.Resp → Bool
  | .get _, .ok (some sd) => sd.waiting key
  | _, _ => false

/-- The job has saved the status, or failed to notify. -/
def finished : (c : Call) → Except Exn c.Resp → Bool
  | .notify _, .error _ => true
  | .save_fired _ _, _ => true
  | _, _ => false

/-- The jobs inside, after a call of job `i`. -/
def note (key : String) (i : Nat) (c : Call) (r : Except Exn c.Resp) (inside : List Nat) :
    List Nat :=
  if found_armed key c r then i :: inside
  else if finished c r then inside.erase i
  else inside

/-- The calls of job `i`, in the runs where a job finds the reminder armed only when no job
    is inside. -/
def alone (env : Env) (key : String) (i : Nat) : Relation Call Call.Resp Exn (World × List Nat) :=
  fun c s r s' => exec env c s.1 = (r, s'.1) ∧ s'.2 = note key i c r s.2 ∧
    (found_armed key c r = true → s.2 = [])

/-! ## The invariant -/

section jobs
variable {env : Env} {deadline_id key : String} {before : Nat}

/-- The reminder is not armed. -/
def Settled (deadline_id key : String) (w : World) : Prop :=
  ∀ sd, w.store.get deadline_id = some sd → sd.waiting key = false

/-- At most one job is inside, and once the reminder was sent nobody can enter. -/
structure AtMostOnce (deadline_id key : String) (before : Nat) (s : World × List Nat) : Prop where
  one : s.2.length ≤ 1
  bound : s.1.sent key ≤ before + 1
  quiet : s.2 = [] → s.1.sent key = before ∨ Settled deadline_id key s.1

/-- Nobody else enters or leaves for job `i`, and while it is inside nobody else sends or saves. -/
def Undisturbed (key : String) (i : Nat) (s s' : World × List Nat) : Prop :=
  (i ∈ s'.2 ↔ i ∈ s.2) ∧ (i ∈ s.2 → s'.1.store = s.1.store ∧ s'.1.sent key = s.1.sent key)

theorem Undisturbed.refl (key : String) (i : Nat) (s : World × List Nat) : Undisturbed key i s s :=
  ⟨Iff.rfl, fun _ => ⟨rfl, rfl⟩⟩

theorem Undisturbed.trans {i : Nat} {a b c : World × List Nat} (h : Undisturbed key i a b)
    (h' : Undisturbed key i b c) : Undisturbed key i a c := by
  refine ⟨h'.1.trans h.1, ?_⟩
  intro hi
  obtain ⟨hstore, hsent⟩ := h.2 hi
  obtain ⟨hstore', hsent'⟩ := h'.2 (h.1.mpr hi)
  exact ⟨hstore'.trans hstore, hsent'.trans hsent⟩

/-- What a job may assume and must keep. -/
def job_contract (env : Env) (deadline_id key : String) (before i : Nat) :
    Contract Call Call.Resp Exn (World × List Nat) :=
  threadContract (alone env key) (AtMostOnce deadline_id key before) (Undisturbed key)
    (fun _ _ _ => True) i

/-- A call that leaves the store, what was sent and the jobs inside as they are. -/
theorem AtMostOnce.same {s s' : World × List Nat} (h : AtMostOnce deadline_id key before s)
    (hstore : s'.1.store = s.1.store) (hsent : s'.1.sent key = s.1.sent key) (hin : s'.2 = s.2) :
    AtMostOnce deadline_id key before s' := by
  refine ⟨?_, ?_, ?_⟩
  · rw [hin]
    exact h.one
  · rw [hsent]
    exact h.bound
  · intro hnone
    rw [hin] at hnone
    rw [hsent]
    obtain hfirst | hsettled := h.quiet hnone
    · exact .inl hfirst
    · refine .inr fun sd hsd => ?_
      rw [hstore] at hsd
      exact hsettled sd hsd

theorem Undisturbed.same {j : Nat} {s s' : World × List Nat} (hstore : s'.1.store = s.1.store)
    (hsent : s'.1.sent key = s.1.sent key) (hin : s'.2 = s.2) : Undisturbed key j s s' := by
  refine ⟨?_, fun _ => ⟨hstore, hsent⟩⟩
  rw [hin]

/-- Redis and the audit service neither send nor save. -/
theorem safe_idle {c : Call} {i : Nat} {s : World × List Nat}
    (hidle : ∀ w, (exec env c w).2.store = w.store ∧ (exec env c w).2.delivered = w.delivered)
    (hcall : ∀ r, found_armed key c r = false ∧ finished c r = false) (hout : i ∉ s.2) :
    Safe (job_contract env deadline_id key before i) (fun _ s' => i ∉ s'.2) (await c) s := by
  apply Safe.perform
  intro s₁ hrely hinv
  refine ⟨trivial, ?_⟩
  intro r s₂ hstep
  obtain ⟨hexec, hnote, -⟩ := hstep
  have hin : s₂.2 = s₁.2 := by
    rw [hnote, note, (hcall r).1, (hcall r).2]
    rfl
  have hstore : s₂.1.store = s₁.1.store := by
    have h := (hidle s₁.1).1
    rwa [hexec] at h
  have hsent : s₂.1.sent key = s₁.1.sent key := by
    have h := (hidle s₁.1).2
    rw [hexec] at h
    exact congrArg (List.countP _) h
  refine ⟨hinv.same hstore hsent hin, fun j _ => .same hstore hsent hin, ?_⟩
  rw [hin]
  exact mt hrely.1.mp hout

theorem safe_already_fired {i : Nat} {s : World × List Nat} (redis : Bool) (hout : i ∉ s.2) :
    Safe (job_contract env deadline_id key before i) (fun _ s' => i ∉ s'.2)
      (already_fired redis key) s := by
  cases redis with
  | false => exact Safe.ret hout
  | true =>
    refine safe_idle (fun w => ⟨rfl, rfl⟩) (fun r => ?_) hout
    exact ⟨rfl, rfl⟩

theorem safe_remember_fired {i : Nat} {s : World × List Nat} (redis : Bool) (hout : i ∉ s.2) :
    Safe (job_contract env deadline_id key before i) (fun _ s' => i ∉ s'.2)
      (remember_fired redis key) s := by
  cases redis with
  | false => exact Safe.ret hout
  | true =>
    refine safe_idle (fun w => ⟨rfl, rfl⟩) (fun r => ?_) hout
    exact ⟨rfl, rfl⟩

theorem audit_idle (action : String) (w : World) :
    (exec env (.audit action) w).2.store = w.store ∧
      (exec env (.audit action) w).2.delivered = w.delivered := by
  show (w.outside env (.ok (), w)).2.store = _ ∧ (w.outside env (.ok (), w)).2.delivered = _
  unfold World.outside
  split
  · exact ⟨rfl, rfl⟩
  · exact ⟨rfl, rfl⟩

theorem safe_audit {i : Nat} {s : World × List Nat} (audited : Bool) (action : String)
    (hout : i ∉ s.2) :
    Safe (job_contract env deadline_id key before i) (fun _ s' => i ∉ s'.2)
      (audit audited action) s := by
  cases audited with
  | false => exact Safe.ret hout
  | true =>
    have hcall : Safe (job_contract env deadline_id key before i) (fun _ s' => i ∉ s'.2)
        (await (.audit action)) s := by
      refine safe_idle (audit_idle action) (fun r => ?_) hout
      cases r with
      | ok _ => exact ⟨rfl, rfl⟩
      | error _ => exact ⟨rfl, rfl⟩
    have hattempt : Safe (job_contract env deadline_id key before i) (fun _ s' => i ∉ s'.2)
        (await (.audit action)).attempt s := Safe.attempt hcall fun _ _ h => h
    exact Safe.bind hattempt (fun _ _ h => Safe.ret h) (fun _ _ h => h)

/-! ## Inside -/

/-- Job `i` is inside with the copy `sd`, and `sent` notifications have gone out. -/
structure Inside (deadline_id key : String) (sent i : Nat) (sd : ScheduledDeadline)
    (s : World × List Nat) : Prop where
  inside : i ∈ s.2
  copy : s.1.store.get deadline_id = some sd
  count : s.1.sent key = sent

/-- What a job inside knows stays true. -/
theorem Inside.stable {sent i : Nat} {sd : ScheduledDeadline} {s s' : World × List Nat}
    (h : Inside deadline_id key sent i sd s) (hrely : Undisturbed key i s s') :
    Inside deadline_id key sent i sd s' := by
  obtain ⟨hstore, hsent⟩ := hrely.2 h.inside
  refine ⟨hrely.1.mpr h.inside, ?_, hsent.trans h.count⟩
  rw [hstore]
  exact h.copy

/-- A job inside is the only one. -/
theorem AtMostOnce.only {s : World × List Nat} {i : Nat}
    (h : AtMostOnce deadline_id key before s) (hi : i ∈ s.2) : s.2 = [i] := by
  have hone := h.one
  match hs : s.2 with
  | [] =>
    rw [hs] at hi
    cases hi
  | [j] =>
    rw [hs, List.mem_singleton] at hi
    rw [hi]
  | j :: k :: rest =>
    rw [hs] at hone
    simp at hone

/-- Finding the reminder armed puts the job inside; it was not sent before. -/
theorem safe_read {i : Nat} {s : World × List Nat} (hout : i ∉ s.2) :
    Safe (job_contract env deadline_id key before i)
      (fun r s' => (∀ sd, r = .ok (some sd) → sd.waiting key = true →
          Inside deadline_id key before i sd s') ∧
        ((∀ sd, r = .ok (some sd) → sd.waiting key = false) → i ∉ s'.2))
      (await (.get deadline_id)) s := by
  apply Safe.perform
  intro s₁ hrely hinv
  refine ⟨trivial, ?_⟩
  intro r s₂ hstep
  obtain ⟨hexec, hnote, halone⟩ := hstep
  obtain ⟨rfl, hworld⟩ := Prod.mk.inj hexec
  have hout₁ : i ∉ s₁.2 := mt hrely.1.mp hout
  cases hfound : found_armed key (.get deadline_id) (.ok (s₁.1.store.get deadline_id)) with
  | false =>
    have hin : s₂.2 = s₁.2 := by
      rw [hnote, note, hfound]
      rfl
    have hstore : s₂.1.store = s₁.1.store := by rw [← hworld]
    have hsent : s₂.1.sent key = s₁.1.sent key := by rw [← hworld]
    refine ⟨hinv.same hstore hsent hin, fun j _ => .same hstore hsent hin, ?_, ?_⟩
    · intro sd hsd hwait
      rw [Except.ok.inj hsd] at hfound
      rw [found_armed, hwait] at hfound
      cases hfound
    · intro _
      rw [hin]
      exact hout₁
  | true =>
    -- nobody else is inside, so either nothing was sent or the reminder is not armed any more
    have hnone : s₁.2 = [] := halone hfound
    have hin : s₂.2 = [i] := by
      rw [hnote, note, hfound, hnone]
      rfl
    cases hget : s₁.1.store.get deadline_id with
    | none =>
      rw [hget] at hfound
      cases hfound
    | some sd =>
      rw [hget] at hfound
      have hwait : sd.waiting key = true := hfound
      have hfirst : s₁.1.sent key = before := by
        obtain hfirst | hsettled := hinv.quiet hnone
        · exact hfirst
        · rw [hsettled sd hget] at hwait
          cases hwait
      have hinside : Inside deadline_id key before i sd s₂ := by
        refine ⟨by rw [hin]; exact List.mem_singleton_self i, ?_, ?_⟩
        · rw [← hworld]
          exact hget
        · rw [← hworld]
          exact hfirst
      refine ⟨⟨?_, ?_, ?_⟩, ?_, ?_, ?_⟩
      · rw [hin]
        exact le_refl 1
      · rw [hinside.count]
        exact Nat.le_succ before
      · intro h
        rw [hin] at h
        cases h
      · intro j hj
        refine ⟨?_, ?_⟩
        · rw [hin, hnone, List.mem_singleton]
          exact ⟨fun h => absurd h hj, fun h => by cases h⟩
        · intro h
          rw [hnone] at h
          cases h
      · intro sd' hsd' _
        cases hsd'
        exact hinside
      · intro h
        rw [h sd rfl] at hwait
        cases hwait

/-- Nobody else was inside, and nobody else is. -/
theorem Undisturbed.others {i j : Nat} {s s' : World × List Nat} (hj : j ≠ i) (hs : s.2 = [i])
    (hs' : j ∉ s'.2) : Undisturbed key j s s' := by
  have hout : j ∉ s.2 := by
    rw [hs, List.mem_singleton]
    exact hj
  exact ⟨⟨fun h => absurd h hs', fun h => absurd h hout⟩, fun h => absurd h hout⟩

/-- The job inside sends, or fails and leaves. -/
theorem safe_notify {i : Nat} {sd : ScheduledDeadline} {s : World × List Nat}
    (h : Inside deadline_id key before i sd s) :
    Safe (job_contract env deadline_id key before i)
      (fun r s' => (∀ a, r = .ok a → Inside deadline_id key (before + 1) i sd s') ∧
        (∀ e, r = .error e → i ∉ s'.2))
      (await (.notify (reminder_notice deadline_id key sd))) s := by
  apply Safe.perform
  intro s₁ hrely hinv
  refine ⟨trivial, ?_⟩
  intro r s₂ hstep
  obtain ⟨hexec, hnote, -⟩ := hstep
  have hin := h.stable hrely
  have honly := hinv.only hin.inside
  obtain ⟨e, -, hsend⟩ | ⟨-, hsend⟩ :=
    notify_cases env (reminder_notice deadline_id key sd) s₁.1
  · rw [hsend] at hexec
    obtain ⟨rfl, hworld⟩ := Prod.mk.inj hexec
    have hnone : s₂.2 = [] := by
      rw [hnote, honly]
      simp [note, found_armed, finished]
    have hcount : s₂.1.sent key = before := by
      rw [← hworld]
      exact hin.count
    refine ⟨⟨?_, ?_, fun _ => .inl hcount⟩, ?_, ?_, ?_⟩
    · rw [hnone]
      exact Nat.zero_le 1
    · rw [hcount]
      exact Nat.le_succ before
    · intro j hj
      refine .others hj honly ?_
      rw [hnone]
      exact List.not_mem_nil
    · intro a ha
      cases ha
    · intro _ _
      rw [hnone]
      exact List.not_mem_nil
  · rw [hsend] at hexec
    obtain ⟨rfl, hworld⟩ := Prod.mk.inj hexec
    have hsame : s₂.2 = [i] := by
      rw [hnote, honly]
      simp [note, found_armed, finished]
    have hcount : s₂.1.sent key = before + 1 := by
      rw [← hworld, ← hin.count]
      simp [World.sent, reminder_notice]
    refine ⟨⟨?_, ?_, ?_⟩, ?_, ?_, ?_⟩
    · rw [hsame]
      exact le_refl 1
    · rw [hcount]
    · intro hnone
      rw [hsame] at hnone
      cases hnone
    · intro j hj
      refine .others hj honly ?_
      rw [hsame, List.mem_singleton]
      exact hj
    · intro _ _
      refine ⟨?_, ?_, hcount⟩
      · rw [hsame]
        exact List.mem_singleton_self i
      · rw [← hworld]
        exact hin.copy
    · intro e he
      cases he

/-- The job inside marks the reminder fired and leaves; nobody can enter after that. -/
theorem safe_save_fired {i : Nat} {sd : ScheduledDeadline} {s : World × List Nat}
    (h : Inside deadline_id key (before + 1) i sd s) :
    Safe (job_contract env deadline_id key before i) (fun _ s' => i ∉ s'.2)
      (await (.save_fired sd key)) s := by
  apply Safe.perform
  intro s₁ hrely hinv
  refine ⟨trivial, ?_⟩
  intro r s₂ hstep
  obtain ⟨hexec, hnote, -⟩ := hstep
  have hin := h.stable hrely
  have honly := hinv.only hin.inside
  obtain ⟨rfl, hworld⟩ := Prod.mk.inj hexec
  have hnone : s₂.2 = [] := by
    rw [hnote, honly]
    simp [note, found_armed, finished]
  have hcount : s₂.1.sent key = before + 1 := by
    rw [← hworld]
    exact hin.count
  refine ⟨⟨?_, ?_, ?_⟩, ?_, ?_⟩
  · rw [hnone]
    exact Nat.zero_le 1
  · rw [hcount]
  · intro _
    refine .inr fun sd' hsd' => ?_
    rw [← hworld] at hsd'
    have hsaved : (s₁.1.store.save (sd.fire key)).get deadline_id = some (sd.fire key) :=
      DeadlineStore.get_save_self hin.copy rfl
    rw [show sd' = sd.fire key from Option.some.inj (hsd'.symm.trans hsaved)]
    exact sd.fire_not_waiting key
  · intro j hj
    refine .others hj honly ?_
    rw [hnone]
    exact List.not_mem_nil
  · rw [hnone]
    exact List.not_mem_nil

theorem safe_deliver {i : Nat} {sd : ScheduledDeadline} {s : World × List Nat}
    (redis audited : Bool) (h : Inside deadline_id key before i sd s) :
    Safe (job_contract env deadline_id key before i) (fun _ s' => i ∉ s'.2)
      (deliver deadline_id key redis audited sd) s := by
  refine Safe.bind (safe_notify h) ?_ fun e s' herr => herr.2 e rfl
  intro _ s₁ hsent
  refine Safe.bind (safe_save_fired (hsent.1 _ rfl)) ?_ fun _ _ hout => hout
  intro _ s₂ hout
  refine Safe.bind (safe_remember_fired redis hout) ?_ fun _ _ hout => hout
  intro _ s₃ hout
  refine Safe.bind (safe_audit audited "reminder.fired" hout) ?_ fun _ _ hout => hout
  intro _ s₄ hout
  exact Safe.ret hout

/-- One job, whatever the others do. -/
theorem safe_fire_reminder {i : Nat} {s : World × List Nat} (redis audited : Bool)
    (hout : i ∉ s.2) :
    Safe (job_contract env deadline_id key before i) (fun _ s' => i ∉ s'.2)
      (fire_reminder deadline_id key redis audited) s := by
  refine Safe.bind (safe_already_fired redis hout) ?_ fun _ _ hout => hout
  intro already s₁ hout
  cases already with
  | true => exact Safe.ret hout
  | false =>
    refine Safe.bind (safe_read hout) ?_ ?_
    · intro answer s₂ hread
      cases answer with
      | none => exact Safe.ret (hread.2 fun sd hsd => by cases hsd)
      | some sd =>
        show Safe _ _ (if sd.waiting key = true then _ else _) s₂
        cases hwait : sd.waiting key with
        | true => exact safe_deliver redis audited (hread.1 sd rfl hwait)
        | false =>
          refine Safe.ret (hread.2 fun sd' hsd' => ?_)
          cases hsd'
          exact hwait
    · intro e s₂ hread
      exact hread.2 fun sd hsd => by cases hsd

end jobs

/-- **At most one delivery.** Any number of jobs for one reminder, with or without Redis, in any
    order: where a job finds the reminder armed only while no other job is inside, at
    most one notification with its key is sent. -/
theorem delivered_once_when_alone {env : Env} {deadline_id key : String}
    {jobs : List (Bool × Bool)} {w₀ w : World} {inside : List Nat} {ts : List (M Bool)}
    (h : Interleaving (alone env key) (w₀, [])
      (jobs.map fun job => fire_reminder deadline_id key job.1 job.2) (w, inside) ts) :
    w.sent key ≤ w₀.sent key + 1 := by
  have hinit : AtMostOnce deadline_id key (w₀.sent key) (w₀, []) :=
    ⟨Nat.zero_le 1, Nat.le_succ _, fun _ => .inl rfl⟩
  have hstart : ∀ i p, (jobs.map fun job => fire_reminder deadline_id key job.1 job.2)[i]? = some p →
      Safe (threadContract (alone env key) (AtMostOnce deadline_id key (w₀.sent key))
        (Undisturbed key) (fun _ _ _ => True) i) (fun _ _ => True) p (w₀, []) := by
    intro i p hp
    rw [List.getElem?_map, Option.map_eq_some_iff] at hp
    obtain ⟨job, -, rfl⟩ := hp
    exact Safe.weaken (safe_fire_reminder job.1 job.2 List.not_mem_nil) fun _ _ _ => trivial
  exact (Interleaving.safe (Undisturbed.refl key) (fun _ => Undisturbed.trans)
    (fun _ _ _ _ _ h => h) hinit hstart h).1.bound

/-! ## Two jobs for one reminder -/

section two_jobs

/-- The two jobs that were armed for the reminder of the answer. -/
def both_jobs (redis : Bool) : List (M Bool) :=
  [(redis, false), (redis, false)].map fun job => fire_reminder "id-3" "k1:-7:days" job.1 job.2

/-- Both jobs run side by side, one call each in turn. -/
def side_by_side (redis : Bool) : Option (World × List (M Bool)) :=
  play (fun _ c w => some (exec calm_env c w)) [0, 1, 0, 1, 0, 1, 0, 1, 0, 1] answer_world
    (both_jobs redis)

/-- Some interleaving of the two jobs sends the reminder twice. -/
def SentTwice (redis : Bool) : Prop :=
  ∃ w ts, Interleaving (fun _ => Service.rel (exec calm_env)) answer_world (both_jobs redis) w ts ∧
    w.sent "k1:-7:days" = 2

theorem sent_twice_of_play {redis : Bool} (hplayed : (side_by_side redis).isSome = true)
    (hcount : ∀ s ∈ side_by_side redis, s.1.sent "k1:-7:days" = 2) : SentTwice redis := by
  obtain ⟨⟨w, ts⟩, hrace⟩ := Option.isSome_iff_exists.mp hplayed
  refine ⟨w, ts, ?_, hcount _ hrace⟩
  exact Interleaving.of_play_exec hrace

/-- **Both paths deliver.** Two jobs at the same instant find the reminder armed and send it twice,
    with and without Redis. -/
theorem both_paths_send :
    answer_world.sent "k1:-7:days" = 0 ∧ SentTwice false ∧ SentTwice true :=
  ⟨by decide +kernel, sent_twice_of_play (by decide +kernel) (by decide +kernel),
    sent_twice_of_play (by decide +kernel) (by decide +kernel)⟩

/-- The calls of job `i` where they meet the condition. -/
def alone_exec (env : Env) (key : String) (i : Nat) (c : Call) (s : World × List Nat) :
    Option (Except Exn c.Resp × (World × List Nat)) :=
  if found_armed key c (exec env c s.1).1 = true → s.2 = [] then
    some ((exec env c s.1).1, (exec env c s.1).2, note key i c (exec env c s.1).1 s.2)
  else none

theorem alone_exec_sound {env : Env} {key : String} {i : Nat} {c : Call}
    {s s' : World × List Nat} {r : Except Exn c.Resp}
    (h : alone_exec env key i c s = some (r, s')) : alone env key i c s r s' := by
  unfold alone_exec at h
  split at h
  · next halone =>
    obtain ⟨rfl, rfl⟩ := Prod.mk.inj (Option.some.inj h)
    exact ⟨rfl, rfl, halone⟩
  · cases h

/-- The second job starts when the first one has ended. -/
def in_turn : Option ((World × List Nat) × List (M Bool)) :=
  play (alone_exec calm_env "k1:-7:days") [0, 0, 0, 0, 0, 1, 1, 1, 1, 1] (answer_world, [])
    (both_jobs true)

/-- One job after the other: the second one finds the key in Redis. -/
theorem jobs_in_turn : ∃ w : World, w.sent "k1:-7:days" = 1 ∧
    w.sent "k1:-7:days" ≤ answer_world.sent "k1:-7:days" + 1 := by
  have hplayed : in_turn.isSome = true := by decide +kernel
  obtain ⟨⟨⟨w, inside⟩, ts⟩, hturns⟩ := Option.isSome_iff_exists.mp hplayed
  have hcount : ∀ s ∈ in_turn, s.1.1.sent "k1:-7:days" = 1 := by decide +kernel
  have hreach : Interleaving (alone calm_env "k1:-7:days") (answer_world, [])
      ([(true, false), (true, false)].map fun job =>
        fire_reminder "id-3" "k1:-7:days" job.1 job.2) (w, inside) ts := by
    apply Interleaving.of_play _ hturns
    intro i c s r s' hexec
    exact alone_exec_sound hexec
  exact ⟨w, hcount _ hturns, delivered_once_when_alone hreach⟩

end two_jobs

end CaseAutomation.Deadline
