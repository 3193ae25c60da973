import CaseAutomation.Framework.Ghost
import CaseAutomation.Orchestrator.Calls
import CaseAutomation.Orchestrator.Reference

/-! # Who Holds the Run Lock

    Workers execute one run under `RunLock`, which is a key in Redis with a time to live:
    `SET key 1 NX EX ttl` takes it and `DEL key` gives it back. The value does not tell who
    has set it, and nothing extends the time to live during a long step. So a worker whose lock
    has expired deletes the key that another worker has set since.

    `Locks` adds to the world what Redis does not record: who has set the key, who is inside
    `_execute` and whose lock has expired. Workers may crash and the rest
    of the world may change in any way that leaves the key alone.
-/

namespace CaseAutomation.Orchestrator

open Framework Program

/-! ## Workers -/

/-- The world, and what has become of the locks on one run. -/
structure Locks where
  world : World
  /-- Who has set the key, while it is there. -/
  holder : Option Nat
  /-- Who has been granted the lock and has not released it. -/
  inside : List Nat
  /-- Whose time to live has run out since. -/
  expired : List Nat
  crashed : List Nat

namespace Locks

/-- No worker has started; the key is not there. -/
structure Start (run_id : String) (s : Locks) : Prop where
  redis : ∃ held, s.world.lock = some held ∧ lock_key run_id ∉ held
  holder : s.holder = none
  inside : s.inside = []

/-- The time to live of worker `i` runs out; the key goes if it is still the one that `i`
    has set. -/
def expire (run_id : String) (i : Nat) (s : Locks) : Locks :=
  { s with
    world := if s.holder = some i then { s.world with lock := release_lock run_id s.world.lock }
      else s.world
    holder := if s.holder = some i then none else s.holder
    expired := i :: s.expired }

/-- Worker `i` dies. Its key stays until it expires. -/
def crash (i : Nat) (s : Locks) : Locks :=
  { s with inside := s.inside.filter (· ≠ i), crashed := i :: s.crashed }

/-- The workers inside `_execute` whose lock has expired. -/
def overdue (s : Locks) : List Nat := s.inside.filter (· ∈ s.expired)

/-- The workers inside `_execute` whose lock has not expired. -/
def entitled (s : Locks) : List Nat := s.inside.filter (· ∉ s.expired)

end Locks

/-- The call sets the key of the run. -/
def grants (run_id : String) : Call → World → Bool
  | .acquire r, w => decide (r = run_id) && (acquire_lock r w.lock).1
  | _, _ => false

/-- What a call of worker `i` changes besides the world. -/
def note_lock (run_id : String) (i : Nat) (c : Call) (s : Locks) (w : World) : Locks :=
  match c with
  | .acquire _ =>
    if grants run_id c s.world then
      { s with
        world := w
        holder := some i
        inside := i :: s.inside
        expired := s.expired.filter (· ≠ i) }
    else { s with world := w }
  | .release _ => { s with world := w, holder := none, inside := s.inside.filter (· ≠ i) }
  | _ => { s with world := w }

/-- Calls to the lock server. -/
def Call.locks : Call → Bool
  | .acquire _ => true
  | .release _ => true
  | _ => false

/-- A call of worker `i`. Redis answers, every other service may fail. -/
def worker (env : Env) (run_id : String) (i : Nat) : Relation Call Call.Resp Exn Locks :=
  fun c s r s' => i ∉ s.crashed ∧ ∃ w, faulty env c s.world r w ∧
    (c.locks = true → exec env c s.world = (r, w)) ∧ s' = note_lock run_id i c s w

/-- The same, as long as no worker is granted the lock while another one, whose lock has
    expired, is still inside `_execute`. -/
def unhurried (env : Env) (run_id : String) (i : Nat) : Relation Call Call.Resp Exn Locks :=
  fun c s r s' => worker env run_id i c s r s' ∧ (grants run_id c s.world = true → s.overdue = [])

/-- What happens between the calls: a lock expires, a worker dies, or something else that
    leaves the key of the run alone. -/
inductive disturb (run_id : String) (s : Locks) : Locks → Prop where
  | expire (i : Nat) : disturb run_id s (s.expire run_id i)
  | crash (i : Nat) : disturb run_id s (s.crash i)
  | world {w : World} {held held' : List String} : s.world.lock = some held → w.lock = some held' →
      (lock_key run_id ∈ held' ↔ lock_key run_id ∈ held) → disturb run_id s { s with world := w }

/-- Any number of workers that execute the run, interleaved call by call. -/
def Workers (step : Nat → Relation Call Call.Resp Exn Locks) (engine : Engine) (run_id : String) :
    Locks → List (M Unit) → Prop :=
  Pool step (disturb run_id) (Locks.Start run_id)
    (fun _ p => ∃ depth, p = (engine.execute depth run_id).discard)

/-! ## The invariant -/

section proof
variable {env : Env} {run_id : String} {i : Nat} {s s' : Locks}

/-- At most one worker is inside, and the key is either gone or its own. -/
structure OneInside (run_id : String) (s : Locks) : Prop where
  redis : ∃ held, s.world.lock = some held ∧ (lock_key run_id ∈ held ↔ s.holder ≠ none)
  single : s.inside.length ≤ 1
  owner : ∀ i ∈ s.inside, ∀ j, s.holder = some j → j = i
  held : ∀ i ∈ s.inside, s.holder = none → i ∈ s.expired

/-- The others neither let worker `i` in nor push it out. -/
def Undisturbed (i : Nat) (s s' : Locks) : Prop :=
  i ∉ s'.crashed → i ∉ s.crashed ∧ (i ∈ s'.inside ↔ i ∈ s.inside)

/-- A release finds its own key, or none. -/
def own_release (run_id : String) (i : Nat) (c : Call) (s : Locks) : Prop :=
  c = .release run_id → i ∉ s.crashed → ∀ j, s.holder = some j → j = i

/-- The contract of worker `i`. -/
def lock_contract (env : Env) (run_id : String) (i : Nat) : Contract Call Call.Resp Exn Locks :=
  threadContract (unhurried env run_id) (OneInside run_id) Undisturbed (own_release run_id) i

theorem Undisturbed.refl (i : Nat) (s : Locks) : Undisturbed i s s := fun h => ⟨h, Iff.rfl⟩

theorem Undisturbed.trans {a b c : Locks} (h : Undisturbed i a b) (h' : Undisturbed i b c) :
    Undisturbed i a c := by
  intro hc
  obtain ⟨hb, hbc⟩ := h' hc
  obtain ⟨ha, hab⟩ := h hb
  exact ⟨ha, hbc.trans hab⟩

/-- Worker `i`, if alive, is inside. -/
def Inside (i : Nat) (s : Locks) : Prop := i ∉ s.crashed → i ∈ s.inside

theorem Inside.undisturbed (h : Inside i s) (hu : Undisturbed i s s') : Inside i s' := by
  intro hi
  obtain ⟨hs, hiff⟩ := hu hi
  exact hiff.mpr (h hs)

/-! ## What the calls keep -/

/-- A call that is not about locks leaves the lock alone. -/
theorem exec_lock {c : Call} (hc : c.locks = false) (w : World) :
    (exec env c w).2.lock = w.lock := by
  cases c with
  | acquire r => cases hc
  | release r => cases hc
  | create_run run rows => simp only [exec]; split <;> rfl
  | update_step row => simp only [exec]; split <;> rfl
  | update_run_status run_id status cur err => exact World.write_lock w _
  | set_current_step run_id step => exact World.write_lock w _
  | _ => rfl

theorem note_lock_other {c : Call} (hc : c.locks = false) (i : Nat) (s : Locks) (w : World) :
    note_lock run_id i c s w = { s with world := w } := by
  cases c <;> first | rfl | cases hc

/-- The invariant does not look at the world beyond the lock. -/
theorem OneInside.with_world (h : OneInside run_id s) {w : World} (hlock : w.lock = s.world.lock) :
    OneInside run_id { s with world := w } := by
  obtain ⟨held, hheld, hkey⟩ := h.redis
  exact ⟨⟨held, hlock.trans hheld, hkey⟩, h.single, h.owner, h.held⟩

/-- A call that is not about locks keeps everything. -/
theorem keeps_other {c : Call} (hc : c.locks = false) {r : Except Exn c.Resp}
    (h : OneInside run_id s) (hstep : unhurried env run_id i c s r s') :
    OneInside run_id s' ∧ ∃ w, s' = { s with world := w } := by
  obtain ⟨⟨-, w, hfaulty, -, rfl⟩, -⟩ := hstep
  rw [note_lock_other hc]
  refine ⟨?_, w, rfl⟩
  have hlock : w.lock = s.world.lock := by
    obtain ⟨rfl, -⟩ | rfl := hfaulty.world
    · rfl
    · exact exec_lock hc s.world
  exact h.with_world hlock

/-- What an acquisition finds: with the key there it is refused, otherwise granted. -/
theorem acquire_cases (h : OneInside run_id s) {r : Except Exn Bool}
    (hstep : unhurried env run_id i (.acquire run_id) s r s') :
    (r = .ok false ∧ s' = s) ∨
    (r = .ok true ∧ s.inside = [] ∧ OneInside run_id s' ∧ s'.inside = [i] ∧
      s'.crashed = s.crashed) := by
  obtain ⟨⟨-, w, -, hexec, rfl⟩, hcondition⟩ := hstep
  obtain ⟨held, hheld, hkey⟩ := h.redis
  have hcall := hexec rfl
  simp only [exec, Prod.mk.injEq] at hcall
  obtain ⟨rfl, rfl⟩ := hcall
  by_cases hin : lock_key run_id ∈ held
  · left
    have hno : acquire_lock run_id s.world.lock = (false, s.world.lock) := by
      rw [hheld, acquire_lock, if_pos hin]
    refine ⟨by rw [hno], ?_⟩
    simp only [note_lock, grants, hno, decide_true, Bool.and_false, Bool.false_eq_true, if_false]
  · right
    have hyes : acquire_lock run_id s.world.lock = (true, some (lock_key run_id :: held)) := by
      rw [hheld, acquire_lock, if_neg hin]
    have hgrants : grants run_id (.acquire run_id) s.world = true := by
      simp [grants, hyes]
    -- the key is gone, so whoever is inside has expired; and then nobody is
    have hholder : s.holder = none := by
      by_contra hne
      exact hin (hkey.mpr hne)
    have hempty : s.inside = [] := by
      by_contra hne
      obtain ⟨j, hj⟩ := List.exists_mem_of_ne_nil _ hne
      have hexpired := h.held j hj hholder
      have hmem : j ∈ s.overdue := by simp [Locks.overdue, hj, hexpired]
      rw [hcondition hgrants] at hmem
      cases hmem
    refine ⟨by rw [hyes], hempty, ?_⟩
    simp only [note_lock, hgrants, if_true, hyes, hempty]
    refine ⟨⟨⟨_, rfl, by simp⟩, by simp, ?_, ?_⟩, trivial, trivial⟩
    · intro j hj k hk
      rw [List.mem_singleton] at hj
      rw [hj]
      exact (Option.some.inj hk).symm
    · intro j _ hk
      cases hk

/-- A release leaves nobody inside. -/
theorem release_keeps {r : Except Exn Unit} (h : OneInside run_id s) (hi : i ∈ s.inside)
    (hstep : unhurried env run_id i (.release run_id) s r s') :
    OneInside run_id s' ∧ ∀ j, j ≠ i → Undisturbed j s s' := by
  obtain ⟨⟨-, w, -, hexec, rfl⟩, -⟩ := hstep
  obtain ⟨held, hheld, hkey⟩ := h.redis
  have hcall := hexec rfl
  simp only [exec, Prod.mk.injEq] at hcall
  obtain ⟨-, rfl⟩ := hcall
  simp only [note_lock]
  have hsingle := h.single
  have hone : s.inside = [i] := by
    rcases hs : s.inside with _ | ⟨j, _ | ⟨_, _⟩⟩
    · rw [hs] at hi
      cases hi
    · rw [hs, List.mem_singleton] at hi
      rw [hi]
    · rw [hs] at hsingle
      simp at hsingle
  have hnobody : s.inside.filter (fun j => decide (j ≠ i)) = [] := by simp [hone]
  refine ⟨⟨⟨_, by rw [hheld, release_lock], by simp⟩, ?_, ?_, ?_⟩, ?_⟩
  · rw [hnobody]
    exact Nat.zero_le _
  · intro j hj
    rw [hnobody] at hj
    cases hj
  · intro j hj
    rw [hnobody] at hj
    cases hj
  · intro j hji hj
    exact ⟨hj, by simp [hji]⟩

/-- The environment keeps the invariant and disturbs nobody who stays alive. -/
theorem disturb_keeps (h : OneInside run_id s) (hd : disturb run_id s s') :
    OneInside run_id s' ∧ ∀ j, Undisturbed j s s' := by
  obtain ⟨held, hheld, hkey⟩ := h.redis
  cases hd with
  | expire i =>
    refine ⟨?_, fun j hj => ⟨hj, Iff.rfl⟩⟩
    unfold Locks.expire
    by_cases hmine : s.holder = some i
    · simp only [hmine, if_true]
      refine ⟨⟨held.filter fun key => key ≠ lock_key run_id, by rw [hheld, release_lock], by simp⟩,
        h.single, ?_, ?_⟩
      · intro j _ k hk
        cases hk
      · intro j hj _
        rw [h.owner j hj i hmine]
        exact List.mem_cons_self
    · simp only [hmine, if_false]
      refine ⟨⟨held, hheld, hkey⟩, h.single, h.owner, ?_⟩
      intro j hj hnone
      exact List.mem_cons_of_mem i (h.held j hj hnone)
  | crash i =>
    refine ⟨⟨⟨held, hheld, hkey⟩, ?_, ?_, ?_⟩, ?_⟩
    · exact Nat.le_trans (List.length_filter_le _ _) h.single
    · intro j hj
      exact h.owner j (List.mem_of_mem_filter hj)
    · intro j hj
      exact h.held j (List.mem_of_mem_filter hj)
    · intro j hj
      have hji : j ≠ i := fun he => hj (he ▸ List.mem_cons_self)
      refine ⟨fun hc => hj (List.mem_cons_of_mem i hc), ?_⟩
      simp [Locks.crash, hji]
  | @world w held₁ held' hheld₁ hlock hiff =>
    have hsame : held₁ = held := Option.some.inj (hheld₁.symm.trans hheld)
    subst hsame
    exact ⟨⟨⟨held', hlock, hiff.trans hkey⟩, h.single, h.owner, h.held⟩,
      fun j hj => ⟨hj, Iff.rfl⟩⟩

/-! ## The workers -/

theorem Call.locks_of_in_pass {c : Call} (h : c.in_pass = true) : c.locks = false := by
  cases c with
  | acquire r => cases h
  | release r => cases h
  | _ => rfl

/-- A call that is not about locks, under the contract. -/
theorem other_call (env : Env) {c : Call} (hc : c.locks = false) (h : OneInside run_id s) :
    own_release run_id i c s ∧ ∀ r s', unhurried env run_id i c s r s' →
      OneInside run_id s' ∧ (∀ j, j ≠ i → Undisturbed j s s') ∧ (Inside i s → Inside i s') := by
  constructor
  · rintro rfl
    cases hc
  · intro r s' hstep
    obtain ⟨hinv, w, rfl⟩ := keeps_other hc h hstep
    exact ⟨hinv, fun j _ => Undisturbed.refl j s, fun hi => hi⟩

/-- A program without lock calls keeps the worker inside. -/
theorem safe_other {α : Type} {p : M α} (hp : Issues (fun c => c.locks = false) p)
    (h : Inside i s) : Safe (lock_contract env run_id i) (fun _ s' => Inside i s') p s := by
  apply Safe.of_issues (P := fun c => c.locks = false) (A := Inside i) _ _ hp h
  · intro s s' hu hi
    exact hi.undisturbed hu
  · intro c s hc hinv hi
    obtain ⟨hguard, hstep⟩ := other_call env (i := i) hc hinv
    refine ⟨hguard, ?_⟩
    intro r s' hs
    obtain ⟨hinv', hguar, hinside⟩ := hstep r s' hs
    exact ⟨hinv', hguar, hinside hi⟩

theorem reload_or_raise (run_id : String) (e : Exn) :
    Issues (fun c => c.locks = false)
      ((await (.get_run run_id) : M (Option WorkflowRun)).bind fun found =>
        match found with
        | none => (raise e : M WorkflowRun)
        | some run => pure run) := by
  refine .bind (.perform rfl) ?_
  intro found
  cases found with
  | none => exact .raise
  | some run => exact .ret

/-- A nested `execute` is refused the lock. -/
theorem safe_nested (engine : Engine) (depth : Nat) (h : Inside i s) :
    Safe (lock_contract env run_id i) (fun _ s' => Inside i s') (engine.execute depth run_id) s := by
  cases depth with
  | zero => exact h
  | succ depth =>
    have hacquire : Safe (lock_contract env run_id i)
        (fun r s' => (∀ granted, r = .ok granted → granted = false) ∧ Inside i s')
        (await (.acquire run_id)) s := by
      apply Safe.perform
      intro s₁ hu hinv
      have hi := h.undisturbed hu
      refine ⟨fun hc => (by cases hc), ?_⟩
      intro r s₂ hstep
      have halive : i ∉ s₁.crashed := hstep.1.1
      obtain ⟨rfl, rfl⟩ | ⟨-, hempty, -⟩ := acquire_cases hinv hstep
      · refine ⟨hinv, fun j _ => Undisturbed.refl j _, ?_, hi⟩
        intro granted hgranted
        cases hgranted
        rfl
      · have hin := hi halive
        rw [hempty] at hin
        cases hin
    apply Safe.bind hacquire
    · rintro granted s₁ ⟨hgranted, hi⟩
      rw [hgranted granted rfl]
      exact safe_other (reload_or_raise run_id _) hi
    · rintro e s₁ ⟨-, hi⟩
      exact hi

/-- A worker that executes the run releases only its own key. -/
theorem safe_worker (engine : Engine) (depth : Nat) (s : Locks) :
    Safe (lock_contract env run_id i) (fun _ _ => True) (engine.execute depth run_id) s := by
  cases depth with
  | zero => exact True.intro
  | succ depth =>
    have hacquire : Safe (lock_contract env run_id i)
        (fun r s' => ∀ granted, r = .ok granted → granted = true → Inside i s')
        (await (.acquire run_id)) s := by
      apply Safe.perform
      intro s₁ _ hinv
      refine ⟨fun hc => (by cases hc), ?_⟩
      intro r s₂ hstep
      obtain ⟨rfl, rfl⟩ | ⟨-, hempty, hinv₂, hinside, hcrashed⟩ := acquire_cases hinv hstep
      · refine ⟨hinv, fun j _ => Undisturbed.refl j _, ?_⟩
        intro granted hgranted htrue
        cases hgranted
        cases htrue
      · refine ⟨hinv₂, ?_, ?_⟩
        · intro j hji hj
          rw [hcrashed] at hj
          exact ⟨hj, by simp [hinside, hempty, hji]⟩
        · intro _ _ _ _
          rw [hinside]
          exact List.mem_singleton.mpr rfl
    apply Safe.bind hacquire
    · intro granted s₁ hgranted
      cases granted with
      | false =>
        -- the lock is refused: the run is returned as it is
        apply Safe.weaken (Safe.of_issues (P := fun c => c.locks = false) (A := fun _ => True) _ _
          (reload_or_raise run_id _) trivial) fun _ _ _ => trivial
        · intro _ _ _ _
          trivial
        · intro c s₂ hc hinv _
          obtain ⟨hguard, hstep⟩ := other_call env (i := i) hc hinv
          refine ⟨hguard, ?_⟩
          intro r s₃ hs
          obtain ⟨hinv', hguar, -⟩ := hstep r s₃ hs
          exact ⟨hinv', hguar, trivial⟩
      | true =>
        have hi := hgranted true rfl rfl
        have hpass : Safe (lock_contract env run_id i) (fun _ s' => Inside i s')
            (engine.execute_locked (engine.execute depth run_id) run_id) s₁ := by
          have hleads := Engine.execute_locked_leads (T := fun p => p = engine.execute depth run_id)
            engine run_id rfl
          apply Safe.of_leads (A := Inside i) _ _ _ hleads hi
          · intro s s' hu hi
            exact hi.undisturbed hu
          · intro c s hc hinv hi
            obtain ⟨hguard, hstep⟩ :=
              other_call env (i := i) (Call.locks_of_in_pass hc) hinv
            refine ⟨hguard, ?_⟩
            intro r s' hs
            obtain ⟨hinv', hguar, hinside⟩ := hstep r s' hs
            exact ⟨hinv', hguar, hinside hi⟩
          · rintro p s rfl hi
            exact safe_nested engine depth hi
        apply Safe.tryFinally hpass
        intro r s₂ hi
        apply Safe.perform
        intro s₃ hu hinv
        have hi₃ := hi.undisturbed hu
        refine ⟨fun _ halive j hj => hinv.owner i (hi₃ halive) j hj, ?_⟩
        intro r' s₄ hstep
        obtain ⟨hinv', hguar⟩ := release_keeps hinv (hi₃ hstep.1.1) hstep
        refine ⟨hinv', hguar, ?_⟩
        cases r' <;> trivial
    · intro _ _ _
      trivial

end proof

/-- **Ownership of the run lock.** Any number of workers execute the run, interleaved call by
    call, with expiring locks, dying workers and failing services. If no worker is granted
    the lock while another one, whose lock has expired, is still inside `_execute`, then a
    release never removes a key that another worker has set, and at most one worker inside
    `_execute` has a lock that has not expired. -/
theorem lock_owned_when_unhurried {env : Env} {engine : Engine} {run_id : String} {s : Locks}
    {ts : List (M Unit)} (h : Workers (unhurried env run_id) engine run_id s ts) :
    (∀ i k, ts[i]? = some (.call (.release run_id) k) → i ∉ s.crashed →
      ∀ j, s.holder = some j → j = i) ∧ s.entitled.length ≤ 1 := by
  have hsafe : OneInside run_id s ∧ ∀ i p, ts[i]? = some p →
      Safe (lock_contract env run_id i) (fun _ _ => True) p s := by
    refine Pool.safe (G := own_release run_id) Undisturbed.refl (fun _ => Undisturbed.trans) ?_ ?_ ?_
      h
    · rintro s ⟨⟨held, hheld, hkey⟩, hholder, hinside⟩
      refine ⟨⟨held, hheld, by simp [hkey, hholder]⟩, by simp [hinside], ?_, ?_⟩
      · intro i hi
        rw [hinside] at hi
        cases hi
      · intro i hi
        rw [hinside] at hi
        cases hi
    · rintro s p _ ⟨depth, rfl⟩ i
      exact Safe.discard (safe_worker engine depth s)
    · intro s s' hinv hd
      exact disturb_keeps hinv hd
  refine ⟨?_, Nat.le_trans (List.length_filter_le _ _) hsafe.1.single⟩
  intro i k hi
  exact Pool.guard_holds Undisturbed.refl hsafe hi rfl

/-! ## A step that outlasts the lock

    Worker 0 is inside a step when its lock expires; worker 1 takes the lock, worker 0 goes on and
    releases it, and worker 2 takes it too. -/

section outlasted

/-- The services and the locks, without faults. -/
def lock_exec (i : Nat) : Service Call Call.Resp Exn Locks :=
  fun c s => ((exec reference_env c s.world).1,
    note_lock "id-0" i c s (exec reference_env c s.world).2)

/-- A run with one step, and no lock. -/
def unlocked_start : Locks where
  world := { queued_run (plain_workflow ["fetch"] fetch_ne_nil (fun _ _ _ => .returned none [])
    fun _ => none) with lock := some [] }
  holder := none
  inside := []
  expired := []
  crashed := []

theorem unlocked_start_ok : Locks.Start "id-0" unlocked_start :=
  ⟨⟨[], rfl, List.not_mem_nil⟩, rfl, rfl⟩

/-- What each worker runs. -/
def fetch_worker : M Unit := (reference_engine.execute 2 "id-0").discard

theorem note_lock_crashed (run_id : String) (i : Nat) (c : Call) (s : Locks) (w : World) :
    (note_lock run_id i c s w).crashed = s.crashed := by
  unfold note_lock
  split
  · split_ifs <;> rfl
  · rfl
  · rfl

theorem worker_exec {i : Nat} (c : Call) (s : Locks) (h : i ∉ s.crashed) :
    worker reference_env "id-0" i c s (lock_exec i c s).1 (lock_exec i c s).2 :=
  ⟨h, _, .answered, fun _ => rfl, rfl⟩

/-- The next `n` calls of a worker. -/
theorem worker_calls {i : Nat} (n : Nat) (p : M Unit) {s : Locks} (h : i ∉ s.crashed) :
    Steps (worker reference_env "id-0" i) p s (after (lock_exec i) n p s).1
      (after (lock_exec i) n p s).2 := by
  refine steps_after_in (J := fun s => i ∉ s.crashed) ?_ n p h
  intro c s hs
  refine ⟨worker_exec c s hs, ?_⟩
  show i ∉ (note_lock "id-0" i c s _).crashed
  rw [note_lock_crashed]
  exact hs

/-- Worker 0, inside its step. -/
def stepping : M Unit × Locks := after (lock_exec 0) 10 fetch_worker unlocked_start

/-- Its lock has expired, and worker 1 has taken the lock. -/
def overtaken : M Unit × Locks := after (lock_exec 1) 1 fetch_worker (stepping.2.expire "id-0" 0)

/-- Worker 0 is about to release the lock. -/
def finishing : M Unit × Locks := after (lock_exec 0) 7 stepping.1 overtaken.2

/-- Worker 0 has released it. -/
def finished : M Unit × Locks := after (lock_exec 0) 1 finishing.1 finishing.2

/-- Worker 2 has taken it. -/
def doubled : M Unit × Locks := after (lock_exec 2) 1 fetch_worker finished.2

/-- The next call releases the lock of the run `id-0`. -/
def releasing : M Unit → Bool
  | .call (.release run_id) _ => decide (run_id = "id-0")
  | _ => false

theorem releasing_eq {p : M Unit} (h : releasing p = true) : ∃ k, p = .call (.release "id-0") k := by
  unfold releasing at h
  split at h
  · next run_id k =>
    obtain rfl := of_decide_eq_true h
    exact ⟨k, rfl⟩
  · cases h

theorem three_workers : Workers (worker reference_env "id-0") reference_engine "id-0" unlocked_start
    [fetch_worker, fetch_worker, fetch_worker] :=
  .spawn (.spawn (.spawn (.boot unlocked_start_ok) ⟨2, rfl⟩) ⟨2, rfl⟩) ⟨2, rfl⟩

/-- **A lock released by another worker**: worker 0 deletes the key that worker 1 has set, and then
    workers 1 and 2 are inside `_execute` with locks that have not expired. -/
theorem outlasted_lock_shared :
    (∃ s ts k, Workers (worker reference_env "id-0") reference_engine "id-0" s ts ∧
      ts[0]? = some (.call (.release "id-0") k) ∧ 0 ∉ s.crashed ∧ s.holder = some 1) ∧
    ∃ s ts, Workers (worker reference_env "id-0") reference_engine "id-0" s ts ∧
      s.entitled = [2, 1] := by
  have hstepping := Pool.alone (i := 0) (fun _ _ _ _ h => h) three_workers rfl
    (worker_calls 10 fetch_worker (by decide))
  have hovertaken := Pool.alone (i := 1) (fun _ _ _ _ h => h)
    (.drift hstepping (.expire 0)) rfl (worker_calls 1 fetch_worker (by decide +kernel))
  have hfinishing := Pool.alone (i := 0) (fun _ _ _ _ h => h) hovertaken rfl
    (worker_calls 7 stepping.1 (by decide +kernel))
  have hreleasing : releasing finishing.1 = true := by decide +kernel
  obtain ⟨k, hk⟩ := releasing_eq hreleasing
  constructor
  · exact ⟨finishing.2, _, k, hfinishing, congrArg some hk, by decide +kernel, by decide +kernel⟩
  · have hfinished := Pool.alone (i := 0) (fun _ _ _ _ h => h) hfinishing rfl
      (worker_calls 1 finishing.1 (by decide +kernel))
    have hdoubled := Pool.alone (i := 2) (fun _ _ _ _ h => h) hfinished rfl
      (worker_calls 1 fetch_worker (by decide +kernel))
    exact ⟨doubled.2, _, hdoubled, by decide +kernel⟩

/-- Nobody is inside whose lock has expired. -/
structure Punctual (i : Nat) (s : Locks) : Prop where
  alive : i ∉ s.crashed
  expired : s.expired = []

/-- The next `n` calls of a worker while no lock has expired. -/
theorem punctual_calls {i : Nat} (n : Nat) (p : M Unit) {s : Locks} (h : Punctual i s) :
    Steps (unhurried reference_env "id-0" i) p s (after (lock_exec i) n p s).1
      (after (lock_exec i) n p s).2 := by
  refine steps_after_in (J := Punctual i) ?_ n p h
  intro c s hs
  refine ⟨⟨worker_exec c s hs.alive, fun _ => by simp [Locks.overdue, hs.expired]⟩, ?_, ?_⟩
  · show i ∉ (note_lock "id-0" i c s _).crashed
    rw [note_lock_crashed]
    exact hs.alive
  · show (note_lock "id-0" i c s _).expired = []
    unfold note_lock
    split
    · split_ifs
      · simp [hs.expired]
      · exact hs.expired
    · exact hs.expired
    · exact hs.expired

/-- The guarantee at work: the second worker takes the lock when the first has released it. -/
theorem workers_in_turn : ∃ s : Locks, s.entitled = [1] ∧ s.entitled.length ≤ 1 := by
  have hboth : Workers (unhurried reference_env "id-0") reference_engine "id-0" unlocked_start
      [fetch_worker, fetch_worker] :=
    .spawn (.spawn (.boot unlocked_start_ok) ⟨2, rfl⟩) ⟨2, rfl⟩
  have hfirst := Pool.alone (i := 0) (fun _ _ _ _ h => h) hboth rfl
    (punctual_calls 18 fetch_worker ⟨by decide, rfl⟩)
  have hsecond := Pool.alone (i := 1) (fun _ _ _ _ h => h) hfirst rfl
    (punctual_calls 1 fetch_worker ⟨by decide +kernel, by decide +kernel⟩)
  exact ⟨_, by decide +kernel, (lock_owned_when_unhurried hsecond).2⟩

end outlasted

end CaseAutomation.Orchestrator
