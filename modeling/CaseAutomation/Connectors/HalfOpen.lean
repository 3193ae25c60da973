import CaseAutomation.Connectors.Gating

/-! # The Half-Open Circuit

    The circuit is to go from open to half open after the cool-down, and from there to healthy by one
    probe. The breaker does not see to that by itself: `record_success` closes an open circuit
    too, for an attempt that was under way when the circuit opened, and the guard lets every
    call pass that finds the circuit half open.

    A call is *under way* from its guard to the answer to its last attempt. Where no attempt
    succeeds while the circuit is open, and a call meets a half-open circuit only when
    no other call is under way, the circuit keeps its cycle (`half_open_discipline`).
-/

namespace CaseAutomation.Connectors

open Framework Program

/-! ## The condition -/

/-- A success is recorded. -/
def succeeded : (c : Call) → Except Exn c.Resp → Bool
  | .answer _ _ _, .ok (.inl _) => true
  | _, _ => false

/-- The call has passed its guard. -/
def guard_passed : (c : Call) → Except Exn c.Resp → Bool
  | .guard, .ok _ => true
  | .start true _, .ok _ => true
  | _, _ => false

/-- The call starts no further attempt. -/
def finished : (c : Call) → Except Exn c.Resp → Bool
  | .start _ _, .error _ => true
  | .resume _, .error _ => true
  | .answer _ _ _, .error _ => true
  | .answer _ _ _, .ok (.inl _) => true
  | .idem_get _, .error _ => true
  | .idem_get _, .ok cached => (replayed cached).isSome
  | _, _ => false

/-- The calls under way after a step of call `i`. -/
def under_way (i : Nat) (calls : List Nat) (c : Call) (r : Except Exn c.Resp) : List Nat :=
  if guard_passed c r then i :: calls
  else if finished c r then calls.filter fun j => decide (j ≠ i)
  else calls

/-- The steps of call `i`, in the runs where no attempt succeeds while the circuit is open, and a call
    that leaves its guard with the circuit half open is the only one under way. -/
def disciplined (env : Env) (i : Nat) : Relation Call Call.Resp Exn (World × List Nat) :=
  fun c s r s' => exec env c s.1 = (r, s'.1) ∧ s'.2 = under_way i s.2 c r ∧
    (succeeded c r = true → s.1.health.state ≠ .opened) ∧
    (guard_passed c r = true → s'.1.health.state = .half_open → s.2 = [])

/-! ## The state of the circuit -/

/-- The circuit has gone through its cool-down. -/
def ConnectorHealth.Cooled (health : ConnectorHealth) (now : ℚ) : Prop :=
  ∃ opened_at, health.opened_at = some opened_at ∧ health.cool_down_seconds ≤ now - opened_at

/-- What a step may do to the circuit: it becomes half open only for a call that passes its guard, and
    it leaves the state open by a success or, after the cool-down, to half open. -/
structure InCycle (before after : ConnectorHealth) (now : ℚ) (passed success : Bool) : Prop where
  half_open : after.state = .half_open → passed = true ∨ before.state = .half_open
  opened : before.state = .opened → after.state ≠ .opened →
    success = true ∨ after.state = .half_open ∧ before.Cooled now

section states
variable {env : Env} {w w' : World} {before after : ConnectorHealth} {now : ℚ} {passed success : Bool}

theorem InCycle.of_same (h : after = before) : InCycle before after now passed success := by
  subst h
  exact ⟨fun h => .inr h, fun h hne => absurd h hne⟩

/-- A failure never leaves the circuit half open, and does not close an open one. -/
theorem InCycle.of_failure (error : Exn) (time : ℚ) (h : after = before.record_failure error time) :
    InCycle before after now passed success := by
  subst h
  unfold ConnectorHealth.record_failure
  cases hstate : before.state with
  | healthy =>
    refine ⟨?_, fun h => by rw [hstate] at h; cases h⟩
    simp only
    split
    · simp
    · split
      · simp
      · simp [hstate]
  | degraded =>
    refine ⟨?_, fun h => by rw [hstate] at h; cases h⟩
    simp only
    split
    · simp
    · split
      · simp
      · simp [hstate]
  | opened => exact ⟨fun h => (by cases h), fun _ hne => absurd rfl hne⟩
  | half_open => exact ⟨fun _ => .inr hstate, fun h => by rw [hstate] at h; cases h⟩

/-- A failed probe opens the circuit again. -/
theorem record_failure_half_open {health : ConnectorHealth} (error : Exn) (time : ℚ)
    (h : health.state = .half_open) : (health.record_failure error time).state = .opened := by
  unfold ConnectorHealth.record_failure
  simp only [h]

theorem InCycle.of_success : InCycle before before.record_success now passed true := by
  refine ⟨?_, fun _ _ => .inl rfl⟩
  unfold ConnectorHealth.record_success
  cases before.state <;> simp

/-- An attempt is started, or its failure is recorded. -/
theorem start_attempt_cycle (env : Env) (deadline : ℚ) (w : World) :
    w.now ≤ (w.start_attempt env deadline).2.now ∧
    (((w.start_attempt env deadline).1 = .ok () ∧ (w.start_attempt env deadline).2.health = w.health) ∨
      ∃ e time, (w.start_attempt env deadline).1 = .error e ∧
        (w.start_attempt env deadline).2.health = w.health.record_failure e time) := by
  have htick := tick_now env w
  obtain ⟨e, hfail⟩ | hstart := start_attempt_cases env deadline w
  · rw [hfail]
    exact ⟨le_trans htick (record_failure_now env e _), .inr ⟨e, _, rfl, rfl⟩⟩
  · rw [hstart]
    exact ⟨htick, .inl ⟨rfl, rfl⟩⟩

theorem first_attempt_cycle (env : Env) (total_deadline : ℚ) (w : World) :
    w.now ≤ (w.first_attempt env total_deadline).2.now ∧
    ((∃ deadline, (w.first_attempt env total_deadline).1 = .ok deadline ∧
        (w.first_attempt env total_deadline).2.health = w.health) ∨
      ∃ e time, (w.first_attempt env total_deadline).1 = .error e ∧
        (w.first_attempt env total_deadline).2.health = w.health.record_failure e time) := by
  have htick := tick_now env w
  obtain ⟨hnow, hcases⟩ :=
    start_attempt_cycle env ((w.tick env).now + total_deadline) (w.tick env)
  unfold World.first_attempt
  simp only
  rcases hout : (w.tick env).start_attempt env ((w.tick env).now + total_deadline) with ⟨r, w₁⟩
  rw [hout] at hnow hcases
  obtain ⟨rfl, hhealth⟩ | ⟨e, time, rfl, hhealth⟩ := hcases
  · exact ⟨le_trans htick hnow, .inl ⟨_, rfl, hhealth⟩⟩
  · exact ⟨le_trans htick hnow, .inr ⟨e, time, rfl, hhealth⟩⟩

/-- What the guard does: it refuses and leaves the circuit as it is, or it lets the call pass, and the
    circuit is as before or half open after its cool-down. -/
theorem guard_circuit_cycle (env : Env) (w : World) :
    w.now ≤ (w.guard_circuit env).2.now ∧
    ((∃ e, (w.guard_circuit env).1 = .error e ∧ (w.guard_circuit env).2.health = w.health) ∨
      (w.guard_circuit env).1 = .ok () ∧ (w.guard_circuit env).2.health.state ≠ .opened ∧
        ((w.guard_circuit env).2.health = w.health ∨
          w.health.Cooled (w.guard_circuit env).2.now ∧
            (w.guard_circuit env).2.health.state = .half_open)) := by
  have htick := tick_now env w
  obtain hsame | ⟨opened_at, -, hat, hcool, hhalf⟩ :=
    maybe_transition_cases (w.tick env).health (w.tick env).now
  · unfold World.guard_circuit
    simp only [hsame]
    split
    · exact ⟨htick, .inl ⟨_, rfl, rfl⟩⟩
    · next hne => exact ⟨htick, .inr ⟨rfl, hne, .inl rfl⟩⟩
  · unfold World.guard_circuit
    simp only [hhalf]
    rw [if_neg (by simp)]
    exact ⟨htick, .inr ⟨rfl, by simp, .inr ⟨⟨opened_at, hat, hcool⟩, rfl⟩⟩⟩

/-- The outcome of the answer: a success or a failure is recorded, never later than the step ends. -/
theorem take_answer_cycle (env : Env) (retry : RetryPolicy) (attempt : Nat) (deadline : ℚ) (w : World) :
    ((∃ response, (w.take_answer env retry attempt deadline).1 = .ok (.inl response)) ∧
        (w.take_answer env retry attempt deadline).2.health = w.health.record_success) ∨
      ∃ e time, (w.take_answer env retry attempt deadline).2.health = w.health.record_failure e time := by
  unfold World.take_answer
  simp only
  split
  · next response _ => exact .inl ⟨⟨response, rfl⟩, rfl⟩
  · next err _ =>
    refine .inr ⟨err.exn, (World.tick env { w with answers := w.answers + 1 }).now, ?_⟩
    unfold World.attempt_failed
    simp only
    split
    · split
      · rfl
      · rfl
    · split
      · rfl
      · rfl

/-- **Every step of a call.** -/
theorem exec_cycle {c : Call} {r : Except Exn c.Resp} (h : exec env c w = (r, w')) :
    InCycle w.health w'.health w'.now (guard_passed c r) (succeeded c r) := by
  cases c with
  | guard =>
    obtain ⟨-, hcases⟩ := guard_circuit_cycle env w
    rw [show w.guard_circuit env = (r, w') from h] at hcases
    obtain ⟨e, -, hsame⟩ | ⟨hok, hne, hhealth⟩ := hcases
    · exact .of_same hsame
    · -- a circuit that lets the call pass is not open
      obtain rfl : r = .ok () := hok
      refine ⟨fun _ => .inl rfl, fun hopened _ => .inr ?_⟩
      obtain hsame | ⟨hcooled, hhalf⟩ := hhealth
      · exact absurd (hsame ▸ hopened) hne
      · exact ⟨hhalf, hcooled⟩
  | start guarded total_deadline =>
    cases guarded with
    | false =>
      obtain ⟨-, hcases⟩ := first_attempt_cycle env total_deadline w
      rw [show w.first_attempt env total_deadline = (r, w') from h] at hcases
      obtain ⟨_, -, hsame⟩ | ⟨e, time, -, hhealth⟩ := hcases
      · exact .of_same hsame
      · exact .of_failure e time hhealth
    | true =>
      obtain ⟨-, hguard⟩ := guard_circuit_cycle env w
      rcases hg : w.guard_circuit env with ⟨g, w₁⟩
      rw [hg] at hguard
      obtain ⟨e, rfl, hsame⟩ | ⟨rfl, hne, hhealth⟩ := hguard
      · obtain ⟨-, rfl⟩ := Prod.mk.inj ((exec_start_refused hg).symm.trans h)
        exact .of_same hsame
      · -- the guard and the first attempt are one step
        obtain ⟨hnow, hcases⟩ := first_attempt_cycle env total_deadline w₁
        rw [(exec_start_passed hg).symm.trans h] at hnow hcases
        obtain ⟨deadline, rfl, hstarted⟩ | ⟨e, time, rfl, hfailed⟩ := hcases
        · refine ⟨fun _ => .inl rfl, fun hopened hne' => .inr ?_⟩
          obtain hsame | ⟨⟨opened_at, hat, hcool⟩, hhalf⟩ := hhealth
          · exact absurd (hsame ▸ hopened) hne
          · exact ⟨hstarted ▸ hhalf, opened_at, hat, by linarith⟩
        · obtain hsame | ⟨-, hhalf⟩ := hhealth
          · exact .of_failure e time (hsame ▸ hfailed)
          · -- the deadline is over already, and the half-open circuit opens again
            have hopened : w'.health.state = .opened :=
              (congrArg ConnectorHealth.state hfailed).trans (record_failure_half_open e time hhalf)
            refine ⟨fun h => ?_, fun _ h => absurd hopened h⟩
            rw [hopened] at h
            cases h
  | resume deadline =>
    obtain ⟨-, hcases⟩ := start_attempt_cycle env deadline w
    rw [show w.start_attempt env deadline = (r, w') from h] at hcases
    obtain ⟨-, hsame⟩ | ⟨e, time, -, hhealth⟩ := hcases
    · exact .of_same hsame
    · exact .of_failure e time hhealth
  | answer retry attempt deadline =>
    have hcases := take_answer_cycle env retry attempt deadline w
    rw [show w.take_answer env retry attempt deadline = (r, w') from h] at hcases
    obtain ⟨⟨response, hok⟩, hhealth⟩ | ⟨e, time, hhealth⟩ := hcases
    · obtain rfl : r = .ok (.inl response) := hok
      rw [show w'.health = w.health.record_success from hhealth]
      exact .of_success
    · exact .of_failure e time hhealth
  | sleep wake_at =>
    obtain ⟨-, rfl⟩ := Prod.mk.inj h
    exact .of_same rfl
  | idem_get idem_key =>
    have hhealth := ((redis_idle env w).1 idem_key).1
    rw [show w.idem_get env idem_key = (r, w') from h] at hhealth
    exact .of_same hhealth
  | idem_set idem_key result =>
    have hhealth := ((redis_idle env w).2 idem_key result).1
    rw [show w.idem_set env idem_key result = (r, w') from h] at hhealth
    exact .of_same hhealth

end states

/-! ## The invariant -/

/-- While the circuit is half open, at most one call is under way. -/
def Single (s : World × List Nat) : Prop := s.1.health.state = .half_open → s.2.length ≤ 1

/-- The answer of the vendor is awaited. -/
def awaits_answer : Call → Bool
  | .answer _ _ _ => true
  | _ => false

/-- What a call may assume and must keep: nobody else ends it, and it is under way when it awaits an
    answer. -/
def flight_contract (env : Env) (i : Nat) : Contract Call Call.Resp Exn (World × List Nat) :=
  threadContract (disciplined env) Single (fun i s s' => i ∈ s.2 → i ∈ s'.2)
    (fun i c s => awaits_answer c = true → i ∈ s.2) i

section flights
variable {env : Env} {i : Nat} {s s' : World × List Nat}

theorem Single.step {c : Call} {r : Except Exn c.Resp} (h : Single s)
    (hstep : disciplined env i c s r s') : Single s' := by
  obtain ⟨hexec, hnote, -, halone⟩ := hstep
  intro hhalf
  rw [hnote]
  cases hpassed : guard_passed c r with
  | true =>
    -- it leaves its guard alone
    have hnone : s.2 = [] := halone hpassed hhalf
    simp [under_way, hpassed, hnone]
  | false =>
    obtain hpassed' | hbefore := (exec_cycle hexec).half_open hhalf
    · rw [hpassed] at hpassed'
      cases hpassed'
    · -- half open before, and no call is added
      have hone : s.2.length ≤ 1 := h hbefore
      unfold under_way
      rw [if_neg (by simp [hpassed])]
      split
      · exact (List.length_filter_le _ _).trans hone
      · exact hone

/-- A step of another call. -/
theorem under_way_other {j : Nat} (hj : j ≠ i) {calls : List Nat} {c : Call} {r : Except Exn c.Resp}
    (h : j ∈ calls) : j ∈ under_way i calls c r := by
  unfold under_way
  split
  · exact List.mem_cons_of_mem _ h
  · split
    · exact List.mem_filter.mpr ⟨h, decide_eq_true hj⟩
    · exact h

/-- One step: the call is under way once it has passed its guard, and stays so until it has ended. -/
theorem safe_flight {c : Call} (hready : awaits_answer c = true → i ∈ s.2) :
    Safe (flight_contract env i) (fun r s' =>
        (guard_passed c r = true ∨ i ∈ s.2 ∧ finished c r = false) → i ∈ s'.2) (await c) s := by
  apply Safe.perform
  intro s₁ hrely hinv
  refine ⟨fun hasks => hrely (hready hasks), ?_⟩
  intro r s₂ hstep
  have hnote : s₂.2 = under_way i s₁.2 c r := hstep.2.1
  refine ⟨Single.step hinv hstep, ?_, ?_⟩
  · intro j hj hmem
    rw [hnote]
    exact under_way_other hj hmem
  · intro hgoes
    rw [hnote, under_way]
    obtain hpassed | ⟨hmem, hgoes⟩ := hgoes
    · rw [if_pos hpassed]
      exact List.mem_cons_self
    · split
      · exact List.mem_cons_self
      · rw [if_neg (by simp [hgoes])]
        exact hrely hmem

theorem flight_retry_loop (retry : RetryPolicy) (deadline : ℚ) (left attempt : Nat)
    {s : World × List Nat} (h : i ∈ s.2) :
    Safe (flight_contract env i) (fun _ _ => True) (retry_loop retry deadline left attempt) s := by
  induction left generalizing attempt s with
  | zero =>
    refine Safe.bind (safe_flight fun _ => h) ?_ fun _ _ _ => trivial
    intro answer s₁ _
    cases answer with
    | inl response => exact Safe.ret trivial
    | inr wake_at => exact Safe.raise trivial
  | succ left ih =>
    refine Safe.bind (safe_flight fun _ => h) ?_ fun _ _ _ => trivial
    intro answer s₁ hanswer
    cases answer with
    | inl response => exact Safe.ret trivial
    | inr wake_at =>
      -- it sleeps and starts the next attempt, under way all the time
      have h₁ : i ∈ s₁.2 := hanswer (.inr ⟨h, rfl⟩)
      refine Safe.bind (safe_flight fun _ => h₁) ?_ fun _ _ _ => trivial
      intro _ s₂ hslept
      have h₂ : i ∈ s₂.2 := hslept (.inr ⟨h₁, rfl⟩)
      refine Safe.bind (safe_flight fun _ => h₂) ?_ fun _ _ _ => trivial
      intro _ s₃ hresumed
      exact ih (attempt + 1) (hresumed (.inr ⟨h₂, rfl⟩))

theorem flight_execute_with_retry {guarded : Bool} (retry : RetryPolicy)
    (h : guarded = false → i ∈ s.2) :
    Safe (flight_contract env i) (fun _ _ => True) (execute_with_retry guarded retry) s := by
  refine Safe.bind (safe_flight fun hasks => by cases hasks) ?_ fun _ _ _ => trivial
  intro deadline s₁ hstarted
  have h₁ : i ∈ s₁.2 := by
    cases guarded with
    | true => exact hstarted (.inl rfl)
    | false => exact hstarted (.inr ⟨h rfl, rfl⟩)
  exact flight_retry_loop retry deadline _ 1 h₁

theorem flight_idempotent_write (idem_key : String) (retry : RetryPolicy) (s : World × List Nat) :
    Safe (flight_contract env i) (fun _ _ => True) (idempotent_write idem_key retry) s := by
  refine Safe.bind (safe_flight fun hasks => by cases hasks) ?_ fun _ _ _ => trivial
  intro _ s₁ hguarded
  have h₁ : i ∈ s₁.2 := hguarded (.inl rfl)
  refine Safe.bind (safe_flight fun hasks => by cases hasks) ?_ fun _ _ _ => trivial
  intro cached s₂ hread
  cases hreplay : replayed cached with
  | some answer =>
    cases answer with
    | ok response => exact Safe.ret trivial
    | error e => exact Safe.raise trivial
  | none =>
    -- without a record the call is still under way
    have hgoes : finished (.idem_get idem_key) (.ok cached) = false := by
      show (replayed cached).isSome = false
      rw [hreplay]
      rfl
    have h₂ : i ∈ s₂.2 := hread (.inr ⟨h₁, hgoes⟩)
    refine Safe.bind (flight_execute_with_retry retry fun _ => h₂) ?_ fun _ _ _ => trivial
    intro response s₃ _
    refine Safe.bind (P := fun _ _ => True) ?_ (fun _ _ _ => Safe.ret trivial) fun _ _ _ => trivial
    unfold record_result
    split
    · exact Safe.ret trivial
    · exact Safe.weaken (safe_flight fun hasks => by cases hasks) fun _ _ _ => trivial

theorem flight_request (redis : Bool) (q : Request) (s : World × List Nat) :
    Safe (flight_contract env i) (fun _ _ => True) (request env redis q) s := by
  unfold request
  split
  · exact flight_execute_with_retry q.retry fun h => by cases h
  · next idem_key _ => exact flight_idempotent_write idem_key q.retry s

end flights

/-! ## The cycle -/

/-- The call has an attempt in flight. -/
def in_flight : Option (M Response) → Bool
  | some (.call c _) => awaits_answer c
  | _ => false

/-- **The half-open discipline.** Any number of requests, in any order, with any answers and policies:
    where no attempt succeeds while the circuit is open, and a call that leaves its guard with
    the circuit half open is the only one under way, every step that leaves the state open
    leads to half open after the cool-down, and while the circuit is half open at most one
    attempt is in flight. -/
theorem half_open_discipline {env : Env} {calls : List (Bool × Request)} {w₀ w : World}
    {active : List Nat} {ts : List (M Response)}
    (h : Interleaving (disciplined env) (w₀, [])
      (calls.map fun c => request env c.1 c.2) (w, active) ts) :
    (∀ (i : Nat) (c : Call) (k : Except Exn c.Resp → M Response) (r : Except Exn c.Resp)
        (s' : World × List Nat), ts[i]? = some (.call c k) → disciplined env i c (w, active) r s' →
        w.health.state = .opened → s'.1.health.state ≠ .opened →
        s'.1.health.state = .half_open ∧ w.health.Cooled s'.1.now) ∧
      (w.health.state = .half_open → ∀ i j : Nat, in_flight ts[i]? = true → in_flight ts[j]? = true →
        i = j) := by
  have hsafe : ∀ i p, (calls.map fun c => request env c.1 c.2)[i]? = some p →
      Safe (threadContract (disciplined env) Single (fun i s s' => i ∈ s.2 → i ∈ s'.2)
        (fun i c s => awaits_answer c = true → i ∈ s.2) i) (fun _ _ => True) p (w₀, []) := by
    intro i p hp
    rw [List.getElem?_map, Option.map_eq_some_iff] at hp
    obtain ⟨c, -, rfl⟩ := hp
    exact flight_request c.1 c.2 (w₀, [])
  have hinit : Single (w₀, []) := fun _ => Nat.zero_le 1
  obtain ⟨hsingle, hall⟩ := Interleaving.safe (fun _ _ h => h) (fun _ _ _ _ h h' hi => h' (h hi))
    (Q := fun _ _ _ => True) (fun _ _ _ _ _ h => h) hinit hsafe h
  refine ⟨?_, ?_⟩
  · intro i c k r s' _ hstep hopened hne
    obtain hsuccess | hcycle := (exec_cycle hstep.1).opened hopened hne
    · exact absurd hopened (hstep.2.2.1 hsuccess)
    · exact hcycle
  · intro hhalf i j hi hj
    -- a call with an attempt in flight is under way
    have hactive : ∀ i, in_flight ts[i]? = true → i ∈ active := by
      intro i hi
      cases hp : ts[i]? with
      | none =>
        rw [hp] at hi
        cases hi
      | some p =>
        rw [hp] at hi
        cases p with
        | ret a => cases hi
        | raise e => cases hi
        | call c k => exact (hall i _ hp _ id hsingle).1 hi
    have hone : active.length ≤ 1 := hsingle hhalf
    match active, hactive i hi, hactive j hj with
    | [only], hi, hj =>
      rw [List.mem_singleton.mp hi, List.mem_singleton.mp hj]
    | first :: second :: rest, _, _ => simp at hone

/-! ## A late success, and two probes -/

section broken_cycle

/-- A read that is tried once. -/
def read_once : Request := { get_matter with retry := ⟨1, 1 / 2, 30, 120⟩ }

/-- A vendor that is unavailable once; a minute passes between two looks at the clock. -/
def slow_env : Env :=
  { vendor_env [unavailable] with elapse := fun _ => 60, elapse_nonneg := fun _ => by norm_num }

def reads (n : Nat) : List (M Response) := List.replicate n (request slow_env false read_once)

/-- Two reads are under way, and the second one fails. -/
def opened_in_flight : Option (World × List (M Response)) :=
  play (fun _ c w => some (exec slow_env c w)) [0, 1, 1] (new_world 1) (reads 2)

/-- The circuit after the next step of a thread. -/
def next_state (w : World) : Option (M Response) → Option HealthState
  | some (.call c _) => some (exec slow_env c w).2.health.state
  | _ => none

theorem of_next_state {w : World} {p : Option (M Response)} {state : HealthState}
    (h : next_state w p = some state) :
    ∃ c k, p = some (.call c k) ∧ (exec slow_env c w).2.health.state = state := by
  unfold next_state at h
  split at h
  · next c k => exact ⟨c, k, rfl, Option.some.inj h⟩
  · cases h

/-- The circuit has opened and cooled down, and two more reads are under way. -/
def probes_in_flight : Option (World × List (M Response)) :=
  play (fun _ c w => some (exec slow_env c w)) [0, 0, 1, 2] (new_world 1) (reads 3)

/-- **A late success closes the open circuit, and two probes are in flight.** -/
theorem late_success_and_two_probes :
    (∃ w ts c k, Interleaving (fun _ => Service.rel (exec slow_env)) (new_world 1) (reads 2) w ts ∧
      ts[0]? = some (.call c k) ∧ w.health.state = .opened ∧
      (exec slow_env c w).2.health.state = .healthy) ∧
    ∃ w ts, Interleaving (fun _ => Service.rel (exec slow_env)) (new_world 1) (reads 3) w ts ∧
      w.health.state = .half_open ∧ in_flight ts[1]? = true ∧ in_flight ts[2]? = true := by
  constructor
  · have hevaluated : opened_in_flight.isSome = true ∧ ∀ s ∈ opened_in_flight,
        s.1.health.state = .opened ∧ next_state s.1 s.2[0]? = some .healthy := by decide +kernel
    obtain ⟨hplayed, hstates⟩ := hevaluated
    obtain ⟨⟨w, ts⟩, hrun⟩ := Option.isSome_iff_exists.mp hplayed
    obtain ⟨hopened, hnext⟩ := hstates _ hrun
    obtain ⟨c, k, hthread, hhealthy⟩ := of_next_state hnext
    exact ⟨w, ts, c, k, Interleaving.of_play_exec hrun, hthread, hopened, hhealthy⟩
  · have hevaluated : probes_in_flight.isSome = true ∧ ∀ s ∈ probes_in_flight,
        s.1.health.state = .half_open ∧ in_flight s.2[1]? = true ∧ in_flight s.2[2]? = true := by
      decide +kernel
    obtain ⟨hplayed, hstates⟩ := hevaluated
    obtain ⟨⟨w, ts⟩, hrun⟩ := Option.isSome_iff_exists.mp hplayed
    exact ⟨w, ts, Interleaving.of_play_exec hrun, hstates _ hrun⟩

/-- The steps of call `i` where they meet the condition. -/
def disciplined_exec (env : Env) (i : Nat) (c : Call) (s : World × List Nat) :
    Option (Except Exn c.Resp × (World × List Nat)) :=
  let out := exec env c s.1
  if (succeeded c out.1 = true → s.1.health.state ≠ .opened) ∧
      (guard_passed c out.1 = true → out.2.health.state = .half_open → s.2 = []) then
    some (out.1, out.2, under_way i s.2 c out.1)
  else none

theorem disciplined_exec_sound {env : Env} (i : Nat) (c : Call) (s : World × List Nat)
    (r : Except Exn c.Resp) (s' : World × List Nat)
    (h : disciplined_exec env i c s = some (r, s')) : disciplined env i c s r s' := by
  unfold disciplined_exec at h
  simp only at h
  split at h
  · next hmet =>
    obtain ⟨rfl, rfl⟩ := Prod.mk.inj (Option.some.inj h)
    exact ⟨rfl, rfl, hmet.1, hmet.2⟩
  · cases h

/-- One probe after the cool-down. -/
def one_probe : Option ((World × List Nat) × List (M Response)) :=
  play (disciplined_exec slow_env) [0, 0, 1] (new_world 1, []) (reads 2)

theorem one_probe_in_flight : ∃ (w : World) (ts : List (M Response)), w.health.state = .half_open ∧
    in_flight ts[1]? = true ∧
    ∀ i j : Nat, in_flight ts[i]? = true → in_flight ts[j]? = true → i = j := by
  have hevaluated : one_probe.isSome = true ∧ ∀ s ∈ one_probe,
      s.1.1.health.state = .half_open ∧ in_flight s.2[1]? = true := by decide +kernel
  obtain ⟨hplayed, hstates⟩ := hevaluated
  obtain ⟨⟨⟨w, active⟩, ts⟩, hrun⟩ := Option.isSome_iff_exists.mp hplayed
  obtain ⟨hhalf, hflight⟩ := hstates _ hrun
  have hreach : Interleaving (disciplined slow_env) (new_world 1, [])
      ([(false, read_once), (false, read_once)].map fun c => request slow_env c.1 c.2) (w, active) ts :=
    Interleaving.of_play disciplined_exec_sound hrun
  exact ⟨w, ts, hhalf, hflight, (half_open_discipline hreach).2 hhalf⟩

end broken_cycle

end CaseAutomation.Connectors
