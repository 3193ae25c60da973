import CaseAutomation.Connectors.Client

/-! # Attempts and the Circuit

    The breaker is asked once, at the start of a request. Between that and an attempt the circuit may
    open: a write awaits Redis, and the retry loop starts further attempts without
    asking again, also when its own failures have opened the circuit.

    A call is *waiting* while it is past its guard and has an attempt to start. Where every failure
    that leaves the circuit open finds each waiting call (the failed one too, if it retries)
    asleep until the cool-down is over, no attempt is started while the circuit is open
    (`attempts_gated`).
-/

namespace CaseAutomation.Connectors

open Framework Program

/-- The waiting calls, each with the earliest time at which it goes on. -/
abbrev Waiting : Type := List (Nat × ℚ)

/-- The waiting calls without call `i`. -/
def Waiting.without (waiting : Waiting) (i : Nat) : Waiting :=
  waiting.filter fun p => decide (p.1 ≠ i)

/-- The waiting calls after a step of call `i` that ended at `now`. -/
def Waiting.note (i : Nat) (now : ℚ) (waiting : Waiting) : (c : Call) → Except Exn c.Resp → Waiting
  | .guard, .ok _ => (i, now) :: waiting.without i
  | .answer _ _ _, .ok (.inr wake_at) => (i, wake_at) :: waiting.without i
  | .sleep _, .ok _ => waiting
  | .idem_get _, .ok cached => if (replayed cached).isSome then waiting.without i else waiting
  | _, _ => waiting.without i

/-- A failure was recorded. -/
def failed : (c : Call) → Except Exn c.Resp → Bool
  | .start _ _, .error _ => true
  | .resume _, .error _ => true
  | .answer _ _ _, .error _ => true
  | .answer _ _ _, .ok (.inr _) => true
  | _, _ => false

/-- While the circuit is open, every waiting call waits until the cool-down is over. -/
def Patient (s : World × Waiting) : Prop :=
  s.1.health.state = .opened → ∀ p ∈ s.2, ∃ opened_at, s.1.health.opened_at = some opened_at ∧
    opened_at + s.1.health.cool_down_seconds ≤ p.2

/-- The steps of call `i`, in the runs where no failure leaves the circuit open for a call that may
    start an attempt before the cool-down is over. -/
def patient (env : Env) (i : Nat) : Relation Call Call.Resp Exn (World × Waiting) :=
  fun c s r s' => exec env c s.1 = (r, s'.1) ∧ s'.2 = s.2.note i s'.1.now c r ∧
    (failed c r = true → Patient s')

/-! ## The circuit at the start of an attempt -/

section circuit
variable {env : Env} {i : Nat} {s s' : World × Waiting}

/-- The circuit does not read open any more. -/
def Calm (w : World) : Prop := ∀ now, w.now ≤ now → w.health.read now ≠ .opened

theorem maybe_transition_of_ne {health : ConnectorHealth} (h : health.state ≠ .opened) (now : ℚ) :
    health.maybe_transition_to_half_open now = health := by
  obtain hsame | ⟨_, hopened, -⟩ := maybe_transition_cases health now
  · exact hsame
  · exact absurd hopened h

theorem calm_of_ne {w : World} (h : w.health.state ≠ .opened) : Calm w := by
  intro now _
  unfold ConnectorHealth.read
  rw [maybe_transition_of_ne h now]
  exact h

/-- Once the cool-down is over, an open circuit reads half open. -/
theorem calm_of_cooled {w : World} {opened_at : ℚ} (hopened : w.health.opened_at = some opened_at)
    (hover : opened_at + w.health.cool_down_seconds ≤ w.now) : Calm w := by
  intro now hnow
  have hdue : w.health.cool_down_seconds ≤ now - opened_at := by linarith
  unfold ConnectorHealth.read ConnectorHealth.maybe_transition_to_half_open
  cases hs : w.health.state <;> simp [hs, hopened, hdue]

theorem tick_now (env : Env) (w : World) : w.now ≤ (w.tick env).now := by
  have h := env.elapse_nonneg w.readings
  show w.now ≤ w.now + env.elapse w.readings
  linarith

theorem record_failure_now (env : Env) (error : Exn) (w : World) :
    w.now ≤ (w.record_failure env error).now := tick_now env w

theorem Calm.tick {w : World} (h : Calm w) : Calm (w.tick env) := by
  intro now hnow
  exact h now (le_trans (tick_now env w) hnow)

/-- Starting an attempt fails and is recorded, or the attempt is noted. -/
theorem start_attempt_cases (env : Env) (deadline : ℚ) (w : World) :
    (∃ e, w.start_attempt env deadline = (.error e, (w.tick env).record_failure env e)) ∨
      w.start_attempt env deadline = (.ok (), { w.tick env with
        starts := ((w.tick env).now, (w.tick env).health.read (w.tick env).now) :: w.starts }) := by
  unfold World.start_attempt
  simp only
  split
  · exact .inl ⟨_, rfl⟩
  · exact .inr rfl

/-- What a stretch of code does that may start an attempt: the clock goes on, and an attempt is
    noted that did not find the circuit open, or a failure is recorded. -/
structure Starts {α : Type} (w : World) (out : Except Exn α × World) : Prop where
  now : w.now ≤ out.2.now
  starts : ∀ a ∈ out.2.starts, a ∈ w.starts ∨ a.2 ≠ .opened
  health : (∃ a, out.1 = .ok a) → out.2.health = w.health

theorem Calm.start_attempt {w : World} (h : Calm w) (deadline : ℚ) :
    Starts w (w.start_attempt env deadline) := by
  have htick := tick_now env w
  obtain ⟨e, hfail⟩ | hstart := start_attempt_cases env deadline w
  · rw [hfail]
    refine ⟨le_trans htick (record_failure_now env e _), fun a ha => .inl ha, ?_⟩
    rintro ⟨a, ha⟩
    cases ha
  · rw [hstart]
    refine ⟨htick, ?_, fun _ => rfl⟩
    intro a ha
    obtain rfl | ha := List.mem_cons.mp ha
    · exact .inr (h _ htick)
    · exact .inl ha

theorem Calm.first_attempt {w : World} (h : Calm w) (total_deadline : ℚ) :
    Starts w (w.first_attempt env total_deadline) := by
  have htick := tick_now env w
  have hcalm : Calm (w.tick env) := h.tick
  have hattempt : Starts (w.tick env)
      ((w.tick env).start_attempt env ((w.tick env).now + total_deadline)) := hcalm.start_attempt _
  unfold World.first_attempt
  simp only
  rcases hout : (w.tick env).start_attempt env ((w.tick env).now + total_deadline) with ⟨r, w'⟩
  rw [hout] at hattempt
  cases r with
  | ok _ => exact ⟨le_trans htick hattempt.now, hattempt.starts, fun _ => hattempt.health ⟨_, rfl⟩⟩
  | error e =>
    refine ⟨le_trans htick hattempt.now, hattempt.starts, ?_⟩
    rintro ⟨a, ha⟩
    cases ha

/-- The guard lets a call pass only when the circuit is not open. -/
theorem guard_circuit_cases (env : Env) (w : World) :
    ((∃ e, (w.guard_circuit env).1 = .error e) ∧ (w.guard_circuit env).2 = w.tick env) ∨
      ((w.guard_circuit env).1 = .ok () ∧ (w.guard_circuit env).2.health.state ≠ .opened ∧
        (w.guard_circuit env).2.now = (w.tick env).now ∧
        (w.guard_circuit env).2.starts = w.starts) := by
  unfold World.guard_circuit
  simp only
  split
  · next hopened =>
    refine .inl ⟨⟨_, rfl⟩, ?_⟩
    obtain hsame | ⟨_, -, -, -, hhalf⟩ :=
      maybe_transition_cases (w.tick env).health (w.tick env).now
    · rw [hsame]
    · rw [hhalf] at hopened
      cases hopened
  · next hclosed => exact .inr ⟨rfl, hclosed, rfl, rfl⟩

/-! ## What a step leaves of the waiting calls -/

theorem Waiting.mem_without {waiting : Waiting} {p : Nat × ℚ} :
    p ∈ waiting.without i ↔ p ∈ waiting ∧ p.1 ≠ i := by
  simp [Waiting.without]

/-- A step of call `i` concerns only its own entry. -/
theorem Waiting.note_other {j : Nat} (hj : j ≠ i) (u now : ℚ) (waiting : Waiting) (c : Call)
    (r : Except Exn c.Resp) : (j, u) ∈ waiting.note i now c r ↔ (j, u) ∈ waiting := by
  have hwithout : (j, u) ∈ waiting.without i ↔ (j, u) ∈ waiting := by
    rw [mem_without]
    exact ⟨And.left, fun h => ⟨h, hj⟩⟩
  unfold Waiting.note
  split
  · simp [hj, hwithout]
  · simp [hj, hwithout]
  · exact Iff.rfl
  · split
    · exact hwithout
    · exact Iff.rfl
  · exact hwithout

/-- The same health and fewer waiting calls. -/
theorem Patient.sub (h : Patient s) (hhealth : s'.1.health = s.1.health)
    (hsub : ∀ p ∈ s'.2, p ∈ s.2) : Patient s' := by
  intro hopened p hp
  rw [hhealth] at hopened ⊢
  exact h hopened p (hsub p hp)

theorem patient_of_ne (h : s'.1.health.state ≠ .opened) : Patient s' :=
  fun hopened => absurd hopened h

theorem without_sub {waiting : Waiting} {p : Nat × ℚ} (hp : p ∈ waiting.without i) : p ∈ waiting :=
  (Waiting.mem_without.mp hp).1

/-! ## The invariant -/

/-- Open circuits are waited for, and no attempt was started while the circuit was open. -/
structure Gated (s : World × Waiting) : Prop where
  patient : Patient s
  starts : ∀ a ∈ s.1.starts, a.2 ≠ .opened

/-- Nobody else turns the clock back or wakes call `i`. -/
structure Later (i : Nat) (s s' : World × Waiting) : Prop where
  now : s.1.now ≤ s'.1.now
  waiting : ∀ u, (i, u) ∈ s'.2 ↔ (i, u) ∈ s.2

theorem Later.refl (i : Nat) (s : World × Waiting) : Later i s s := ⟨le_refl _, fun _ => Iff.rfl⟩

theorem Later.trans {a b c : World × Waiting} (h : Later i a b) (h' : Later i b c) : Later i a c :=
  ⟨le_trans h.now h'.now, fun u => (h'.waiting u).trans (h.waiting u)⟩

/-- Call `i` waits until this time. -/
def WaitsUntil (i : Nat) (u : ℚ) (s : World × Waiting) : Prop := (i, u) ∈ s.2

theorem WaitsUntil.stable {u : ℚ} (h : WaitsUntil i u s) (hrely : Later i s s') : WaitsUntil i u s' :=
  (hrely.waiting u).mpr h

/-- Call `i` has waited for as long as it has to. -/
def Due (i : Nat) (s : World × Waiting) : Prop := ∃ u, WaitsUntil i u s ∧ u ≤ s.1.now

theorem Due.stable (h : Due i s) (hrely : Later i s s') : Due i s' := by
  obtain ⟨u, hu, hdue⟩ := h
  exact ⟨u, hu.stable hrely, le_trans hdue hrely.now⟩

/-- A waiting call that may go on does not find the circuit open. -/
theorem Patient.calm (h : Patient s) (hdue : Due i s) : Calm s.1 := by
  by_cases hopened : s.1.health.state = .opened
  · obtain ⟨u, hu, hnow⟩ := hdue
    obtain ⟨opened_at, hat, hcool⟩ := h hopened _ hu
    exact calm_of_cooled hat (le_trans hcool hnow)
  · exact calm_of_ne hopened

/-- What a call may assume and must keep. -/
def gate_contract (env : Env) (i : Nat) : Contract Call Call.Resp Exn (World × Waiting) :=
  threadContract (patient env) Gated Later (fun _ _ _ => True) i

/-- One step, from what it does to the world. -/
theorem safe_step {c : Call} {P : World × Waiting → Prop}
    {Q : Except Exn c.Resp → World × Waiting → Prop} (h : P s)
    (hP : ∀ {s s'}, Later i s s' → P s → P s')
    (hcall : ∀ s r s', Gated s → P s → patient env i c s r s' → s.1.now ≤ s'.1.now ∧ Gated s' ∧ Q r s') :
    Safe (gate_contract env i) Q (await c) s := by
  apply Safe.perform
  intro s₁ hrely hinv
  refine ⟨trivial, ?_⟩
  intro r s₂ hstep
  obtain ⟨hnow, hgated, hQ⟩ := hcall s₁ r s₂ hinv (hP hrely h) hstep
  refine ⟨hgated, ?_, hQ⟩
  intro j hj
  refine ⟨hnow, ?_⟩
  intro u
  rw [hstep.2.1]
  exact Waiting.note_other hj u _ _ c r

/-- The guard: a call that passes is waiting. -/
theorem safe_guard :
    Safe (gate_contract env i) (fun r s' => r = .ok () → Due i s') (await .guard) s := by
  refine safe_step (P := fun _ => True) trivial (fun _ h => h) ?_
  intro s r s' hinv _ hstep
  obtain ⟨hexec, hnote, -⟩ := hstep
  have htick := tick_now env s.1
  have hr : (s.1.guard_circuit env).1 = r := congrArg Prod.fst hexec
  have hw : (s.1.guard_circuit env).2 = s'.1 := congrArg Prod.snd hexec
  obtain ⟨⟨e, herr⟩, hsame⟩ | ⟨hok, hclosed, hnow, hstarts⟩ := guard_circuit_cases env s.1
  · -- refused: the call is no longer among those that wait
    rw [← hr, herr] at hnote ⊢
    rw [hw] at hsame
    refine ⟨by rw [hsame]; exact htick, ⟨?_, ?_⟩, fun h => by cases h⟩
    · refine hinv.patient.sub (by rw [hsame]; rfl) ?_
      intro p hp
      rw [hnote] at hp
      exact without_sub hp
    · rw [hsame]
      exact hinv.starts
  · -- passed: the circuit is not open, and the call may go on from now
    rw [← hr, hok] at hnote ⊢
    rw [hw] at hclosed hnow hstarts
    refine ⟨by rw [hnow]; exact htick, ⟨patient_of_ne hclosed, ?_⟩, fun _ => ?_⟩
    · rw [hstarts]
      exact hinv.starts
    · refine ⟨s'.1.now, ?_, le_refl _⟩
      unfold WaitsUntil
      rw [hnote]
      exact List.mem_cons_self

/-- The start of an attempt takes the call from the waiting ones. -/
theorem Gated.start (hinv : Gated s) (hstarts : ∀ a ∈ s'.1.starts, a ∈ s.1.starts ∨ a.2 ≠ .opened)
    (hsub : s'.2 = s.2.without i)
    (hhealth : s'.1.health = s.1.health ∨ s'.1.health.state ≠ .opened ∨ Patient s') : Gated s' := by
  refine ⟨?_, ?_⟩
  · obtain hsame | hclosed | hpatient := hhealth
    · refine hinv.patient.sub hsame fun p hp => ?_
      rw [hsub] at hp
      exact without_sub hp
    · exact patient_of_ne hclosed
    · exact hpatient
  · intro a ha
    obtain hold | hnew := hstarts a ha
    · exact hinv.starts a hold
    · exact hnew

/-- The first attempt of a write that has waited for Redis. -/
theorem safe_start {total_deadline : ℚ} (h : Due i s) :
    Safe (gate_contract env i) (fun _ _ => True) (await (.start false total_deadline)) s := by
  refine safe_step h (fun hrely h => h.stable hrely) ?_
  intro s r s' hinv hdue hstep
  obtain ⟨hexec, hnote, hfailed⟩ := hstep
  have hstart : Starts s.1 (s.1.first_attempt env total_deadline) :=
    (hinv.patient.calm hdue).first_attempt total_deadline
  rw [show s.1.first_attempt env total_deadline = (r, s'.1) from hexec] at hstart
  refine ⟨hstart.now, ?_, trivial⟩
  cases r with
  | ok deadline => exact hinv.start hstart.starts hnote (.inl (hstart.health ⟨deadline, rfl⟩))
  | error e => exact hinv.start hstart.starts hnote (.inr (.inr (hfailed rfl)))

/-- A further attempt. -/
theorem safe_resume {deadline : ℚ} (h : Due i s) :
    Safe (gate_contract env i) (fun _ _ => True) (await (.resume deadline)) s := by
  refine safe_step h (fun hrely h => h.stable hrely) ?_
  intro s r s' hinv hdue hstep
  obtain ⟨hexec, hnote, hfailed⟩ := hstep
  have hstart : Starts s.1 (s.1.start_attempt env deadline) :=
    (hinv.patient.calm hdue).start_attempt deadline
  rw [show s.1.start_attempt env deadline = (r, s'.1) from hexec] at hstart
  refine ⟨hstart.now, ?_, trivial⟩
  cases r with
  | ok u => exact hinv.start hstart.starts hnote (.inl (hstart.health ⟨u, rfl⟩))
  | error e => exact hinv.start hstart.starts hnote (.inr (.inr (hfailed rfl)))

/-- A read passes its guard and starts its first attempt at once. -/
theorem safe_guarded_start {total_deadline : ℚ} :
    Safe (gate_contract env i) (fun _ _ => True) (await (.start true total_deadline)) s := by
  refine safe_step (P := fun _ => True) trivial (fun _ h => h) ?_
  intro s r s' hinv _ hstep
  obtain ⟨hexec, hnote, hfailed⟩ := hstep
  have htick := tick_now env s.1
  obtain ⟨⟨e, herr⟩, hsame⟩ | ⟨hok, hclosed, hnow, hstarts⟩ := guard_circuit_cases env s.1
  · rcases hguard : s.1.guard_circuit env with ⟨g, w⟩
    rw [hguard] at herr hsame
    cases herr
    obtain ⟨rfl, hw⟩ := Prod.mk.inj ((exec_start_refused hguard).symm.trans hexec)
    have hticked : s'.1 = s.1.tick env := hw.symm.trans hsame
    refine ⟨by rw [hticked]; exact htick, hinv.start ?_ hnote (.inl ?_), trivial⟩
    · intro a ha
      rw [hticked] at ha
      exact .inl ha
    · rw [hticked]
      rfl
  · -- no other call comes between the guard and the attempt
    rcases hguard : s.1.guard_circuit env with ⟨g, w⟩
    rw [hguard] at hok hclosed hnow hstarts
    cases hok
    have hout : w.first_attempt env total_deadline = (r, s'.1) :=
      (exec_start_passed hguard).symm.trans hexec
    have hstart : Starts w (w.first_attempt env total_deadline) :=
      (calm_of_ne hclosed).first_attempt total_deadline
    rw [hout] at hstart
    have hlater : s.1.now ≤ s'.1.now := le_trans htick (le_trans (le_of_eq hnow.symm) hstart.now)
    refine ⟨hlater, ?_, trivial⟩
    have hnew : ∀ a ∈ s'.1.starts, a ∈ s.1.starts ∨ a.2 ≠ .opened := by
      intro a ha
      have h := hstart.starts a ha
      rwa [show w.starts = s.1.starts from hstarts] at h
    cases r with
    | ok deadline =>
      refine hinv.start hnew hnote (.inr (.inl ?_))
      rw [hstart.health ⟨deadline, rfl⟩]
      exact hclosed
    | error e => exact hinv.start hnew hnote (.inr (.inr (hfailed rfl)))

/-- The answer of the vendor: it closes the circuit, or the failure is recorded. -/
theorem take_answer_cases (env : Env) (retry : RetryPolicy) (attempt : Nat) (deadline : ℚ)
    (w : World) :
    w.now ≤ (w.take_answer env retry attempt deadline).2.now ∧
      (w.take_answer env retry attempt deadline).2.starts = w.starts ∧
      ((∃ response, (w.take_answer env retry attempt deadline).1 = .ok (.inl response)) →
        (w.take_answer env retry attempt deadline).2.health.state ≠ .opened) := by
  unfold World.take_answer
  simp only
  split
  · refine ⟨le_refl _, rfl, fun _ => ?_⟩
    show w.health.record_success.state ≠ .opened
    unfold ConnectorHealth.record_success
    cases w.health.state <;> simp
  · next err _ =>
    have hrecord := record_failure_now env err.exn { w with answers := w.answers + 1 }
    have htick := tick_now env (World.record_failure env err.exn { w with answers := w.answers + 1 })
    unfold World.attempt_failed
    simp only
    split
    · split
      · exact ⟨hrecord, rfl, fun ⟨_, h⟩ => by cases h⟩
      · exact ⟨hrecord, rfl, fun ⟨_, h⟩ => by cases h⟩
    · split
      · exact ⟨le_trans hrecord htick, rfl, fun ⟨_, h⟩ => by cases h⟩
      · exact ⟨le_trans hrecord htick, rfl, fun ⟨_, h⟩ => by cases h⟩

/-- A call that retries waits until it wakes up. -/
theorem safe_answer {retry : RetryPolicy} {attempt : Nat} {deadline : ℚ} :
    Safe (gate_contract env i) (fun r s' => ∀ wake_at, r = .ok (.inr wake_at) → WaitsUntil i wake_at s')
      (await (.answer retry attempt deadline)) s := by
  refine safe_step (P := fun _ => True) trivial (fun _ h => h) ?_
  intro s r s' hinv _ hstep
  obtain ⟨hexec, hnote, hfailed⟩ := hstep
  obtain ⟨hnow, hstarts, hclosed⟩ := take_answer_cases env retry attempt deadline s.1
  have hout : s.1.take_answer env retry attempt deadline = (r, s'.1) := hexec
  rw [hout] at hnow hstarts hclosed
  have hsame : ∀ a ∈ s'.1.starts, a.2 ≠ .opened := by
    rw [show s'.1.starts = s.1.starts from hstarts]
    exact hinv.starts
  refine ⟨hnow, ?_⟩
  match r with
  | .error e =>
    refine ⟨⟨hfailed rfl, hsame⟩, ?_⟩
    intro wake_at hwake
    cases hwake
  | .ok (.inl response) =>
    -- a success closes the circuit, whoever waits
    refine ⟨⟨patient_of_ne (hclosed ⟨response, rfl⟩), hsame⟩, ?_⟩
    intro wake_at hwake
    cases hwake
  | .ok (.inr wake_at) =>
    refine ⟨⟨hfailed rfl, hsame⟩, ?_⟩
    intro wake_at' hwake
    cases hwake
    unfold WaitsUntil
    rw [hnote]
    exact List.mem_cons_self

theorem safe_sleep {wake_at : ℚ} (h : WaitsUntil i wake_at s) :
    Safe (gate_contract env i) (fun _ s' => Due i s') (await (.sleep wake_at)) s := by
  refine safe_step h (fun hrely h => h.stable hrely) ?_
  intro s r s' hinv hwaits hstep
  obtain ⟨hexec, hnote, -⟩ := hstep
  obtain ⟨rfl, hw⟩ := Prod.mk.inj hexec
  have htick := tick_now env s.1
  have hslept : s'.1.now = max (s.1.tick env).now wake_at := by rw [← hw]
  refine ⟨by rw [hslept]; exact le_trans htick (le_max_left _ _), ⟨?_, ?_⟩, ?_⟩
  · refine hinv.patient.sub (by rw [← hw]; rfl) fun p hp => ?_
    rwa [hnote] at hp
  · rw [← hw]
    exact hinv.starts
  · refine ⟨wake_at, ?_, by rw [hslept]; exact le_max_right _ _⟩
    unfold WaitsUntil
    rw [hnote]
    exact hwaits

/-- Redis neither asks nor tells the circuit, and takes no account of time. -/
theorem redis_idle (env : Env) (w : World) :
    (∀ key, (w.idem_get env key).2.health = w.health ∧ (w.idem_get env key).2.now = w.now ∧
      (w.idem_get env key).2.starts = w.starts) ∧
    ∀ key result, (w.idem_set env key result).2.health = w.health ∧
      (w.idem_set env key result).2.now = w.now ∧ (w.idem_set env key result).2.starts = w.starts := by
  constructor
  · intro key
    unfold World.idem_get
    simp only
    split
    · exact ⟨rfl, rfl, rfl⟩
    · exact ⟨rfl, rfl, rfl⟩
    · split
      · exact ⟨rfl, rfl, rfl⟩
      · split
        · exact ⟨rfl, rfl, rfl⟩
        · exact ⟨rfl, rfl, rfl⟩
  · intro key result
    unfold World.idem_set
    simp only
    split
    · exact ⟨rfl, rfl, rfl⟩
    · exact ⟨rfl, rfl, rfl⟩
    · exact ⟨rfl, rfl, rfl⟩

theorem safe_idem_get {idem_key : String} (h : Due i s) :
    Safe (gate_contract env i) (fun r s' => ∀ cached, r = .ok cached → replayed cached = none →
      Due i s') (await (.idem_get idem_key)) s := by
  refine safe_step h (fun hrely h => h.stable hrely) ?_
  intro s r s' hinv hdue hstep
  obtain ⟨hexec, hnote, -⟩ := hstep
  obtain ⟨hhealth, hnow, hstarts⟩ := (redis_idle env s.1).1 idem_key
  rw [show s.1.idem_get env idem_key = (r, s'.1) from hexec] at hhealth hnow hstarts
  have hsub : ∀ p ∈ s'.2, p ∈ s.2 := by
    intro p hp
    rw [hnote] at hp
    cases r with
    | error e => exact without_sub hp
    | ok cached =>
      -- a hit ends the call, after a miss it still waits
      by_cases hhit : (replayed cached).isSome = true
      · simp only [Waiting.note, hhit, if_true] at hp
        exact without_sub hp
      · simpa [Waiting.note, hhit] using hp
  refine ⟨le_of_eq hnow.symm, ⟨hinv.patient.sub hhealth hsub, ?_⟩, ?_⟩
  · rw [show s'.1.starts = s.1.starts from hstarts]
    exact hinv.starts
  · rintro cached rfl hmiss
    obtain ⟨u, hu, hdue⟩ := hdue
    refine ⟨u, ?_, by rw [show s'.1.now = s.1.now from hnow]; exact hdue⟩
    unfold WaitsUntil at hu ⊢
    rw [hnote]
    simpa [Waiting.note, hmiss] using hu

theorem safe_idem_set {idem_key : String} {result : Json} :
    Safe (gate_contract env i) (fun _ _ => True) (await (.idem_set idem_key result)) s := by
  refine safe_step (P := fun _ => True) trivial (fun _ h => h) ?_
  intro s r s' hinv _ hstep
  obtain ⟨hexec, hnote, -⟩ := hstep
  obtain ⟨hhealth, hnow, hstarts⟩ := (redis_idle env s.1).2 idem_key result
  rw [show s.1.idem_set env idem_key result = (r, s'.1) from hexec] at hhealth hnow hstarts
  refine ⟨le_of_eq hnow.symm, hinv.start (fun a ha => ?_) hnote (.inl hhealth), trivial⟩
  rw [show s'.1.starts = s.1.starts from hstarts] at ha
  exact .inl ha

/-! ## One request -/

theorem safe_retry_loop (retry : RetryPolicy) (deadline : ℚ) (left attempt : Nat)
    (s : World × Waiting) :
    Safe (gate_contract env i) (fun _ _ => True) (retry_loop retry deadline left attempt) s := by
  induction left generalizing attempt s with
  | zero =>
    refine Safe.bind safe_answer ?_ fun _ _ _ => trivial
    intro answer s₁ _
    cases answer with
    | inl response => exact Safe.ret trivial
    | inr wake_at => exact Safe.raise trivial
  | succ left ih =>
    refine Safe.bind safe_answer ?_ fun _ _ _ => trivial
    intro answer s₁ hwaiting
    cases answer with
    | inl response => exact Safe.ret trivial
    | inr wake_at =>
      -- the sleep lasts until the call may go on
      refine Safe.bind (safe_sleep (hwaiting wake_at rfl)) ?_ fun _ _ _ => trivial
      intro _ s₂ hdue
      refine Safe.bind (safe_resume hdue) ?_ fun _ _ _ => trivial
      intro _ s₃ _
      exact ih (attempt + 1) s₃

theorem safe_execute_with_retry {guarded : Bool} (retry : RetryPolicy)
    (h : guarded = false → Due i s) :
    Safe (gate_contract env i) (fun _ _ => True) (execute_with_retry guarded retry) s := by
  have hstart : Safe (gate_contract env i) (fun _ _ => True)
      (await (.start guarded retry.total_deadline)) s := by
    cases guarded with
    | true => exact safe_guarded_start
    | false => exact safe_start (h rfl)
  refine Safe.bind hstart ?_ fun _ _ _ => trivial
  intro deadline s₁ _
  exact safe_retry_loop retry deadline _ 1 s₁

theorem safe_idempotent_write (idem_key : String) (retry : RetryPolicy) (s : World × Waiting) :
    Safe (gate_contract env i) (fun _ _ => True) (idempotent_write idem_key retry) s := by
  refine Safe.bind safe_guard ?_ fun _ _ _ => trivial
  intro _ s₁ hdue
  refine Safe.bind (safe_idem_get (hdue rfl)) ?_ fun _ _ _ => trivial
  intro cached s₂ hmiss
  cases hreplay : replayed cached with
  | some answer =>
    cases answer with
    | ok response => exact Safe.ret trivial
    | error e => exact Safe.raise trivial
  | none =>
    have hattempts : Safe (gate_contract env i) (fun _ _ => True) (execute_with_retry false retry) s₂ :=
      safe_execute_with_retry retry fun _ => hmiss cached rfl hreplay
    refine Safe.bind hattempts ?_ fun _ _ _ => trivial
    intro response s₃ _
    refine Safe.bind (P := fun _ _ => True) ?_ (fun _ _ _ => Safe.ret trivial) fun _ _ _ => trivial
    unfold record_result
    split
    · exact Safe.ret trivial
    · exact safe_idem_set

theorem safe_request (redis : Bool) (q : Request) (s : World × Waiting) :
    Safe (gate_contract env i) (fun _ _ => True) (request env redis q) s := by
  unfold request
  split
  · exact safe_execute_with_retry q.retry fun h => by cases h
  · next idem_key _ => exact safe_idempotent_write idem_key q.retry s

end circuit

/-- **No attempt through an open circuit.** Any number of requests, in any order, with any answers
    and policies: where every failure that leaves the circuit open finds the waiting calls
    asleep until the cool-down is over, no attempt was started while the circuit was open. -/
theorem attempts_gated {env : Env} {calls : List (Bool × Request)} {w₀ w : World} {waiting : Waiting}
    {ts : List (M Response)} (hnew : w₀.starts = [])
    (h : Interleaving (patient env) (w₀, [])
      (calls.map fun c => request env c.1 c.2) (w, waiting) ts) :
    ∀ a ∈ w.starts, a.2 ≠ .opened := by
  -- nobody waits at the start
  have hinit : Gated (w₀, []) := by
    refine ⟨fun _ p hp => ?_, fun a ha => ?_⟩
    · cases hp
    · rw [hnew] at ha
      cases ha
  have hsafe : ∀ i p, (calls.map fun c => request env c.1 c.2)[i]? = some p →
      Safe (threadContract (patient env) Gated Later (fun _ _ _ => True) i) (fun _ _ => True) p
        (w₀, []) := by
    intro i p hp
    rw [List.getElem?_map, Option.map_eq_some_iff] at hp
    obtain ⟨c, -, rfl⟩ := hp
    exact safe_request c.1 c.2 (w₀, [])
  exact (Interleaving.safe Later.refl (fun _ => Later.trans) (fun _ _ _ _ _ h => h) hinit hsafe h).1.starts

/-! ## A circuit that opens between two attempts -/

section retried

/-- A vendor whose first answers are these; then it is in order. -/
def vendor_env (answers : List Response) : Env where
  connector := "case"
  classify_fn := classify
  uuid5 _ name := name
  elapse _ := 0
  elapse_nonneg _ := le_refl 0
  vendor n := .ok (answers.getD n (.replay (.obj [])))
  random _ := 0
  redis _ := .answered

/-- A client that has just been created. -/
def new_world (failure_threshold : Int) : World where
  health := .new "case" failure_threshold 60
  redis := ∅
  now := 0
  readings := 0
  answers := 0
  draws := 0
  redis_calls := 0
  starts := []
  successes := []

def unavailable : Response := ⟨503, .empty, none⟩

/-- Come back after this many seconds. -/
def too_many (retry_after : ℚ) : Response := ⟨429, .empty, some retry_after⟩

def get_matter : Request :=
  ⟨"GET", "https://api.vendor.com/matters/1", none, DEFAULT_RETRY, .null, false, ""⟩

/-- The request makes its third attempt. -/
def third_attempt : Option (World × List (M Response)) :=
  play (fun _ c w => some (exec (vendor_env [unavailable, unavailable]) c w)) [0, 0, 0, 0, 0, 0, 0]
    (new_world 2) [request (vendor_env [unavailable, unavailable]) false get_matter]

/-- **The third attempt goes through an open circuit.** The request's own two failures have reached
    the threshold, and its retry loop does not ask again. -/
theorem third_attempt_through_open_circuit : ∃ w ts,
    Interleaving (fun _ => Service.rel (exec (vendor_env [unavailable, unavailable]))) (new_world 2)
      [request (vendor_env [unavailable, unavailable]) false get_matter] w ts ∧
    ∃ a ∈ w.starts, a.2 = .opened := by
  have hplayed : third_attempt.isSome = true := by decide +kernel
  obtain ⟨⟨w, ts⟩, hrun⟩ := Option.isSome_iff_exists.mp hplayed
  have hopen : ∀ s ∈ third_attempt, s.1.starts.any (fun a => decide (a.2 = .opened)) = true := by
    decide +kernel
  have hany := hopen _ hrun
  rw [List.any_eq_true] at hany
  obtain ⟨a, ha, hopened⟩ := hany
  refine ⟨w, ts, ?_, a, ha, of_decide_eq_true hopened⟩
  exact Interleaving.of_play_exec hrun

/-- Whether the waiting calls are patient. -/
def is_patient (s : World × Waiting) : Bool :=
  decide (s.1.health.state ≠ .opened) || s.2.all fun p =>
    s.1.health.opened_at.any fun opened_at =>
      decide (opened_at + s.1.health.cool_down_seconds ≤ p.2)

theorem patient_of_is_patient {s : World × Waiting} (h : is_patient s = true) : Patient s := by
  intro hopened p hp
  unfold is_patient at h
  simp only [hopened, ne_eq, not_true, decide_false, Bool.false_or, List.all_eq_true] at h
  have hcool := h p hp
  cases hat : s.1.health.opened_at with
  | none =>
    rw [hat] at hcool
    cases hcool
  | some opened_at =>
    rw [hat] at hcool
    exact ⟨opened_at, rfl, of_decide_eq_true hcool⟩

/-- The steps of call `i` where they meet the condition. -/
def patient_exec (env : Env) (i : Nat) (c : Call) (s : World × Waiting) :
    Option (Except Exn c.Resp × (World × Waiting)) :=
  let out := exec env c s.1
  let s' := (out.2, s.2.note i out.2.now c out.1)
  if failed c out.1 = true → is_patient s' = true then some (out.1, s') else none

theorem patient_exec_sound {env : Env} {i : Nat} {c : Call} {s s' : World × Waiting}
    {r : Except Exn c.Resp} (h : patient_exec env i c s = some (r, s')) : patient env i c s r s' := by
  unfold patient_exec at h
  simp only at h
  split at h
  · next hpatient =>
    obtain ⟨rfl, rfl⟩ := Prod.mk.inj (Option.some.inj h)
    exact ⟨rfl, rfl, fun hfailed => patient_of_is_patient (hpatient hfailed)⟩
  · cases h

/-- The vendor asks two requests to wait, the second one for less. -/
def busy_env : Env := vendor_env [too_many 62, too_many 60]

/-- Two requests make an attempt each, are told to wait, and wait side by side. -/
def retry_after : Option ((World × Waiting) × List (M Response)) :=
  play (patient_exec busy_env) [0, 1, 0, 1, 1, 1, 0, 0, 0, 1] (new_world 1, [])
    [request busy_env false get_matter, request busy_env false get_matter]

/-- One failure opens a circuit of threshold 1. The two requests wake up after a minute and after 62
    seconds, and both make their second attempt when the cool-down is over. -/
theorem retry_after_gated : ∃ w : World,
    w.starts = [(62, .half_open), (60, .half_open), (0, .healthy), (0, .healthy)] ∧
      ∀ a ∈ w.starts, a.2 ≠ .opened := by
  have hplayed : retry_after.isSome = true := by decide +kernel
  obtain ⟨⟨⟨w, waiting⟩, ts⟩, hrun⟩ := Option.isSome_iff_exists.mp hplayed
  have hstarts : ∀ s ∈ retry_after, s.1.1.starts =
      [(62, .half_open), (60, .half_open), (0, .healthy), (0, .healthy)] := by
    decide +kernel
  have hreach : Interleaving (patient busy_env) (new_world 1, [])
      ([(false, get_matter), (false, get_matter)].map fun c => request busy_env c.1 c.2)
      (w, waiting) ts := by
    apply Interleaving.of_play _ hrun
    intro i c s r s' hexec
    exact patient_exec_sound hexec
  exact ⟨w, hstarts _ hrun, attempts_gated rfl hreach⟩

end retried

end CaseAutomation.Connectors
