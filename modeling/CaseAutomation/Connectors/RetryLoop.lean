import CaseAutomation.Connectors.Client
import CaseAutomation.Framework.Loops
import Mathlib.Order.Monotone.Basic

/-! # The Retry Loop

    `_execute_with_retry` of `connectors/middleware.py`, one call at a time: each reading of the clock, each
    attempt, each `record_failure`, each draw and each sleep is a call of its own. The clock, the
    answers and the draws may be any.

    * `execute_with_retry`: the `while True` of the source. It is run with fuel.
    * `Script.Started`    : which attempts are made, from the answers and the clock alone.
    * `retry_loop_law`    : the loop ends, what it ends with, and which failures it has recorded.
    * `execute_alike`     : with the clock and the vendor of the client, it is the program of the client.
-/

namespace CaseAutomation.Connectors.RetryLoop

open Framework Program

/-! ## The loop -/

inductive Call where
  /-- `time.monotonic()`. -/
  | monotonic
  /-- `_single_attempt`. -/
  | single_attempt
  /-- `self._health.record_failure(err)`. -/
  | record_failure (err : ConnectorError)
  /-- `uniform(0, ceiling)`. -/
  | uniform (ceiling : ℚ)
  | sleep (seconds : ℚ)

abbrev Call.Resp : Call → Type
  | .monotonic => ℚ
  | .single_attempt => Response
  | .record_failure _ => Unit
  | .uniform _ => ℚ
  | .sleep _ => Unit

abbrev M (α : Type) : Type := Program Call Call.Resp ConnectorError α

abbrev await (c : Call) : M c.Resp := Program.perform c

/-- `_jitter_wait`. -/
def jitter_wait (attempt : Nat) (base cap : ℚ) : M ℚ :=
  await (.uniform (min cap (base * 2 ^ attempt)))

/-- The wait before the next attempt, at least as long as the vendor asks for. -/
def at_least_retry_after (exc : ConnectorError) (wait : ℚ) : ℚ :=
  match exc.cls, exc.retry_after with
  | .RateLimitError, some retry_after => max wait retry_after
  | _, _ => wait

/-- The `except` clause. -/
def after_failure (connector : String) (retry : RetryPolicy) (deadline : ℚ) (attempt : Nat)
    (exc : ConnectorError) : M (Nat ⊕ Response) :=
  (await (.record_failure exc)).bind fun _ =>
  if !exc.retryable || decide (retry.max_attempts ≤ attempt) then
    if exc.retryable && decide (retry.max_attempts ≤ attempt) then
      .raise (.fatal connector ("Retry exhausted after " ++ toString attempt ++ " attempts."))
    else .raise exc
  else
    (jitter_wait attempt retry.base_delay retry.max_delay).bind fun wait =>
    (await .monotonic).bind fun now =>
    let remaining := deadline - now
    if remaining ≤ 0 then .raise (.fatal connector "Total deadline exceeded mid-retry.")
    else
      (await (.sleep (min (at_least_retry_after exc wait) remaining))).bind fun _ =>
      .ret (.inl attempt)

/-- One round of the `while True`, after `attempt` others. -/
def round (connector : String) (retry : RetryPolicy) (deadline : ℚ) (attempt : Nat) :
    M (Nat ⊕ Response) :=
  let attempt := attempt + 1
  (await .monotonic).bind fun now =>
  if deadline ≤ now then
    let err := ConnectorError.fatal connector "Total deadline exceeded."
    (await (.record_failure err)).bind fun _ => .raise err
  else
    (await .single_attempt).attempt.bind fun
    | .ok response => .ret (.inr response)
    | .error exc => after_failure connector retry deadline attempt exc

/-- `_execute_with_retry`. -/
def execute_with_retry (connector : String) (retry : RetryPolicy) (fuel : Nat) : M (Option Response) :=
  (await .monotonic).bind fun now =>
  let deadline := now + retry.total_deadline
  loop (round connector retry deadline) fuel 0

/-! ## Any clock, any answers -/

/-- What the loop meets: the successive readings of a clock that does not go back, the answers to the
    successive attempts, and the draws. -/
structure Script where
  clock : Nat → ℚ
  clock_mono : Monotone clock
  outcome : Nat → Except ConnectorError Response
  draw : Nat → ℚ

/-- How far the loop has come. -/
structure Progress where
  readings : Nat
  attempts : Nat
  draws : Nat
  /-- The arguments of the calls of `record_failure`, in their order. -/
  recorded : List ConnectorError

def Progress.new : Progress := ⟨0, 0, 0, []⟩

/-- The effect of a call. -/
def exec (script : Script) : Program.Service Call Call.Resp ConnectorError Progress
  | .monotonic, w => (.ok (script.clock w.readings), { w with readings := w.readings + 1 })
  | .single_attempt, w => (script.outcome w.attempts, { w with attempts := w.attempts + 1 })
  | .record_failure err, w => (.ok (), { w with recorded := w.recorded ++ [err] })
  | .uniform _, w => (.ok (script.draw w.draws), { w with draws := w.draws + 1 })
  | .sleep _, w => (.ok (), w)

namespace Script

variable (script : Script) (retry : RetryPolicy)

def deadline : ℚ := script.clock 0 + retry.total_deadline

/-- The attempt fails, and may be made again. -/
def FailsRetryably (k : Nat) : Prop := ∃ err, script.outcome k = .error err ∧ err.retryable = true

/-- The loop comes to its attempt `k`, counted from 0: the attempts before it failed with retryable
    errors, fewer were made than are allowed, and the deadline had not passed after the last one. -/
structure Due (k : Nat) : Prop where
  allowed : (k : Int) < max 1 retry.max_attempts
  retried : ∀ j < k, script.FailsRetryably j
  in_time : 0 < k → script.clock (2 * k) < script.deadline retry

/-- The attempt is made: the deadline has not passed before it either. -/
def Started (k : Nat) : Prop := script.Due retry k ∧ script.clock (2 * k + 1) < script.deadline retry

/-- The errors of the first attempts that failed. -/
def failures (n : Nat) : List ConnectorError :=
  (List.range n).filterMap fun k =>
    match script.outcome k with
    | .error err => some err
    | .ok _ => none

end Script

/-! ## What the loop comes to -/

/-- What is known at the end, of the result and of what was done. -/
structure Lawful (script : Script) (connector : String) (retry : RetryPolicy)
    (result : Except ConnectorError Response) (w : Progress) : Prop where
  bounded : (w.attempts : Int) ≤ max 1 retry.max_attempts
  started_iff : ∀ k, k < w.attempts ↔ script.Started retry k
  success : ∀ k response, script.Started retry k → script.outcome k = .ok response →
    result = .ok response
  refused : ∀ k err, script.Started retry k → script.outcome k = .error err → err.retryable = false →
    result = .error err
  given_up : ∀ k err, script.Started retry k → script.outcome k = .error err → err.retryable = true →
    max 1 retry.max_attempts ≤ (k + 1 : Nat) ∨ script.deadline retry ≤ script.clock (2 * (k + 1) + 1) →
    ∃ detail, result = .error (.fatal connector detail)
  expired : ¬ script.Started retry 0 → ∃ detail, result = .error (.fatal connector detail)
  /-- Each failed attempt is recorded. -/
  recorded : ¬ script.Due retry w.attempts → w.recorded = script.failures w.attempts
  /-- A deadline that is found passed before another attempt is recorded as well. -/
  recorded_late : script.Due retry w.attempts →
    w.recorded = script.failures w.attempts ++ [.fatal connector "Total deadline exceeded."]

section law
variable {script : Script} {connector : String} {retry : RetryPolicy} {n k : Nat}
variable {result : Except ConnectorError Response} {err : ConnectorError}

/-- The loop has made the attempts before the one that it comes to. -/
theorem Due.started (h : script.Due retry n) (hk : k < n) : script.Started retry k := by
  have hclock : script.clock (2 * n) < script.deadline retry := h.in_time (by omega)
  have hbefore : script.clock (2 * k + 1) ≤ script.clock (2 * n) := script.clock_mono (by omega)
  have hearlier : script.clock (2 * k) ≤ script.clock (2 * n) := script.clock_mono (by omega)
  have hallowed := h.allowed
  refine ⟨⟨by omega, fun j hj => h.retried j (by omega), fun _ => ?_⟩, ?_⟩
  · exact lt_of_le_of_lt hearlier hclock
  · exact lt_of_le_of_lt hbefore hclock

theorem Started.le (h : script.Started retry n) (hk : k ≤ n) : script.Started retry k := by
  by_cases heq : k = n
  · rw [heq]
    exact h
  · exact Due.started h.1 (by omega)

theorem failures_error (h : script.outcome n = .error err) :
    script.failures (n + 1) = script.failures n ++ [err] := by
  simp [Script.failures, List.range_succ, h]

theorem failures_ok {response : Response} (h : script.outcome n = .ok response) :
    script.failures (n + 1) = script.failures n := by
  simp [Script.failures, List.range_succ, h]

/-- An end after the attempt `n`: its answer decides. -/
theorem Lawful.last {readings draws : Nat} (hstarted : script.Started retry n)
    (hlast : ¬ script.Due retry (n + 1))
    (hok : ∀ response, script.outcome n = .ok response → result = .ok response)
    (hrefused : ∀ err, script.outcome n = .error err → err.retryable = false → result = .error err)
    (hgiven_up : ∀ err, script.outcome n = .error err → err.retryable = true →
      ∃ detail, result = .error (.fatal connector detail)) :
    Lawful script connector retry result ⟨readings, n + 1, draws, script.failures (n + 1)⟩ := by
  have hstarted_iff : ∀ k, k < n + 1 ↔ script.Started retry k := by
    intro k
    constructor
    · intro hk
      exact Started.le hstarted (by omega)
    · intro hk
      by_contra hbehind
      exact hlast (Started.le hk (show n + 1 ≤ k by omega)).1
  -- the attempts before it failed, with retryable errors
  have hlater : ∀ k, script.Started retry k → k ≠ n → script.FailsRetryably k := by
    intro k hk hne
    exact hstarted.1.retried k (by have := (hstarted_iff k).mpr hk; omega)
  refine ⟨?_, hstarted_iff, ?_, ?_, ?_, ?_, fun _ => rfl, fun hdue => absurd hdue hlast⟩
  · have hallowed := hstarted.1.allowed
    show ((n + 1 : Nat) : Int) ≤ _
    omega
  · intro k response hk hresponse
    by_cases hkn : k = n
    · exact hok response (hkn ▸ hresponse)
    · obtain ⟨err, herr, -⟩ := hlater k hk hkn
      cases herr.symm.trans hresponse
  · intro k err hk herr hfinal
    by_cases hkn : k = n
    · exact hrefused err (hkn ▸ herr) hfinal
    · obtain ⟨err', herr', hretryable⟩ := hlater k hk hkn
      cases herr'.symm.trans herr
      cases hretryable.symm.trans hfinal
  · intro k err hk herr hretryable hend
    by_cases hkn : k = n
    · exact hgiven_up err (hkn ▸ herr) hretryable
    · -- another attempt was made
      have hnext : script.Started retry (k + 1) :=
        (hstarted_iff _).mp (by have := (hstarted_iff k).mpr hk; omega)
      have hallowed := hnext.1.allowed
      have hclock := hnext.2
      rcases hend with hlimit | hlate
      · omega
      · exact absurd hclock (not_lt.mpr hlate)
  · intro hnone
    exact absurd (Started.le hstarted (Nat.zero_le n)) hnone

theorem Lawful.failed {readings draws : Nat} (hstarted : script.Started retry n)
    (herr : script.outcome n = .error err) (hlast : ¬ script.Due retry (n + 1))
    (hrefused : err.retryable = false → result = .error err)
    (hgiven_up : err.retryable = true → ∃ detail, result = .error (.fatal connector detail)) :
    Lawful script connector retry result ⟨readings, n + 1, draws, script.failures (n + 1)⟩ := by
  refine Lawful.last hstarted hlast ?_ ?_ ?_
  · intro response hresponse
    cases herr.symm.trans hresponse
  · intro err' herr' hfinal
    cases herr.symm.trans herr'
    exact hrefused hfinal
  · intro err' herr' hretryable
    cases herr.symm.trans herr'
    exact hgiven_up hretryable

/-- An end before the attempt `n`. -/
theorem Lawful.late {readings draws : Nat} (hdue : script.Due retry n)
    (hlate : script.deadline retry ≤ script.clock (2 * n + 1)) :
    Lawful script connector retry (.error (.fatal connector "Total deadline exceeded."))
      ⟨readings, n, draws, script.failures n ++ [.fatal connector "Total deadline exceeded."]⟩ := by
  have hstarted_iff : ∀ k, k < n ↔ script.Started retry k := by
    intro k
    constructor
    · exact Due.started hdue
    · intro hk
      by_contra hbehind
      exact absurd (Started.le hk (show n ≤ k by omega)).2 (not_lt.mpr hlate)
  have hfailed : ∀ k, script.Started retry k → script.FailsRetryably k :=
    fun k hk => hdue.retried k ((hstarted_iff k).mpr hk)
  refine ⟨le_of_lt hdue.allowed, hstarted_iff, ?_, ?_, fun _ _ _ _ _ _ => ⟨_, rfl⟩, fun _ => ⟨_, rfl⟩,
    fun hnot => absurd hdue hnot, fun _ => rfl⟩
  · intro k response hk hresponse
    obtain ⟨err, herr, -⟩ := hfailed k hk
    cases herr.symm.trans hresponse
  · intro k err hk herr hfinal
    obtain ⟨err', herr', hretryable⟩ := hfailed k hk
    cases herr'.symm.trans herr
    cases hretryable.symm.trans hfinal

/-- Where the loop stands before its attempt `n`. -/
def Before (script : Script) (retry : RetryPolicy) (n : Nat) (w : Progress) : Prop :=
  script.Due retry n ∧ w = ⟨2 * n + 1, n, n, script.failures n⟩

/-- How many rounds may follow. -/
def rounds_left (retry : RetryPolicy) (n : Nat) : Nat := (max 1 retry.max_attempts - 1 - n).toNat

/-- A round ends the loop, or leads to the next attempt. -/
abbrev Goes (script : Script) (connector : String) (retry : RetryPolicy) (n : Nat) :
    Except ConnectorError (Nat ⊕ Response) × Progress → Prop :=
  Round (fun s w => Before script retry s w ∧ rounds_left retry s < rounds_left retry n)
    (Lawful script connector retry)

theorem goes_after_failure (hstarted : script.Started retry n) (herr : script.outcome n = .error err) :
    Goes script connector retry n ((after_failure connector retry (script.deadline retry) (n + 1) err).run
      (exec script) ⟨2 * n + 2, n + 1, n, script.failures n⟩) := by
  have hrecorded := failures_error herr
  have hcast : ((n + 1 : Nat) : Int) = n + 1 := by push_cast; rfl
  have hnext : 2 * (n + 1) = 2 * n + 2 := by omega
  simp only [after_failure, jitter_wait, run_bind, run_perform, exec, ← hrecorded]
  by_cases hretryable : err.retryable = true
  · by_cases hlimit : retry.max_attempts ≤ ((n + 1 : Nat) : Int)
    · -- no attempt is left
      simp only [hretryable, hlimit, decide_true, Bool.or_true, Bool.and_self, if_true, run_raise]
      refine .raised (Lawful.failed hstarted herr ?_ ?_ fun _ => ⟨_, rfl⟩)
      · intro hdue
        have hallowed := hdue.allowed
        omega
      · intro hfinal
        cases hretryable.symm.trans hfinal
    · simp only [hretryable, hlimit, decide_false, Bool.not_true, Bool.or_self, Bool.false_eq_true, if_false,
        run_bind, run_perform, exec]
      by_cases hremaining : script.deadline retry - script.clock (2 * n + 2) ≤ 0
      · rw [if_pos hremaining]
        refine .raised (Lawful.failed hstarted herr ?_ ?_ fun _ => ⟨_, rfl⟩)
        · intro hdue
          have hclock := hdue.in_time (Nat.succ_pos n)
          rw [hnext] at hclock
          linarith
        · intro hfinal
          cases hretryable.symm.trans hfinal
      · -- the next round
        rw [if_neg hremaining]
        have hallowed : ((n + 1 : Nat) : Int) < max 1 retry.max_attempts := by omega
        refine .again ⟨⟨⟨hallowed, ?_, ?_⟩, rfl⟩, ?_⟩
        · intro j hj
          by_cases hjn : j = n
          · exact ⟨err, hjn ▸ herr, hretryable⟩
          · exact hstarted.1.retried j (by omega)
        · intro _
          rw [hnext]
          linarith
        · unfold rounds_left
          omega
  · -- raised again as it is
    rw [Bool.not_eq_true] at hretryable
    simp only [hretryable, Bool.not_false, Bool.true_or, Bool.false_and, Bool.false_eq_true, if_true, if_false,
      run_raise]
    refine .raised (Lawful.failed hstarted herr ?_ (fun _ => rfl) ?_)
    · intro hdue
      obtain ⟨err', herr', hretryable'⟩ := hdue.retried n (Nat.lt_succ_self n)
      cases herr.symm.trans herr'
      cases hretryable.symm.trans hretryable'
    · intro hretryable'
      cases hretryable.symm.trans hretryable'

/-- What one round does. -/
theorem goes_round {w : Progress} (h : Before script retry n w) :
    Goes script connector retry n
      ((round connector retry (script.deadline retry) n).run (exec script) w) := by
  obtain ⟨hdue, rfl⟩ := h
  simp only [round, run_bind, run_perform, exec]
  by_cases hlate : script.deadline retry ≤ script.clock (2 * n + 1)
  · simp only [hlate, if_true, run_bind, run_perform, exec, run_raise]
    exact .raised (Lawful.late hdue hlate)
  · have hstarted : script.Started retry n := ⟨hdue, not_le.mp hlate⟩
    simp only [hlate, if_false, run_bind, run_attempt, run_perform, exec]
    cases houtcome : script.outcome n with
    | ok response =>
      simp only [run_ret, ← failures_ok houtcome]
      refine .done (Lawful.last hstarted ?_ ?_ ?_ ?_)
      · intro hdue
        obtain ⟨err, herr, -⟩ := hdue.retried n (Nat.lt_succ_self n)
        cases houtcome.symm.trans herr
      · intro response' hresponse
        cases houtcome.symm.trans hresponse
        rfl
      · intro err herr _
        cases houtcome.symm.trans herr
      · intro err herr _
        cases houtcome.symm.trans herr
    | error err => exact goes_after_failure hstarted houtcome

end law

/-- **The law of the retry loop.** For every policy, all answers and every clock that does not go back the
    loop ends, after at most `max(1, max_attempts)` attempts and with any fuel from there on alike. It
    returns the first success, raises an error that is not retryable as it is, and turns a retryable
    one at the limit or past the deadline into a `FatalError`; each failed attempt is recorded once,
    and a deadline found passed before an attempt once more. -/
theorem retry_loop_law (script : Script) (connector : String) (retry : RetryPolicy) :
    ∃ result w, Lawful script connector retry result w ∧
      ∀ fuel : Nat, max 1 retry.max_attempts ≤ fuel →
        (execute_with_retry connector retry fuel).run (exec script) Progress.new =
          (result.map some, w) := by
  have hbefore : Before script retry 0 ⟨1, 0, 0, []⟩ := by
    refine ⟨⟨?_, fun j hj => absurd hj (Nat.not_lt_zero j), fun hlt => absurd hlt (lt_irrefl 0)⟩, rfl⟩
    show ((0 : Nat) : Int) < _
    omega
  have hround : ∀ n w, Before script retry n w → Goes script connector retry n
      ((round connector retry (script.deadline retry) n).run (exec script) w) :=
    fun _ _ h => goes_round h
  obtain ⟨result, w, hlawful, hruns⟩ := run_loop hround hbefore
  refine ⟨result, w, hlawful, ?_⟩
  intro fuel hfuel
  exact hruns fuel (by unfold rounds_left; omega)

/-! ## The program of the client -/

section client
variable {env : Env} {retry : RetryPolicy} {deadline : ℚ}

/-- An attempt is started. -/
def started (w : World) : World := { w with starts := (w.now, w.health.read w.now) :: w.starts }

/-- The clock, the vendor, the health and the draws of the client. A successful answer is recorded
    right away, as the client does it. -/
def client (env : Env) : Program.Service Call Call.Resp ConnectorError World
  | .monotonic, w => (.ok (w.tick env).now, w.tick env)
  | .single_attempt, w =>
    let answered := { started w with answers := (started w).answers + 1 }
    match (started w).single_attempt env with
    | .ok response => (.ok response, { answered with
        health := answered.health.record_success
        successes := response :: answered.successes })
    | .error err => (.error err, answered)
  | .record_failure err, w => (.ok (), w.record_failure env err.exn)
  | .uniform ceiling, w => (.ok (env.random w.draws * ceiling), { w with draws := w.draws + 1 })
  | .sleep seconds, w => (.ok (), (Connectors.exec env (.sleep (w.now + max 0 seconds)) w).2)

/-- An outcome with the exception that the client raises. -/
def shown {α : Type} (out : Except ConnectorError α × World) : Except Exn α × World :=
  (out.1.mapError ConnectorError.exn, out.2)

theorem after_failure_alike (retry : RetryPolicy) (deadline : ℚ) (attempt : Nat) (err : ConnectorError)
    (w : World) :
    shown ((after_failure env.connector retry deadline attempt err).run (client env) w) =
      match w.attempt_failed env retry attempt deadline err with
      | (.ok (.inl response), w') => (.ok (.inr response), w')
      | (.ok (.inr wake_at), w') =>
        (.ok (.inl attempt), (Connectors.exec env (.sleep wake_at) w').2)
      | (.error e, w') => (.error e, w') := by
  simp only [after_failure, jitter_wait, World.attempt_failed, run_bind, run_perform, client]
  by_cases hfinal : (!err.retryable || decide (retry.max_attempts ≤ attempt)) = true
  · rw [if_pos hfinal, if_pos hfinal]
    by_cases hlimit : (err.retryable && decide (retry.max_attempts ≤ attempt)) = true
    · rw [if_pos hlimit, if_pos hlimit]
      rfl
    · rw [if_neg hlimit, if_neg hlimit]
      rfl
  · rw [if_neg hfinal, if_neg hfinal]
    simp only [run_bind, run_perform, client]
    -- the draw and the reading of the clock
    have hclock : ({ w.record_failure env err.exn with
        draws := (w.record_failure env err.exn).draws + 1 } : World).tick env =
      { (w.record_failure env err.exn).tick env with
        draws := (w.record_failure env err.exn).draws + 1 } := rfl
    rw [hclock]
    by_cases hremaining : deadline - ((w.record_failure env err.exn).tick env).now ≤ 0
    · rw [if_pos hremaining, if_pos hremaining]
      rfl
    · rw [if_neg hremaining, if_neg hremaining]
      rfl

theorem round_alike (retry : RetryPolicy) (deadline : ℚ) (n : Nat) (w : World) :
    shown ((round env.connector retry deadline n).run (client env) w) =
      match Connectors.exec env (.resume deadline) w with
      | (.error e, w') => (.error e, w')
      | (.ok _, w') =>
        match Connectors.exec env (.answer retry (n + 1) deadline) w' with
        | (.ok (.inl response), w'') => (.ok (.inr response), w'')
        | (.ok (.inr wake_at), w'') =>
          (.ok (.inl (n + 1)), (Connectors.exec env (.sleep wake_at) w'').2)
        | (.error e, w'') => (.error e, w'') := by
  have hresume : Connectors.exec env (.resume deadline) w =
      if deadline ≤ (w.tick env).now then
        (.error (ConnectorError.fatal env.connector "Total deadline exceeded.").exn,
          (w.tick env).record_failure env
            (ConnectorError.fatal env.connector "Total deadline exceeded.").exn)
      else (.ok (), started (w.tick env)) := rfl
  rw [hresume]
  simp only [round, run_bind, run_perform, client]
  by_cases hlate : deadline ≤ (w.tick env).now
  · rw [if_pos hlate, if_pos hlate]
    rfl
  · rw [if_neg hlate, if_neg hlate]
    simp only [run_bind, run_attempt, run_perform, client, Connectors.exec, World.take_answer]
    generalize started (w.tick env) = w'
    cases w'.single_attempt env with
    | ok response => rfl
    | error err =>
      have hfailure := @after_failure_alike env retry deadline (n + 1) err
        { w' with answers := w'.answers + 1 }
      simp only
      rw [hfailure]
      rcases World.attempt_failed env retry (n + 1) deadline err { w' with answers := w'.answers + 1 } with
        ⟨r, w''⟩
      rcases r with e | response | wake_at <;> rfl

theorem shown_ok {α : Type} {out : Except ConnectorError α × World} {a : α} {w : World}
    (h : shown out = (.ok a, w)) : out = (.ok a, w) := by
  rcases out with ⟨r, w'⟩
  cases r with
  | ok b =>
    cases h
    rfl
  | error err => cases h

theorem shown_error {α : Type} {out : Except ConnectorError α × World} {e : Exn} {w : World}
    (h : shown out = (.error e, w)) : ∃ err : ConnectorError, out = (.error err, w) ∧ err.exn = e := by
  rcases out with ⟨r, w'⟩
  cases r with
  | ok b => cases h
  | error err =>
    cases h
    exact ⟨err, rfl, rfl⟩

/-- Where the run of a program is known, with the result that the loop hands over. -/
def finished (out : Except Exn Response × World) : Except Exn (Option Response) × World :=
  (out.1.map some, out.2)

/-- One attempt of the client, and what `rest` does after it. -/
theorem attempt_alike {fuel n : Nat} {rest : Response ⊕ ℚ → Connectors.M Response}
    (hreturns : ∀ response, rest (.inl response) = .ret response)
    (hrest : ∀ w wake_at w',
      Connectors.exec env (.answer retry (n + 1) deadline) w = (.ok (.inr wake_at), w') →
      shown ((loop (round env.connector retry deadline) fuel (n + 1)).run (client env)
          (Connectors.exec env (.sleep wake_at) w').2) =
        finished ((rest (.inr wake_at)).run (Connectors.exec env) w'))
    (w : World) :
    shown ((loop (round env.connector retry deadline) (fuel + 1) n).run (client env) w) =
      finished (((Connectors.await (.resume deadline)).bind fun _ =>
        (Connectors.await (.answer retry (n + 1) deadline)).bind rest).run (Connectors.exec env) w) := by
  have hround := @round_alike env retry deadline n w
  rcases hresume : Connectors.exec env (.resume deadline) w with ⟨r, w₁⟩
  rw [hresume] at hround
  cases r with
  | error e =>
    obtain ⟨err, hrun, rfl⟩ := shown_error hround
    rw [run_loop_raised _ hrun, run_bind_error ((run_perform _ _).trans hresume)]
    rfl
  | ok _ =>
    rw [run_bind_ok ((run_perform _ _).trans hresume)]
    simp only at hround
    rcases hanswer : Connectors.exec env (.answer retry (n + 1) deadline) w₁ with ⟨r, w₂⟩
    rw [hanswer] at hround
    cases r with
    | error e =>
      obtain ⟨err, hrun, rfl⟩ := shown_error hround
      rw [run_loop_raised _ hrun, run_bind_error ((run_perform _ _).trans hanswer)]
      rfl
    | ok answer =>
      rw [run_bind_ok ((run_perform _ _).trans hanswer)]
      cases answer with
      | inl response =>
        rw [run_loop_done _ (shown_ok hround), hreturns]
        rfl
      | inr wake_at =>
        rw [run_loop_again _ (shown_ok hround)]
        exact hrest w₁ wake_at w₂ hanswer

/-- The attempts of the client, from the check of the deadline on. -/
theorem attempts_alike (retry : RetryPolicy) (deadline : ℚ) (left n : Nat)
    (hleft : (n : Int) + 1 + left = max 1 retry.max_attempts) (w : World) :
    shown ((loop (round env.connector retry deadline) (left + 1) n).run (client env) w) =
      finished (((Connectors.await (.resume deadline)).bind fun _ =>
        retry_loop retry deadline left (n + 1)).run (Connectors.exec env) w) := by
  induction left generalizing n w with
  | zero =>
    refine attempt_alike (fun _ => rfl) ?_ w
    intro w wake_at w' hanswer
    -- the failure of the last attempt is raised
    have hraised : ∃ e, (w.take_answer env retry (n + 1) deadline).1 = .error e ∨
        ∃ response, (w.take_answer env retry (n + 1) deadline).1 = .ok (.inl response) := by
      unfold World.take_answer
      cases w.single_attempt env with
      | ok response => exact ⟨.assertion_error, .inr ⟨response, rfl⟩⟩
      | error err =>
        obtain ⟨e, he⟩ := attempt_failed_last env retry (n + 1) deadline err
          { w with answers := w.answers + 1 } (by push_cast; omega)
        exact ⟨e, .inl he⟩
    rw [show w.take_answer env retry (n + 1) deadline = (.ok (.inr wake_at), w') from hanswer] at hraised
    obtain ⟨e, he | ⟨response, hresponse⟩⟩ := hraised
    · cases he
    · cases hresponse
  | succ left ih =>
    refine attempt_alike (fun _ => rfl) ?_ w
    intro w wake_at w' hanswer
    rw [ih (n + 1) (by push_cast at hleft ⊢; omega)]
    rfl

/-- **The loop is the program of the client.** With the clock, the vendor and the health of the client, and
    any fuel from `max(1, max_attempts)` on, it does what the client does and ends as the client does. -/
theorem execute_alike (env : Env) (retry : RetryPolicy) (w : World) :
    shown ((execute_with_retry env.connector retry (max 1 retry.max_attempts).toNat).run (client env) w) =
      finished ((Connectors.execute_with_retry false retry).run (Connectors.exec env) w) := by
  have hfuel : (max 1 retry.max_attempts).toNat = (retry.max_attempts - 1).toNat + 1 := by omega
  have halike := @attempts_alike env retry ((w.tick env).now + retry.total_deadline)
    (retry.max_attempts - 1).toNat 0 (by omega) (w.tick env)
  rw [hfuel, execute_with_retry, run_bind_ok (run_perform _ _)]
  refine halike.trans ?_
  -- the client reads the clock twice in its first call
  have hresume : Connectors.exec env (.resume ((w.tick env).now + retry.total_deadline)) (w.tick env) =
      (w.tick env).start_attempt env ((w.tick env).now + retry.total_deadline) := rfl
  unfold Connectors.execute_with_retry
  rcases hrun : (w.tick env).start_attempt env ((w.tick env).now + retry.total_deadline) with ⟨r, w'⟩
  rw [hrun] at hresume
  cases r with
  | ok _ =>
    have hstart : Connectors.exec env (.start false retry.total_deadline) w =
        (.ok ((w.tick env).now + retry.total_deadline), w') := first_attempt_passed hrun
    rw [run_bind_ok ((run_perform _ _).trans hstart), run_bind_ok ((run_perform _ _).trans hresume)]
  | error e =>
    have hstart : Connectors.exec env (.start false retry.total_deadline) w = (.error e, w') :=
      first_attempt_refused hrun
    rw [run_bind_error ((run_perform _ _).trans hstart), run_bind_error ((run_perform _ _).trans hresume)]

end client

end CaseAutomation.Connectors.RetryLoop
