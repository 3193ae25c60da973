import CaseAutomation.Base.Errors
import Mathlib.Algebra.Order.Ring.Rat
import Mathlib.Tactic.Linarith

/-! # The Circuit Breaker of a Connector

    `ConnectorHealth` of `connectors/health.py`. Successes and failures are reported to it, and
    the step from `open` to `half_open` is taken when the state is read. Times are readings
    of `time.monotonic()` in seconds. Log lines and the gauge are left out.
-/

namespace CaseAutomation.Connectors

/-- `HealthState`; `opened` is the state that the source calls `open`. -/
inductive HealthState where
  | healthy
  | degraded
  | opened
  | half_open
  deriving DecidableEq, Repr

structure ConnectorHealth where
  connector : String
  failure_threshold : Int
  cool_down_seconds : ℚ
  state : HealthState
  consecutive_failures : Nat
  opened_at : Option ℚ
  last_error : Option Exn
  deriving DecidableEq

namespace ConnectorHealth

/-- `ConnectorHealth(connector, failure_threshold, cool_down_seconds)`. -/
def new (connector : String) (failure_threshold : Int) (cool_down_seconds : ℚ) :
    ConnectorHealth where
  connector := connector
  failure_threshold := failure_threshold
  cool_down_seconds := cool_down_seconds
  state := .healthy
  consecutive_failures := 0
  opened_at := none
  last_error := none

/-- `record_success`. -/
def record_success (health : ConnectorHealth) : ConnectorHealth :=
  let health := { health with consecutive_failures := 0, last_error := none }
  match health.state with
  | .healthy => health
  | .half_open | .opened | .degraded => { health with state := .healthy, opened_at := none }

/-- The failures from which a connector counts as degraded. -/
def degraded_from (failure_threshold : Int) : Int := max 1 (failure_threshold / 2)

/-- `record_failure`. -/
def record_failure (health : ConnectorHealth) (error : Exn) (now : ℚ) : ConnectorHealth :=
  let health := { health with
    last_error := some error
    consecutive_failures := health.consecutive_failures + 1 }
  match health.state with
  | .half_open => { health with state := .opened, opened_at := some now }
  | .opened => health
  | .healthy | .degraded =>
    if health.failure_threshold ≤ health.consecutive_failures then
      { health with state := .opened, opened_at := some now }
    else if degraded_from health.failure_threshold ≤ health.consecutive_failures then
      { health with state := .degraded }
    else health

/-- `_maybe_transition_to_half_open`. -/
def maybe_transition_to_half_open (health : ConnectorHealth) (now : ℚ) : ConnectorHealth :=
  match health.state, health.opened_at with
  | .opened, some opened_at =>
    if health.cool_down_seconds ≤ now - opened_at then { health with state := .half_open }
    else health
  | _, _ => health

/-- The property `state`: what is read, after the transition that may be due. -/
def read (health : ConnectorHealth) (now : ℚ) : HealthState :=
  (health.maybe_transition_to_half_open now).state

/-- The property `is_open`. -/
def is_open (health : ConnectorHealth) (now : ℚ) : Bool := decide (health.read now = .opened)

end ConnectorHealth

/-! ## Histories -/

/-- `Reached t c health failures opened now`: some sequence of reports and reads, with a clock that
    never goes back and stands at `now`, brings a new breaker to `health`. Since the last success
    (or the start) there were `failures` failures. `opened` is the time of the last one that opened
    the circuit: the `t`-th in a row, or a later one while the stored state was half open. -/
inductive Reached (t : Int) (c : ℚ) : ConnectorHealth → Nat → Option ℚ → ℚ → Prop where
  | start (connector : String) (now : ℚ) : Reached t c (.new connector t c) 0 none now
  | success {health : ConnectorHealth} {failures : Nat} {opened : Option ℚ} {now now' : ℚ} :
      Reached t c health failures opened now → now ≤ now' →
      Reached t c health.record_success 0 none now'
  | failure {health : ConnectorHealth} {failures : Nat} {opened : Option ℚ} {now now' : ℚ}
      (error : Exn) : Reached t c health failures opened now → now ≤ now' →
      Reached t c (health.record_failure error now') (failures + 1)
        (if (failures + 1 : Int) = t ∨ t ≤ failures ∧ health.state = .half_open then some now'
          else opened) now'
  | read {health : ConnectorHealth} {failures : Nat} {opened : Option ℚ} {now now' : ℚ} :
      Reached t c health failures opened now → now ≤ now' →
      Reached t c (health.maybe_transition_to_half_open now') failures opened now'

/-- What the stored fields say about the history. -/
structure Tracks (t : Int) (c : ℚ) (health : ConnectorHealth) (failures : Nat)
    (opened : Option ℚ) (now : ℚ) : Prop where
  threshold : health.failure_threshold = t
  cool_down : health.cool_down_seconds = c
  count : health.consecutive_failures = failures
  healthy : failures < ConnectorHealth.degraded_from t → health.state = .healthy
  degraded : ConnectorHealth.degraded_from t ≤ failures → failures < t → health.state = .degraded
  tripped : t ≤ failures → (health.state = .opened ∨ health.state = .half_open) ∧
    health.opened_at = opened ∧ ∃ time, opened = some time ∧
      (health.state = .half_open → c ≤ now - time)

section tracks
variable {t : Int} {c : ℚ} {health : ConnectorHealth} {failures : Nat} {opened : Option ℚ}
  {now now' : ℚ}

theorem degraded_from_le (ht : 1 ≤ t) : ConnectorHealth.degraded_from t ≤ t := by
  unfold ConnectorHealth.degraded_from
  omega

theorem degraded_from_pos (t : Int) : 0 < ConnectorHealth.degraded_from t := by
  unfold ConnectorHealth.degraded_from
  omega

/-- The three ranges of the count. -/
theorem range_cases (t : Int) (failures : Nat) : (failures : Int) < ConnectorHealth.degraded_from t ∨
    ConnectorHealth.degraded_from t ≤ failures ∧ failures < t ∨ t ≤ failures := by
  omega

theorem Tracks.start (ht : 1 ≤ t) (connector : String) (now : ℚ) :
    Tracks t c (.new connector t c) 0 none now := by
  refine ⟨rfl, rfl, rfl, fun _ => rfl, ?_, ?_⟩
  · intro hfrom
    have hpos := degraded_from_pos t
    omega
  · intro htripped
    omega

theorem Tracks.success (ht : 1 ≤ t) (h : Tracks t c health failures opened now) :
    Tracks t c health.record_success 0 none now' := by
  have hstate : health.record_success.state = .healthy := by
    unfold ConnectorHealth.record_success
    cases health.state <;> simp
  have hconfig : health.record_success.failure_threshold = health.failure_threshold ∧
      health.record_success.cool_down_seconds = health.cool_down_seconds ∧
      health.record_success.consecutive_failures = 0 := by
    unfold ConnectorHealth.record_success
    cases health.state <;> simp
  refine ⟨hconfig.1.trans h.threshold, hconfig.2.1.trans h.cool_down, hconfig.2.2,
    fun _ => hstate, ?_, ?_⟩
  · intro hfrom
    have hpos := degraded_from_pos t
    omega
  · intro htripped
    omega

/-- A failure before the circuit has opened. -/
theorem Tracks.failure_closed (ht : 1 ≤ t) (h : Tracks t c health failures opened now)
    (error : Exn) (hclosed : (failures : Int) < t) :
    Tracks t c (health.record_failure error now') (failures + 1)
      (if (failures + 1 : Int) = t ∨ t ≤ failures ∧ health.state = .half_open then some now'
        else opened) now' := by
  have hstate : health.state = .healthy ∨ health.state = .degraded := by
    by_cases hfrom : ConnectorHealth.degraded_from t ≤ failures
    · exact .inr (h.degraded hfrom hclosed)
    · exact .inl (h.healthy (by omega))
  have hnext : health.record_failure error now' =
      let counted := { health with
        last_error := some error
        consecutive_failures := failures + 1 }
      if t ≤ (failures + 1 : Int) then { counted with state := .opened, opened_at := some now' }
      else if ConnectorHealth.degraded_from t ≤ (failures + 1 : Int) then
        { counted with state := .degraded }
      else counted := by
    unfold ConnectorHealth.record_failure
    obtain hs | hs := hstate <;> simp [hs, h.count, h.threshold]
  rw [hnext]
  by_cases hopens : t ≤ (failures + 1 : Int)
  · have hlast : (failures + 1 : Int) = t := by omega
    rw [if_pos hopens, if_pos (.inl hlast)]
    refine ⟨h.threshold, h.cool_down, rfl, ?_, ?_, ?_⟩
    · intro hbelow
      have hle := degraded_from_le ht
      push_cast at hbelow
      omega
    · intro _ hbelow
      push_cast at hbelow
      omega
    · intro _
      refine ⟨.inl rfl, rfl, now', rfl, ?_⟩
      intro hs
      cases hs
  · have hlast : ¬ ((failures + 1 : Int) = t ∨ t ≤ failures ∧ health.state = .half_open) := by
      omega
    simp only [if_neg hopens, if_neg hlast]
    split
    · next hfrom =>
      refine ⟨h.threshold, h.cool_down, rfl, ?_, fun _ _ => rfl, ?_⟩
      · intro hbelow
        push_cast at hbelow
        omega
      · intro htripped
        push_cast at htripped
        omega
    · next hfrom =>
      refine ⟨h.threshold, h.cool_down, rfl, ?_, ?_, ?_⟩
      · intro _
        exact h.healthy (by omega)
      · intro hfrom' _
        push_cast at hfrom'
        omega
      · intro htripped
        push_cast at htripped
        omega

/-- From the threshold on only the circuit itself has to be followed. -/
theorem Tracks.of_tripped (ht : 1 ≤ t) (htripped : t ≤ (failures : Int))
    (hthreshold : health.failure_threshold = t) (hcool : health.cool_down_seconds = c)
    (hcount : health.consecutive_failures = failures)
    (hcircuit : (health.state = .opened ∨ health.state = .half_open) ∧
      health.opened_at = opened ∧ ∃ time, opened = some time ∧
        (health.state = .half_open → c ≤ now - time)) :
    Tracks t c health failures opened now := by
  have hle := degraded_from_le ht
  refine ⟨hthreshold, hcool, hcount, ?_, ?_, fun _ => hcircuit⟩
  · intro hbelow
    omega
  · intro _ hbelow
    omega

/-- A failure after the circuit has opened: only one in the half-open state opens it again. -/
theorem Tracks.failure_tripped (ht : 1 ≤ t) (h : Tracks t c health failures opened now)
    (error : Exn) (htripped : t ≤ (failures : Int)) :
    Tracks t c (health.record_failure error now') (failures + 1)
      (if (failures + 1 : Int) = t ∨ t ≤ failures ∧ health.state = .half_open then some now'
        else opened) now' := by
  obtain ⟨hstate, hopened, time, rfl, hcooled⟩ := h.tripped htripped
  have hnot : (failures + 1 : Int) ≠ t := by omega
  have hpassed : t ≤ ((failures + 1 : Nat) : Int) := by
    push_cast
    omega
  obtain hs | hs := hstate
  · have hsame : ¬ ((failures + 1 : Int) = t ∨ t ≤ failures ∧ health.state = .half_open) := by
      rw [hs]
      simp [hnot]
    have hnext : health.record_failure error now' = { health with
        last_error := some error
        consecutive_failures := failures + 1 } := by
      simp [ConnectorHealth.record_failure, hs, h.count]
    rw [if_neg hsame, hnext]
    refine .of_tripped ht hpassed h.threshold h.cool_down rfl ⟨.inl hs, hopened, time, rfl, ?_⟩
    intro hhalf
    rw [show health.state = .half_open from hhalf] at hs
    cases hs
  · have hnext : health.record_failure error now' = { health with
        last_error := some error
        consecutive_failures := failures + 1
        state := .opened
        opened_at := some now' } := by
      simp [ConnectorHealth.record_failure, hs, h.count]
    rw [if_pos (.inr ⟨htripped, hs⟩), hnext]
    refine .of_tripped ht hpassed h.threshold h.cool_down rfl ⟨.inl rfl, rfl, now', rfl, ?_⟩
    intro hhalf
    cases hhalf

/-- A read only ever takes an open circuit to half open, when the cool-down is over. -/
theorem maybe_transition_cases (health : ConnectorHealth) (now : ℚ) :
    health.maybe_transition_to_half_open now = health ∨
      ∃ time, health.state = .opened ∧ health.opened_at = some time ∧
        health.cool_down_seconds ≤ now - time ∧
        health.maybe_transition_to_half_open now = { health with state := .half_open } := by
  unfold ConnectorHealth.maybe_transition_to_half_open
  split
  · next time hs hopened =>
    split
    · next hdue => exact .inr ⟨time, hs, hopened, hdue, rfl⟩
    · exact .inl rfl
  · exact .inl rfl

theorem Tracks.read (h : Tracks t c health failures opened now) (hlater : now ≤ now') :
    Tracks t c (health.maybe_transition_to_half_open now') failures opened now' := by
  have hlast : t ≤ (failures : Int) → (health.state = .opened ∨ health.state = .half_open) ∧
      health.opened_at = opened ∧ ∃ time, opened = some time ∧
        (health.state = .half_open → c ≤ now' - time) := by
    intro htripped
    obtain ⟨hstate, hopened, time, htime, hcooled⟩ := h.tripped htripped
    refine ⟨hstate, hopened, time, htime, fun hhalf => ?_⟩
    have hdue := hcooled hhalf
    linarith
  obtain hsame | ⟨time, hs, hopened, hdue, hnext⟩ := maybe_transition_cases health now'
  · rw [hsame]
    exact ⟨h.threshold, h.cool_down, h.count, h.healthy, h.degraded, hlast⟩
  · rw [hnext]
    -- the circuit was open, so the threshold was reached
    have hreached : t ≤ (failures : Int) := by
      obtain hbelow | ⟨hfrom, hbelow⟩ | hreached := range_cases t failures
      · rw [h.healthy hbelow] at hs
        cases hs
      · rw [h.degraded hfrom hbelow] at hs
        cases hs
      · exact hreached
    refine ⟨h.threshold, h.cool_down, h.count, ?_, ?_, ?_⟩
    · intro hbelow
      rw [h.healthy hbelow] at hs
      cases hs
    · intro hfrom hbelow
      omega
    · intro _
      obtain ⟨-, hsame, time', htime, -⟩ := hlast hreached
      refine ⟨.inr rfl, hsame, time', htime, ?_⟩
      intro _
      rw [hsame, htime] at hopened
      cases hopened
      rwa [h.cool_down] at hdue

/-- **The fields track the history.** -/
theorem Reached.tracks (ht : 1 ≤ t) (h : Reached t c health failures opened now) :
    Tracks t c health failures opened now := by
  induction h with
  | start connector now => exact .start ht connector now
  | success _ _ ih => exact ih.success ht
  | @failure health failures opened now now' error _ _ ih =>
    by_cases hclosed : (failures : Int) < t
    · exact ih.failure_closed ht error hclosed
    · exact ih.failure_tripped ht error (by omega)
  | read _ hlater ih => exact ih.read hlater

/-- Where the threshold is reached, the circuit reads half open once the cool-down is over. -/
theorem Tracks.read_half_open (h : Tracks t c health failures opened now) (hlater : now ≤ now')
    (htripped : t ≤ (failures : Int)) :
    health.read now' = .half_open ↔ ∃ time, opened = some time ∧ c ≤ now' - time := by
  obtain ⟨hstate, hopened, time, rfl, hcooled⟩ := h.tripped htripped
  have hdue : health.read now' = .half_open ↔ c ≤ now' - time := by
    unfold ConnectorHealth.read ConnectorHealth.maybe_transition_to_half_open
    obtain hs | hs := hstate
    · simp only [hs, hopened, h.cool_down]
      by_cases hover : c ≤ now' - time <;> simp [hover, hs]
    · have hover := hcooled hs
      have hcooled' : c ≤ now' - time := by linarith
      simp [hs, hcooled']
  rw [hdue]
  constructor
  · intro hover
    exact ⟨time, rfl, hover⟩
  · rintro ⟨time', htime, hover⟩
    cases htime
    exact hover

end tracks

/-- **The states of the breaker.** After any reports and reads, what is read next depends on the
    failures since the last success: healthy below `max(1, t // 2)`, degraded from there, and from
    `t` on open, or half open exactly when the cool-down has passed since the circuit last
    opened. -/
theorem state_by_failures {t : Int} {c : ℚ} {health : ConnectorHealth} {failures : Nat}
    {opened : Option ℚ} {now now' : ℚ} (ht : 1 ≤ t)
    (h : Reached t c health failures opened now) (hlater : now ≤ now') :
    (health.read now' = .healthy ↔ (failures : Int) < max 1 (t / 2)) ∧
    (health.read now' = .degraded ↔ max 1 (t / 2) ≤ (failures : Int) ∧ (failures : Int) < t) ∧
    (health.read now' = .opened ∨ health.read now' = .half_open ↔ t ≤ (failures : Int)) ∧
    (t ≤ (failures : Int) →
      (health.read now' = .half_open ↔ ∃ time, opened = some time ∧ c ≤ now' - time)) := by
  have htracks := (h.tracks ht).read hlater
  have hle := degraded_from_le ht
  have hfrom : max 1 (t / 2) = ConnectorHealth.degraded_from t := rfl
  rw [hfrom]
  have hhalf := fun htripped => (h.tracks ht).read_half_open hlater htripped
  have hread : health.read now' = (health.maybe_transition_to_half_open now').state := rfl
  obtain hbelow | ⟨hmiddle, hbelow⟩ | htripped := range_cases t failures
  · have hs : health.read now' = .healthy := htracks.healthy hbelow
    refine ⟨?_, ?_, ?_, hhalf⟩
    · simp [hs, hbelow]
    · simp [hs, hbelow]
    · simp only [hs]
      constructor
      · rintro (h | h) <;> cases h
      · intro htripped
        omega
  · have hs : health.read now' = .degraded := htracks.degraded hmiddle hbelow
    refine ⟨?_, ?_, ?_, hhalf⟩
    · simp [hs, hmiddle]
    · simp [hs, hmiddle, hbelow]
    · simp only [hs]
      constructor
      · rintro (h | h) <;> cases h
      · intro htripped
        omega
  · obtain ⟨hstate, -⟩ := htracks.tripped htripped
    rw [← hread] at hstate
    refine ⟨?_, ?_, ?_, hhalf⟩
    · constructor
      · intro hs
        rw [hs] at hstate
        obtain h | h := hstate <;> cases h
      · intro hbelow
        omega
    · constructor
      · intro hs
        rw [hs] at hstate
        obtain h | h := hstate <;> cases h
      · rintro ⟨-, hbelow⟩
        omega
    · exact ⟨fun _ => htripped, fun _ => hstate⟩

/-- Two failures open a breaker of threshold 2, and a third one, which finds it half open, opens it
    again: sixty seconds later it reads half open. -/
theorem reopened_state_by_failures :
    ∃ health opened, Reached 2 60 health 3 opened 100 ∧ health.read 130 = .opened ∧
      (health.read 160 = .half_open ↔ ∃ time, opened = some time ∧ (60 : ℚ) ≤ 160 - time) := by
  have hstart : Reached 2 60 (.new "case" 2 60) 0 none 0 := .start "case" 0
  have hfailed := ((hstart.failure .recursion_error (le_refl 0)).failure .recursion_error
    (le_refl 0)).read (show (0 : ℚ) ≤ 60 by decide)
  have hagain := hfailed.failure .recursion_error (show (60 : ℚ) ≤ 100 by decide)
  refine ⟨_, _, hagain, by decide +kernel, ?_⟩
  exact (state_by_failures (by decide) hagain (show (100 : ℚ) ≤ 160 by decide)).2.2.2 (by decide)

end CaseAutomation.Connectors
