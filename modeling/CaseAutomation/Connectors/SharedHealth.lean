import CaseAutomation.Connectors.Health
import Mathlib.Algebra.Order.Floor.Ring
import Mathlib.Data.Rat.Floor
import Mathlib.Logic.Function.Basic

/-! # A Circuit Breaker Shared Over Redis

    `RedisConnectorHealth` of `connectors/redis_health.py`: any number of workers, each with a breaker
    of its own, share one key that says that the circuit is open. A worker sets the key when its own
    breaker is open after a failure, and deletes it after a success; `is_open` asks for the key
    only.

    The failures are counted by each worker for itself, a worker's own breaker never becomes half
    open, and the key lives for a whole number of seconds. So the workers together
    are like one breaker that is fed all their reports only as long as each failure
    means the same to the worker that reports it as to that one breaker
    (`shared_breaker_iff`).
-/

namespace CaseAutomation.Connectors

/-! ## The workers and the key -/

/-- `int(x)`. -/
def int_seconds (x : ℚ) : Int := x.num.tdiv x.den

/-- The breakers of the workers, and the key `cam:circuit_open:<connector>`. -/
structure SharedHealth (ι : Type) where
  workers : ι → ConnectorHealth
  /-- When the key expires, if it is set. -/
  open_until : Option ℚ

namespace SharedHealth

variable {ι : Type} [DecidableEq ι]

/-- `RedisConnectorHealth(connector, redis, failure_threshold, cool_down_seconds)` in every worker. -/
def new (connector : String) (failure_threshold : Int) (cool_down_seconds : ℚ) : SharedHealth ι :=
  ⟨fun _ => .new connector failure_threshold cool_down_seconds, none⟩

/-- `redis.set(key, "1", ex=ex)`; an expiry that is not positive is refused. -/
def set_open (shared : SharedHealth ι) (ex : Int) (now : ℚ) : SharedHealth ι :=
  if 0 < ex then { shared with open_until := some (now + ex) } else shared

/-- `is_open`. -/
def is_open (shared : SharedHealth ι) (_worker : ι) (now : ℚ) : Bool :=
  shared.open_until.any fun expiry => decide (now < expiry)

/-- `record_success`. -/
def record_success (shared : SharedHealth ι) (worker : ι) : SharedHealth ι where
  workers := Function.update shared.workers worker (shared.workers worker).record_success
  open_until := none

/-- `record_failure`. -/
def record_failure (shared : SharedHealth ι) (worker : ι) (error : Exn) (now : ℚ) :
    SharedHealth ι :=
  let health := (shared.workers worker).record_failure error now
  let shared := { shared with workers := Function.update shared.workers worker health }
  if health.state = .opened then shared.set_open (int_seconds health.cool_down_seconds) now
  else shared

end SharedHealth

/-! ## Reports -/

/-- What a worker reports or asks. -/
inductive Report (ι : Type) where
  | success (worker : ι)
  | failure (worker : ι) (error : Exn)
  | is_open (worker : ι)

/-- The workers, and one breaker that is fed the same reports. -/
structure Fed (ι : Type) where
  shared : SharedHealth ι
  single : ConnectorHealth
  /-- The time of the last report. -/
  now : ℚ

namespace Fed

variable {ι : Type} [DecidableEq ι]

def new (connector : String) (failure_threshold : Int) (cool_down_seconds now : ℚ) : Fed ι :=
  ⟨.new connector failure_threshold cool_down_seconds,
    .new connector failure_threshold cool_down_seconds, now⟩

/-- One report. -/
def step (s : Fed ι) (time : ℚ) : Report ι → Fed ι
  | .success worker => ⟨s.shared.record_success worker, s.single.record_success, time⟩
  | .failure worker error =>
    ⟨s.shared.record_failure worker error time, s.single.record_failure error time, time⟩
  | .is_open _ => ⟨s.shared, s.single.maybe_transition_to_half_open time, time⟩

/-- A sequence of reports, each with its time. -/
def after (s : Fed ι) : List (ℚ × Report ι) → Fed ι
  | [] => s
  | (time, report) :: rest => (s.step time report).after rest

/-- From now on all workers answer as the one breaker does. -/
def Agrees (s : Fed ι) : Prop :=
  ∀ worker now, s.now ≤ now → s.shared.is_open worker now = s.single.is_open now

end Fed

/-- The times do not go back. -/
def InTime {ι : Type} (now : ℚ) : List (ℚ × Report ι) → Prop
  | [] => True
  | (time, _) :: rest => now ≤ time ∧ InTime time rest

/-! ## The condition -/

/-- A failure leaves the breaker open: it is open, or half open, or the failure reaches its
    threshold. -/
def ConnectorHealth.trips (health : ConnectorHealth) : Prop :=
  health.state = .opened ∨ health.state = .half_open ∨
    health.failure_threshold ≤ health.consecutive_failures + 1

namespace SharedHealth
variable {ι : Type}

/-- The seconds for which the worker sets the key. -/
def ex (shared : SharedHealth ι) (worker : ι) : Int :=
  int_seconds (shared.workers worker).cool_down_seconds

/-- A failure at the worker sets the key. -/
def sets (shared : SharedHealth ι) (worker : ι) : Prop :=
  (shared.workers worker).trips ∧ 0 < shared.ex worker

end SharedHealth

/-- The failure means the same to the worker as to the one breaker. While the one breaker is open,
    the worker's own does not trip (or the key would expire when the cool-down of the one
    breaker ends); otherwise the worker's own breaker trips if and only if the one breaker does,
    and then the cool-down is a whole number of seconds. A cool-down of less than a second never
    sets the key. -/
structure Fits {ι : Type} (s : Fed ι) (worker : ι) (time : ℚ) : Prop where
  opened : s.single.state = .opened → s.shared.sets worker →
    s.single.opened_at.map (· + s.single.cool_down_seconds) = some (time + s.shared.ex worker)
  trips : s.single.state ≠ .opened → s.single.trips →
    s.shared.sets worker ∧ s.single.cool_down_seconds = s.shared.ex worker
  closed : s.single.state ≠ .opened → ¬ s.single.trips → ¬ s.shared.sets worker

/-! ## Expiry -/

/-- The expiry, if it is still to come. -/
def live (now : ℚ) (expiry : Option ℚ) : Option ℚ := expiry.filter fun e => decide (now < e)

theorem live_of_lt {now e : ℚ} (h : now < e) : live now (some e) = some e := by
  simp [live, h]

theorem live_of_le {now e : ℚ} (h : e ≤ now) : live now (some e) = none := by
  simp [live, h]

/-- Two expiries that cannot be told apart from now on. -/
theorem live_eq_iff (now : ℚ) (a b : Option ℚ) : live now a = live now b ↔
    ∀ time, now ≤ time →
      (a.any fun e => decide (time < e)) = (b.any fun e => decide (time < e)) := by
  have hany : ∀ (x : Option ℚ) time, now ≤ time →
      (x.any fun e => decide (time < e)) = (live now x).any fun e => decide (time < e) := by
    intro x time htime
    cases x with
    | none => rfl
    | some e =>
      by_cases he : now < e
      · rw [live_of_lt he]
      · rw [live_of_le (not_lt.mp he)]
        simp only [Option.any_some, Option.any_none, decide_eq_false_iff_not]
        linarith
  constructor
  · intro h time htime
    rw [hany a time htime, hany b time htime, h]
  · intro h
    have hlive : ∀ x e, live now x = some e → now < e := by
      intro x e hx
      simpa using (Option.filter_eq_some_iff.mp hx).2
    have hsame : ∀ time, now ≤ time → ((live now a).any fun e => decide (time < e)) =
        (live now b).any fun e => decide (time < e) := by
      intro time htime
      rw [← hany a time htime, ← hany b time htime]
      exact h time htime
    cases ha : live now a with
    | none =>
      cases hb : live now b with
      | none => rfl
      | some e =>
        -- b is still to come now
        have hnow := hsame now le_rfl
        rw [ha, hb] at hnow
        simp [hlive b e hb] at hnow
    | some e =>
      cases hb : live now b with
      | none =>
        have hnow := hsame now le_rfl
        rw [ha, hb] at hnow
        simp [hlive a e ha] at hnow
      | some e' =>
        -- at the earlier expiry the other one is not over
        have hat := hsame e (hlive a e ha).le
        have hat' := hsame e' (hlive b e' hb).le
        rw [ha, hb] at hat hat'
        have hle : e' ≤ e := by simpa using hat.symm
        have hle' : e ≤ e' := by simpa using hat'
        rw [le_antisymm hle' hle]

/-! ## One report -/

/-- When the cool-down of an open circuit ends. -/
def ConnectorHealth.cools_at (health : ConnectorHealth) : Option ℚ :=
  if health.state = .opened then health.opened_at.map (· + health.cool_down_seconds) else none

/-- What holds of the one breaker in every run. -/
structure ConnectorHealth.Sound (health : ConnectorHealth) : Prop where
  cool_down : 0 < health.cool_down_seconds
  opened : health.state = .opened → ∃ opened_at, health.opened_at = some opened_at

section one_report
variable {health : ConnectorHealth} {now : ℚ}

theorem ConnectorHealth.Sound.is_open (h : health.Sound) (now : ℚ) :
    health.is_open now = health.cools_at.any fun e => decide (now < e) := by
  unfold ConnectorHealth.is_open ConnectorHealth.read ConnectorHealth.maybe_transition_to_half_open
    ConnectorHealth.cools_at
  by_cases hstate : health.state = .opened
  · obtain ⟨opened_at, hat⟩ := h.opened hstate
    simp only [hstate, hat, if_true, Option.map_some, Option.any_some]
    by_cases hdue : health.cool_down_seconds ≤ now - opened_at
    · have hover : ¬ now < opened_at + health.cool_down_seconds := by linarith
      simp [hdue, hover]
    · have hbefore : now < opened_at + health.cool_down_seconds := by linarith
      simp [hdue, hbefore, hstate]
  · cases hs : health.state with
    | opened => exact absurd hs hstate
    | healthy => simp [hs]
    | degraded => simp [hs]
    | half_open => simp [hs]

theorem ConnectorHealth.Sound.success (h : health.Sound) : health.record_success.Sound := by
  unfold ConnectorHealth.record_success
  cases hstate : health.state with
  | healthy => exact ⟨h.cool_down, fun hs => by cases hs⟩
  | degraded => exact ⟨h.cool_down, fun hs => by cases hs⟩
  | opened => exact ⟨h.cool_down, fun hs => by cases hs⟩
  | half_open => exact ⟨h.cool_down, fun hs => by cases hs⟩

theorem cools_at_success (health : ConnectorHealth) : health.record_success.cools_at = none := by
  unfold ConnectorHealth.cools_at ConnectorHealth.record_success
  cases health.state <;> simp

/-- What a failure does to the state: an open circuit is left as it is, any other one
    opens if and only if the failure trips it. -/
theorem record_failure_cases (health : ConnectorHealth) (error : Exn) (now : ℚ) :
    (health.record_failure error now).cool_down_seconds = health.cool_down_seconds ∧
    ((health.state = .opened ∧ (health.record_failure error now).state = .opened ∧
        (health.record_failure error now).opened_at = health.opened_at) ∨
      (health.state ≠ .opened ∧ health.trips ∧ (health.record_failure error now).state = .opened ∧
        (health.record_failure error now).opened_at = some now) ∨
      (health.state ≠ .opened ∧ ¬ health.trips ∧
        (health.record_failure error now).state ≠ .opened)) := by
  unfold ConnectorHealth.record_failure ConnectorHealth.trips
  cases hstate : health.state with
  | opened => exact ⟨rfl, .inl ⟨rfl, rfl, rfl⟩⟩
  | half_open => exact ⟨rfl, .inr (.inl ⟨by simp, by simp, rfl, rfl⟩)⟩
  | healthy =>
    by_cases hreached : health.failure_threshold ≤ health.consecutive_failures + 1
    · simp [hreached]
    · simp only [Nat.cast_add, Nat.cast_one, if_neg hreached]
      split <;> simp [hreached]
  | degraded =>
    by_cases hreached : health.failure_threshold ≤ health.consecutive_failures + 1
    · simp [hreached]
    · simp only [Nat.cast_add, Nat.cast_one, if_neg hreached]
      split <;> simp [hreached]

theorem record_failure_opened (health : ConnectorHealth) (error : Exn) (now : ℚ) :
    (health.record_failure error now).state = .opened ↔ health.trips := by
  obtain ⟨hstate, hnext, -⟩ | ⟨-, htrips, hnext, -⟩ | ⟨-, htrips, hnext⟩ :=
    (record_failure_cases health error now).2
  · exact ⟨fun _ => .inl hstate, fun _ => hnext⟩
  · exact ⟨fun _ => htrips, fun _ => hnext⟩
  · exact ⟨fun h => absurd h hnext, fun h => absurd h htrips⟩

theorem ConnectorHealth.Sound.failure (h : health.Sound) (error : Exn) (now : ℚ) :
    (health.record_failure error now).Sound := by
  obtain ⟨hcool, hcases⟩ := record_failure_cases health error now
  refine ⟨hcool ▸ h.cool_down, ?_⟩
  intro hopened
  obtain ⟨hstate, -, hat⟩ | ⟨-, -, -, hat⟩ | ⟨-, -, hne⟩ := hcases
  · obtain ⟨opened_at, hsome⟩ := h.opened hstate
    exact ⟨opened_at, hat.trans hsome⟩
  · exact ⟨now, hat⟩
  · exact absurd hopened hne

theorem ConnectorHealth.Sound.read (h : health.Sound) (now : ℚ) :
    (health.maybe_transition_to_half_open now).Sound := by
  obtain hsame | ⟨time, -, -, -, hnext⟩ := maybe_transition_cases health now
  · rw [hsame]
    exact h
  · rw [hnext]
    exact ⟨h.cool_down, fun hs => by cases hs⟩

/-- A read changes nothing that is still to come. -/
theorem live_cools_at_read (health : ConnectorHealth) (now : ℚ) :
    live now (health.maybe_transition_to_half_open now).cools_at = live now health.cools_at := by
  obtain hsame | ⟨time, hstate, hat, hdue, hnext⟩ := maybe_transition_cases health now
  · rw [hsame]
  · have hover : time + health.cool_down_seconds ≤ now := by linarith
    have hbefore : health.cools_at = some (time + health.cool_down_seconds) := by
      simp [ConnectorHealth.cools_at, hstate, hat]
    rw [hnext, hbefore, live_of_le hover]
    simp [ConnectorHealth.cools_at, live]

end one_report

/-! ## The workers and the one breaker -/

namespace Fed

variable {ι : Type} [DecidableEq ι] {s : Fed ι}

omit [DecidableEq ι] in
/-- The workers agree with the one breaker as long as the key expires when its cool-down ends. -/
theorem agrees_iff (h : s.single.Sound) (worker : ι) :
    s.Agrees ↔ live s.now s.shared.open_until = live s.now s.single.cools_at := by
  rw [live_eq_iff]
  constructor
  · intro hagrees time htime
    have hworker := hagrees worker time htime
    rwa [h.is_open] at hworker
  · intro hlive worker time htime
    rw [h.is_open]
    exact hlive time htime

theorem live_later {now time : ℚ} (hlater : now ≤ time) {a b : Option ℚ} (h : live now a = live now b) :
    live time a = live time b := by
  rw [live_eq_iff] at h ⊢
  intro time' htime'
  exact h time' (hlater.trans htime')

/-- The key after a failure. -/
theorem record_failure_open_until (shared : SharedHealth ι) (worker : ι) (error : Exn) (now : ℚ) :
    (shared.sets worker ∧ (shared.record_failure worker error now).open_until =
        some (now + shared.ex worker)) ∨
      (¬ shared.sets worker ∧
        (shared.record_failure worker error now).open_until = shared.open_until) := by
  have htrips := record_failure_opened (shared.workers worker) error now
  have hcool := (record_failure_cases (shared.workers worker) error now).1
  unfold SharedHealth.record_failure
  simp only
  split
  · next hopened =>
    unfold SharedHealth.set_open SharedHealth.sets SharedHealth.ex
    rw [hcool]
    split
    · next hpos => exact .inl ⟨⟨htrips.mp hopened, hpos⟩, rfl⟩
    · next hpos => exact .inr ⟨fun hsets => hpos hsets.2, rfl⟩
  · next hopened => exact .inr ⟨fun hsets => hopened (htrips.mpr hsets.1), rfl⟩

omit [DecidableEq ι] in
/-- A key that is set lasts for a while. -/
theorem lasts {shared : SharedHealth ι} {worker : ι} (h : shared.sets worker) (time : ℚ) :
    time < time + shared.ex worker := by
  have hex : (0 : ℚ) < shared.ex worker := by exact_mod_cast h.2
  linarith

/-- **One failure.** The agreement survives it if and only if it fits. -/
theorem agrees_failure (h : s.single.Sound) {time : ℚ} (hlater : s.now ≤ time) (worker : ι)
    (error : Exn) (hagrees : s.Agrees) :
    (s.step time (.failure worker error)).Agrees ↔ Fits s worker time := by
  have hlive := live_later hlater ((agrees_iff h worker).mp hagrees)
  rw [agrees_iff (h.failure error time) worker]
  simp only [step]
  obtain ⟨hcool, hcases⟩ := record_failure_cases s.single error time
  have hkey := record_failure_open_until s.shared worker error time
  obtain ⟨hstate, hopened, hat⟩ | ⟨hstate, htrips, hopened, hat⟩ | ⟨hstate, htrips, hopened⟩ := hcases
  · -- the one breaker is open and stays as it is
    have hcools : (s.single.record_failure error time).cools_at = s.single.cools_at := by
      simp [ConnectorHealth.cools_at, hstate, hopened, hat, hcool]
    have hvalue : s.single.cools_at = s.single.opened_at.map (· + s.single.cool_down_seconds) := by
      simp [ConnectorHealth.cools_at, hstate]
    rw [hcools]
    obtain ⟨hsets, huntil⟩ | ⟨hsets, huntil⟩ := hkey
    · have hpos := lasts hsets time
      rw [huntil, live_of_lt hpos]
      constructor
      · intro hsame
        refine ⟨fun _ _ => ?_, fun hne => absurd hstate hne, fun hne => absurd hstate hne⟩
        rw [← hvalue]
        exact (Option.filter_eq_some_iff.mp hsame.symm).1
      · intro hfits
        rw [hvalue, hfits.opened hstate hsets, live_of_lt hpos]
    · rw [huntil]
      exact ⟨fun _ => ⟨fun _ hs => absurd hs hsets, fun hne => absurd hstate hne,
        fun hne => absurd hstate hne⟩, fun _ => hlive⟩
  · -- the failure opens the one breaker
    have hcools : (s.single.record_failure error time).cools_at =
        some (time + s.single.cool_down_seconds) := by
      simp [ConnectorHealth.cools_at, hopened, hat, hcool]
    have hbefore : s.single.cools_at = none := by
      simp [ConnectorHealth.cools_at, hstate]
    have hpos : time < time + s.single.cool_down_seconds := by
      have hcool_pos := h.cool_down
      linarith
    rw [hcools, live_of_lt hpos]
    obtain ⟨hsets, huntil⟩ | ⟨hsets, huntil⟩ := hkey
    · have hex_pos := lasts hsets time
      rw [huntil, live_of_lt hex_pos]
      constructor
      · intro hsame
        refine ⟨fun hs => absurd hs hstate, fun _ _ => ⟨hsets, ?_⟩, fun _ hn => absurd htrips hn⟩
        have hsum := Option.some.inj hsame
        linarith
      · intro hfits
        rw [(hfits.trips hstate htrips).2]
    · -- without a key no worker sees what has just opened
      rw [huntil, hlive, hbefore]
      constructor
      · intro hsame
        cases hsame
      · intro hfits
        exact absurd (hfits.trips hstate htrips).1 hsets
  · -- the one breaker stays closed
    have hcools : (s.single.record_failure error time).cools_at = none := by
      simp [ConnectorHealth.cools_at, hopened]
    have hbefore : s.single.cools_at = none := by
      simp [ConnectorHealth.cools_at, hstate]
    rw [hcools]
    obtain ⟨hsets, huntil⟩ | ⟨hsets, huntil⟩ := hkey
    · have hpos := lasts hsets time
      rw [huntil, live_of_lt hpos]
      -- a key where the one breaker is closed
      constructor
      · intro hsame
        cases hsame
      · intro hfits
        exact absurd hsets (hfits.closed hstate htrips)
    · rw [huntil, hlive, hbefore]
      exact ⟨fun _ => ⟨fun hs => absurd hs hstate, fun _ ht => absurd ht htrips,
        fun _ _ => hsets⟩, fun _ => rfl⟩

/-- Any report: a success and a question never end the agreement. -/
theorem agrees_step (h : s.single.Sound) {time : ℚ} (hlater : s.now ≤ time) (report : Report ι)
    (hagrees : s.Agrees) : (s.step time report).Agrees ↔
      ∀ worker error, report = .failure worker error → Fits s worker time := by
  cases report with
  | success worker =>
    have hnext : (s.step time (.success worker)).Agrees := by
      rw [agrees_iff h.success worker]
      simp [step, SharedHealth.record_success, cools_at_success]
    exact ⟨fun _ _ _ hr => (by cases hr), fun _ => hnext⟩
  | failure worker error =>
    rw [agrees_failure h hlater worker error hagrees]
    constructor
    · intro hfits worker' error' hr
      cases hr
      exact hfits
    · intro hfits
      exact hfits worker error rfl
  | is_open worker =>
    have hnext : (s.step time (.is_open worker)).Agrees := by
      rw [agrees_iff (h.read time) worker]
      have hlive := live_later hlater ((agrees_iff h worker).mp hagrees)
      exact hlive.trans (live_cools_at_read s.single time).symm
    exact ⟨fun _ _ _ hr => (by cases hr), fun _ => hnext⟩

@[simp] theorem step_now (s : Fed ι) (time : ℚ) (report : Report ι) :
    (s.step time report).now = time := by
  cases report <;> rfl

theorem sound_step (h : s.single.Sound) (time : ℚ) (report : Report ι) :
    (s.step time report).single.Sound := by
  cases report with
  | success worker => exact h.success
  | failure worker error => exact h.failure error time
  | is_open worker => exact h.read time

/-- **A run of reports.** The agreement lasts as long as every failure fits. -/
theorem agrees_after (reports : List (ℚ × Report ι)) : ∀ {s : Fed ι}, s.single.Sound → s.Agrees →
    InTime s.now reports → ((∀ n, (s.after (reports.take n)).Agrees) ↔
      ∀ n time worker error, reports[n]? = some (time, .failure worker error) →
        Fits (s.after (reports.take n)) worker time) := by
  induction reports with
  | nil =>
    intro s _ hagrees _
    refine ⟨fun _ n time worker error hr => ?_, fun _ n => ?_⟩
    · simp at hr
    · rw [List.take_nil]
      exact hagrees
  | cons first rest ih =>
    obtain ⟨time, report⟩ := first
    intro s h hagrees hin
    have hstep := agrees_step h hin.1 report hagrees
    have hrest := fun hnext => ih (sound_step h time report) hnext (by rw [step_now]; exact hin.2)
    constructor
    · intro hall n time' worker error hr
      have hnext : (s.step time report).Agrees := hall 1
      cases n with
      | zero =>
        cases hr
        exact hstep.mp hnext worker error rfl
      | succ n => exact (hrest hnext).mp (fun m => hall (m + 1)) n time' worker error hr
    · intro hall n
      cases n with
      | zero => exact hagrees
      | succ n =>
        have hnext : (s.step time report).Agrees :=
          hstep.mpr fun worker error hr => hall 0 time worker error (by rw [hr]; rfl)
        refine (hrest hnext).mpr ?_ n
        intro m time' worker error hr
        exact hall (m + 1) time' worker error hr

end Fed

/-- **The shared breaker is one breaker, where every failure fits.** Any number of workers, any
    reports and questions in time order: whenever the reports stop, all workers answer from then on
    as the one breaker does that was fed the same reports, if and only if each failure fits the
    worker that reports it. -/
theorem shared_breaker_iff {ι : Type} [DecidableEq ι] (connector : String) (failure_threshold : Int)
    (cool_down_seconds now : ℚ) (hcool : 0 < cool_down_seconds) (reports : List (ℚ × Report ι))
    (hin : InTime now reports) :
    (∀ n, ((Fed.new connector failure_threshold cool_down_seconds now).after
        (reports.take n)).Agrees) ↔
      ∀ n time worker error, reports[n]? = some (time, .failure worker error) →
        Fits ((Fed.new connector failure_threshold cool_down_seconds now).after
          (reports.take n)) worker time := by
  have hsound : (ConnectorHealth.new connector failure_threshold cool_down_seconds).Sound :=
    ⟨hcool, fun hs => by cases hs⟩
  refine Fed.agrees_after reports hsound ?_ hin
  intro worker time _
  exact (hsound.is_open time).symm

/-- A failure of the vendor. -/
def vendor_failure : Exn := .connector .TransientError "clio" "HTTP 503"

/-- Two workers that trip at a failure: one opens the circuit, the other asks, closes it with a
    success and opens it again. -/
def handed_over : List (ℚ × Report Bool) :=
  [(1, .failure false vendor_failure), (2, .is_open true), (3, .success true),
    (4, .failure true vendor_failure)]

/-- With workers that trip at their first failure, the key is the breaker: when the first worker
    has opened it, when the second has closed it, and when the second opens it again. -/
theorem two_workers_one_breaker :
    ((Fed.new "clio" 1 60 0).after (handed_over.take 1)).Agrees ∧
      ((Fed.new "clio" 1 60 0).after (handed_over.take 3)).Agrees ∧
      ((Fed.new "clio" 1 60 0).after (handed_over.take 4)).Agrees := by
  have hin : InTime (0 : ℚ) handed_over := by
    refine ⟨?_, ?_, ?_, ?_, trivial⟩ <;> norm_num
  have hagrees := (shared_breaker_iff "clio" 1 60 0 (by decide) handed_over hin).mpr ?_
  · exact ⟨hagrees 1, hagrees 3, hagrees 4⟩
  -- before each failure the circuit is closed, and the failure trips the worker
  intro n time worker error hr
  rcases n with _ | _ | _ | _ | n
  · cases hr
    have htrips : (ConnectorHealth.new "clio" 1 60).trips := .inr (.inr (by decide))
    exact ⟨fun hs => (by cases hs), fun _ _ => ⟨⟨htrips, by decide +kernel⟩, by decide +kernel⟩,
      fun _ hn => absurd htrips hn⟩
  · cases hr
  · cases hr
  · cases hr
    have hclosed : ((Fed.new "clio" 1 60 0).after (handed_over.take 3)).single.state = .healthy := by
      decide +kernel
    have htrips : ((Fed.new "clio" 1 60 0).after (handed_over.take 3)).single.trips :=
      .inr (.inr (by decide +kernel))
    refine ⟨fun hs => ?_, fun _ _ => ⟨⟨.inr (.inr (by decide +kernel)), by decide +kernel⟩,
      by decide +kernel⟩, fun _ hn => absurd htrips hn⟩
    rw [hclosed] at hs
    cases hs
  · simp [handed_over] at hr

/-- Two failures at two workers open the one breaker of threshold 2, and no worker sees the circuit
    open. And after a failure 61 seconds after the circuit opened, the key is set again for a
    single worker, while the one breaker is half open. -/
theorem two_workers_count_apart :
    let apart := (Fed.new "clio" 2 60 0 : Fed Bool).after
      [(1, .failure false vendor_failure), (2, .failure true vendor_failure)]
    let late := (Fed.new "clio" 1 60 0 : Fed Unit).after
      [(1, .failure () vendor_failure), (62, .failure () vendor_failure)]
    (apart.single.is_open 3 = true ∧ apart.shared.is_open false 3 = false ∧
      apart.shared.is_open true 3 = false) ∧
    late.single.is_open 63 = false ∧ late.shared.is_open () 63 = true := by
  decide +kernel

end CaseAutomation.Connectors
