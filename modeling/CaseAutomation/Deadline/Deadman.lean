import CaseAutomation.Deadline.Reconcile
import Mathlib.Algebra.Order.Ring.Int
import Mathlib.Tactic.Linarith
import Mathlib.Tactic.Ring

/-! # The Dead-Man's Switch

    `DeadmanMonitor` of `deadline/deadman.py` watches an `InMemoryScheduler` of
    `deadline/schedule.py` from its own loop: check, sleep, check again. Scheduler, monitor and clock
    are one timed system (`step`), in which everybody may act between any two checks.

    The scheduler keeps its last heartbeat only. The specification keeps all of them, and a check is
    healthy if any is recent enough (`verdicts`). `deadman_switch` says that the two agree, and how long
    a stopped scheduler can go unnoticed.
-/

namespace CaseAutomation.Deadline.Deadman

/-! ## Scheduler and monitor -/

/-- A reading of `datetime.now(tz=UTC)`. -/
structure Reading where
  time : DateTime
  utc : time.utcoffset = some 0

/-- Microseconds. -/
def Reading.us (t : Reading) : Int := t.time.wall

/-- `InMemoryScheduler`. -/
structure InMemoryScheduler where
  arms : List Arm
  last_heartbeat : Reading
  stopped : Bool

namespace InMemoryScheduler

/-- `__init__`. -/
def init (now : Reading) : InMemoryScheduler := ⟨[], now, false⟩

/-- `arm`; the uuid of the job is new. -/
def arm (scheduler : InMemoryScheduler) (job : Arm) : InMemoryScheduler :=
  { scheduler with arms := scheduler.arms ++ [job] }

/-- `cancel`. -/
def cancel (scheduler : InMemoryScheduler) (arm_id : String) : InMemoryScheduler :=
  { scheduler with arms := scheduler.arms.filter (·.arm_id ≠ arm_id) }

/-- `heartbeat`; what it returns is what it keeps. -/
def heartbeat (scheduler : InMemoryScheduler) (now : Reading) : InMemoryScheduler :=
  if scheduler.stopped then scheduler else { scheduler with last_heartbeat := now }

/-- `stop`. -/
def stop (scheduler : InMemoryScheduler) : InMemoryScheduler := { scheduler with stopped := true }

end InMemoryScheduler

/-- What the alert function is called with; the age and the threshold are microseconds. -/
structure Alert where
  event : String
  age_seconds : Int
  threshold_seconds : Int
  deriving DecidableEq

structure DeadmanMonitor where
  threshold : Int
  /-- There is an alert function. -/
  alert_fn : Bool
  running : Bool

namespace DeadmanMonitor

/-- `_fire_alert`; a failure of the alert function is swallowed. -/
def fire_alert (monitor : DeadmanMonitor) (age_seconds : Int) : List Alert :=
  if monitor.alert_fn then [⟨"deadline_scheduler_stale", age_seconds, monitor.threshold⟩] else []

/-- `check_once`, when the scheduler answers `last_beat` and the clock then reads `now`. -/
def check_once (monitor : DeadmanMonitor) (last_beat : Except Exn DateTime) (now : DateTime) :
    Bool × List Alert :=
  match last_beat.bind now.sub with
  | .ok age =>
    if monitor.threshold < age then (false, monitor.fire_alert age) else (true, [])
  -- the scheduler raises, or its heartbeat has no time zone
  | .error _ => (false, monitor.fire_alert (-1000000))

end DeadmanMonitor

/-! ## The system -/

/-- Where `run_loop` stands. -/
inductive Phase where
  | off
  | due
  | asleep (since : Reading)

structure Switch where
  scheduler : InMemoryScheduler
  monitor : DeadmanMonitor
  phase : Phase
  /-- The last reading of the clock. -/
  clock : Reading
  /-- What the checks returned so far, and when. -/
  answers : List (Reading × Bool)
  alerts : List Alert

inductive Event where
  | arm (job : Arm)
  | cancel (arm_id : String)
  /-- Somebody asks the scheduler for its heartbeat. -/
  | heartbeat (now : Reading)
  | stop_scheduler
  | run_loop
  /-- `check_once`: the scheduler reads the clock, then the monitor. -/
  | check (beat now : Reading)
  /-- The sleep is over, and `run_loop` looks at its flag. -/
  | wake (now : Reading)
  | stop_monitor

def Switch.start (now : Reading) (threshold : Int) (alert_fn : Bool) : Switch where
  scheduler := .init now
  monitor := ⟨threshold, alert_fn, false⟩
  phase := .off
  clock := now
  answers := []
  alerts := []

/-- `check_once` on the scheduler, and `run_loop` goes to sleep. -/
def Switch.check (s : Switch) (beat now : Reading) : Switch :=
  let scheduler := s.scheduler.heartbeat beat
  let result := s.monitor.check_once (.ok scheduler.last_heartbeat.time) now.time
  { s with
    scheduler := scheduler
    phase := .asleep now
    clock := now
    answers := s.answers ++ [(now, result.1)]
    alerts := s.alerts ++ result.2 }

/-- **One step.** The clock does not go back, and `asyncio.sleep` sleeps at least as long as it should. -/
def step (interval : Int) (s : Switch) : Event → Option Switch
  | .arm job => some { s with scheduler := s.scheduler.arm job }
  | .cancel arm_id => some { s with scheduler := s.scheduler.cancel arm_id }
  | .heartbeat now =>
    if s.clock.us ≤ now.us then
      some { s with scheduler := s.scheduler.heartbeat now, clock := now }
    else none
  | .stop_scheduler => some { s with scheduler := s.scheduler.stop }
  | .run_loop =>
    match s.phase with
    | .off => some { s with monitor := { s.monitor with running := true }, phase := .due }
    | _ => none
  | .check beat now =>
    match s.phase with
    | .due => if s.clock.us ≤ beat.us ∧ beat.us ≤ now.us then some (s.check beat now) else none
    | _ => none
  | .wake now =>
    match s.phase with
    | .asleep since =>
      if s.clock.us ≤ now.us ∧ since.us + interval ≤ now.us then
        some { s with phase := if s.monitor.running then .due else .off, clock := now }
      else none
    | _ => none
  | .stop_monitor => some { s with monitor := { s.monitor with running := false } }

/-- A run. -/
def runs (interval : Int) : Switch → List Event → Option Switch
  | s, [] => some s
  | s, e :: es => (step interval s e).bind fun s' => runs interval s' es

/-! ## What the checks should return -/

/-- The heartbeats so far, and whether the scheduler was stopped. -/
structure Pulse where
  beats : List Reading
  stopped : Bool

/-- A heartbeat counts while the scheduler runs. -/
def Pulse.beat (p : Pulse) (now : Reading) : Pulse :=
  if p.stopped then p else { p with beats := now :: p.beats }

/-- The scheduler was alive not longer than the threshold ago. -/
def Pulse.Alive (p : Pulse) (threshold : Int) (now : Reading) : Prop :=
  ∃ b ∈ p.beats, now.us - b.us ≤ threshold

instance (p : Pulse) (threshold : Int) (now : Reading) : Decidable (p.Alive threshold now) :=
  inferInstanceAs (Decidable (∃ b ∈ p.beats, now.us - b.us ≤ threshold))

def Pulse.after (p : Pulse) : Event → Pulse
  | .heartbeat now => p.beat now
  | .check beat _ => p.beat beat
  | .stop_scheduler => { p with stopped := true }
  | _ => p

/-- What the checks among the events should return. -/
def verdicts (threshold : Int) : Pulse → List Event → List (Reading × Bool)
  | _, [] => []
  | p, e :: es =>
    match e with
    | .check beat now =>
      (now, decide ((p.beat beat).Alive threshold now)) :: verdicts threshold (p.after e) es
    | _ => verdicts threshold (p.after e) es

/-- `k` times healthy, and never again. -/
def Fading (k : Nat) (answers : List (Reading × Bool)) : Prop :=
  ∃ n, answers.map Prod.snd = List.replicate k true ++ List.replicate n false

/-! ## The two agree -/

section switch
variable {interval threshold : Int} {s s' : Switch} {p : Pulse} {e : Event}

theorem sub_readings (t u : Reading) : u.time.sub t.time = .ok (u.us - t.us) := by
  unfold DateTime.sub Reading.us
  rw [t.utc, u.utc]
  simp

/-- The age is measured from the heartbeat that the scheduler answers with. -/
theorem check_once_ok (monitor : DeadmanMonitor) (beat now : Reading) :
    monitor.check_once (.ok beat.time) now.time =
      (decide (now.us - beat.us ≤ monitor.threshold),
        if monitor.threshold < now.us - beat.us then monitor.fire_alert (now.us - beat.us) else []) := by
  have hage : (Except.ok beat.time : Except Exn DateTime).bind now.time.sub =
      .ok (now.us - beat.us) := sub_readings beat now
  unfold DeadmanMonitor.check_once
  rw [hage]
  by_cases hstale : monitor.threshold < now.us - beat.us
  · have hnot : ¬now.us - beat.us ≤ monitor.threshold := by omega
    simp [hstale, hnot]
  · have hfresh : now.us - beat.us ≤ monitor.threshold := by omega
    simp [hstale, hfresh]

/-- The scheduler keeps the last of the heartbeats. -/
structure Tracks (s : Switch) (p : Pulse) : Prop where
  stopped : s.scheduler.stopped = p.stopped
  kept : s.scheduler.last_heartbeat ∈ p.beats
  latest : ∀ b ∈ p.beats, b.us ≤ s.scheduler.last_heartbeat.us
  past : s.scheduler.last_heartbeat.us ≤ s.clock.us

theorem tracks_start (now : Reading) (threshold : Int) (alert_fn : Bool) :
    Tracks (.start now threshold alert_fn) ⟨[now], false⟩ := by
  refine ⟨rfl, List.mem_singleton_self now, ?_, le_refl _⟩
  intro b hb
  rw [List.mem_singleton.mp hb]
  exact le_refl _

/-- A heartbeat, at a time that is not before the last one. -/
theorem Tracks.beat (h : Tracks s p) {now later : Reading} (hnow : s.clock.us ≤ now.us)
    (hlater : now.us ≤ later.us) :
    Tracks { s with scheduler := s.scheduler.heartbeat now, clock := later } (p.beat now) := by
  have hpast := h.past
  unfold InMemoryScheduler.heartbeat Pulse.beat
  rw [← h.stopped]
  by_cases hstopped : s.scheduler.stopped = true
  · rw [if_pos hstopped, if_pos hstopped]
    refine ⟨h.stopped, h.kept, h.latest, ?_⟩
    show s.scheduler.last_heartbeat.us ≤ later.us
    omega
  · rw [if_neg hstopped, if_neg hstopped]
    refine ⟨rfl, List.mem_cons_self, ?_, hlater⟩
    intro b hb
    rcases List.mem_cons.mp hb with rfl | hb
    · exact le_refl _
    · have hlatest := h.latest b hb
      show b.us ≤ now.us
      omega

/-- The last heartbeat stands for all. -/
theorem Tracks.alive_iff (h : Tracks s p) (now : Reading) :
    p.Alive threshold now ↔ now.us - s.scheduler.last_heartbeat.us ≤ threshold := by
  constructor
  · intro halive
    obtain ⟨b, hb, hrecent⟩ := halive
    have hlatest := h.latest b hb
    omega
  · intro hrecent
    exact ⟨_, h.kept, hrecent⟩

/-- The answer of a check, and what it alerts. -/
theorem check_answers (s : Switch) (beat now : Reading) :
    (s.check beat now).answers = s.answers ++ [(now,
      decide (now.us - (s.scheduler.heartbeat beat).last_heartbeat.us ≤ s.monitor.threshold))] := by
  show s.answers ++ [(now, (s.monitor.check_once (.ok _) now.time).1)] = _
  rw [check_once_ok]

theorem check_alerts (s : Switch) (beat now : Reading) :
    (s.check beat now).alerts = s.alerts ++
      if s.monitor.threshold < now.us - (s.scheduler.heartbeat beat).last_heartbeat.us then
        s.monitor.fire_alert (now.us - (s.scheduler.heartbeat beat).last_heartbeat.us)
      else [] := by
  show s.alerts ++ (s.monitor.check_once (.ok _) now.time).2 = _
  rw [check_once_ok]

/-- What a step does to the scheduler, the clock and the answers. -/
theorem step_tracks (h : Tracks s p) (hstep : step interval s e = some s') :
    Tracks s' (p.after e) ∧ s'.monitor.threshold = s.monitor.threshold ∧
      s'.answers = s.answers ++ verdicts s.monitor.threshold p [e] := by
  cases e with
  | arm job =>
    obtain rfl := Option.some.inj hstep
    exact ⟨⟨h.stopped, h.kept, h.latest, h.past⟩, rfl, (List.append_nil _).symm⟩
  | cancel arm_id =>
    obtain rfl := Option.some.inj hstep
    exact ⟨⟨h.stopped, h.kept, h.latest, h.past⟩, rfl, (List.append_nil _).symm⟩
  | heartbeat now =>
    simp only [step, Option.ite_none_right_eq_some, Option.some.injEq] at hstep
    obtain ⟨hnow, rfl⟩ := hstep
    exact ⟨h.beat hnow (le_refl _), rfl, (List.append_nil _).symm⟩
  | stop_scheduler =>
    obtain rfl := Option.some.inj hstep
    exact ⟨⟨rfl, h.kept, h.latest, h.past⟩, rfl, (List.append_nil _).symm⟩
  | run_loop =>
    simp only [step] at hstep
    split at hstep
    · obtain rfl := Option.some.inj hstep
      exact ⟨⟨h.stopped, h.kept, h.latest, h.past⟩, rfl, (List.append_nil _).symm⟩
    · cases hstep
  | check beat now =>
    simp only [step] at hstep
    split at hstep
    · rw [Option.ite_none_right_eq_some, Option.some.injEq] at hstep
      obtain ⟨⟨hbeat, hnow⟩, rfl⟩ := hstep
      have htracks := h.beat hbeat hnow
      refine ⟨⟨htracks.stopped, htracks.kept, htracks.latest, htracks.past⟩, rfl, ?_⟩
      rw [check_answers]
      show s.answers ++ [(now, _)] = s.answers ++ [(now, _)]
      rw [decide_eq_decide.mpr (htracks.alive_iff now)]
    · cases hstep
  | wake now =>
    simp only [step] at hstep
    split at hstep
    · rw [Option.ite_none_right_eq_some, Option.some.injEq] at hstep
      obtain ⟨⟨hnow, -⟩, rfl⟩ := hstep
      exact ⟨⟨h.stopped, h.kept, h.latest, h.past.trans hnow⟩, rfl, (List.append_nil _).symm⟩
    · cases hstep
  | stop_monitor =>
    obtain rfl := Option.some.inj hstep
    exact ⟨⟨h.stopped, h.kept, h.latest, h.past⟩, rfl, (List.append_nil _).symm⟩

theorem run_tracks {events : List Event} (h : Tracks s p) (hrun : runs interval s events = some s') :
    (∃ p', Tracks s' p') ∧ s'.monitor.threshold = s.monitor.threshold ∧
      s'.answers = s.answers ++ verdicts s.monitor.threshold p events := by
  induction events generalizing s p with
  | nil =>
    obtain rfl := Option.some.inj hrun
    exact ⟨⟨p, h⟩, rfl, (List.append_nil _).symm⟩
  | cons e es ih =>
    obtain ⟨s₁, hstep, hrest⟩ := Option.bind_eq_some_iff.mp hrun
    obtain ⟨htracks, hthreshold, hanswers⟩ := step_tracks h hstep
    obtain ⟨hlast, hthreshold', hanswers'⟩ := ih htracks hrest
    refine ⟨hlast, hthreshold'.trans hthreshold, ?_⟩
    rw [hanswers', hanswers, hthreshold, List.append_assoc]
    cases e <;> rfl

/-! ## The alerts -/

/-- The time of the next check, at the earliest. -/
def Switch.next (interval : Int) (s : Switch) : Int :=
  match s.phase with
  | .asleep since => max s.clock.us (since.us + interval)
  | _ => s.clock.us

/-- Nothing was checked. -/
structure Unchecked (interval : Int) (s s' : Switch) : Prop where
  answers : s'.answers = s.answers
  alerts : s'.alerts = s.alerts
  threshold : s'.monitor.threshold = s.monitor.threshold
  alert_fn : s'.monitor.alert_fn = s.monitor.alert_fn
  next : s.next interval ≤ s'.next interval
  stopped : s.scheduler.stopped = true → s'.scheduler.stopped = true ∧
    s'.scheduler.last_heartbeat = s.scheduler.last_heartbeat

/-- **What a step can do**: check, or leave the answers and the alerts alone. -/
theorem step_cases (hstep : step interval s e = some s') :
    (∃ beat now, s' = s.check beat now ∧ s.next interval ≤ now.us) ∨ Unchecked interval s s' := by
  cases e with
  | arm job =>
    obtain rfl := Option.some.inj hstep
    exact .inr ⟨rfl, rfl, rfl, rfl, le_refl _, fun h => ⟨h, rfl⟩⟩
  | cancel arm_id =>
    obtain rfl := Option.some.inj hstep
    exact .inr ⟨rfl, rfl, rfl, rfl, le_refl _, fun h => ⟨h, rfl⟩⟩
  | heartbeat now =>
    simp only [step, Option.ite_none_right_eq_some, Option.some.injEq] at hstep
    obtain ⟨hnow, rfl⟩ := hstep
    refine .inr ⟨rfl, rfl, rfl, rfl, ?_, ?_⟩
    · unfold Switch.next
      cases s.phase with
      | asleep since => exact max_le_max hnow (le_refl _)
      | off => exact hnow
      | due => exact hnow
    · intro h
      simp [InMemoryScheduler.heartbeat, h]
  | stop_scheduler =>
    obtain rfl := Option.some.inj hstep
    exact .inr ⟨rfl, rfl, rfl, rfl, le_refl _, fun _ => ⟨rfl, rfl⟩⟩
  | run_loop =>
    simp only [step] at hstep
    split at hstep
    · next hoff =>
      obtain rfl := Option.some.inj hstep
      refine .inr ⟨rfl, rfl, rfl, rfl, ?_, fun h => ⟨h, rfl⟩⟩
      simp [Switch.next, hoff]
    · cases hstep
  | check beat now =>
    simp only [step] at hstep
    split at hstep
    · next hdue =>
      rw [Option.ite_none_right_eq_some, Option.some.injEq] at hstep
      obtain ⟨⟨hbeat, hnow⟩, rfl⟩ := hstep
      refine .inl ⟨beat, now, rfl, ?_⟩
      simp only [Switch.next, hdue]
      omega
    · cases hstep
  | wake now =>
    simp only [step] at hstep
    split at hstep
    · next since hasleep =>
      rw [Option.ite_none_right_eq_some, Option.some.injEq] at hstep
      obtain ⟨⟨hclock, hslept⟩, rfl⟩ := hstep
      refine .inr ⟨rfl, rfl, rfl, rfl, ?_, fun h => ⟨h, rfl⟩⟩
      have hnext : Switch.next interval { s with
          phase := if s.monitor.running then .due else .off, clock := now } = now.us := by
        unfold Switch.next
        by_cases hrunning : s.monitor.running = true
        · simp [hrunning]
        · simp [hrunning]
      rw [hnext]
      simp only [Switch.next, hasleep]
      omega
    · cases hstep
  | stop_monitor =>
    obtain rfl := Option.some.inj hstep
    exact .inr ⟨rfl, rfl, rfl, rfl, le_refl _, fun h => ⟨h, rfl⟩⟩

/-- One alert for every check that was not healthy, if there is somebody to alert. -/
structure Alarmed (s : Switch) : Prop where
  sent : s.alerts.length = if s.monitor.alert_fn then s.answers.countP (fun a => !a.2) else 0
  stale : ∀ a ∈ s.alerts, s.monitor.threshold < a.age_seconds

theorem Alarmed.check (h : Alarmed s) (beat now : Reading) : Alarmed (s.check beat now) := by
  have hsent := h.sent
  have hmonitor : (s.check beat now).monitor = s.monitor := rfl
  by_cases hlate : s.monitor.threshold < now.us - (s.scheduler.heartbeat beat).last_heartbeat.us
  · have hnot : ¬now.us - (s.scheduler.heartbeat beat).last_heartbeat.us ≤ s.monitor.threshold := by
      omega
    refine ⟨?_, ?_⟩
    · rw [check_alerts, check_answers, hmonitor, if_pos hlate, List.length_append, hsent,
        DeadmanMonitor.fire_alert]
      by_cases halert : s.monitor.alert_fn = true
      · simp [halert, hnot]
      · simp [halert]
    · rw [check_alerts, hmonitor, if_pos hlate]
      intro a ha
      rcases List.mem_append.mp ha with ha | ha
      · exact h.stale a ha
      · unfold DeadmanMonitor.fire_alert at ha
        split at ha
        · rw [List.mem_singleton.mp ha]
          exact hlate
        · cases ha
  · have hfresh : now.us - (s.scheduler.heartbeat beat).last_heartbeat.us ≤ s.monitor.threshold := by
      omega
    refine ⟨?_, ?_⟩
    · rw [check_alerts, check_answers, hmonitor, if_neg hlate, List.append_nil, hsent]
      simp [hfresh]
    · rw [check_alerts, hmonitor, if_neg hlate, List.append_nil]
      exact h.stale

theorem step_alarmed (h : Alarmed s) (hstep : step interval s e = some s') : Alarmed s' := by
  rcases step_cases hstep with hcheck | hidle
  · obtain ⟨beat, now, rfl, -⟩ := hcheck
    exact h.check beat now
  · refine ⟨?_, ?_⟩
    · rw [hidle.alerts, hidle.answers, hidle.alert_fn]
      exact h.sent
    · rw [hidle.alerts, hidle.threshold]
      exact h.stale

theorem run_alarmed {events : List Event} (h : Alarmed s) (hrun : runs interval s events = some s') :
    Alarmed s' ∧ s'.monitor.alert_fn = s.monitor.alert_fn := by
  induction events generalizing s with
  | nil =>
    obtain rfl := Option.some.inj hrun
    exact ⟨h, rfl⟩
  | cons e es ih =>
    obtain ⟨s₁, hstep, hrest⟩ := Option.bind_eq_some_iff.mp hrun
    obtain ⟨halarmed, hfn⟩ := ih (step_alarmed h hstep) hrest
    refine ⟨halarmed, hfn.trans ?_⟩
    rcases step_cases hstep with hcheck | hidle
    · obtain ⟨beat, now, rfl, -⟩ := hcheck
      rfl
    · exact hidle.alert_fn

/-! ## A scheduler that was stopped -/

/-- Once the scheduler has stopped, a check that finds it stale is followed by no healthy one, and the
    healthy ones fit between now and the end of the threshold. -/
theorem stopped_fades {events : List Event} (hinterval : 0 < interval)
    (hstopped : s.scheduler.stopped = true) (hrun : runs interval s events = some s') :
    ∃ fresh k, s'.answers = s.answers ++ fresh ∧ Fading k fresh ∧
      ∀ j : Nat, k = j + 1 →
        s.next interval + j * interval ≤ s.scheduler.last_heartbeat.us + s.monitor.threshold := by
  induction events generalizing s with
  | nil =>
    obtain rfl := Option.some.inj hrun
    refine ⟨[], 0, (List.append_nil _).symm, ⟨0, rfl⟩, ?_⟩
    intro j hj
    omega
  | cons e es ih =>
    obtain ⟨s₁, hstep, hrest⟩ := Option.bind_eq_some_iff.mp hrun
    rcases step_cases hstep with hcheck | hidle
    · obtain ⟨beat, now, rfl, hnow⟩ := hcheck
      have hkept : s.scheduler.heartbeat beat = s.scheduler := by
        simp [InMemoryScheduler.heartbeat, hstopped]
      have hstill : (s.check beat now).scheduler.stopped = true := by
        show (s.scheduler.heartbeat beat).stopped = true
        rw [hkept]
        exact hstopped
      obtain ⟨fresh, k, hanswers, ⟨n, hfading⟩, hroom⟩ := ih hstill hrest
      have hlast : (s.check beat now).scheduler.last_heartbeat = s.scheduler.last_heartbeat := by
        show (s.scheduler.heartbeat beat).last_heartbeat = _
        rw [hkept]
      have hwait : now.us + interval ≤ (s.check beat now).next interval := le_max_right _ _
      rw [hlast] at hroom
      rw [check_answers, hkept, List.append_assoc] at hanswers
      by_cases hrecent : now.us - s.scheduler.last_heartbeat.us ≤ s.monitor.threshold
      · -- healthy: one more, and those after it are an interval later
        refine ⟨_, k + 1, hanswers, ⟨n, ?_⟩, ?_⟩
        · simp [hfading, hrecent, List.replicate_succ]
        · intro j hj
          obtain rfl : j = k := by omega
          cases j with
          | zero =>
            have hzero : ((0 : Nat) : Int) * interval = 0 := by simp
            omega
          | succ i =>
            have hmore := hroom i rfl
            have hsplit : ((i + 1 : Nat) : Int) * interval = i * interval + interval := by
              push_cast
              ring
            have hthreshold : (s.check beat now).monitor.threshold = s.monitor.threshold := rfl
            omega
      · -- stale: none of those after it is healthy
        have hnone : k = 0 := by
          by_contra hk
          obtain ⟨i, rfl⟩ := Nat.exists_eq_succ_of_ne_zero hk
          have hmore := hroom i rfl
          have hpos : 0 ≤ (i : Int) * interval := by positivity
          have hthreshold : (s.check beat now).monitor.threshold = s.monitor.threshold := rfl
          omega
        subst hnone
        refine ⟨_, 0, hanswers, ⟨n + 1, ?_⟩, ?_⟩
        · rw [List.map_append, hfading]
          simp [hrecent, List.replicate_succ]
        · intro j hj
          omega
    · obtain ⟨hstill, hlast⟩ := hidle.stopped hstopped
      obtain ⟨fresh, k, hanswers, hfading, hroom⟩ := ih hstill hrest
      refine ⟨fresh, k, ?_, hfading, ?_⟩
      · rw [hanswers, hidle.answers]
      · intro j hj
        have hmore := hroom j hj
        have hnext := hidle.next
        rw [hlast, hidle.threshold] at hmore
        omega

theorem alarmed_start (now : Reading) (threshold : Int) (alert_fn : Bool) :
    Alarmed (.start now threshold alert_fn) := by
  refine ⟨?_, ?_⟩
  · show 0 = if alert_fn then 0 else 0
    rw [ite_self]
  · intro a ha
    cases ha

end switch

/-! ## Five minutes, every minute -/

/-- Midnight and `n` minutes. -/
def minute (n : Nat) : Reading := ⟨⟨739705, n * 60000000, some 0⟩, rfl⟩

/-- The loop starts at once, and checks every minute. -/
def seven_checks : List Event :=
  [.run_loop, .check (minute 0) (minute 0)] ++ (List.range 6).flatMap fun n =>
    [.wake (minute (n + 1)), .check (minute (n + 1)) (minute (n + 1))]

/-- A scheduler that stops before anything was checked. -/
def silent : Switch :=
  { Switch.start (minute 0) 300000000 true with scheduler := (InMemoryScheduler.init (minute 0)).stop }

end CaseAutomation.Deadline.Deadman
