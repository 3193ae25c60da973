import CaseAutomation.Deadline.BusinessDays
import CaseAutomation.Deadline.DueDates
import CaseAutomation.Deadline.Schedule
import Mathlib.Data.Prod.Basic

/-! # Previews of Reminders

    `preview_reminders` of `deadline/compute.py` has its own copy of the arithmetic of
    `tool_deadline_schedule`. The two agree (`preview_reminder_eq`), so a preview shows what the
    tool stores.

    The jobs of a reminder carry its key, and the key has the amount and the unit only: two reminders
    that differ in their label alone have four jobs between them (`previews_match_iff`).
-/

namespace CaseAutomation.Deadline

open Framework

/-! ## The preview -/

structure ReminderPreview where
  label : Option String
  amount : Int
  unit : ReminderUnit
  fire_at : String
  before_due : Bool
  deriving DecidableEq

/-- The date on which a reminder fires, as the preview computes it. -/
def preview_date (due_at : DateTime) (rem : ReminderOffset) : Except Exn Date :=
  match rem.unit with
  | .business_days => add_business_days due_at.date rem.amount
  | .days => (due_at.add_days rem.amount).map DateTime.date

def preview_reminder (due_at : DateTime) (rem : ReminderOffset) : Except Exn ReminderPreview := do
  let fire_date ← preview_date due_at rem
  let fire_at := due_at.on fire_date
  let before_due ← fire_at.lt due_at
  .ok {
    label := rem.label
    amount := rem.amount
    unit := rem.unit
    fire_at := fire_at.isoformat
    before_due := before_due }

/-- `preview_reminders`. -/
def preview_reminders (rule : DeadlineRule) (due_at : DateTime) :
    Except Exn (List ReminderPreview) := do
  get_calendar rule.calendar_id
  rule.reminders.mapM (preview_reminder due_at)

/-- What the preview says of a reminder that fires at that time. -/
def preview_of (due_at : DateTime) (rem : ReminderOffset) (fire_at : DateTime) : ReminderPreview where
  label := rem.label
  amount := rem.amount
  unit := rem.unit
  fire_at := fire_at.isoformat
  before_due := decide (fire_at.date < due_at.date)

section copies
variable {due_at t : DateTime} {rem : ReminderOffset}

/-- Datetimes of one zone can be compared. -/
theorem lt_of_same_offset {a b : DateTime} (h : a.utcoffset = b.utcoffset) :
    a.lt b = .ok (decide (a.wall < b.wall)) := by
  unfold DateTime.lt
  rw [h]
  cases b.utcoffset with
  | none => rfl
  | some x => simp only [sub_lt_sub_iff_right]

/-- One clock: the dates decide. -/
theorem on_lt (t : DateTime) (d : Date) : (t.on d).lt t = .ok (decide (d < t.date)) := by
  have hdays : ∀ x y : Int, x * 86400000000 + t.time < y * 86400000000 + t.time ↔ x < y := by
    intro x y
    omega
  have hwall : (t.on d).wall < t.wall ↔ d < t.date := hdays d t.date
  rw [lt_of_same_offset (show (t.on d).utcoffset = t.utcoffset from rfl)]
  simp only [hwall]

/-- **The two copies of the arithmetic agree.** -/
theorem preview_reminder_eq (h : fire_at due_at rem = .ok t) :
    t = due_at.on t.date ∧ preview_reminder due_at rem = .ok (preview_of due_at rem t) := by
  have hdate : preview_date due_at rem = .ok t.date ∧ t = due_at.on t.date := by
    unfold fire_at at h
    unfold preview_date
    cases hunit : rem.unit with
    | business_days =>
      simp only [hunit] at h ⊢
      obtain ⟨d, hwalk, h⟩ := ok_of_bind h
      cases h
      exact ⟨hwalk, rfl⟩
    | days =>
      simp only [hunit] at h ⊢
      rw [h]
      unfold DateTime.add_days at h
      by_cases hrange : 1 ≤ due_at.date + rem.amount ∧ due_at.date + rem.amount ≤ 3652059
      · rw [if_pos hrange] at h
        cases h
        exact ⟨rfl, rfl⟩
      · rw [if_neg hrange] at h
        cases h
  refine ⟨hdate.2, ?_⟩
  unfold preview_reminder
  rw [hdate.1]
  simp only [bind, Except.bind, on_lt]
  rw [← hdate.2]
  rfl

/-- Walks go in the direction of the sign. -/
theorem Counted.before_iff {d n r : Int} (h : Counted d n r) : r < d ↔ n < 0 := by
  constructor
  · intro hless
    by_contra hnot
    by_cases hzero : n = 0
    · have hstays := h.stays hzero
      omega
    · have hbehind := (h.behind (by omega)).1
      omega
  · intro hnegative
    exact (h.before hnegative).1

/-- A reminder lies before its due date exactly if its amount is negative. -/
theorem before_due_iff (h : fire_at due_at rem = .ok t) : t.date < due_at.date ↔ rem.amount < 0 := by
  unfold fire_at at h
  cases hunit : rem.unit with
  | business_days =>
    simp only [hunit] at h
    obtain ⟨d, hwalk, h⟩ := ok_of_bind h
    cases h
    exact (add_business_days_ok hwalk).before_iff
  | days =>
    simp only [hunit] at h
    unfold DateTime.add_days at h
    by_cases hrange : 1 ≤ due_at.date + rem.amount ∧ due_at.date + rem.amount ≤ 3652059
    · rw [if_pos hrange] at h
      cases h
      have hshift : ∀ d n : Int, d + n < d ↔ n < 0 := by
        intro d n
        omega
      exact hshift due_at.date rem.amount
    · rw [if_neg hrange] at h
      cases h

end copies

/-! ## Jobs -/

/-- The scheduler jobs that carry the key. -/
def World.jobs (w : World) (key : String) : Nat := w.arms.countP fun a => decide (a.idem_key = key)

/-- Neither a deadline nor a job is known under the idempotency key. -/
structure Fresh (w : World) (idempotency_key : String) : Prop where
  no_deadline : w.store.get_by_idem idempotency_key = none
  no_jobs : ∀ rem, w.jobs (reminder_key idempotency_key rem) = 0

section jobs
variable {idempotency_key key : String} {due_at now : DateTime} {rs : List ScheduledReminder}

/-- Two jobs for each armed reminder with the key. -/
theorem jobs_of_reminders (hmade : ∀ r ∈ rs, Made idempotency_key due_at now r) (key : String) :
    (rs.flatMap (reminder_arms idempotency_key)).countP (fun a => decide (a.idem_key = key)) =
      2 * ((rs.filter fun r => decide (r.status = .armed)).map (·.idempotency_key)).count key := by
  induction rs with
  | nil => rfl
  | cons r rest ih =>
    have hrest := ih fun x hx => hmade x (List.mem_cons_of_mem _ hx)
    rw [List.flatMap_cons, List.countP_append, hrest]
    obtain ⟨-, hstatus, hnone⟩ | ⟨-, hstatus, arm1, arm2, harms⟩ := (hmade r List.mem_cons_self).status
    · simp [reminder_arms, hnone, hstatus]
    · by_cases hkey : r.idempotency_key = key
      · simp [reminder_arms, harms, hstatus, hkey]
        omega
      · simp [reminder_arms, harms, hstatus, hkey]

/-- Every armed reminder has two jobs exactly if no two armed reminders share a key. -/
theorem two_jobs_iff (hmade : ∀ r ∈ rs, Made idempotency_key due_at now r) :
    (∀ r ∈ rs, r.status = .armed →
      (rs.flatMap (reminder_arms idempotency_key)).countP
        (fun a => decide (a.idem_key = r.idempotency_key)) = 2) ↔
      rs.Pairwise fun a b => a.status = .armed → b.status = .armed →
        a.idempotency_key ≠ b.idempotency_key := by
  have hnodup : ((rs.filter fun r => decide (r.status = .armed)).map (·.idempotency_key)).Nodup ↔
      rs.Pairwise fun a b => a.status = .armed → b.status = .armed →
        a.idempotency_key ≠ b.idempotency_key := by
    unfold List.Nodup
    rw [List.pairwise_map, List.pairwise_filter]
    simp only [decide_eq_true_iff]
  rw [← hnodup, List.nodup_iff_count_eq_one]
  constructor
  · intro hjobs key hkey
    obtain ⟨r, hr, rfl⟩ := List.mem_map.mp hkey
    obtain ⟨hmem, harmed⟩ := List.mem_filter.mp hr
    have htwo := hjobs r hmem (of_decide_eq_true harmed)
    rw [jobs_of_reminders hmade] at htwo
    omega
  · intro hcount r hr harmed
    have hone := hcount r.idempotency_key
      (List.mem_map.mpr ⟨r, List.mem_filter.mpr ⟨hr, decide_eq_true harmed⟩, rfl⟩)
    rw [jobs_of_reminders hmade, hone]

end jobs

/-! ## Preview and schedule -/

/-- The reminder of the rule is not over at that time. -/
def Upcoming (call : ScheduleCall) (now : DateTime) (rem : ReminderOffset) : Prop :=
  ∃ trace t, compute_due_date call.rule call.trigger_inputs now call.rule_ref = .ok trace ∧
    fire_at trace.due_at rem = .ok t ∧ t.lt now = .ok false

/-- The upcoming reminders of the rule differ in amount or unit. -/
def DistinctUpcoming (call : ScheduleCall) (now : DateTime) : Prop :=
  call.rule.reminders.Pairwise fun rem rem' =>
    Upcoming call now rem → (rem.amount, rem.unit) ≠ (rem'.amount, rem'.unit)

/-- The preview shows the reminders that are stored, and the stored ones are sorted. -/
structure Shown (previews : List ReminderPreview) (sd : ScheduledDeadline) : Prop where
  same : (previews.map fun p => (p.label, p.amount, p.unit, p.fire_at)).Perm
    (sd.reminders.map fun r =>
      (r.offset.label, r.offset.amount, r.offset.unit, r.fire_at.isoformat))
  sorted : sd.reminders.Pairwise fun r r' => r'.fire_at.lt r.fire_at = .ok false
  before_due : ∀ p ∈ previews, p.before_due = true ↔ p.amount < 0

/-- A stored reminder is armed with two jobs of its key, or its time is over and it has none. -/
def ArmedTwice (sd : ScheduledDeadline) (now : DateTime) (w : World) : Prop :=
  ∀ r ∈ sd.reminders,
    (r.fire_at.lt now = .ok false ∧ r.status = .armed ∧ w.jobs r.idempotency_key = 2) ∨
    (r.fire_at.lt now = .ok true ∧ r.status = .skipped_past ∧ w.jobs r.idempotency_key = 0)

section schedule
variable {env : Env} {call : ScheduleCall} {now : DateTime} {trace : ComputationTrace}
  {rs : List ScheduledReminder} {w w' : World} {id : String}

theorem get_calendar_of_trace {rule : DeadlineRule} {trigger_inputs : Dict String DateTime}
    {as_of : DateTime} {rule_ref : RuleRef}
    (h : compute_due_date rule trigger_inputs as_of rule_ref = .ok trace) :
    get_calendar rule.calendar_id = .ok () := by
  unfold compute_due_date at h
  cases htrigger : trigger_inputs.get? rule.trigger with
  | none =>
    rw [htrigger] at h
    cases h
  | some t =>
    rw [htrigger] at h
    obtain ⟨⟨⟩, hcalendar, -⟩ := ok_of_bind h
    exact hcalendar

/-- The previews of reminders that can be made. -/
theorem previews_of_made (hmade : ∀ r ∈ rs, Made call.idempotency_key trace.due_at now r) :
    (rs.map ScheduledReminder.offset).mapM (preview_reminder trace.due_at) =
      .ok (rs.map fun r => preview_of trace.due_at r.offset r.fire_at) := by
  induction rs with
  | nil => rfl
  | cons r rest ih =>
    have hfirst := (preview_reminder_eq (hmade r List.mem_cons_self).fires).2
    have hrest := ih fun x hx => hmade x (List.mem_cons_of_mem _ hx)
    rw [List.map_cons, List.mapM_cons, hfirst]
    simp only [bind, Except.bind, hrest]
    rfl

theorem shown_of_scheduled (h : Scheduled env call now w w' trace rs id) :
    Shown (rs.map fun r => preview_of trace.due_at r.offset r.fire_at)
      (call.scheduled trace rs id) := by
  have hperm : (call.scheduled trace rs id).reminders.Perm
      (rs.map fun r => { r with deadline_id := id }) := List.perm_insertionSort _ _
  refine ⟨?_, ?_, ?_⟩
  · have hmap := hperm.map fun r : ScheduledReminder =>
      (r.offset.label, r.offset.amount, r.offset.unit, r.fire_at.isoformat)
    rw [List.map_map] at hmap ⊢
    exact hmap.symm
  · -- the reminders have the time zone of the due date
    have hzone : ∀ r ∈ (call.scheduled trace rs id).reminders,
        r.fire_at.utcoffset = trace.due_at.utcoffset := by
      intro r hr
      obtain ⟨r₀, hr₀, rfl⟩ := mem_scheduled.mp hr
      show r₀.fire_at.utcoffset = _
      rw [(preview_reminder_eq (h.made r₀ hr₀).fires).1]
      rfl
    have htotal : Std.Total fun a b : ScheduledReminder => a.fire_at.wall ≤ b.fire_at.wall :=
      ⟨fun a b => le_total _ _⟩
    have htrans : IsTrans ScheduledReminder fun a b => a.fire_at.wall ≤ b.fire_at.wall :=
      ⟨fun _ _ _ => le_trans⟩
    have hsorted : (call.scheduled trace rs id).reminders.Pairwise
        fun a b => a.fire_at.wall ≤ b.fire_at.wall := List.pairwise_insertionSort _ _
    refine List.Pairwise.imp_of_mem ?_ hsorted
    intro a b ha hb hle
    rw [lt_of_same_offset ((hzone b hb).trans (hzone a ha).symm)]
    exact congrArg _ (decide_eq_false (not_lt.mpr hle))
  · intro p hp
    obtain ⟨r, hr, rfl⟩ := List.mem_map.mp hp
    exact decide_eq_true_iff.trans (before_due_iff (h.made r hr).fires)

/-- A made reminder is armed exactly if it is upcoming. -/
theorem armed_iff_upcoming {r : ScheduledReminder}
    (htrace : compute_due_date call.rule call.trigger_inputs now call.rule_ref = .ok trace)
    (hmade : Made call.idempotency_key trace.due_at now r) :
    r.status = .armed ↔ Upcoming call now r.offset := by
  obtain ⟨hpast, hstatus, -⟩ | ⟨hahead, hstatus, -⟩ := hmade.status
  · rw [hstatus]
    constructor
    · intro h
      cases h
    · rintro ⟨trace', t, htrace', hfires, hahead⟩
      cases htrace.symm.trans htrace'
      cases hmade.fires.symm.trans hfires
      cases hpast.symm.trans hahead
  · exact ⟨fun _ => ⟨trace, r.fire_at, htrace, hmade.fires, hahead⟩, fun _ => hstatus⟩

theorem upcoming_congr {rem rem' : ReminderOffset} (hamount : rem.amount = rem'.amount)
    (hunit : rem.unit = rem'.unit) (h : Upcoming call now rem) : Upcoming call now rem' := by
  obtain ⟨trace, t, htrace, hfires, hahead⟩ := h
  refine ⟨trace, t, htrace, ?_, hahead⟩
  unfold fire_at at hfires ⊢
  rw [← hamount, ← hunit]
  exact hfires

/-- The keys of the armed reminders are distinct exactly if the rule says so. -/
theorem distinct_upcoming_iff
    (htrace : compute_due_date call.rule call.trigger_inputs now call.rule_ref = .ok trace)
    (h : Scheduled env call now w w' trace rs id) :
    (rs.Pairwise fun a b => a.status = .armed → b.status = .armed →
      a.idempotency_key ≠ b.idempotency_key) ↔ DistinctUpcoming call now := by
  unfold DistinctUpcoming
  rw [← h.offsets, List.pairwise_map]
  refine List.Pairwise.iff_of_mem ?_
  intro a b ha hb
  have hmade := h.made a ha
  have hmade' := h.made b hb
  rw [armed_iff_upcoming htrace hmade, armed_iff_upcoming htrace hmade', hmade.key, hmade'.key]
  constructor
  · intro hkeys hupcoming heq
    obtain ⟨hamount, hunit⟩ := Prod.mk.inj heq
    refine hkeys hupcoming (upcoming_congr hamount hunit hupcoming) ?_
    rw [reminder_key, reminder_key, hamount, hunit]
  · intro hdistinct hupcoming hupcoming' hkey
    obtain ⟨-, hamount, hunit⟩ := reminder_key_injective hkey
    exact hdistinct hupcoming (by rw [hamount, hunit])

/-- The jobs of a reminder of the call. -/
theorem jobs_of_scheduled (hfresh : Fresh w call.idempotency_key)
    (h : Scheduled env call now w w' trace rs id) {r : ScheduledReminder} (hr : r ∈ rs) :
    w'.jobs r.idempotency_key = (rs.flatMap (reminder_arms call.idempotency_key)).countP
      fun a => decide (a.idem_key = r.idempotency_key) := by
  have hnone := hfresh.no_jobs r.offset
  rw [← (h.made r hr).key] at hnone
  unfold World.jobs at hnone ⊢
  rw [h.arms, List.countP_append, hnone, Nat.zero_add]

theorem armed_twice_iff (hfresh : Fresh w call.idempotency_key)
    (htrace : compute_due_date call.rule call.trigger_inputs now call.rule_ref = .ok trace)
    (h : Scheduled env call now w w' trace rs id) :
    ArmedTwice (call.scheduled trace rs id) now w' ↔ DistinctUpcoming call now := by
  rw [← distinct_upcoming_iff htrace h, ← two_jobs_iff h.made]
  constructor
  · intro htwice r hr harmed
    rw [← jobs_of_scheduled hfresh h hr]
    obtain ⟨-, -, htwo⟩ | ⟨-, hskipped, -⟩ := htwice { r with deadline_id := id }
      (mem_scheduled.mpr ⟨r, hr, rfl⟩)
    · exact htwo
    · cases harmed.symm.trans hskipped
  · intro htwo r hr
    obtain ⟨r₀, hr₀, rfl⟩ := mem_scheduled.mp hr
    show (r₀.fire_at.lt now = .ok false ∧ r₀.status = .armed ∧ w'.jobs r₀.idempotency_key = 2) ∨
      (r₀.fire_at.lt now = .ok true ∧ r₀.status = .skipped_past ∧ w'.jobs r₀.idempotency_key = 0)
    obtain ⟨hpast, hstatus, -⟩ | ⟨hahead, hstatus, -⟩ := (h.made r₀ hr₀).status
    · refine .inr ⟨hpast, hstatus, ?_⟩
      -- reminders with its key fire at its time
      rw [jobs_of_scheduled hfresh h hr₀, jobs_of_reminders h.made, Nat.mul_eq_zero]
      refine .inr (List.count_eq_zero.mpr ?_)
      intro hmem
      obtain ⟨r, hr', hkey⟩ := List.mem_map.mp hmem
      obtain ⟨hrs, harmed⟩ := List.mem_filter.mp hr'
      have hmade := h.made r hrs
      have hupcoming := (armed_iff_upcoming htrace hmade).mp (of_decide_eq_true harmed)
      rw [hmade.key, (h.made r₀ hr₀).key] at hkey
      obtain ⟨-, hamount, hunit⟩ := reminder_key_injective hkey
      have harmed₀ := (armed_iff_upcoming htrace (h.made r₀ hr₀)).mpr
        (upcoming_congr hamount hunit hupcoming)
      cases hstatus.symm.trans harmed₀
    · refine .inl ⟨hahead, hstatus, ?_⟩
      rw [jobs_of_scheduled hfresh h hr₀]
      exact htwo r₀ hr₀ hstatus

end schedule

/-- **A preview shows what is scheduled.** For a call under a fresh key that returns, the preview for its due
    date has the reminders that are stored, these are sorted, and a preview lies before the due date
    exactly if its amount is negative. Every reminder that is not over has exactly two jobs with its key,
    and the others none, if and only if the upcoming reminders of the rule differ in amount or unit. -/
theorem previews_match_iff {env : Env} {call : ScheduleCall} {w w' : World} {sd : ScheduledDeadline}
    (hfresh : Fresh w call.idempotency_key)
    (h : (tool_deadline_schedule call).run (exec env) w = (.ok sd, w')) :
    ∃ previews, preview_reminders call.rule sd.trace.due_at = .ok previews ∧ Shown previews sd ∧
      (Shown previews sd ∧ ArmedTwice sd (call.now.getD (env.time w.clock)) w' ↔
        DistinctUpcoming call (call.now.getD (env.time w.clock))) := by
  obtain ⟨existing, hstored, -⟩ | ⟨-, ⟨e, he, -⟩ | ⟨trace, htrace, ⟨id, he, -⟩ | ⟨rs, id, hsd, hmade⟩⟩⟩ :=
    schedule_cases h
  · cases hfresh.no_deadline.symm.trans hstored
  · cases he
  · cases he
  · cases hsd
    have hshown := shown_of_scheduled hmade
    refine ⟨_, ?_, hshown, ?_⟩
    · unfold preview_reminders
      rw [get_calendar_of_trace htrace, ← hmade.offsets]
      exact previews_of_made hmade.made
    · rw [← armed_twice_iff hfresh htrace hmade]
      exact ⟨fun hboth => hboth.2, fun htwice => ⟨hshown, htwice⟩⟩

theorem fresh_at_first (idempotency_key : String) : Fresh .fresh idempotency_key :=
  ⟨rfl, fun _ => rfl⟩

/-- Three reminders of the answer: a week before, five business days before, and on the day. -/
def three_reminders : ScheduleCall :=
  { answer_call with rule := { answer_rule with
      reminders := [⟨0, .days, none⟩, ⟨-7, .days, some "week"⟩, ⟨-5, .business_days, none⟩] } }

/-- The preview of the three reminders, of which the first two in time lie before the due date. -/
theorem three_reminders_match : ∃ sd w' previews,
    (tool_deadline_schedule three_reminders).run (exec calm_env) .fresh = (.ok sd, w') ∧
      preview_reminders three_reminders.rule sd.trace.due_at = .ok previews ∧
      previews.map (·.before_due) = [false, true, true] ∧ Shown previews sd ∧
      (Shown previews sd ∧ ArmedTwice sd (nine_utc 739701) w' ↔
        DistinctUpcoming three_reminders (nine_utc 739701)) := by
  have hruns : (((tool_deadline_schedule three_reminders).run (exec calm_env) .fresh).1.toOption.map
      fun sd => (preview_reminders three_reminders.rule sd.trace.due_at).toOption.map
        fun previews => previews.map (·.before_due)) = some (some [false, true, true]) := by
    decide +kernel
  obtain ⟨sd, hsd, hpreviews⟩ := ok_of_toOption_map hruns
  obtain ⟨previews, hpreview, hbefore⟩ := ok_of_toOption_map hpreviews
  obtain ⟨previews', hpreview', hshown, hiff⟩ := previews_match_iff
    (fresh_at_first three_reminders.idempotency_key) (Prod.fst_eq_iff.mp hsd)
  cases hpreview.symm.trans hpreview'
  exact ⟨sd, _, previews, Prod.fst_eq_iff.mp hsd, hpreview, hbefore, hshown, hiff⟩

/-- Two reminders a week before the answer, by e-mail and by telephone. -/
def labelled_reminders : ScheduleCall :=
  { answer_call with rule := { answer_rule with
      reminders := [⟨-7, .days, some "email"⟩, ⟨-7, .days, some "telephone"⟩] } }

/-- They have four jobs under one key. -/
theorem four_jobs : ¬ ∀ (env : Env) (call : ScheduleCall) (w w' : World) (sd : ScheduledDeadline),
    Fresh w call.idempotency_key →
    (tool_deadline_schedule call).run (exec env) w = (.ok sd, w') →
    ∃ previews, preview_reminders call.rule sd.trace.due_at = .ok previews ∧ Shown previews sd ∧
      ArmedTwice sd (call.now.getD (env.time w.clock)) w' := by
  intro hclaim
  let run := (tool_deadline_schedule labelled_reminders).run (exec calm_env) .fresh
  have hjobs : (run.1.toOption.map fun sd => sd.reminders.map fun r =>
      run.2.jobs r.idempotency_key) = some [4, 4] := by
    decide +kernel
  obtain ⟨sd, hsd, hfour⟩ := ok_of_toOption_map hjobs
  obtain ⟨-, -, -, htwice⟩ := hclaim _ _ _ _ _ (fresh_at_first labelled_reminders.idempotency_key)
    (Prod.fst_eq_iff.mp hsd)
  cases hreminders : sd.reminders with
  | nil =>
    rw [hreminders] at hfour
    cases hfour
  | cons r rest =>
    rw [hreminders] at hfour
    have hcount : run.2.jobs r.idempotency_key = 4 := (List.cons.inj hfour).1
    obtain ⟨-, -, htwo⟩ | ⟨-, -, hzero⟩ := htwice r (by rw [hreminders]; exact List.mem_cons_self)
    · cases hcount.symm.trans htwo
    · cases hcount.symm.trans hzero

end CaseAutomation.Deadline
