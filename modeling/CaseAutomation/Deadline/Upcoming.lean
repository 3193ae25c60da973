import CaseAutomation.Deadline.IsoText
import CaseAutomation.Deadline.PastDue

/-! # The Calendar Resource

    `resource_calendar_upcoming` of `deadline/resources.py`: the due dates and the armed reminders
    from now to the end of a window. The code collects the items in the order of the store and sorts them
    by their ISO texts.

    `calendar_upcoming` says what a reader of the calendar gets after any history: exactly the events of
    the window, and no reminder of a finished deadline. With one UTC offset for all triggers they stand
    in the order of time, and where reminders have keys of their own none of those listed was sent.
-/

namespace CaseAutomation.Deadline

open Framework

/-! ## The resource -/

inductive CalendarItem where
  | deadline (deadline_id matter_id due_at rule_id : String)
  | reminder (deadline_id matter_id fire_at label : String)
  deriving DecidableEq

/-- `x.get("due_at") or x.get("fire_at", "")`. -/
def CalendarItem.sort_key : CalendarItem → String
  | .deadline _ _ due_at _ => due_at
  | .reminder _ _ fire_at _ => fire_at

/-- `a <= b`. -/
def DateTime.le (a b : DateTime) : Except Exn Bool := (b.lt a).map not

/-- `now <= t <= cutoff`. -/
def within (now cutoff t : DateTime) : Except Exn Bool := do
  if ← now.le t then t.le cutoff else .ok false

/-- `matter_id and sd.matter_id != matter_id`. -/
def of_other_matter (matter_id : Option String) (sd : ScheduledDeadline) : Bool :=
  match matter_id with
  | none => false
  | some id => decide (id ≠ "" ∧ sd.matter_id ≠ id)

def deadline_item (sd : ScheduledDeadline) : CalendarItem :=
  .deadline sd.deadline_id sd.matter_id sd.trace.due_at.isoformat sd.rule_ref.rule_id

def reminder_item (sd : ScheduledDeadline) (rem : ScheduledReminder) : CalendarItem :=
  .reminder sd.deadline_id sd.matter_id rem.fire_at.isoformat (rem.offset.label.getD "")

/-- `rem.status == "armed" and now <= rem.fire_at <= cutoff`. -/
def pending (now cutoff : DateTime) (rem : ScheduledReminder) : Except Exn Bool :=
  if rem.status = .armed then within now cutoff rem.fire_at else .ok false

/-- The loop over the reminders of a deadline. -/
def reminder_items (now cutoff : DateTime) (sd : ScheduledDeadline) :
    List ScheduledReminder → Except Exn (List CalendarItem)
  | [] => .ok []
  | rem :: rest => do
    let listed ← pending now cutoff rem
    let items ← reminder_items now cutoff sd rest
    .ok (if listed then reminder_item sd rem :: items else items)

/-- The loop over the deadlines. -/
def calendar_items (now cutoff : DateTime) (matter_id : Option String) :
    List ScheduledDeadline → Except Exn (List CalendarItem)
  | [] => .ok []
  | sd :: rest =>
    if of_other_matter matter_id sd then calendar_items now cutoff matter_id rest
    else do
      let due ← within now cutoff sd.trace.due_at
      let reminders ← reminder_items now cutoff sd sd.reminders
      let items ← calendar_items now cutoff matter_id rest
      .ok ((if due then [deadline_item sd] else []) ++ reminders ++ items)

/-- The payload. -/
structure CalendarPayload where
  window_days : Int
  matter_id : Option String
  items : List CalendarItem

/-- `resource_calendar_upcoming`, at `now`. -/
def resource_calendar_upcoming (deadline_store : DeadlineStore) (now : DateTime) (window_days : Int)
    (matter_id : Option String) : Except Exn CalendarPayload := do
  let cutoff ← now.add_days window_days
  let items ← calendar_items now cutoff matter_id deadline_store.deadlines.values
  .ok ⟨window_days, matter_id, items.insertionSort fun a b => a.sort_key ≤ b.sort_key⟩

/-! ## What it should show -/

/-- An item and its time. -/
abbrev Event : Type := DateTime × CalendarItem

/-- Between now and the end of the window. -/
def Soon (now cutoff t : DateTime) : Prop := now.instant ≤ t.instant ∧ t.instant ≤ cutoff.instant

instance (now cutoff t : DateTime) : Decidable (Soon now cutoff t) := by
  unfold Soon
  infer_instance

/-- The events of a deadline in the window. -/
def events_of (now cutoff : DateTime) (sd : ScheduledDeadline) : List Event :=
  (if Soon now cutoff sd.trace.due_at then [(sd.trace.due_at, deadline_item sd)] else []) ++
    (sd.reminders.filter fun rem => decide (rem.status = .armed ∧ Soon now cutoff rem.fire_at)).map
      fun rem => (rem.fire_at, reminder_item sd rem)

/-- The events of the deadlines asked for. -/
def upcoming (store : DeadlineStore) (now cutoff : DateTime) (matter_id : Option String) :
    List Event :=
  (store.deadlines.values.filter fun sd => !of_other_matter matter_id sd).flatMap
    (events_of now cutoff)

/-- A time that exists, and that has one of these UTC offsets. -/
structure Here (offsets : Set Int) (t : DateTime) : Prop where
  range : InRange t
  zone : ∃ x ∈ offsets, t.utcoffset = some x

/-- All times of the deadline. -/
structure Zoned (offsets : Set Int) (sd : ScheduledDeadline) : Prop where
  due : Here offsets sd.trace.due_at
  reminders : ∀ rem ∈ sd.reminders, Here offsets rem.fire_at

/-! ## The loops -/

section window
variable {now cutoff t : DateTime} {offsets : Set Int} {matter_id : Option String}

theorem le_aware {a b : DateTime} {y z : Int} (ha : a.utcoffset = some y) (hb : b.utcoffset = some z) :
    a.le b = .ok (decide (a.instant ≤ b.instant)) := by
  have hinstant : a.instant ≤ b.instant ↔ ¬ b.wall - z < a.wall - y := by
    unfold DateTime.instant
    rw [ha, hb]
    show a.wall - y - 719163 * 86400000000 ≤ b.wall - z - 719163 * 86400000000 ↔ _
    rw [sub_le_sub_iff_right, not_lt]
  unfold DateTime.le DateTime.lt
  rw [ha, hb]
  simp only [Except.map, hinstant, decide_not]

/-- Aware times are compared as instants. -/
theorem within_eq {y z : Int} (hnow : now.utcoffset = some y) (hcutoff : cutoff.utcoffset = some y)
    (ht : t.utcoffset = some z) : within now cutoff t = .ok (decide (Soon now cutoff t)) := by
  unfold within
  rw [le_aware hnow ht]
  simp only [bind, Except.bind]
  by_cases hlow : now.instant ≤ t.instant
  · rw [if_pos (decide_eq_true hlow), le_aware ht hcutoff]
    simp [Soon, hlow]
  · rw [if_neg (by simpa using hlow)]
    simp [Soon, hlow]

variable {y : Int} (hnow : now.utcoffset = some y) (hcutoff : cutoff.utcoffset = some y)

include hnow hcutoff in
theorem reminder_items_eq {sd : ScheduledDeadline} {rems : List ScheduledReminder}
    (h : ∀ rem ∈ rems, Here offsets rem.fire_at) :
    reminder_items now cutoff sd rems = .ok ((rems.filter fun rem =>
      decide (rem.status = .armed ∧ Soon now cutoff rem.fire_at)).map (reminder_item sd)) := by
  induction rems with
  | nil => rfl
  | cons rem rest ih =>
    have hrest := ih fun r hr => h r (List.mem_cons_of_mem _ hr)
    have hone : pending now cutoff rem =
        .ok (decide (rem.status = .armed ∧ Soon now cutoff rem.fire_at)) := by
      unfold pending
      by_cases harmed : rem.status = .armed
      · obtain ⟨z, -, hz⟩ := (h rem List.mem_cons_self).zone
        rw [if_pos harmed, within_eq hnow hcutoff hz]
        simp [harmed]
      · rw [if_neg harmed]
        simp [harmed]
    rw [reminder_items, hone]
    simp only [bind, Except.bind, hrest]
    by_cases hlisted : rem.status = .armed ∧ Soon now cutoff rem.fire_at
    · simp [hlisted]
    · simp only [hlisted, decide_false, Bool.false_eq_true, if_false, not_false_eq_true,
        List.filter_cons_of_neg]

include hnow hcutoff in
/-- The loops collect the events of the window. -/
theorem calendar_items_eq {sds : List ScheduledDeadline} (h : ∀ sd ∈ sds, Zoned offsets sd) :
    calendar_items now cutoff matter_id sds =
      .ok (((sds.filter fun sd => !of_other_matter matter_id sd).flatMap
        (events_of now cutoff)).map Prod.snd) := by
  induction sds with
  | nil => rfl
  | cons sd rest ih =>
    have hrest := ih fun s hs => h s (List.mem_cons_of_mem _ hs)
    have hzoned := h sd List.mem_cons_self
    obtain ⟨z, -, hz⟩ := hzoned.due.zone
    rw [calendar_items]
    by_cases hother : of_other_matter matter_id sd = true
    · rw [if_pos hother, hrest]
      simp [hother]
    · rw [if_neg hother, within_eq hnow hcutoff hz,
        reminder_items_eq hnow hcutoff hzoned.reminders]
      simp only [bind, Except.bind, hrest]
      rw [List.filter_cons_of_pos (by simpa using hother), List.flatMap_cons, List.map_append]
      congr 2
      unfold events_of
      rw [List.map_append, List.map_map]
      by_cases hsoon : Soon now cutoff sd.trace.due_at
      · simp [hsoon, Function.comp_def]
      · simp [hsoon, Function.comp_def]

end window

/-! ## Dates that exist

    Every date that the engine computes is a date of Python, as the trigger is. -/

section dates
variable {base due_at t : DateTime} {d r n : Int}

/-- A date of Python. -/
def Exists (d : Int) : Prop := 1 ≤ d ∧ d ≤ 3652059

theorem exists_of_year (hlow : 1 ≤ year_of d) (hhigh : year_of d ≤ 9999) : Exists d := by
  obtain ⟨hstart, hend⟩ := year_of_iff.mp (rfl : year_of d = year_of d)
  have hfirst := days_before_year_mono hlow
  have hlast := days_before_year_mono (show year_of d + 1 ≤ 10000 by omega)
  have hone : days_before_year 1 = 0 := by decide
  have hmax : days_before_year 10000 = 3652059 := by decide
  unfold Exists
  omega

theorem exists_of_make_date {year month day : Int} (h : make_date year month day = .ok d) :
    Exists d := by
  obtain ⟨hyear, hmonth, hday, rfl⟩ := make_date_ok_iff.mp h
  obtain ⟨m, rfl⟩ := Int.eq_ofNat_of_zero_le (show 0 ≤ month by omega)
  have hparts : Parts (ordinal year m day) year m day :=
    parts_of_ordinal (by omega) (by omega) hday.1 hday.2
  have hyear_of := hparts.year_eq
  exact exists_of_year (by omega) (by omega)

theorem exists_of_supported (h : supported_year (year_of d) = true) : Exists d := by
  have hdays := supported_year_iff.mp h
  unfold Exists
  omega

/-- The parts of an offset in years and months. -/
theorem exists_of_replace {year month : Int} (h : replace_year_month base year month = .ok t) :
    Exists t.date := by
  unfold replace_year_month at h
  cases hdate : make_date year month (day_of base.date) with
  | ok d =>
    rw [hdate] at h
    cases h
    exact exists_of_make_date hdate
  | error e =>
    rw [hdate] at h
    obtain ⟨d, hlast, h⟩ := ok_of_bind h
    cases h
    exact exists_of_make_date hlast

theorem exists_of_add_days (h : base.add_days n = .ok t) : Exists t.date := by
  unfold DateTime.add_days at h
  by_cases hrange : 1 ≤ base.date + n ∧ base.date + n ≤ 3652059
  · rw [if_pos hrange] at h
    cases h
    exact hrange
  · rw [if_neg hrange] at h
    cases h

/-- A part of an offset that may be zero. -/
theorem exists_of_part {x : Except Exn DateTime} (hbase : Exists base.date)
    (h : (if n = 0 then .ok base else x) = .ok t) (hpart : x = .ok t → Exists t.date) :
    Exists t.date := by
  by_cases hzero : n = 0
  · rw [if_pos hzero] at h
    cases h
    exact hbase
  · rw [if_neg hzero] at h
    exact hpart h

/-- A day for which `is_business_day` answers has a table, or it is part of a weekend. -/
theorem supported_or_weekend {b : Bool} (h : is_business_day d = .ok b) :
    supported_year (year_of d) = true ∨ b = false := by
  cases hsupported : supported_year (year_of d) with
  | true => exact .inl rfl
  | false =>
    right
    by_cases hweekday : weekday d ≤ 4
    · obtain ⟨e, herror⟩ := NoHolidays.raises ⟨hweekday, hsupported⟩
      rw [h] at herror
      cases herror
    · unfold is_business_day at h
      rw [if_pos (by omega)] at h
      cases h
      rfl

/-- Business days are days of the supported years. -/
theorem exists_of_business (h : is_business_day d = .ok true) : Exists d := by
  rcases supported_or_weekend h with hsupported | hfalse
  · exact exists_of_supported hsupported
  · cases hfalse

theorem exists_of_counted (hd : Exists d) (h : Counted d n r) : Exists r := by
  by_cases hzero : n = 0
  · rw [h.stays hzero]
    exact hd
  · exact exists_of_business (h.business hzero)

theorem exists_of_nearest {mode : Adjust} (hd : Exists d) (h : Nearest d r mode) : Exists r := by
  cases mode with
  | next_business_day => exact exists_of_business h.1.2
  | previous_business_day => exact exists_of_business h.1.2
  | none =>
    rw [show r = d from h]
    exact hd

theorem ok_of_map {α β : Type} {x : Except Exn α} {f : α → β} {b : β} (h : x.map f = .ok b) :
    ∃ a, x = .ok a ∧ f a = b := by
  cases x with
  | error e => cases h
  | ok a => exact ⟨a, rfl, Except.ok.inj h⟩

theorem exists_of_offset {offset : Offset} (hbase : Exists base.date)
    (h : apply_offset base offset = .ok t) : Exists t.date := by
  unfold apply_offset at h
  obtain ⟨t₁, hyears, h⟩ := ok_of_bind h
  obtain ⟨t₂, hmonths, h⟩ := ok_of_bind h
  obtain ⟨t₃, hweeks, h⟩ := ok_of_bind h
  obtain ⟨t₄, hdays, hbusiness⟩ := ok_of_bind h
  have h₁ := exists_of_part hbase hyears exists_of_replace
  have h₂ := exists_of_part h₁ hmonths exists_of_replace
  have h₃ := exists_of_part h₂ hweeks exists_of_add_days
  have h₄ := exists_of_part h₃ hdays exists_of_add_days
  refine exists_of_part h₄ hbusiness ?_
  intro hshift
  obtain ⟨d, hwalk, rfl⟩ := ok_of_map hshift
  exact exists_of_counted h₄ (add_business_days_ok hwalk)

theorem Here.on {offsets : Set Int} (h : Here offsets t) (hd : Exists d) : Here offsets (t.on d) :=
  ⟨⟨hd, h.range.time⟩, h.zone⟩

theorem Here.of_clock {offsets : Set Int} (h : Here offsets base) (hclock : SameClock base t)
    (hd : Exists t.date) : Here offsets t := by
  refine ⟨⟨hd, ?_⟩, ?_⟩
  · rw [hclock.time_eq]
    exact h.range.time
  · rw [hclock.utcoffset_eq]
    exact h.zone

/-- **A due date exists, with the UTC offset of the trigger.** -/
theorem due_date_here {rule : DeadlineRule} {trigger_inputs : Dict String DateTime} {as_of : DateTime}
    {rule_ref : RuleRef} {trace : ComputationTrace} {offsets : Set Int}
    (htriggers : ∀ field t, trigger_inputs.get? field = some t → Here offsets t)
    (h : compute_due_date rule trigger_inputs as_of rule_ref = .ok trace) : Here offsets trace.due_at := by
  obtain ⟨htrigger, -, hderived⟩ := compute_due_date_ok h
  have hvalue := htriggers _ _ htrigger
  have hraw_date := exists_of_offset hvalue.range.date hderived.offset
  have hraw := hvalue.of_clock (apply_offset_clock hderived.offset) hraw_date
  rw [hderived.due_at_eq]
  exact hraw.on (exists_of_nearest hraw_date (adjust_spec hderived.adjusted))

/-- So does the time of a reminder. -/
theorem fire_at_here {rem : ReminderOffset} {offsets : Set Int} (hdue : Here offsets due_at)
    (h : fire_at due_at rem = .ok t) : Here offsets t := by
  unfold fire_at at h
  cases hunit : rem.unit with
  | days =>
    rw [hunit] at h
    exact hdue.of_clock (add_days_clock h) (exists_of_add_days h)
  | business_days =>
    rw [hunit] at h
    obtain ⟨d, hwalk, h⟩ := ok_of_bind h
    cases h
    exact hdue.on (exists_of_counted hdue.range.date (add_business_days_ok hwalk))

end dates

/-! ## Histories -/

section histories
variable {env : Env} {offsets : Set Int} {w : World} {requests : List Request}

/-- Every trigger exists and has one of these UTC offsets. -/
def Request.TriggersHere (offsets : Set Int) : Request → Prop
  | .schedule call => ∀ field t, call.trigger_inputs.get? field = some t → Here offsets t
  | _ => True

/-- The copy has no times that the deadline does not have. -/
theorem Zoned.of_times {sd sd' : ScheduledDeadline} (h : Zoned offsets sd) (htrace : sd'.trace = sd.trace)
    (htimes : ∀ r' ∈ sd'.reminders, ∃ r ∈ sd.reminders, r'.fire_at = r.fire_at) : Zoned offsets sd' := by
  refine ⟨?_, ?_⟩
  · rw [htrace]
    exact h.due
  · intro r' hr'
    obtain ⟨r, hr, htime⟩ := htimes r' hr'
    rw [htime]
    exact h.reminders r hr

theorem Zoned.fire {sd : ScheduledDeadline} (h : Zoned offsets sd) (key : String) :
    Zoned offsets (sd.fire key) := by
  refine h.of_times rfl ?_
  intro r' hr'
  obtain ⟨r, hr, rfl⟩ := List.mem_map.mp hr'
  refine ⟨r, hr, ?_⟩
  split_ifs <;> rfl

theorem Zoned.finish {sd : ScheduledDeadline} (h : Zoned offsets sd) : Zoned offsets sd.finish := by
  refine h.of_times rfl ?_
  intro r' hr'
  obtain ⟨r, hr, rfl⟩ := List.mem_map.mp hr'
  refine ⟨r, hr, ?_⟩
  split_ifs <;> rfl

/-- A new deadline has the UTC offset of its trigger. -/
theorem Zoned.scheduled {call : ScheduleCall} {now : DateTime} {trace : ComputationTrace}
    {rs : List ScheduledReminder} {id : String} (hdue : Here offsets trace.due_at)
    (hmade : ∀ r ∈ rs, Made call.idempotency_key trace.due_at now r) :
    Zoned offsets (call.scheduled trace rs id) := by
  refine ⟨hdue, ?_⟩
  intro r hr
  obtain ⟨r₀, hr₀, rfl⟩ := mem_scheduled.mp hr
  exact fire_at_here hdue (hmade r₀ hr₀).fires

/-- All that is stored has one of these UTC offsets. -/
def AllZoned (offsets : Set Int) (store : DeadlineStore) : Prop :=
  ∀ id sd, store.get id = some sd → Zoned offsets sd

theorem AllZoned.save {store : DeadlineStore} {sd : ScheduledDeadline} (h : AllZoned offsets store)
    (hsd : Zoned offsets sd) : AllZoned offsets (store.save sd) := by
  intro id other hget
  rw [DeadlineStore.get_save] at hget
  by_cases hid : id = sd.deadline_id
  · rw [if_pos hid] at hget
    cases hget
    exact hsd
  · rw [if_neg hid] at hget
    exact h id other hget

/-- One request. -/
theorem all_zoned_serve (request : Request) (h : AllZoned offsets w.store)
    (hzone : request.TriggersHere offsets) : AllZoned offsets (serve env w request).store := by
  cases request with
  | schedule call =>
    show AllZoned offsets ((tool_deadline_schedule call).run (exec env) w).2.store
    cases hrun : (tool_deadline_schedule call).run (exec env) w with
    | mk result w' =>
    obtain ⟨sd, -, -, hsilent⟩ | ⟨-, ⟨e, -, hquiet⟩ | ⟨trace, htrace, hnew⟩⟩ := schedule_cases hrun
    · show AllZoned offsets w'.store
      rw [hsilent.store]
      exact h
    · show AllZoned offsets w'.store
      rw [hquiet.store]
      exact h
    · have hdue := due_date_here hzone htrace
      show AllZoned offsets w'.store
      rcases hnew with ⟨id, -, hfiled⟩ | ⟨rs, id, -, hmade⟩
      · rw [hfiled.store]
        exact h.save ⟨hdue, fun r hr => absurd hr (List.not_mem_nil)⟩
      · rw [hmade.filed.store]
        exact h.save (Zoned.scheduled hdue hmade.made)
  | fire_reminder deadline_id key redis audited =>
    cases serve_cases env w (.fire_reminder deadline_id key redis audited) with
    | quiet hstore _ _ _ =>
      rw [hstore]
      exact h
    | delivered hget _ hdel =>
      rw [hdel.store]
      exact h.save ((h _ _ hget).fire _)
  | escalate deadline_id audited =>
    cases serve_cases env w (.escalate deadline_id audited) with
    | quiet hstore _ _ _ =>
      rw [hstore]
      exact h
    | advanced hget hstore _ _ _ =>
      rw [hstore]
      exact h.save (Zoned.of_times (h _ _ hget) rfl fun r hr => ⟨r, hr, rfl⟩)
  | mark_done deadline_id audited =>
    cases serve_cases env w (.mark_done deadline_id audited) with
    | quiet hstore _ _ _ =>
      rw [hstore]
      exact h
    | finished hget hstore _ _ _ =>
      rw [hstore]
      exact h.save (h _ _ hget).finish
  | expire key => exact h

theorem all_zoned_served (h : ∀ request ∈ requests, request.TriggersHere offsets) :
    AllZoned offsets (served env requests).store := by
  induction requests using List.reverseRecOn with
  | nil =>
    intro id sd hget
    cases hget
  | append_singleton requests request ih =>
    rw [served_append]
    refine all_zoned_serve request (ih fun r hr => h r (List.mem_append_left _ hr)) ?_
    exact h request (List.mem_append_right _ (List.mem_singleton_self _))

/-- **No request re-arms a reminder.** -/
theorem serve_ahead {id : String} {sd : ScheduledDeadline} (request : Request)
    (h : Indexed env w) (hsd : w.store.get id = some sd) :
    ∃ sd', (serve env w request).store.get id = some sd' ∧ Ahead sd sd' := by
  cases serve_cases env w request with
  | quiet hstore _ _ _ =>
    rw [hstore]
    exact ⟨sd, hsd, Ahead.refl sd⟩
  | @filed call new _ hfiled _ =>
    -- the id is fresh
    obtain ⟨n, hlow, -, hid⟩ := hfiled.fresh
    obtain ⟨m, hm, hold⟩ := h.drawn sd (stored_of_get hsd)
    rw [w.store.keyed hsd] at hold
    refine ⟨sd, ?_, Ahead.refl sd⟩
    rw [hfiled.store, DeadlineStore.get_save, if_neg ?_]
    · exact hsd
    · intro heq
      rw [hold, hid] at heq
      have hsame := env.uuid_injective heq
      omega
  | @advanced _ _ other hget hstore _ _ _ =>
    rw [hstore]
    have hid : (other.advance).deadline_id = other.deadline_id := rfl
    exact save_ahead hget hid (ahead_advance other) sd hsd
  | @finished _ _ other hget hstore _ _ _ =>
    rw [hstore]
    have hid : (other.finish).deadline_id = other.deadline_id := rfl
    exact save_ahead hget hid (ahead_finish other) sd hsd
  | @delivered _ key _ _ other hget _ hdel =>
    rw [hdel.store]
    have hid : (other.fire key).deadline_id = other.deadline_id := rfl
    exact save_ahead hget hid (ahead_fire other key) sd hsd

/-- The rest of a history. -/
theorem served_ahead {before after : List Request} {id : String} {sd : ScheduledDeadline}
    (hsd : (served env before).store.get id = some sd) :
    ∃ sd', (served env (before ++ after)).store.get id = some sd' ∧ Ahead sd sd' := by
  induction after using List.reverseRecOn with
  | nil =>
    rw [List.append_nil]
    exact ⟨sd, hsd, Ahead.refl sd⟩
  | append_singleton after request ih =>
    rw [← List.append_assoc]
    obtain ⟨mid, hmid, hahead⟩ := ih
    obtain ⟨sd', hsd', hahead'⟩ := serve_ahead request (indexed_served env (before ++ after)) hmid
    rw [served_append]
    exact ⟨sd', hsd', hahead.trans hahead'⟩

/-- A deadline that was marked done has no armed reminder at the end. -/
theorem disarmed_after_done {before after : List Request} {id : String} {audited : Bool}
    {sd sd' : ScheduledDeadline} (hsd : (served env before).store.get id = some sd)
    (hend : (served env (before ++ .mark_done id audited :: after)).store.get id = some sd') :
    Disarmed sd' := by
  have hsplit : before ++ .mark_done id audited :: after =
      (before ++ [.mark_done id audited]) ++ after := by simp
  rw [hsplit] at hend
  have hdone : (served env (before ++ [.mark_done id audited])).store.get id = some sd.finish := by
    rw [served_append]
    show ((mark_done id audited).run (exec env) (served env before)).2.store.get id = _
    obtain ⟨w', hrun, -, -, -, ⟨hnone, -⟩ | ⟨found, hget, hstore⟩⟩ :=
      mark_done_run env id audited (served env before)
    · rw [hsd] at hnone
      cases hnone
    · rw [hsd] at hget
      cases hget
      rw [hrun, hstore]
      exact DeadlineStore.get_save_self hsd rfl
  obtain ⟨last, hlast, hahead⟩ := served_ahead hdone
  rw [hend] at hlast
  cases hlast
  exact (disarmed_finish sd).ahead hahead

end histories

/-! ## The calendar -/

section calendar
variable {now cutoff : DateTime} {offsets : Set Int} {store : DeadlineStore} {matter_id : Option String}

theorem mem_upcoming {event : Event} : event ∈ upcoming store now cutoff matter_id ↔
    ∃ id sd, store.get id = some sd ∧ of_other_matter matter_id sd = false ∧
      event ∈ events_of now cutoff sd := by
  unfold upcoming
  simp only [List.mem_flatMap, List.mem_filter, Dict.mem_values_iff, Bool.not_eq_true']
  constructor
  · rintro ⟨sd, ⟨⟨id, hget⟩, hmatter⟩, hevent⟩
    exact ⟨id, sd, hget, hmatter, hevent⟩
  · rintro ⟨id, sd, hget, hmatter, hevent⟩
    exact ⟨sd, ⟨⟨id, hget⟩, hmatter⟩, hevent⟩

/-- The text of an event is that of its time. -/
theorem event_text {sd : ScheduledDeadline} {event : Event} (hzoned : Zoned offsets sd)
    (h : event ∈ events_of now cutoff sd) :
    event.2.sort_key = event.1.isoformat ∧ Here offsets event.1 := by
  rcases List.mem_append.mp h with hdue | hreminder
  · by_cases hsoon : Soon now cutoff sd.trace.due_at
    · rw [if_pos hsoon, List.mem_singleton] at hdue
      rw [hdue]
      exact ⟨rfl, hzoned.due⟩
    · rw [if_neg hsoon] at hdue
      cases hdue
  · obtain ⟨rem, hrem, rfl⟩ := List.mem_map.mp hreminder
    exact ⟨rfl, hzoned.reminders rem (List.mem_filter.mp hrem).1⟩

/-- A reminder that is listed is stored and armed. -/
theorem armed_of_listed {sd : ScheduledDeadline} {t : DateTime} {id matter fire_at label : String}
    (h : (t, CalendarItem.reminder id matter fire_at label) ∈ events_of now cutoff sd) :
    sd.deadline_id = id ∧ ∃ rem ∈ sd.reminders, rem.status = .armed ∧ rem.fire_at = t := by
  rcases List.mem_append.mp h with hdue | hreminder
  · by_cases hsoon : Soon now cutoff sd.trace.due_at
    · rw [if_pos hsoon, List.mem_singleton] at hdue
      cases hdue
    · rw [if_neg hsoon] at hdue
      cases hdue
  · obtain ⟨rem, hrem, heq⟩ := List.mem_map.mp hreminder
    cases heq
    have hlisted := (List.mem_filter.mp hrem).2
    exact ⟨rfl, rem, (List.mem_filter.mp hrem).1, (of_decide_eq_true hlisted).1, rfl⟩

/-- With one UTC offset the order of the texts is that of the times. -/
theorem instant_le_of_text {a b : DateTime} (hone : offsets.Subsingleton) (ha : Here offsets a)
    (hb : Here offsets b) (h : a.isoformat ≤ b.isoformat) : a.instant ≤ b.instant := by
  obtain ⟨x, hx, hax⟩ := ha.zone
  obtain ⟨y, hy, hby⟩ := hb.zone
  rw [hone hy hx] at hby
  have hlt := isoformat_lt_iff hb.range ha.range (hby.trans hax.symm)
  have hwall : ¬ b.wall < a.wall := by
    rw [← hlt]
    exact not_lt.mpr h
  unfold DateTime.instant
  rw [hax, hby]
  show a.wall - x - 719163 * 86400000000 ≤ b.wall - x - 719163 * 86400000000
  omega

theorem sorted_texts (events : List Event) :
    (events.insertionSort fun a b => a.2.sort_key ≤ b.2.sort_key).Pairwise
      fun a b => a.2.sort_key ≤ b.2.sort_key := by
  have htotal : Std.Total fun a b : Event => a.2.sort_key ≤ b.2.sort_key :=
    ⟨fun a b => le_total _ _⟩
  have htrans : IsTrans Event fun a b => a.2.sort_key ≤ b.2.sort_key := ⟨fun _ _ _ => le_trans⟩
  exact List.pairwise_insertionSort _ _

/-- Sorted by text is sorted by time. -/
theorem sorted_events {events : List Event} (hone : offsets.Subsingleton)
    (h : ∀ event ∈ events, event.2.sort_key = event.1.isoformat ∧ Here offsets event.1) :
    (events.insertionSort fun a b => a.2.sort_key ≤ b.2.sort_key).Pairwise
      fun a b => a.1.instant ≤ b.1.instant := by
  refine List.Pairwise.imp_of_mem ?_ (sorted_texts events)
  intro a b ha hb hle
  obtain ⟨htext, hhere⟩ := h a ((List.mem_insertionSort _).mp ha)
  obtain ⟨htext', hhere'⟩ := h b ((List.mem_insertionSort _).mp hb)
  rw [htext, htext'] at hle
  exact instant_le_of_text hone hhere hhere' hle

end calendar

/-- **The calendar after any history.** From an empty store and with aware triggers: the items are
    the due dates and armed reminders of the deadlines asked for that fall into the window, each as
    often as it is stored, and after a `mark_done` no reminder of the deadline is listed.

    They are sorted by text, which is the order of time where the triggers have one UTC offset. A listed
    reminder was not sent, where the reminders have keys of their own. -/
theorem calendar_upcoming {env : Env} {requests : List Request} {offsets : Set Int}
    {window_days : Int} {now cutoff : DateTime} (matter_id : Option String)
    (hzone : ∀ request ∈ requests, request.TriggersHere offsets) (hnow : now.utcoffset = some 0)
    (hcutoff : now.add_days window_days = .ok cutoff) :
    ∃ events : List Event,
      resource_calendar_upcoming (served env requests).store now window_days matter_id =
        .ok ⟨window_days, matter_id, events.map Prod.snd⟩ ∧
      events.Perm (upcoming (served env requests).store now cutoff matter_id) ∧
      (events.Pairwise fun a b => a.2.sort_key ≤ b.2.sort_key) ∧
      (offsets.Subsingleton → events.Pairwise fun a b => a.1.instant ≤ b.1.instant) ∧
      (Orderly requests → ∀ t id matter fire_at label,
        (t, .reminder id matter fire_at label) ∈ events →
        ∃ sd rem, (served env requests).store.get id = some sd ∧ rem ∈ sd.reminders ∧
          rem.fire_at = t ∧ (served env requests).sent rem.idempotency_key = 0) ∧
      (∀ before after id audited sd, requests = before ++ .mark_done id audited :: after →
        (served env before).store.get id = some sd →
        ∀ t matter fire_at label, (t, .reminder id matter fire_at label) ∉ events) := by
  have hzoned : AllZoned offsets (served env requests).store := all_zoned_served hzone
  have hcutoff_zone : cutoff.utcoffset = some 0 := (add_days_clock hcutoff).utcoffset_eq.trans hnow
  have hlisted : ∀ t id matter fire_at label, (t, CalendarItem.reminder id matter fire_at label) ∈
      upcoming (served env requests).store now cutoff matter_id →
      ∃ sd rem, (served env requests).store.get id = some sd ∧ rem ∈ sd.reminders ∧
        rem.status = .armed ∧ rem.fire_at = t := by
    intro t id matter fire_at label hmem
    obtain ⟨stored_id, sd, hget, -, hevent⟩ := mem_upcoming.mp hmem
    obtain ⟨hid, rem, hrem, harmed, htime⟩ := armed_of_listed hevent
    refine ⟨sd, rem, ?_, hrem, harmed, htime⟩
    rw [← hid, (served env requests).store.keyed hget]
    exact hget
  refine ⟨(upcoming (served env requests).store now cutoff matter_id).insertionSort
    fun a b => a.2.sort_key ≤ b.2.sort_key, ?_, List.perm_insertionSort _ _, sorted_texts _, ?_, ?_, ?_⟩
  · have hvalues : ∀ sd ∈ (served env requests).store.deadlines.values, Zoned offsets sd := by
      intro sd hsd
      obtain ⟨id, hget⟩ := Dict.mem_values_iff.mp hsd
      exact hzoned id sd hget
    have hitems : calendar_items now cutoff matter_id
        (served env requests).store.deadlines.values = _ :=
      calendar_items_eq hnow hcutoff_zone hvalues
    unfold resource_calendar_upcoming
    rw [hcutoff]
    simp only [bind, Except.bind, hitems]
    rw [List.map_insertionSort (fun a b : Event => a.2.sort_key ≤ b.2.sort_key)
      (fun a b : CalendarItem => a.sort_key ≤ b.sort_key) Prod.snd _ fun _ _ _ _ => Iff.rfl]
    rfl
  · intro hone
    have htexts : ∀ event ∈ upcoming (served env requests).store now cutoff matter_id,
        event.2.sort_key = event.1.isoformat ∧ Here offsets event.1 := by
      intro event hevent
      obtain ⟨id, sd, hget, -, hof⟩ := mem_upcoming.mp hevent
      exact event_text (hzoned id sd hget) hof
    exact sorted_events hone htexts
  · intro horderly t id matter fire_at label hmem
    have hledger : Ledger env _ (served env requests) := ledger_served horderly
    obtain ⟨sd, rem, hget, hrem, harmed, htime⟩ :=
      hlisted t id matter fire_at label ((List.mem_insertionSort _).mp hmem)
    refine ⟨sd, rem, hget, hrem, htime, ?_⟩
    rw [hledger.counted sd (stored_of_get hget) rem hrem, harmed]
    rfl
  · rintro before after id audited sd rfl hsd t matter fire_at label hmem
    obtain ⟨sd', rem, hget, hrem, harmed, -⟩ :=
      hlisted t id matter fire_at label ((List.mem_insertionSort _).mp hmem)
    exact disarmed_after_done hsd hget rem hrem harmed

/-- The answer is scheduled and done: only its due date is left in the calendar. -/
theorem done_answer_upcoming : ∃ events : List Event,
    resource_calendar_upcoming (served calm_env [.schedule answer_call, .mark_done "id-3" false]).store
      (nine_utc 739705) 90 (some "m1") = .ok ⟨90, some "m1", events.map Prod.snd⟩ ∧
    events.length = 1 ∧
    ∀ t matter fire_at label, (t, .reminder "id-3" matter fire_at label) ∉ events := by
  have hzone : ∀ request ∈ [Request.schedule answer_call, .mark_done "id-3" false],
      request.TriggersHere {0} := by
    intro request hrequest
    rcases List.mem_pair.mp hrequest with rfl | rfl
    · intro field t ht
      obtain ⟨-, rfl⟩ | ⟨-, hnone⟩ := Dict.get?_set_cases ht
      · exact ⟨⟨⟨by decide, by decide⟩, by decide⟩, 0, rfl, rfl⟩
      · cases hnone
    · trivial
  have hcutoff : (nine_utc 739705).add_days 90 = .ok (nine_utc 739795) := rfl
  obtain ⟨events, hresource, hperm, -, -, -, hdone⟩ :=
    @calendar_upcoming calm_env _ _ _ _ _ (some "m1") hzone rfl hcutoff
  have hcount : (upcoming (served calm_env [.schedule answer_call, .mark_done "id-3" false]).store
      (nine_utc 739705) (nine_utc 739795) (some "m1")).length = 1 := by
    decide +kernel
  have hstored : ((served calm_env [.schedule answer_call]).store.get "id-3").isSome = true := by
    decide +kernel
  obtain ⟨sd, hsd⟩ := Option.isSome_iff_exists.mp hstored
  refine ⟨events, hresource, hperm.length_eq.trans hcount, ?_⟩
  exact hdone [.schedule answer_call] [] "id-3" false sd rfl hsd

end CaseAutomation.Deadline
