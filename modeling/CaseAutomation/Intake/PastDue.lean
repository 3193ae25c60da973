import CaseAutomation.Deadline.PastDue
import CaseAutomation.Intake.Deadlines

/-! # Deadlines That Are Past Due

    `compute_deadlines` passes over a rule that is past due, and lists what the tool returns as
    pending. A flagged deadline is listed when the tool finds one: when the step is executed
    again, and when the case type has the rule twice (`lists_flagged_iff`).
-/

namespace CaseAutomation.Intake

open Framework Program Deadline Packs

/-! ## One rule -/

/-- The deadline for a rule is past due when it is created. -/
def Late (call : ScheduleCall) (now : DateTime) : Prop :=
  ∃ trace, compute_due_date call.rule call.trigger_inputs now call.rule_ref = .ok trace ∧
    trace.due_at.lt now = .ok true

/-- The call that the step makes for a rule, if it is active. -/
def step_call (rule_store : RuleStore) (matter_id run_id : String) (now : DateTime)
    (rule_id : String) : Option ScheduleCall :=
  match rule_store.active rule_id "US", rule_store.rule_version rule_id "US" with
  | .ok rule, .ok version => some (rule_call matter_id run_id now rule_id version rule)
  | _, _ => none

section rule
variable {env : Env} {w w' : World} {rule_store : RuleStore} {matter_id run_id rule_id : String}
  {now : DateTime} {call : ScheduleCall} {sd : ScheduledDeadline}

theorem step_call_key (h : step_call rule_store matter_id run_id now rule_id = some call) :
    call.idempotency_key = deadline_key run_id rule_id ∧ call.now = some now := by
  unfold step_call at h
  split at h
  · cases h
    exact ⟨rfl, rfl⟩
  · cases h

theorem compute_deadline_inactive (env : Env) (w : World)
    (h : step_call rule_store matter_id run_id now rule_id = none) :
    ∃ e, (compute_deadline rule_store matter_id run_id now rule_id).run (exec env) w = (.error e, w) := by
  unfold compute_deadline
  unfold step_call at h
  cases hactive : rule_store.active rule_id "US" with
  | error e => exact ⟨e, rfl⟩
  | ok rule =>
    obtain ⟨version, hversion⟩ := RuleStore.rule_version_ok hactive
    rw [hactive, hversion] at h
    cases h

theorem compute_deadline_active (env : Env) (w : World)
    (h : step_call rule_store matter_id run_id now rule_id = some call) :
    (compute_deadline rule_store matter_id run_id now rule_id).run (exec env) w =
      (((tool_deadline_schedule call).run (exec env) w).1.map
        (matter_deadline matter_id rule_id call.rule),
        ((tool_deadline_schedule call).run (exec env) w).2) := by
  unfold compute_deadline
  unfold step_call at h
  cases hactive : rule_store.active rule_id "US" with
  | error e =>
    rw [hactive] at h
    cases h
  | ok rule =>
    obtain ⟨version, hversion⟩ := RuleStore.rule_version_ok hactive
    rw [hactive, hversion] at h
    cases h
    rw [hversion]
    show ((tool_deadline_schedule _).bind fun _ => .ret _).run (exec env) w = _
    rw [run_bind]
    cases (tool_deadline_schedule (rule_call matter_id run_id now rule_id version rule)).run
      (exec env) w with
    | mk result w₁ =>
    cases result with
    | ok sd => rfl
    | error e => rfl

/-- What happens to a rule whose deadline is not stored. -/
inductive Added (env : Env) (call : ScheduleCall) (now : DateTime) (w w' : World) :
    Except Exn ScheduledDeadline → Prop where
  | quiet {e : Exn} : ¬ Late call now → Quiet w w' → Added env call now w w' (.error e)
  | late {e : Exn} {trace : ComputationTrace} {id : String} : Late call now →
      Filed env w w' (call.flagged trace id) → Added env call now w w' (.error e)
  | scheduled {trace : ComputationTrace} {rs : List ScheduledReminder} {id : String} :
      ¬ Late call now → Filed env w w' (call.scheduled trace rs id) →
      Added env call now w w' (.ok (call.scheduled trace rs id))

theorem added {result : Except Exn ScheduledDeadline} (hnow : call.now = some now)
    (hnone : w.store.get_by_idem call.idempotency_key = none)
    (h : (tool_deadline_schedule call).run (exec env) w = (result, w')) :
    Added env call now w w' result := by
  unfold tool_deadline_schedule at h
  rw [hnow] at h
  change (Program.bind (await (.get_by_idem call.idempotency_key)) _).run (exec env) w = _ at h
  rw [run_bind, run_perform] at h
  simp only [exec, hnone] at h
  rw [monad_bind, run_bind, run_ofExcept] at h
  cases htrace : compute_due_date call.rule call.trigger_inputs now call.rule_ref with
  | error e =>
    rw [htrace] at h
    obtain ⟨rfl, rfl⟩ := Prod.mk.inj h
    refine .quiet ?_ (Quiet.refl _)
    rintro ⟨trace, hok, -⟩
    cases htrace.symm.trans hok
  | ok trace =>
    rw [htrace] at h
    simp only at h
    have hlate : Late call now ↔ trace.due_at.lt now = .ok true := by
      constructor
      · rintro ⟨trace', hok, hpast⟩
        cases htrace.symm.trans hok
        exact hpast
      · intro hpast
        exact ⟨trace, htrace, hpast⟩
    obtain ⟨e, rfl, hquiet, hnot⟩ | ⟨id, rfl, hpast, hfiled⟩ | ⟨rs, id, rfl, hahead, hmade⟩ :=
      schedule_at_cases h
    · exact .quiet (fun hl => hnot (hlate.mp hl)) hquiet
    · exact .late (hlate.mpr hpast) hfiled
    · refine .scheduled (fun hl => ?_) hmade.filed
      cases hahead.symm.trans (hlate.mp hl)

/-- **The tool hides no deadline.** -/
theorem tool_keeps (hindexed : Indexed env w) :
    Indexed env ((tool_deadline_schedule call).run (exec env) w).2 ∧ ∀ id sd, w.store.get id = some sd →
      ((tool_deadline_schedule call).run (exec env) w).2.store.get id = some sd := by
  have hkeeps : ∀ {w' : World} {new : ScheduledDeadline}, Filed env w w' new →
      Indexed env w' ∧ ∀ id sd, w.store.get id = some sd → w'.store.get id = some sd := by
    intro w' new hfiled
    refine ⟨hfiled.indexed hindexed, ?_⟩
    intro id sd hget
    obtain ⟨n, hlow, -, hid⟩ := hfiled.fresh
    obtain ⟨m, hm, hsd⟩ := hindexed.drawn sd (stored_of_get hget)
    have hne : id ≠ new.deadline_id := by
      rintro rfl
      rw [w.store.keyed hget, hid] at hsd
      have hsame := env.uuid_injective hsd
      omega
    rw [hfiled.store, DeadlineStore.get_save, if_neg hne]
    exact hget
  cases hrun : (tool_deadline_schedule call).run (exec env) w with
  | mk result w' =>
  obtain ⟨sd, -, -, hsilent⟩ |
    ⟨-, ⟨e, -, hquiet⟩ | ⟨trace, -, ⟨id, -, hfiled⟩ | ⟨rs, id, -, hmade⟩⟩⟩ := schedule_cases hrun
  · exact ⟨hindexed.congr hsilent.store hsilent.uuids, fun id sd hget => by rw [hsilent.store]; exact hget⟩
  · exact ⟨hindexed.congr hquiet.store hquiet.uuids, fun id sd hget => by rw [hquiet.store]; exact hget⟩
  · exact hkeeps hfiled
  · exact hkeeps hmade.filed

end rule

/-! ## The loop -/

/-- A flagged deadline is among those that are listed. -/
def ListsFlagged (w : World) (ds : List Domain.Deadline) : Prop :=
  ∃ d ∈ ds, ∃ sd, w.store.get d.id = some sd ∧ sd.flagged_past_due_on_create = true

/-- The rule is active, and its flagged deadline is stored already; or it is past due, and the
    step comes to it twice. -/
def FlaggedAhead (rule_store : RuleStore) (matter_id run_id : String) (now : DateTime)
    (rule_ids : List String) (w : World) (rule_id : String) : Prop :=
  ∃ call, step_call rule_store matter_id run_id now rule_id = some call ∧
    ((∃ sd, w.store.get_by_idem (deadline_key run_id rule_id) = some sd ∧
        sd.flagged_past_due_on_create = true) ∨
      (w.store.get_by_idem (deadline_key run_id rule_id) = none ∧ Late call now ∧
        2 ≤ rule_ids.count rule_id))

section loop
variable {env : Env} {w w' : World} {rule_store : RuleStore} {matter_id run_id rule_id : String}
  {now : DateTime} {rest rule_ids : List String} {ds : List Domain.Deadline}

/-- How the loop returns. -/
theorem compute_each_cons
    (h : (compute_each rule_store matter_id run_id now (rule_id :: rest)).run (exec env) w = (.ok ds, w')) :
    (∃ d ds' w₁, (compute_deadline rule_store matter_id run_id now rule_id).run (exec env) w =
        (.ok d, w₁) ∧ ds = d :: ds' ∧
      (compute_each rule_store matter_id run_id now rest).run (exec env) w₁ = (.ok ds', w')) ∨
    (∃ e w₁, (compute_deadline rule_store matter_id run_id now rule_id).run (exec env) w =
        (.error e, w₁) ∧
      (compute_each rule_store matter_id run_id now rest).run (exec env) w₁ = (.ok ds, w')) := by
  rw [compute_each, monad_bind, run_bind, run_attempt] at h
  cases hfirst : (compute_deadline rule_store matter_id run_id now rule_id).run (exec env) w with
  | mk first w₁ =>
  rw [hfirst] at h
  cases first with
  | ok d =>
    change ((compute_each rule_store matter_id run_id now rest).bind _).run (exec env) w₁ = _ at h
    rw [run_bind] at h
    cases hrest : (compute_each rule_store matter_id run_id now rest).run (exec env) w₁ with
    | mk others w₂ =>
    rw [hrest] at h
    cases others with
    | ok ds' =>
      obtain ⟨hds, rfl⟩ := Prod.mk.inj h
      cases hds
      exact .inl ⟨d, ds', w₁, rfl, rfl, hrest⟩
    | error e => cases h
  | error e =>
    change (if passed_over e = true then _ else _ : M (List Domain.Deadline)).run (exec env) w₁ = _ at h
    by_cases hpassed : passed_over e = true
    · rw [if_pos hpassed] at h
      exact .inr ⟨e, w₁, rfl, h⟩
    · rw [if_neg hpassed] at h
      cases h

theorem compute_deadline_keeps (hindexed : Indexed env w)
    {result : Except Exn Domain.Deadline}
    (h : (compute_deadline rule_store matter_id run_id now rule_id).run (exec env) w = (result, w')) :
    Indexed env w' ∧ ∀ id sd, w.store.get id = some sd → w'.store.get id = some sd := by
  cases hcall : step_call rule_store matter_id run_id now rule_id with
  | none =>
    obtain ⟨e, hrun⟩ := compute_deadline_inactive env w hcall
    obtain ⟨-, rfl⟩ := Prod.mk.inj (hrun.symm.trans h)
    exact ⟨hindexed, fun _ _ hget => hget⟩
  | some call =>
    rw [compute_deadline_active env w hcall] at h
    obtain ⟨-, rfl⟩ := Prod.mk.inj h
    exact tool_keeps hindexed

theorem compute_each_keeps (hindexed : Indexed env w)
    (h : (compute_each rule_store matter_id run_id now rule_ids).run (exec env) w = (.ok ds, w')) :
    ∀ id sd, w.store.get id = some sd → w'.store.get id = some sd := by
  induction rule_ids generalizing w ds with
  | nil =>
    obtain ⟨-, rfl⟩ := Prod.mk.inj h
    exact fun _ _ hget => hget
  | cons rule_id rest ih =>
    obtain ⟨d, ds', w₁, hfirst, -, hrest⟩ | ⟨e, w₁, hfirst, hrest⟩ := compute_each_cons h
    · obtain ⟨hindexed₁, hkeeps⟩ := compute_deadline_keeps hindexed hfirst
      exact fun id sd hget => ih hindexed₁ hrest id sd (hkeeps id sd hget)
    · obtain ⟨hindexed₁, hkeeps⟩ := compute_deadline_keeps hindexed hfirst
      exact fun id sd hget => ih hindexed₁ hrest id sd (hkeeps id sd hget)

/-- What is ahead, and the rest of it where one rule has been served. -/
theorem flagged_ahead_cons {w₁ : World} (shown : Prop)
    (hother : ∀ id, id ≠ rule_id → w₁.store.get_by_idem (deadline_key run_id id) =
      w.store.get_by_idem (deadline_key run_id id))
    (hhere : FlaggedAhead rule_store matter_id run_id now (rule_id :: rest) w rule_id ↔
      shown ∨ (rule_id ∈ rest ∧ FlaggedAhead rule_store matter_id run_id now rest w₁ rule_id)) :
    (∃ id ∈ rule_id :: rest, FlaggedAhead rule_store matter_id run_id now (rule_id :: rest) w id) ↔
      shown ∨ ∃ id ∈ rest, FlaggedAhead rule_store matter_id run_id now rest w₁ id := by
  have hcongr : ∀ id, id ≠ rule_id → (FlaggedAhead rule_store matter_id run_id now rest w₁ id ↔
      FlaggedAhead rule_store matter_id run_id now (rule_id :: rest) w id) := by
    intro id hne
    unfold FlaggedAhead
    rw [hother id hne, List.count_cons_of_ne (Ne.symm hne)]
  constructor
  · rintro ⟨id, hid, hahead⟩
    by_cases heq : id = rule_id
    · subst heq
      exact (hhere.mp hahead).imp_right fun hrest => ⟨id, hrest⟩
    · exact .inr ⟨id, (List.mem_cons.mp hid).resolve_left heq, (hcongr id heq).mpr hahead⟩
  · rintro (hshown | ⟨id, hid, hahead⟩)
    · exact ⟨rule_id, List.mem_cons_self, hhere.mpr (.inl hshown)⟩
    · by_cases heq : id = rule_id
      · subst heq
        exact ⟨id, List.mem_cons_self, hhere.mpr (.inr ⟨hid, hahead⟩)⟩
      · exact ⟨id, List.mem_cons_of_mem _ hid, (hcongr id heq).mp hahead⟩

theorem lists_cons {d : Domain.Deadline} {sd : ScheduledDeadline} (hget : w.store.get d.id = some sd) :
    ListsFlagged w (d :: ds) ↔ sd.flagged_past_due_on_create = true ∨ ListsFlagged w ds := by
  unfold ListsFlagged
  simp only [List.mem_cons, exists_eq_or_imp]
  refine or_congr ?_ Iff.rfl
  constructor
  · rintro ⟨sd', hget', hflag⟩
    cases hget.symm.trans hget'
    exact hflag
  · intro hflag
    exact ⟨sd, hget, hflag⟩

/-- Another key is found as before. -/
theorem filed_other_key {w₁ : World} {new : ScheduledDeadline} (hindexed : Indexed env w)
    (hfiled : Filed env w w₁ new) (hkey : new.idempotency_key = deadline_key run_id rule_id)
    {id : String} (hne : id ≠ rule_id) : w₁.store.get_by_idem (deadline_key run_id id) =
      w.store.get_by_idem (deadline_key run_id id) := by
  rw [hfiled.get_by_idem hindexed, if_neg]
  rintro ⟨hsame, -⟩
  exact hne (deadline_key_injective (hsame.trans hkey))

theorem filed_own_key {w₁ : World} {new : ScheduledDeadline} (hindexed : Indexed env w)
    (hfiled : Filed env w w₁ new) (hkey : new.idempotency_key = deadline_key run_id rule_id) :
    w₁.store.get_by_idem (deadline_key run_id rule_id) = some new := by
  rw [hfiled.get_by_idem hindexed, if_pos ⟨hkey.symm, deadline_key_ne _ _⟩]

/-- **What the loop lists.** -/
theorem lists_flagged_each (hindexed : Indexed env w)
    (h : (compute_each rule_store matter_id run_id now rule_ids).run (exec env) w = (.ok ds, w')) :
    ListsFlagged w' ds ↔
      ∃ id ∈ rule_ids, FlaggedAhead rule_store matter_id run_id now rule_ids w id := by
  induction rule_ids generalizing w ds with
  | nil =>
    obtain ⟨hds, -⟩ := Prod.mk.inj h
    cases hds
    unfold ListsFlagged
    simp
  | cons rule_id rest ih =>
    cases hcall : step_call rule_store matter_id run_id now rule_id with
    | none =>
      -- an unknown rule is passed over
      obtain ⟨e, hrun⟩ := compute_deadline_inactive env w hcall
      have hnever : ∀ ids, ¬ FlaggedAhead rule_store matter_id run_id now ids w rule_id := by
        rintro ids ⟨call, hsome, -⟩
        cases hcall.symm.trans hsome
      obtain ⟨d, ds', w₁, hfirst, -, -⟩ | ⟨e', w₁, hfirst, hrest⟩ := compute_each_cons h
      · cases hrun.symm.trans hfirst
      · cases hrun.symm.trans hfirst
        rw [ih hindexed hrest, flagged_ahead_cons False (fun id _ => rfl)
          (by simp [hnever]), false_or]
    | some call =>
      obtain ⟨hkey, hnow⟩ := step_call_key hcall
      have hactive := compute_deadline_active env w hcall
      cases htool : (tool_deadline_schedule call).run (exec env) w with
      | mk result w₁ =>
      have hindexed₁ : Indexed env w₁ := by
        have hkeeps := (@tool_keeps env w call hindexed).1
        rwa [htool] at hkeeps
      rw [htool] at hactive
      -- in the rest of the loop the deadline stays where it is
      have hstays : ∀ {d ds' sd}, ds = d :: ds' →
          (compute_each rule_store matter_id run_id now rest).run (exec env) w₁ = (.ok ds', w') →
          d.id = sd.deadline_id → w₁.store.get sd.deadline_id = some sd →
          (ListsFlagged w' ds ↔ sd.flagged_past_due_on_create = true ∨
            ∃ id ∈ rest, FlaggedAhead rule_store matter_id run_id now rest w₁ id) := by
        intro d ds' sd hds hrest hid hget
        have hget' := compute_each_keeps hindexed₁ hrest _ _ hget
        rw [← hid] at hget'
        rw [hds, lists_cons hget', ih hindexed₁ hrest]
      cases hstored : w.store.get_by_idem (deadline_key run_id rule_id) with
      | some sd =>
        -- the deadline that is there is listed
        have hexisting : (tool_deadline_schedule call).run (exec env) w = (.ok sd, w) :=
          tool_existing hnow (hkey ▸ hstored)
        cases hexisting.symm.trans htool
        have hhere : ∀ ids, FlaggedAhead rule_store matter_id run_id now ids w rule_id ↔
            sd.flagged_past_due_on_create = true := by
          intro ids
          unfold FlaggedAhead
          rw [hcall, hstored]
          simp
        obtain ⟨d, ds', w₂, hfirst, hds, hrest⟩ | ⟨e', w₂, hfirst, -⟩ := compute_each_cons h
        · cases hactive.symm.trans hfirst
          rw [hstays hds hrest rfl (get_of_get_by_idem hstored)]
          refine (flagged_ahead_cons _ (fun id _ => rfl) ?_).symm
          rw [hhere, hhere]
          exact ⟨.inl, fun hcase => hcase.elim id And.right⟩
        · cases hactive.symm.trans hfirst
      | none =>
        have hhere : FlaggedAhead rule_store matter_id run_id now (rule_id :: rest) w rule_id ↔
            Late call now ∧ rule_id ∈ rest := by
          unfold FlaggedAhead
          rw [hcall, hstored, List.count_cons_self, ← List.count_pos_iff]
          simp
        cases added hnow (hkey ▸ hstored) htool with
        | quiet hnot hquiet =>
          have hsame : ∀ key, w₁.store.get_by_idem key = w.store.get_by_idem key := by
            intro key
            rw [hquiet.store]
          obtain ⟨d, ds', w₂, hfirst, -, -⟩ | ⟨e', w₂, hfirst, hrest⟩ := compute_each_cons h
          · cases hactive.symm.trans hfirst
          · cases hactive.symm.trans hfirst
            rw [ih hindexed₁ hrest, flagged_ahead_cons False (fun id _ => hsame _), false_or]
            rw [hhere, false_or]
            unfold FlaggedAhead
            rw [hcall, hsame, hstored]
            simp [hnot]
        | @late e trace id hlate hfiled =>
          obtain ⟨d, ds', w₂, hfirst, -, -⟩ | ⟨e', w₂, hfirst, hrest⟩ := compute_each_cons h
          · cases hactive.symm.trans hfirst
          · cases hactive.symm.trans hfirst
            rw [ih hindexed₁ hrest, flagged_ahead_cons False
              (fun id hne => filed_other_key hindexed hfiled hkey hne), false_or]
            -- the flagged deadline is listed if the rule comes again
            rw [hhere, false_or]
            unfold FlaggedAhead
            rw [hcall, filed_own_key hindexed hfiled hkey]
            simp [hlate, ScheduleCall.flagged]
        | @scheduled trace rs id hnot hfiled =>
          obtain ⟨d, ds', w₂, hfirst, hds, hrest⟩ | ⟨e', w₂, hfirst, -⟩ := compute_each_cons h
          · cases hactive.symm.trans hfirst
            rw [hstays hds hrest rfl (by rw [hfiled.store, DeadlineStore.get_save, if_pos rfl])]
            refine (flagged_ahead_cons _
              (fun id hne => filed_other_key hindexed hfiled hkey hne) ?_).symm
            rw [hhere]
            unfold FlaggedAhead
            rw [hcall, filed_own_key hindexed hfiled hkey]
            simp [hnot, ScheduleCall.scheduled]
          · cases hactive.symm.trans hfirst

end loop

/-- **Past-due scheduling is idempotent only where nothing is flagged.** In every state that the engine comes to:
    a call can be repeated with the same outcome, and without a flagged deadline being returned, if and only if
    what is stored under its key is not flagged, or nothing is stored and the call raises without storing
    anything under its key, or schedules a deadline under a key. And an execution of `compute_deadlines`
    lists no flagged deadline if and only if there is none under the keys of its active rules, and none of
    them that is new and past due is listed twice. -/
theorem past_due_again_iff (env : Env) (requests : List Request) :
    (∀ (call : ScheduleCall) (now : DateTime), Answering env (served env requests) →
      call.now = some now →
      (Idempotent env call (served env requests) ↔ Repeatable (served env requests) call now)) ∧
    ∀ (rule_store : RuleStore) (case_cfg : CaseTypeConfig) (matter_id run_id : String)
      (now : Option DateTime) (ds : List Domain.Deadline) (w' : World),
      (compute_deadlines rule_store case_cfg matter_id run_id now).run (exec env) (served env requests) =
        (.ok ds, w') →
      (¬ ListsFlagged w' ds ↔ ∀ rule_id ∈ case_cfg.deadline_rule_ids,
        ¬ FlaggedAhead rule_store matter_id run_id (now.getD (env.time (served env requests).clock))
          case_cfg.deadline_rule_ids (served env requests) rule_id) := by
  have hindexed := indexed_served env requests
  generalize served env requests = w at hindexed ⊢
  constructor
  · intro call now hanswering hnow
    exact idempotent_iff hindexed hanswering hnow
  · intro rule_store case_cfg matter_id run_id now ds w' h
    obtain ⟨w₁, htime, hsilent⟩ := time_of_run env now w
    unfold compute_deadlines at h
    rw [monad_bind, run_bind_ok htime] at h
    rw [lists_flagged_each (hindexed.congr hsilent.store hsilent.uuids) h]
    unfold FlaggedAhead
    rw [hsilent.store]
    simp only [not_exists, not_and]

/-- A deadline that is always a day late. -/
def late_rule : DeadlineRule :=
  { answer_rule with rule_id := "late", trigger := "trigger_date", offset := ⟨-1, 0, 0, 0, 0⟩ }

def late_rules : RuleStore := RuleStore.register_rule (fun _ => "v1") ∅ late_rule

/-- A case type with this rule. -/
def late_case : CaseTypeConfig := { family_based with deadline_rule_ids := ["late"] }

/-- The call that the step makes for it. -/
def late_call : ScheduleCall := rule_call "m1" "run" (nine_utc 739700) "late" "v1" late_rule

/-- The first call raises. The second one returns the flagged deadline, and the step lists it. -/
theorem late_rule_listed :
    (¬ ∀ (env : Env) (requests : List Request) (call : ScheduleCall) (now : DateTime),
      Answering env (served env requests) → call.now = some now →
        Idempotent env call (served env requests)) ∧
    ¬ ∀ (env : Env) (requests : List Request) (rule_store : RuleStore) (case_cfg : CaseTypeConfig)
      (matter_id run_id : String) (now : Option DateTime) (ds : List Domain.Deadline) (w' : World),
      (compute_deadlines rule_store case_cfg matter_id run_id now).run (exec env) (served env requests) =
        (.ok ds, w') → ¬ ListsFlagged w' ds := by
  have hruns : (again calm_env late_call (served calm_env []) 1).1.toOption.map
      (·.flagged_past_due_on_create) = some true := by
    decide +kernel
  let step := (compute_deadlines late_rules late_case "m1" "run" (some (nine_utc 739700))).run
    (exec calm_env) (served calm_env [.schedule late_call])
  have hstep : (step.1.toOption.map fun ds => ds.map fun d =>
      (step.2.store.get d.id).map (·.flagged_past_due_on_create)) = some [some true] := by
    decide +kernel
  constructor
  · intro hclaim
    obtain ⟨sd, hsd, hflag⟩ := ok_of_toOption_map hruns
    have hnever := (hclaim calm_env [] late_call _ (fun _ _ => rfl) rfl 1).2 sd hsd
    rw [hflag] at hnever
    cases hnever
  · intro hclaim
    obtain ⟨ds, hds, hflags⟩ := ok_of_toOption_map hstep
    refine hclaim calm_env _ _ _ _ _ _ ds _ (Prod.fst_eq_iff.mp hds) ?_
    cases ds with
    | nil => cases hflags
    | cons d rest =>
      have hfirst := (List.cons.inj hflags).1
      obtain ⟨sd, hget, hflag⟩ := Option.map_eq_some_iff.mp hfirst
      exact ⟨d, List.mem_cons_self, sd, hget, hflag⟩

end CaseAutomation.Intake
