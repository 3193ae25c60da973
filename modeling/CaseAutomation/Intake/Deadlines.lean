import CaseAutomation.Deadline.Raised
import CaseAutomation.Domain.Models
import CaseAutomation.Packs.Immigration

/-! # The Step `compute_deadlines`

    `intake/deadlines.py`. The step schedules one deadline for each rule of the case type and
    supplies one trigger, `trigger_date`. The trigger of a rule is data of the domain pack, and
    `validate_pack` checks that the rules exist, not what they ask for: both packs of
    the repository have a case type whose rule asks for another field.

    `no_missing_trigger_iff`: the step is safe from `MissingTriggerError` exactly for the case
    types whose active rules all ask for `trigger_date`.
-/

namespace CaseAutomation.Intake

open Framework Program Deadline Packs

/-- The trigger inputs of every rule. -/
def step_inputs (now : DateTime) : Dict String DateTime :=
  (∅ : Dict String DateTime).set "trigger_date" now

/-- `f"{run_id}:deadline:{rule_id}"`. -/
def deadline_key (run_id rule_id : String) : String := run_id ++ ":deadline:" ++ rule_id

/-- The call of the tool for one rule. -/
def rule_call (matter_id run_id : String) (now : DateTime) (rule_id version : String)
    (rule : DeadlineRule) : ScheduleCall where
  matter_id := matter_id
  rule := rule
  trigger_inputs := step_inputs now
  rule_ref := ⟨rule_id, version, "US", none⟩
  idempotency_key := deadline_key run_id rule_id
  audited := false
  now := some now

/-- The deadline of the matter for a scheduled one. -/
def matter_deadline (matter_id rule_id : String) (rule : DeadlineRule) (scheduled : ScheduledDeadline) :
    Domain.Deadline where
  id := scheduled.deadline_id
  matter_id := matter_id
  name := if rule.description = "" then rule_id else rule.description
  due_at := scheduled.trace.due_at.instant
  rule_id := some rule_id
  status := .pending
  escalation_level := 0

/-- The body of the loop, inside its `try`. -/
def compute_deadline (rule_store : RuleStore) (matter_id run_id : String) (now : DateTime)
    (rule_id : String) : M Domain.Deadline := do
  let rule ← .ofExcept (rule_store.active rule_id "US")
  let version ← .ofExcept (rule_store.rule_version rule_id "US")
  let scheduled ← tool_deadline_schedule (rule_call matter_id run_id now rule_id version rule)
  return matter_deadline matter_id rule_id rule scheduled

/-- The exceptions that the loop logs and passes over. -/
def passed_over : Exn → Bool
  | .key_error _ => true
  | .other cls _ => decide (cls = "PastDueOnCreateError")
  | _ => false

/-- The loop over the rules of the case type. -/
def compute_each (rule_store : RuleStore) (matter_id run_id : String) (now : DateTime) :
    List String → M (List Domain.Deadline)
  | [] => return []
  | rule_id :: rest => do
    match ← (compute_deadline rule_store matter_id run_id now rule_id).attempt with
    | .ok deadline =>
      let deadlines ← compute_each rule_store matter_id run_id now rest
      return deadline :: deadlines
    | .error e =>
      if passed_over e then compute_each rule_store matter_id run_id now rest else .raise e

/-- `compute_deadlines`. -/
def compute_deadlines (rule_store : RuleStore) (case_cfg : CaseTypeConfig) (matter_id run_id : String)
    (now : Option DateTime) : M (List Domain.Deadline) := do
  let now ← time_of now
  compute_each rule_store matter_id run_id now case_cfg.deadline_rule_ids

/-! ## Rules that ask for another trigger -/

/-- The services do not raise the error of the engine. -/
def Honest (env : Env) : Prop := ∀ n e, env.fault n = some e → Other e

/-- Whatever was stored before, the step at `now` does not raise `MissingTriggerError`. -/
def NeverMissing (rule_store : RuleStore) (case_cfg : CaseTypeConfig) (now : DateTime) : Prop :=
  ∀ (env : Env) (w : World) (matter_id run_id : String) (e : Exn), Honest env →
    ((compute_deadlines rule_store case_cfg matter_id run_id (some now)).run (exec env) w).1 =
      .error e → Other e

/-- Every active rule of the case type asks for what the step supplies. -/
def Supplied (rule_store : RuleStore) (case_cfg : CaseTypeConfig) : Prop :=
  ∀ rule_id ∈ case_cfg.deadline_rule_ids, ∀ rule, rule_store.active rule_id "US" = .ok rule →
    rule.trigger = "trigger_date"

section step
variable {rule_store : RuleStore} {matter_id run_id : String} {now : DateTime}

theorem step_inputs_get (now : DateTime) (trigger : String) :
    (step_inputs now).get? trigger = if trigger = "trigger_date" then some now else none := by
  rw [step_inputs, Dict.get?_set]
  rfl

theorem outside_error {α : Type} {env : Env} {w : World} {done : Except Exn α × World} {e : Exn}
    (hdone : ∀ e, done.1 ≠ .error e) (h : (w.outside env done).1 = .error e) :
    env.fault w.calls = some e := by
  unfold World.outside at h
  split at h
  · next e' hfault =>
    cases h
    exact hfault
  · exact absurd h (hdone e)

/-- Only services fail. -/
theorem exec_error {env : Env} {c : Call} {w : World} {e : Exn} (h : (exec env c w).1 = .error e) :
    env.fault w.calls = some e := by
  cases c with
  | notify n => exact outside_error (fun e he => by cases he) h
  | arm fire_at job_ref idem_key => exact outside_error (fun e he => by cases he) h
  | cancel arm_id => exact outside_error (fun e he => by cases he) h
  | audit action => exact outside_error (fun e he => by cases he) h
  | advance id =>
    simp only [exec] at h
    split at h
    · cases h
    · cases h
  | close id =>
    simp only [exec] at h
    split at h
    · cases h
    · cases h
  | _ => cases h

theorem active_error {rule_id : String} {e : Exn} (h : rule_store.active rule_id "US" = .error e) :
    ∃ message, e = .key_error message := by
  unfold RuleStore.active at h
  split at h
  · cases h
    exact ⟨_, rfl⟩
  · cases h

theorem other_key_error (message : String) : Other (.key_error message) := by
  show "KeyError" ≠ "MissingTriggerError"
  decide

/-- One rule that asks for `trigger_date`, or is not active. -/
theorem raises_compute_deadline {rule_id : String}
    (h : ∀ rule, rule_store.active rule_id "US" = .ok rule → rule.trigger = "trigger_date") :
    Raises Other (compute_deadline rule_store matter_id run_id now rule_id) := by
  unfold compute_deadline
  cases hactive : rule_store.active rule_id "US" with
  | error e =>
    obtain ⟨message, rfl⟩ := active_error hactive
    exact Raises.raise (other_key_error message)
  | ok rule =>
    obtain ⟨version, hversion⟩ := RuleStore.rule_version_ok hactive
    rw [hversion]
    have htrigger : (step_inputs now).get? rule.trigger = some now := by
      rw [step_inputs_get, if_pos (h rule hactive)]
    have htool : Raises Other
        (tool_deadline_schedule (rule_call matter_id run_id now rule_id version rule)) :=
      raises_tool htrigger
    show Raises Other ((tool_deadline_schedule _).bind fun _ => .ret _)
    exact Raises.bind htool fun _ => Raises.ret

theorem raises_compute_each {rule_ids : List String}
    (h : ∀ rule_id ∈ rule_ids, ∀ rule, rule_store.active rule_id "US" = .ok rule →
      rule.trigger = "trigger_date") :
    Raises Other (compute_each rule_store matter_id run_id now rule_ids) := by
  induction rule_ids with
  | nil => exact Raises.ret
  | cons rule_id rest ih =>
    have hrest : Raises Other (compute_each rule_store matter_id run_id now rest) :=
      ih fun rule_id hmem => h rule_id (List.mem_cons_of_mem _ hmem)
    refine Raises.attempt_bind (raises_compute_deadline (h rule_id List.mem_cons_self)) fun r hr => ?_
    cases r with
    | ok deadline => exact Raises.bind hrest fun _ => Raises.ret
    | error e =>
      show Raises Other (if passed_over e = true then _ else _)
      split
      · exact hrest
      · exact Raises.raise (hr e rfl)

/-! ## The first rule that asks for another trigger -/

/-- Without its trigger a new deadline is not computed. -/
theorem tool_missing {env : Env} {call : ScheduleCall} {w : World} (hnow : call.now = some now)
    (h : w.store.get_by_idem call.idempotency_key = none)
    (htrigger : call.trigger_inputs.get? call.rule.trigger = none) :
    (tool_deadline_schedule call).run (exec env) w =
      (.error (missing_trigger call.rule.trigger), w) := by
  unfold tool_deadline_schedule
  rw [hnow]
  show (Program.bind (await (.get_by_idem call.idempotency_key)) _).run (exec env) w = _
  rw [run_bind, run_perform]
  simp only [exec, h]
  rw [monad_bind, run_bind, run_ofExcept, compute_due_date, htrigger]

/-- The loop passes over a rule whose deadline is stored. -/
theorem compute_deadline_stored (rule_store : RuleStore) (matter_id : String) (now : DateTime)
    (env : Env) {w : World} {rule_id : String}
    (h : w.store.get_by_idem (deadline_key run_id rule_id) ≠ none) :
    ∃ r, (compute_deadline rule_store matter_id run_id now rule_id).run (exec env) w = (r, w) ∧
      ∀ e, r = .error e → passed_over e = true := by
  unfold compute_deadline
  cases hactive : rule_store.active rule_id "US" with
  | error e =>
    obtain ⟨message, rfl⟩ := active_error hactive
    refine ⟨.error (.key_error message), rfl, ?_⟩
    intro e he
    cases he
    rfl
  | ok rule =>
    obtain ⟨version, hversion⟩ := RuleStore.rule_version_ok hactive
    obtain ⟨sd, hsd⟩ := Option.ne_none_iff_exists'.mp h
    have htool : (tool_deadline_schedule (rule_call matter_id run_id now rule_id version rule)).run
        (exec env) w = (.ok sd, w) := tool_existing rfl hsd
    rw [hversion]
    refine ⟨.ok (matter_deadline matter_id rule_id rule sd), ?_, ?_⟩
    · show ((tool_deadline_schedule _).bind fun _ => .ret _).run (exec env) w = _
      rw [run_bind_ok htool]
      rfl
    · intro e he
      cases he

/-- **The loop stops at the first rule that asks for another trigger**, if the rules before it are
    scheduled and it is not. -/
theorem compute_each_missing {env : Env} {w : World} {before after : List String} {rule_id : String}
    {rule : DeadlineRule}
    (hbefore : ∀ id ∈ before, w.store.get_by_idem (deadline_key run_id id) ≠ none)
    (hnone : w.store.get_by_idem (deadline_key run_id rule_id) = none)
    (hactive : rule_store.active rule_id "US" = .ok rule) (htrigger : rule.trigger ≠ "trigger_date") :
    ((compute_each rule_store matter_id run_id now (before ++ rule_id :: after)).run (exec env) w).1 =
      .error (missing_trigger rule.trigger) := by
  induction before with
  | nil =>
    obtain ⟨version, hversion⟩ := RuleStore.rule_version_ok hactive
    have hinput : (step_inputs now).get? rule.trigger = none := by
      rw [step_inputs_get, if_neg htrigger]
    have htool : (tool_deadline_schedule (rule_call matter_id run_id now rule_id version rule)).run
        (exec env) w = (.error (missing_trigger rule.trigger), w) :=
      tool_missing rfl hnone hinput
    have hone : (compute_deadline rule_store matter_id run_id now rule_id).run (exec env) w =
        (.error (missing_trigger rule.trigger), w) := by
      unfold compute_deadline
      rw [hactive, hversion]
      show ((tool_deadline_schedule _).bind fun _ => .ret _).run (exec env) w = _
      rw [run_bind_error htool]
    rw [List.nil_append, compute_each, monad_bind, run_bind, run_attempt, hone]
    rfl
  | cons id before ih =>
    have hrest := ih fun id hid => hbefore id (List.mem_cons_of_mem _ hid)
    obtain ⟨r, hone, hpassed⟩ :=
      compute_deadline_stored rule_store matter_id now env (hbefore id List.mem_cons_self)
    rw [List.cons_append, compute_each, monad_bind, run_bind, run_attempt, hone]
    cases r with
    | ok deadline =>
      show (((compute_each rule_store matter_id run_id now (before ++ rule_id :: after)).bind
        fun _ => .ret _).run (exec env) w).1 = _
      rw [run_bind]
      cases hrun : (compute_each rule_store matter_id run_id now (before ++ rule_id :: after)).run
        (exec env) w with
      | mk r w' =>
      rw [hrun] at hrest
      cases hrest
      rfl
    | error e =>
      show ((if passed_over e = true then _ else _ : M (List Domain.Deadline)).run (exec env) w).1 = _
      rw [if_pos (hpassed e rfl)]
      exact hrest

/-! ## A store in which some rules are already scheduled -/

/-- A deadline with nothing but its key. -/
def placeholder (now : DateTime) (key : String) : ScheduledDeadline where
  deadline_id := key
  matter_id := ""
  rule_ref := ⟨"", "", "US", none⟩
  trace := ⟨⟨"", "", "US", none⟩, "", now, ⟨0, 0, 0, 0, 0⟩, now, "", "", .none, now, now, ENGINE_VERSION⟩
  reminders := []
  flagged_past_due_on_create := false
  idempotency_key := key
  escalation_level := 0

theorem deadline_key_ne (run_id rule_id : String) : deadline_key run_id rule_id ≠ "" := by
  intro h
  have hlist := congrArg String.toList h
  simp [deadline_key] at hlist

theorem deadline_key_injective {run_id rule_id rule_id' : String}
    (h : deadline_key run_id rule_id = deadline_key run_id rule_id') : rule_id = rule_id' :=
  (String.append_right_inj (run_id ++ ":deadline:")).mp h

/-- Saving under another key hides nothing. -/
theorem get_by_idem_save_ne {store : DeadlineStore} {sd : ScheduledDeadline} {key : String}
    (hne : key ≠ sd.idempotency_key) (h : store.get_by_idem key ≠ none) :
    (store.save sd).get_by_idem key ≠ none := by
  have hindex : (store.save sd).by_idem.get? key = store.by_idem.get? key := by
    unfold DeadlineStore.save
    split
    · rfl
    · rw [Dict.get?_set, if_neg hne]
  unfold DeadlineStore.get_by_idem at h ⊢
  rw [hindex]
  cases hid : store.by_idem.get? key with
  | none =>
    rw [hid] at h
    exact h
  | some id =>
    rw [hid] at h
    simp only at h ⊢
    split
    · next hempty =>
      rw [if_pos hempty] at h
      exact h
    · next hempty =>
      rw [if_neg hempty] at h
      rw [DeadlineStore.get_save]
      split
      · exact Option.some_ne_none sd
      · exact h

/-- Some store holds the deadlines of exactly these rules. -/
theorem exists_stored (run_id : String) (now : DateTime) (rule_ids : List String) :
    ∃ store : DeadlineStore,
      (∀ id ∈ rule_ids, store.get_by_idem (deadline_key run_id id) ≠ none) ∧
      ∀ id ∉ rule_ids, store.by_idem.get? (deadline_key run_id id) = none := by
  induction rule_ids with
  | nil => exact ⟨.empty, fun id hid => absurd hid List.not_mem_nil, fun _ _ => rfl⟩
  | cons first rest ih =>
    obtain ⟨store, hstored, hfree⟩ := ih
    have hne := deadline_key_ne run_id first
    refine ⟨store.save (placeholder now (deadline_key run_id first)), ?_, ?_⟩
    · intro id hid
      by_cases hkey : deadline_key run_id id = deadline_key run_id first
      · -- the placeholder itself is found
        rw [hkey, DeadlineStore.get_by_idem]
        have hindex : (store.save (placeholder now (deadline_key run_id first))).by_idem.get?
            (deadline_key run_id first) = some (deadline_key run_id first) := by
          show (if deadline_key run_id first = "" then _ else _ : Dict String String).get? _ = _
          rw [if_neg hne, Dict.get?_set]
          exact if_pos rfl
        rw [hindex]
        simp [hne, DeadlineStore.get_save, placeholder]
      · refine get_by_idem_save_ne hkey (hstored id ?_)
        obtain rfl | hid := List.mem_cons.mp hid
        · exact absurd rfl hkey
        · exact hid
    · intro id hid
      rw [List.mem_cons, not_or] at hid
      show (if deadline_key run_id first = "" then _ else _ : Dict String String).get? _ = none
      rw [if_neg hne, Dict.get?_set, if_neg ?_]
      · exact hfree id hid.2
      · exact fun hkey => hid.1 (deadline_key_injective hkey)

end step

/-- **When the step can miss a trigger.** For every pack, case type and time, the step never raises
    `MissingTriggerError`, whatever is stored already, if and only if every active rule of
    the case type asks for `trigger_date`. -/
theorem no_missing_trigger_iff (content_hash : DeadlineRule → String) (pack : DomainPack)
    (case_cfg : CaseTypeConfig) (now : DateTime) :
    NeverMissing (build_rule_store_from_pack content_hash pack) case_cfg now ↔
      Supplied (build_rule_store_from_pack content_hash pack) case_cfg := by
  generalize build_rule_store_from_pack content_hash pack = rule_store
  constructor
  · intro hnever
    by_contra hnot
    unfold Supplied at hnot
    simp only [not_forall] at hnot
    obtain ⟨id, hid, rule, hactive, htrigger⟩ := hnot
    obtain ⟨before, after, hsplit, hfirst⟩ := List.eq_append_cons_of_mem hid
    -- the rules before it are scheduled already, so the loop reaches it
    obtain ⟨store, hstored, hfree⟩ := exists_stored "run" now before
    have hnone : store.get_by_idem (deadline_key "run" id) = none := by
      rw [DeadlineStore.get_by_idem, hfree id hfirst]
    have hraised : ((compute_deadlines rule_store case_cfg "matter" "run" (some now)).run
        (exec (answer_env fun _ => none)) (World.fresh.with_store store)).1 =
          .error (missing_trigger rule.trigger) := by
      show ((compute_each rule_store "matter" "run" now case_cfg.deadline_rule_ids).run _ _).1 = _
      rw [hsplit]
      exact compute_each_missing hstored hnone hactive htrigger
    have hhonest : Honest (answer_env fun _ => none) := fun n e he => by cases he
    exact missing_trigger_not_other _ (hnever _ _ _ _ _ hhonest hraised)
  · intro hsupplied env w matter_id run_id e hhonest herror
    have hraises : Raises Other (compute_deadlines rule_store case_cfg matter_id run_id (some now)) :=
      raises_compute_each hsupplied
    have hexec : ∀ (c : Call) (w : World) (e : Exn), (exec env c w).1 = .error e → Other e :=
      fun c w e he => hhonest _ e (exec_error he)
    exact Raises.run hexec hraises herror

theorem rfe_response_active (content_hash : DeadlineRule → String) :
    (build_rule_store_from_pack content_hash IMMIGRATION_PACK).active "rfe_response" "US" =
      .ok rfe_response := rfl

/-- Where the rule is active, a first run of the step fails. -/
theorem rfe_response_missing {rule_store : RuleStore}
    (hactive : rule_store.active "rfe_response" "US" = .ok rfe_response) :
    ((compute_deadlines rule_store family_based "matter" "run" (some (nine_utc 739700))).run
      (exec calm_env) .fresh).1 = .error (missing_trigger "rfe_issued_date") := by
  have hnone : World.fresh.store.get_by_idem (deadline_key "run" "rfe_response") = none := rfl
  have hbefore : ∀ id ∈ ([] : List String),
      World.fresh.store.get_by_idem (deadline_key "run" id) ≠ none :=
    fun id hid => absurd hid List.not_mem_nil
  have htrigger : rfe_response.trigger ≠ "trigger_date" := by decide
  show ((compute_each rule_store "matter" "run" (nine_utc 739700) ([] ++ "rfe_response" :: [])).run
    (exec calm_env) .fresh).1 = .error (missing_trigger rfe_response.trigger)
  exact compute_each_missing hbefore hnone hactive htrigger

/-- **The family-based intake never gets its deadline.** The immigration pack is accepted, and
    the rule of its family-based case type asks for `rfe_issued_date`. -/
theorem family_based_misses_trigger :
    validate_pack IMMIGRATION_PACK = .ok () ∧
    IMMIGRATION_PACK.case_types.get? "family-based" = some family_based ∧
    ((compute_deadlines (build_rule_store_from_pack ascii_content_hash IMMIGRATION_PACK)
      family_based "matter" "run" (some (nine_utc 739700))).run (exec calm_env) .fresh).1 =
        .error (missing_trigger "rfe_issued_date") := by
  have hvalid : validate_pack IMMIGRATION_PACK = .ok () := by decide +kernel
  have hcase : IMMIGRATION_PACK.case_types.get? "family-based" = some family_based := rfl
  exact ⟨hvalid, hcase, rfe_response_missing (rfe_response_active ascii_content_hash)⟩

end CaseAutomation.Intake
