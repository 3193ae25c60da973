import CaseAutomation.Framework.Issues
import CaseAutomation.Intake.Workflow

/-! # What the Intake Steps Return

    Whatever the services answer, each step returns a dictionary of its own shape (`Output`). Three of
    them carry gaps, and their steps say on which data it depends whether a gap blocks.
-/

namespace CaseAutomation.Intake.IntakeServices

open Framework Workflows Program Domain

/-- The outputs of each step. -/
inductive Output : String → PyDict → Prop where
  | parse_lead (fields : IntakeFields) (gaps : List IntakeGap) :
      Output "parse_lead" [("fields", .dict fields.dump), ("gaps", dump_gaps gaps)]
  | dedupe_contact (result : DedupeResult) (gaps : List IntakeGap) :
      Output "dedupe_contact" [("dedupe", .dict result.dump), ("gaps", dump_gaps gaps)]
  | create_contact (contact : Contact) :
      Output "create_contact" [("contact", .dict (dump_contact contact))]
  | create_matter (matter : Matter) : Output "create_matter" [("matter", .dict (dump_matter matter))]
  | compute_deadlines (ids : List String) :
      Output "compute_deadlines" [("deadline_ids", .list (ids.map .str))]
  | open_tasks (ids : List String) (count : Int) :
      Output "open_tasks" [("task_ids", .list (ids.map .str)), ("task_count", .int count)]
  | draft_welcome (draft_id : String) (gaps : List IntakeGap) :
      Output "draft_welcome" [("draft_id", .str draft_id), ("gaps", dump_gaps gaps)]
  | send_welcome (message_id : String) : Output "send_welcome" [("message_id", .str message_id)]

/-- No output is empty. -/
theorem Output.ne_nil {name : String} {out : PyDict} (h : Output name out) : out ≠ [] := by
  cases h <;> exact List.cons_ne_nil _ _

variable (svc : IntakeServices) (ctx : Context)

/-- The output of `parse_lead`: a gap blocks when a required field is missing from the fields. -/
theorem parse_lead_returns : Returns (fun out => ∃ (fields : IntakeFields) (gaps : List IntakeGap),
    out = [("fields", .dict fields.dump), ("gaps", dump_gaps gaps)] ∧
      blocking gaps = required_missing svc.platform svc.config fields) (svc.parse_lead ctx) := by
  apply Returns.bind_ofExcept
  intro lead _
  apply Returns.bind
  intro proposal
  apply Returns.bind_ofExcept
  rintro ⟨fields, gaps⟩ hparsed
  exact ⟨fields, gaps, rfl, parse_lead_blocks hparsed⟩

/-- The output of `dedupe_contact`: a gap blocks when the decision is left to a human. -/
theorem dedupe_contact_returns : Returns (fun out => ∃ (result : DedupeResult) (gaps : List IntakeGap),
    out = [("dedupe", .dict result.dump), ("gaps", dump_gaps gaps)] ∧
      blocking gaps = decide (result.decision = .ambiguous)) (svc.dedupe_contact ctx) := by
  apply Returns.bind_ofExcept
  intro fields _
  have hdecided : Returns (fun decided : DedupeResult × List IntakeGap =>
      blocking decided.2 = decide (decided.1.decision = .ambiguous)) (Intake.dedupe_contact fields) := by
    apply Returns.bind
    intro candidates
    exact decide_match_blocks fields candidates
  apply Returns.bind_of hdecided
  rintro ⟨result, gaps⟩ hblocks
  exact ⟨result, gaps, rfl, hblocks⟩

theorem create_contact_returns : Returns (Output "create_contact") (svc.create_contact ctx) := by
  apply Returns.bind
  intro fields
  apply Returns.bind
  intro dedupe
  apply Returns.bind
  intro contact
  exact .create_contact contact

theorem create_matter_returns : Returns (Output "create_matter") (svc.create_matter ctx) := by
  apply Returns.bind
  intro fields
  apply Returns.bind
  intro contact
  apply Returns.bind
  intro case_cfg
  apply Returns.bind
  intro matter
  exact .create_matter matter

theorem compute_deadlines_returns :
    Returns (Output "compute_deadlines") (svc.compute_deadlines ctx) := by
  apply Returns.bind
  intro fields
  apply Returns.bind
  intro matter
  apply Returns.bind
  intro case_cfg
  apply Returns.bind
  intro deadlines
  have hids : deadlines.map (fun d => PyValue.str d.id) = (deadlines.map fun d => d.id).map .str := by
    simp
  show Output _ [("deadline_ids", .list (deadlines.map fun d => PyValue.str d.id))]
  rw [hids]
  exact .compute_deadlines _

theorem open_tasks_returns : Returns (Output "open_tasks") (svc.open_tasks ctx) := by
  apply Returns.bind
  intro fields
  apply Returns.bind
  intro matter
  apply Returns.bind
  intro case_cfg
  apply Returns.bind
  intro tasks
  have hids : tasks.map (fun t => PyValue.str t.id) = (tasks.map fun t => t.id).map .str := by simp
  show Output _ [("task_ids", .list (tasks.map fun t => PyValue.str t.id)), _]
  rw [hids]
  exact .open_tasks _ _

/-- The output of `draft_welcome`: a gap blocks when the contact on record has no address. -/
theorem draft_welcome_returns : Returns (fun out => ∃ draft_id gaps contact,
    svc.contact ctx = .ok contact ∧ out = [("draft_id", .str draft_id), ("gaps", dump_gaps gaps)] ∧
      blocking gaps = decide (contact.email.getD "" = "")) (svc.draft_welcome ctx) := by
  apply Returns.bind
  intro fields
  apply Returns.bind
  intro matter
  apply Returns.bind_ofExcept
  intro contact hcontact
  apply Returns.bind
  intro case_cfg
  have hdrafted : Returns (fun drafted : String × List IntakeGap =>
      blocking drafted.2 = decide (contact.email.getD "" = ""))
        (Intake.draft_welcome matter contact fields) := by
    unfold Intake.draft_welcome
    by_cases hemail : contact.email.getD "" = ""
    · rw [if_pos hemail, hemail]
      exact (rfl : blocking [no_address] = true)
    · rw [if_neg hemail]
      apply Returns.bind
      intro id
      apply Returns.bind
      intro draft_id
      show blocking [] = decide (contact.email.getD "" = "")
      rw [decide_eq_false hemail]
      rfl
  apply Returns.bind_of hdrafted
  rintro ⟨draft_id, gaps⟩ hblocks
  exact ⟨draft_id, gaps, contact, hcontact, rfl, hblocks⟩

theorem send_welcome_returns : Returns (Output "send_welcome") (send_welcome ctx) := by
  apply Returns.bind
  intro message_id
  exact .send_welcome message_id

/-- **What a step returns.** An output of its own shape. -/
theorem step_returns {name : String} {step : Step} (hstep : svc.step name = some step) :
    Returns (Output name) (step ctx) := by
  unfold IntakeServices.step at hstep
  split at hstep
  all_goals cases hstep
  · apply (parse_lead_returns svc ctx).mono
    rintro out ⟨fields, gaps, rfl, -⟩
    exact .parse_lead fields gaps
  · apply (dedupe_contact_returns svc ctx).mono
    rintro out ⟨result, gaps, rfl, -⟩
    exact .dedupe_contact result gaps
  · exact create_contact_returns svc ctx
  · exact create_matter_returns svc ctx
  · exact compute_deadlines_returns svc ctx
  · exact open_tasks_returns svc ctx
  · apply (draft_welcome_returns svc ctx).mono
    rintro out ⟨draft_id, gaps, contact, -, rfl, -⟩
    exact .draft_welcome draft_id gaps
  · exact send_welcome_returns ctx

end CaseAutomation.Intake.IntakeServices
