import CaseAutomation.Framework.Issues
import CaseAutomation.StatusUpdate.Workflow

/-! # What the Steps of a Status Update Return

    Whatever the services answer, each step returns a dictionary of its own shape (`Output`). Two of the
    shapes hand on a value of an earlier output.
-/

namespace CaseAutomation.StatusUpdate.StatusUpdateServices

open Framework Workflows Program Domain

/-- The outputs of each step, in a context. -/
inductive Output (ctx : Context) : String → PyDict → Prop where
  | detect_change (triggered : Bool) (change_id to_status : String) : Output ctx "detect_change"
      [("triggered", .bool triggered), ("change_id", .str change_id), ("to_status", .str to_status)]
  | compute_delta (matter_id from_status to_status : String) : Output ctx "compute_delta"
      [("matter_id", .str matter_id), ("from_status", .str from_status), ("to_status", .str to_status)]
  | resolve_recipients (ids emails gaps : List String) (reference : String) :
      Output ctx "resolve_recipients"
        [("recipient_ids", .list (ids.map .str)), ("recipient_emails", .list (emails.map .str)),
          ("gaps", .list (gaps.map .str)), ("matter_ref", .str reference)]
  | blocked (gaps : PyValue) : ctx.output_field "resolve_recipients" "gaps" = some gaps →
      Output ctx "draft_email" [("draft_id", .str ""), ("gaps", gaps), ("blocked", .bool true)]
  | drafted (draft_id prompt_ver : String) : Output ctx "draft_email"
      [("draft_id", .str draft_id), ("prompt_version", .str prompt_ver), ("blocked", .bool false)]
  | no_recipients (reason : String) : Output ctx "qc_recipient_integrity"
      [("qc_result", .str "fail"), ("reason", .str reason)]
  | checked (result : String) : Output ctx "qc_recipient_integrity" [("qc_result", .str result)]
  | not_sent (reason : String) :
      Output ctx "send_email" [("sent", .bool false), ("reason", .str reason)]
  | sent (message_id : String) :
      Output ctx "send_email" [("sent", .bool true), ("message_id", .str message_id)]
  | nothing_sent : Output ctx "record_outcome" [("delivered", .bool false)]
  | recorded (sent : PyValue) : ctx.output_field "send_email" "sent" = some sent →
      Output ctx "record_outcome" [("delivered", sent)]

variable (svc : StatusUpdateServices) (ctx : Context)

theorem resolve_recipients_returns :
    Returns (Output ctx "resolve_recipients") (svc.resolve_recipients ctx) := by
  apply Returns.bind
  intro delta
  apply Returns.bind
  intro matter
  generalize StatusUpdate.resolve_recipients matter = resolved
  obtain ⟨recipients, gaps⟩ := resolved
  have hids : recipients.map (fun r => PyValue.str r.id) = (recipients.map fun r => r.id).map .str := by
    simp
  show Output ctx _ [("recipient_ids", .list (recipients.map fun r => PyValue.str r.id)), _, _, _]
  rw [hids]
  exact .resolve_recipients _ _ gaps matter.reference

theorem draft_email_returns : Returns (Output ctx "draft_email") (svc.draft_email ctx) := by
  apply Returns.bind
  intro delta
  apply Returns.bind
  intro matter
  simp only
  by_cases hgaps : ((ctx.output_field "resolve_recipients" "gaps").getD (.list [])).truthy = true
  · rw [if_pos hgaps]
    cases hfield : ctx.output_field "resolve_recipients" "gaps" with
    | none =>
      -- without the output of that step there are no gaps
      rw [hfield] at hgaps
      cases hgaps
    | some gaps => exact .blocked gaps hfield
  · rw [if_neg hgaps]
    apply Returns.bind
    rintro ⟨draft_id, prompt_ver⟩
    apply Returns.bind
    intro _
    exact .drafted draft_id prompt_ver

theorem qc_recipient_integrity_returns :
    Returns (Output ctx "qc_recipient_integrity") (svc.qc_recipient_integrity ctx) := by
  apply Returns.bind
  intro delta
  apply Returns.bind
  intro matter
  simp only
  split
  · exact .no_recipients _
  · apply Returns.bind
    intro result
    apply Returns.bind
    intro _
    exact .checked result

theorem send_email_returns : Returns (Output ctx "send_email") (svc.send_email ctx) := by
  apply Returns.bind
  intro delta
  simp only
  split
  · exact .not_sent _
  split
  · apply Returns.bind
    intro message_id
    apply Returns.bind
    intro _
    exact .sent message_id
  · exact .not_sent _

theorem record_outcome_returns : Returns (Output ctx "record_outcome") (svc.record_outcome ctx) := by
  apply Returns.bind
  intro delta
  simp only
  have hrecorded : Output ctx "record_outcome"
      [("delivered", (ctx.output_field "send_email" "sent").getD (.bool false))] := by
    cases hsent : ctx.output_field "send_email" "sent" with
    | none => exact .nothing_sent
    | some sent => exact .recorded sent hsent
  split
  · apply Returns.bind
    intro _
    exact hrecorded
  · exact hrecorded

/-- **What a step returns.** An output of its own shape. -/
theorem step_returns {name : String} {step : Step} (hstep : svc.step name = some step) :
    Returns (Output ctx name) (step ctx) := by
  unfold StatusUpdateServices.step at hstep
  split at hstep
  all_goals cases hstep
  · apply Returns.bind
    intro delta
    exact .detect_change _ _ _
  · apply Returns.bind
    intro delta
    apply Returns.bind
    intro _
    exact .compute_delta _ _ _
  · exact resolve_recipients_returns svc ctx
  · exact draft_email_returns svc ctx
  · exact qc_recipient_integrity_returns svc ctx
  · exact send_email_returns svc ctx
  · exact record_outcome_returns svc ctx

end CaseAutomation.StatusUpdate.StatusUpdateServices
