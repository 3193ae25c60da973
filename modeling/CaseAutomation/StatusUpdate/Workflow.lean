import CaseAutomation.StatusUpdate.Draft

/-! # The Workflow `status_update_email`

    `status_update/workflow.py`: seven steps around a gate. What one step found to be missing (`gaps`, `blocked`,
    `qc_result`) makes the later ones do nothing.
-/

namespace CaseAutomation.StatusUpdate

open Framework Workflows Program Domain
open Orchestrator (Event Registry WorkflowClass GateConfig workflow)

/-- `StatusUpdateServices`: the connectors, the status store and the audit service answer the calls. -/
structure StatusUpdateServices where
  pydantic : Pydantic
  config : StatusUpdateConfig
  /-- An audit function is configured. -/
  audited : Bool

namespace StatusUpdateServices

variable (svc : StatusUpdateServices)

/-- `MatterStatusDelta(**ctx.context.get("delta", {}))`. -/
def delta (ctx : Context) : Except Exn MatterStatusDelta :=
  construct "MatterStatusDelta" (read_delta svc.pydantic)
    ((ctx.context.lookup "delta").getD (.dict []))

/-- The audit record of a step; exceptions of the audit function are swallowed. -/
def audit (action : String) (inputs outputs : PyDict) (run_id : String) : M Unit :=
  if svc.audited then do
    let _ ← (await (.audit action inputs outputs run_id) : M Unit).attempt
    return ()
  else return ()

/-! ## The steps -/

def detect_change : Step := fun ctx => do
  let delta ← .ofExcept (svc.delta ctx)
  return [("triggered", .bool (should_trigger delta.to_status svc.config)),
    ("change_id", .str delta.change_id), ("to_status", .str delta.to_status)]

def compute_delta : Step := fun ctx => do
  let delta ← .ofExcept (svc.delta ctx)
  await (.update_last_status delta.matter_id delta.to_status)
  return [("matter_id", .str delta.matter_id), ("from_status", .str delta.from_status),
    ("to_status", .str delta.to_status)]

def resolve_recipients : Step := fun ctx => do
  let delta ← .ofExcept (svc.delta ctx)
  let matter ← await (.get_matter delta.matter_id)
  let (recipients, gaps) := StatusUpdate.resolve_recipients matter
  return [("recipient_ids", .list (recipients.map fun r => .str r.id)),
    ("recipient_emails", .list ((recipients.filterMap fun r => r.email.filter (· ≠ "")).map .str)),
    ("gaps", .list (gaps.map .str)), ("matter_ref", .str matter.reference)]

def draft_email : Step := fun ctx => do
  let delta ← .ofExcept (svc.delta ctx)
  let matter ← await (.get_matter delta.matter_id)
  let gaps := (ctx.output_field "resolve_recipients" "gaps").getD (.list [])
  if gaps.truthy then
    return [("draft_id", .str ""), ("gaps", gaps), ("blocked", .bool true)]
  else do
    let (recipients, _) := StatusUpdate.resolve_recipients matter
    let (draft_id, prompt_ver) ← create_status_update_draft delta matter recipients
    svc.audit "draft_created" [("run_id", .str ctx.run_id)] [("draft_id", .str draft_id)] ctx.run_id
    return [("draft_id", .str draft_id), ("prompt_version", .str prompt_ver), ("blocked", .bool false)]

def qc_recipient_integrity : Step := fun ctx => do
  let delta ← .ofExcept (svc.delta ctx)
  let matter ← await (.get_matter delta.matter_id)
  if ((ctx.output_field "draft_email" "blocked").getD .null).truthy then
    return [("qc_result", .str "fail"), ("reason", .str "No valid recipients")]
  else do
    let (recipients, _) := StatusUpdate.resolve_recipients matter
    let result ← run_recipient_integrity_qc matter recipients ctx.run_id
    svc.audit "qc_result" [("run_id", .str ctx.run_id)] [("result", .str result)] ctx.run_id
    return [("qc_result", .str result)]

/-- `qc_out.get("qc_result") == "fail"`. -/
def qc_failed (ctx : Context) : Bool :=
  match ctx.output_field "qc_recipient_integrity" "qc_result" with
  | some (.str result) => decide (result = "fail")
  | _ => false

def send_email : Step := fun ctx => do
  let delta ← .ofExcept (svc.delta ctx)
  let draft_id := (ctx.output_field "draft_email" "draft_id").getD .null
  if qc_failed ctx then
    return [("sent", .bool false), ("reason", .str "QC failed — no send")]
  else if draft_id.truthy then do
    let idem_key := "status_update:" ++ delta.change_id
    let message_id ← await (.send draft_id idem_key)
    svc.audit "email_sent" [("idem_key", .str idem_key)] [("message_id", .str message_id)] ctx.run_id
    return [("sent", .bool true), ("message_id", .str message_id)]
  else return [("sent", .bool false), ("reason", .str "No draft id — no send")]

def record_outcome : Step := fun ctx => do
  let delta ← .ofExcept (svc.delta ctx)
  let sent := ctx.output_field "send_email" "sent"
  if (sent.getD .null).truthy then await (.mark_delivered delta.change_id ctx.run_id)
  return [("delivered", sent.getD (.bool false))]

/-- The methods of the workflow class. -/
def step : String → Option Step
  | "detect_change" => some svc.detect_change
  | "compute_delta" => some svc.compute_delta
  | "resolve_recipients" => some svc.resolve_recipients
  | "draft_email" => some svc.draft_email
  | "qc_recipient_integrity" => some svc.qc_recipient_integrity
  | "send_email" => some svc.send_email
  | "record_outcome" => some svc.record_outcome
  | _ => none

end StatusUpdateServices

/-! ## Registration -/

/-- `StatusUpdateWorkflow.steps`. -/
def STEPS : List String :=
  ["detect_change", "compute_delta", "resolve_recipients", "draft_email", "qc_recipient_integrity",
    "GATE:human_review", "send_email", "record_outcome"]

/-- `GateConfig` of the review. -/
def human_review : GateConfig where
  required_role := "attorney"
  quorum := 1
  channels := [.mcp, .web, .email]
  ttl_seconds := 86400

/-- The workflow class. -/
def StatusUpdateWorkflow (svc : StatusUpdateServices) (iso : Time → String)
    (services : List Event → Answers) : WorkflowClass where
  cls_name := "StatusUpdateWorkflow"
  steps := STEPS
  gates gate := if gate = "human_review" then some human_review else none
  methods name := (svc.step name).map fun step => ⟨true, step.handler iso services⟩

/-- `register_status_update_workflow`. -/
def register_status_update_workflow (svc : StatusUpdateServices) (iso : Time → String)
    (services : List Event → Answers) (registry : Registry) : Except Exn Registry :=
  workflow "status_update_email" 1 none (StatusUpdateWorkflow svc iso services) registry

end CaseAutomation.StatusUpdate
