import CaseAutomation.Workflows.Validation

/-! # Status Changes, Recipients, Drafts and QC

    `status_update/types.py`, `draft.py` and `qc.py`, with the configuration of `store.py`.
-/

namespace CaseAutomation.StatusUpdate

open Framework Workflows Program Domain

/-! ## Status changes -/

/-- `MatterStatusDelta`. -/
structure MatterStatusDelta where
  matter_id : String
  from_status : String
  to_status : String
  change_id : String
  source : String
  detected_at : Time
  context : PyDict

def read_delta (p : Pydantic) (data : PyDict) : Option MatterStatusDelta := do
  let matter_id ← field data "matter_id" read_str none
  let from_status ← field data "from_status" read_str none
  let to_status ← field data "to_status" read_str none
  let change_id ← field data "change_id" read_str none
  let source ← field data "source" (read_literal ["webhook", "sweep", "manual"]) (some "webhook")
  let detected_at ← field data "detected_at" p.datetime none
  let context ← field data "context" read_any_dict (some [])
  return ⟨matter_id, from_status, to_status, change_id, source, detected_at, context⟩

/-- `StatusUpdateConfig`. -/
structure StatusUpdateConfig where
  trigger_allow_list : List String
  suppress_reverts : Bool

/-- `should_trigger`: an empty list allows nothing. -/
def should_trigger (to_status : String) (config : StatusUpdateConfig) : Bool :=
  if config.trigger_allow_list = [] then false else decide (to_status ∈ config.trigger_allow_list)

/-! ## Recipients and drafts -/

/-- `resolve_recipients`: the client, if there is an address to write to. -/
def resolve_recipients (matter : Matter) : List Contact × List String :=
  if matter.client.email.getD "" = "" then
    ([], ["Client " ++ repr_str matter.client.id ++ " has no email address."])
  else ([matter.client], [])

/-- `PROMPT_VERSION`. -/
def PROMPT_VERSION : String := "v1"

/-- `render_status_update_body`. -/
def render_status_update_body (delta : MatterStatusDelta) (matter : Matter) : String :=
  "Dear " ++ matter.client.name ++ ",\n\n" ++
  "We are writing to inform you of a status update on your matter " ++
  "(reference: " ++ matter.reference ++ ").\n\n" ++
  "Status changed from '" ++ delta.from_status ++ "' to '" ++ delta.to_status ++ "'.\n\n" ++
  "Please contact our office if you have any questions.\n\n" ++
  "Best regards,\nThe Immigration Team"

/-- `create_status_update_draft`. -/
def create_status_update_draft (delta : MatterStatusDelta) (matter : Matter)
    (recipients : List Contact) : M (String × String) := do
  let id ← await .uuid4
  let draft_id ← await (.create_draft
    { id := id, matter_id := some matter.id, direction := .outgoing, channel := "email",
      subject := some ("Status update — " ++ matter.reference),
      body := render_status_update_body delta matter, status := "draft",
      participants := recipients })
  return (draft_id, PROMPT_VERSION)

/-! ## QC -/

/-- The result of an aggregate; only a block fails. -/
def qc_result : Qc.Aggregate → String
  | .BLOCK => "fail"
  | .PASS_WITH_WARNINGS => "warn"
  | .PASS => "pass"

/-- `run_recipient_integrity_qc`: an exception of the check fails it. -/
def run_recipient_integrity_qc (matter : Matter) (recipients : List Contact) (run_id : String) :
    M String := do
  let _ ← await .now
  match ← (await (.qc_verify matter recipients run_id) : M Qc.Aggregate).attempt with
  | .ok aggregate => return qc_result aggregate
  | .error _ => return "fail"

end CaseAutomation.StatusUpdate
