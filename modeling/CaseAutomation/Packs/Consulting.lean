import CaseAutomation.Packs.Immigration

/-! # The Consulting Pack

    `CONSULTING_PACK` of `packs/consulting/pack.py`. It shares no values with the immigration pack
    and adds nothing to the patterns of the engine.
-/

namespace CaseAutomation.Packs

open Framework Deadline Intake

def advisory : CaseTypeConfig where
  case_type := "advisory"
  required_fields := ["full_name", "email"]
  opening_tasks := [⟨"Scope advisory engagement", "consultant", none, 1⟩,
    ⟨"Conflict check", "partner", none, 2⟩, ⟨"Open engagement in system", "consultant", none, 3⟩]
  deadline_rule_ids := ["deliverable_due"]
  welcome_template_id := "consulting_welcome"

def audit : CaseTypeConfig where
  case_type := "audit"
  required_fields := ["full_name", "email"]
  opening_tasks := [⟨"Collect prior-year working papers", "consultant", none, 1⟩,
    ⟨"Independence check", "partner", none, 2⟩]
  deadline_rule_ids := []
  welcome_template_id := "default_welcome"

/-- The rule of the advisory case type. -/
def deliverable_due : DeadlineRule where
  rule_id := "deliverable_due"
  jurisdiction := "US"
  practice_area := some "advisory"
  trigger := "engagement_start_date"
  offset := ⟨0, 30, 0, 0, 0⟩
  adjust := .next_business_day
  calendar_id := "us_federal"
  reminders := []
  escalation := []
  description := "Advisory deliverable due (illustrative; ASSUMPTION (confirm))."
  assumption_unconfirmed := true

/-- `_RBAC_ROLES`: a table of its own, not the matrix of the engine. -/
def CONSULTING_ROLES : Dict String (List String) :=
  let partner := ["matter.read", "matter.write", "contact.read", "contact.write", "document.read",
    "document.write", "document.generate", "document.route", "deadline.read", "deadline.write",
    "email.draft", "email.send", "workflow.run", "workflow.status", "gate.approve", "audit.export"]
  let consultant := ["matter.read", "matter.write", "contact.read", "contact.write",
    "document.read", "document.write", "document.generate", "deadline.read", "deadline.write",
    "email.draft", "workflow.run", "workflow.status"]
  let operations := ["matter.read", "contact.read", "document.read", "deadline.read",
    "workflow.status", "audit.export"]
  let agent_service := ["matter.read", "contact.read", "document.read", "deadline.read",
    "email.draft", "workflow.run", "workflow.status"]
  let admin := partner ++ ["rule.activate", "secret.rotate"]
  [("partner", partner), ("consultant", consultant), ("operations", operations),
    ("agent_service", agent_service), ("admin", admin)].foldl
    (fun d entry => d.set entry.1 entry.2) ∅

/-- `CONSULTING_PACK`. -/
def CONSULTING_PACK : DomainPack where
  name := "consulting"
  version := "0.1.0"
  case_types := ((∅ : Dict String CaseTypeConfig).set "advisory" advisory).set "audit" audit
  default_case_type := "advisory"
  deadline_rules := [deliverable_due]
  document_classes := ["engagement_letter", "report", "correspondence", "working_papers",
    "internal_memo", "unknown"]
  packet_kinds := [Qc.PacketKind.EMAIL_SEND, .DOCUMENT_GENERATE, .DOCUMENT_ROUTE, .INTAKE_FINALIZE,
    .GENERIC].map Qc.PacketKind.value
  consistency_identifiers := ["client_id", "engagement_ref"]
  default_restricted := true
  rbac_roles := CONSULTING_ROLES
  pii_patterns := []
  template_ids := ["consulting_welcome", "default_welcome"]

example : validate_pack CONSULTING_PACK = .ok () := by decide +kernel

end CaseAutomation.Packs
