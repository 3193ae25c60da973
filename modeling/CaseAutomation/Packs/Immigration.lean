import CaseAutomation.Packs.Base
import CaseAutomation.Qc.Registry
import CaseAutomation.Routing.Service
import CaseAutomation.Security.Rbac

/-! # The Immigration Pack

    `IMMIGRATION_PACK` of `packs/immigration/pack.py`.
-/

namespace CaseAutomation.Packs

open Framework Deadline Intake Security

/-- The identifier of a permission. -/
def permission_value : Permission → String
  | .MATTER_READ => "matter.read"
  | .MATTER_WRITE => "matter.write"
  | .CONTACT_READ => "contact.read"
  | .CONTACT_WRITE => "contact.write"
  | .DOCUMENT_READ => "document.read"
  | .DOCUMENT_WRITE => "document.write"
  | .DOCUMENT_GENERATE => "document.generate"
  | .DOCUMENT_ROUTE => "document.route"
  | .DEADLINE_READ => "deadline.read"
  | .DEADLINE_WRITE => "deadline.write"
  | .EMAIL_DRAFT => "email.draft"
  | .EMAIL_SEND => "email.send"
  | .WORKFLOW_RUN => "workflow.run"
  | .WORKFLOW_STATUS => "workflow.status"
  | .GATE_APPROVE => "gate.approve"
  | .AUDIT_EXPORT => "audit.export"
  | .RULE_ACTIVATE => "rule.activate"
  | .SECRET_ROTATE => "secret.rotate"

def family_based : CaseTypeConfig where
  case_type := "family-based"
  required_fields := ["full_name", "dob", "country_of_origin", "current_status", "email"]
  opening_tasks := [⟨"Collect I-130 petition documents", "paralegal", none, 1⟩,
    ⟨"Conflict check", "attorney", none, 2⟩, ⟨"Open matter in case system", "paralegal", none, 3⟩]
  deadline_rule_ids := ["rfe_response"]
  welcome_template_id := "family_based_welcome"

def employment_based : CaseTypeConfig where
  case_type := "employment-based"
  required_fields := ["full_name", "dob", "country_of_origin", "current_status", "email"]
  opening_tasks := [⟨"Collect employer documentation", "paralegal", none, 1⟩,
    ⟨"Conflict check", "attorney", none, 2⟩, ⟨"Open matter in case system", "paralegal", none, 3⟩]
  deadline_rule_ids := []
  welcome_template_id := "employment_based_welcome"

def uncategorised : CaseTypeConfig where
  case_type := "other/uncategorised"
  required_fields := ["full_name", "email"]
  opening_tasks := [⟨"Initial client consultation", "attorney", none, 1⟩,
    ⟨"Open matter in case system", "paralegal", none, 2⟩]
  deadline_rule_ids := []
  welcome_template_id := "default_welcome"

/-- `_CASE_TYPES`. -/
def CASE_TYPES : Dict String CaseTypeConfig :=
  (((∅ : Dict String CaseTypeConfig).set "family-based" family_based).set
    "employment-based" employment_based).set "other/uncategorised" uncategorised

/-- The rule of the family-based case type. -/
def rfe_response : DeadlineRule where
  rule_id := "rfe_response"
  jurisdiction := "US"
  practice_area := some "family-based"
  trigger := "rfe_issued_date"
  offset := ⟨87, 0, 0, 0, 0⟩
  adjust := .next_business_day
  calendar_id := "us_federal"
  reminders := []
  escalation := []
  description := "RFE response window (illustrative; ASSUMPTION (confirm))."
  assumption_unconfirmed := true

/-- `_RBAC_ROLES`. -/
def RBAC_ROLES : Dict String (List String) :=
  Role.all.foldl (fun d role => d.set role.value ((grants role).map permission_value)) ∅

/-- `IMMIGRATION_PACK`. -/
def IMMIGRATION_PACK : DomainPack where
  name := "immigration"
  version := "1.0.0"
  case_types := CASE_TYPES
  default_case_type := "other/uncategorised"
  deadline_rules := [rfe_response]
  document_classes := Routing.DOCUMENT_CLASSES.insertionSort fun a b => a ≤ b
  packet_kinds := [Qc.PacketKind.EMAIL_SEND, .DOCUMENT_GENERATE, .DOCUMENT_ROUTE, .INTAKE_FINALIZE,
    .GENERIC].map Qc.PacketKind.value
  consistency_identifiers := ["a_number", "receipt_number"]
  default_restricted := true
  rbac_roles := RBAC_ROLES
  pii_patterns := (Obs.PII_ADDITIONS .ascii).map Obs.PiiRule.source
  template_ids := CASE_TYPES.values.map CaseTypeConfig.welcome_template_id

end CaseAutomation.Packs
