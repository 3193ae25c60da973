import Mathlib.Logic.Basic

/-! # Roles and Permissions

    The permission matrix of `security/rbac.py`: default deny, every grant
    listed. `Role(actor)` parses a role identifier.
-/

namespace CaseAutomation.Security

/-- System roles. -/
inductive Role where
  | ATTORNEY
  | PARALEGAL
  | INTAKE_COORDINATOR
  | OPERATIONS
  | AGENT_SERVICE
  | ADMIN
  deriving DecidableEq, Repr

/-- System permissions. -/
inductive Permission where
  | MATTER_READ | MATTER_WRITE
  | CONTACT_READ | CONTACT_WRITE
  | DOCUMENT_READ | DOCUMENT_WRITE | DOCUMENT_GENERATE | DOCUMENT_ROUTE
  | DEADLINE_READ | DEADLINE_WRITE
  | EMAIL_DRAFT | EMAIL_SEND
  | WORKFLOW_RUN | WORKFLOW_STATUS
  | GATE_APPROVE
  | AUDIT_EXPORT
  | RULE_ACTIVATE | SECRET_ROTATE
  deriving DecidableEq, Repr

namespace Role

/-- The identifier of a role (its `StrEnum` value). -/
def value : Role → String
  | .ATTORNEY => "attorney"
  | .PARALEGAL => "paralegal"
  | .INTAKE_COORDINATOR => "intake_coordinator"
  | .OPERATIONS => "operations"
  | .AGENT_SERVICE => "agent_service"
  | .ADMIN => "admin"

/-- All roles. -/
def all : List Role :=
  [.ATTORNEY, .PARALEGAL, .INTAKE_COORDINATOR, .OPERATIONS, .AGENT_SERVICE, .ADMIN]

/-- `Role(s)`; `none` stands for the `ValueError`. -/
def parse (s : String) : Option Role := all.find? fun r => r.value = s

/-- A parsed role is the role named by the string. -/
theorem value_of_parse {s : String} {r : Role} (h : parse s = some r) : r.value = s := by
  simpa using List.find?_some h

end Role

/-- The grants `_GRANTS` of a role. -/
def grants : Role → List Permission
  | .ATTORNEY =>
      [.MATTER_READ, .MATTER_WRITE, .CONTACT_READ, .CONTACT_WRITE, .DOCUMENT_READ,
       .DOCUMENT_WRITE, .DOCUMENT_GENERATE, .DOCUMENT_ROUTE, .DEADLINE_READ,
       .DEADLINE_WRITE, .EMAIL_DRAFT, .EMAIL_SEND, .WORKFLOW_RUN, .WORKFLOW_STATUS,
       .GATE_APPROVE, .AUDIT_EXPORT]
  | .PARALEGAL =>
      [.MATTER_READ, .MATTER_WRITE, .CONTACT_READ, .CONTACT_WRITE, .DOCUMENT_READ,
       .DOCUMENT_WRITE, .DOCUMENT_GENERATE, .DEADLINE_READ, .DEADLINE_WRITE,
       .EMAIL_DRAFT, .WORKFLOW_RUN, .WORKFLOW_STATUS]
  | .INTAKE_COORDINATOR =>
      [.MATTER_READ, .CONTACT_READ, .CONTACT_WRITE, .DOCUMENT_READ, .DEADLINE_READ,
       .EMAIL_DRAFT, .WORKFLOW_RUN, .WORKFLOW_STATUS]
  | .OPERATIONS =>
      [.MATTER_READ, .CONTACT_READ, .DOCUMENT_READ, .DEADLINE_READ, .WORKFLOW_STATUS,
       .AUDIT_EXPORT]
  | .AGENT_SERVICE =>
      [.MATTER_READ, .CONTACT_READ, .DOCUMENT_READ, .DEADLINE_READ, .EMAIL_DRAFT,
       .WORKFLOW_RUN, .WORKFLOW_STATUS]
  | .ADMIN =>
      [.MATTER_READ, .MATTER_WRITE, .CONTACT_READ, .CONTACT_WRITE, .DOCUMENT_READ,
       .DOCUMENT_WRITE, .DOCUMENT_GENERATE, .DOCUMENT_ROUTE, .DEADLINE_READ,
       .DEADLINE_WRITE, .EMAIL_DRAFT, .EMAIL_SEND, .WORKFLOW_RUN, .WORKFLOW_STATUS,
       .GATE_APPROVE, .AUDIT_EXPORT, .RULE_ACTIVATE, .SECRET_ROTATE]

/-- An authenticated actor with its roles. -/
structure Principal where
  identity : String
  roles : List Role

/-- `authorize`: the permission is granted to one of the principal's roles, and the
    resource check (if there is a resource and a checker) passes. -/
def authorize (principal : Principal) (permission : Permission) (resource : Option String)
    (resource_checker : Option (Principal → String → Bool)) : Bool :=
  if principal.roles.any fun role => decide (permission ∈ grants role) then
    match resource, resource_checker with
    | some r, some check => if r = "" then true else check principal r
    | _, _ => true
  else false

end CaseAutomation.Security
