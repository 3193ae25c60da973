import CaseAutomation.Base.Floats
import CaseAutomation.Workflows.Validation

/-! # Intake Types

    The intake-local models of `intake/types.py` and the configuration of `intake/config.py`.
-/

namespace CaseAutomation.Intake

open Framework Workflows

/-! ## Configuration -/

/-- Template of an opening task. -/
structure TaskTemplate where
  title : String
  assignee_role : String
  due_offset_days : Option Int
  sort : Int

/-- Per-case-type configuration. -/
structure CaseTypeConfig where
  case_type : String
  required_fields : List String
  opening_tasks : List TaskTemplate
  deadline_rule_ids : List String
  welcome_template_id : String

/-- Full intake configuration bundle. -/
structure IntakeConfig where
  case_type_configs : Dict String CaseTypeConfig
  default_case_type : String
  confidence_threshold : AnyFloat

/-- `a or b` for an optional string. -/
def text_or (a : Option String) (b : String) : String :=
  match a with
  | none => b
  | some s => if s = "" then b else s

/-- `get_case_type`: the default case type must exist, whether it is used or not. -/
def IntakeConfig.get_case_type (cfg : IntakeConfig) (case_type : Option String) :
    Except Exn CaseTypeConfig :=
  match cfg.case_type_configs.get? cfg.default_case_type with
  | none => .error (.key_error cfg.default_case_type)
  | some fallback =>
    .ok ((cfg.case_type_configs.get? (text_or case_type cfg.default_case_type)).getD fallback)

/-! ## Leads -/

/-- The raw inbound lead. -/
structure LeadPayload where
  source_channel : String
  received_at : Time
  raw : PyDict
  attachments : List (Dict String String)
  provider_event_id : Option String

def read_lead (p : Pydantic) (data : PyDict) : Option LeadPayload := do
  let source_channel ← field data "source_channel" (read_literal ["email", "form", "manual", "api"])
    (some "email")
  let received_at ← field data "received_at" p.datetime none
  let raw ← field data "raw" read_any_dict (some [])
  let attachments ← field data "attachments" (read_list (read_dict read_str)) (some [])
  let provider_event_id ← field data "provider_event_id" (read_nullable read_str) (some none)
  return ⟨source_channel, received_at, raw, attachments, provider_event_id⟩

/-! ## Fields -/

/-- The normalised lead capture. -/
structure IntakeFields where
  full_name : Option String
  dob : Option String
  preferred_language : Option String
  email : Option String
  phone : Option String
  address : Option String
  country_of_origin : Option String
  a_number : Option String
  current_status : Option String
  case_type : Option String
  prior_filings : List String
  lead_source : Option String
  description : Option String
  field_confidence : Dict String PyFloat

namespace IntakeFields

/-- `IntakeFields.model_fields`. -/
def model_fields : List String :=
  ["full_name", "dob", "preferred_language", "email", "phone", "address", "country_of_origin",
    "a_number", "current_status", "case_type", "prior_filings", "lead_source", "description",
    "field_confidence"]

def dump (f : IntakeFields) : PyDict :=
  [("full_name", .optional f.full_name), ("dob", .optional f.dob),
    ("preferred_language", .optional f.preferred_language), ("email", .optional f.email),
    ("phone", .optional f.phone), ("address", .optional f.address),
    ("country_of_origin", .optional f.country_of_origin), ("a_number", .optional f.a_number),
    ("current_status", .optional f.current_status), ("case_type", .optional f.case_type),
    ("prior_filings", .list (f.prior_filings.map .str)), ("lead_source", .optional f.lead_source),
    ("description", .optional f.description),
    ("field_confidence", .dict (f.field_confidence.entries.map fun e => (e.1, .float e.2)))]

/-- The value of a field; `null` under a name that is no field. -/
def value (f : IntakeFields) (name : String) : PyValue := (f.dump.lookup name).getD .null

/-- `getattr(fields, name, None)`, for what the class has besides its fields. -/
def getattr (class_attribute : String → PyValue) (f : IntakeFields) (name : String) : PyValue :=
  (f.dump.lookup name).getD (class_attribute name)

/-- The validator of `a_number`, for the pattern of the active pack. -/
def read_a_number (pattern : Option (String → Bool)) (x : PyValue) : Option String :=
  (read_str x).filter fun s => pattern.all fun accepts => accepts s

def read (p : Pydantic) (pattern : Option (String → Bool)) (data : PyDict) : Option IntakeFields := do
  let text (name : String) := field data name (read_nullable read_str) (some none)
  let full_name ← text "full_name"
  let dob ← text "dob"
  let preferred_language ← text "preferred_language"
  let email ← field data "email" (read_nullable (read_email p)) (some none)
  let phone ← text "phone"
  let address ← text "address"
  let country_of_origin ← text "country_of_origin"
  let a_number ← field data "a_number" (read_nullable (read_a_number pattern)) (some none)
  let current_status ← text "current_status"
  let case_type ← text "case_type"
  let prior_filings ← field data "prior_filings" (read_list read_str) (some [])
  let lead_source ← text "lead_source"
  let description ← text "description"
  let field_confidence ← field data "field_confidence" (read_dict p.float) (some ∅)
  return { full_name, dob, preferred_language, email, phone, address, country_of_origin, a_number,
           current_status, case_type, prior_filings, lead_source, description, field_confidence }

end IntakeFields

/-! ## Gaps -/

inductive Severity where
  | block
  | warn
  deriving DecidableEq, Repr

def Severity.value : Severity → String
  | .block => "block"
  | .warn => "warn"

/-- A missing or low-confidence required field. -/
structure IntakeGap where
  field : String
  reason : String
  severity : Severity

def IntakeGap.dump (g : IntakeGap) : PyDict :=
  [("field", .str g.field), ("reason", .str g.reason), ("severity", .str g.severity.value)]

def dump_gaps (gaps : List IntakeGap) : PyValue := .list (gaps.map fun g => .dict g.dump)

/-- Some gap blocks. -/
def blocking (gaps : List IntakeGap) : Bool := gaps.any fun g => decide (g.severity = .block)

/-! ## Dedupe results -/

structure MatchRef where
  contact_id : String
  source : String
  score : PyFloat

def MatchRef.dump (m : MatchRef) : PyDict :=
  [("contact_id", .str m.contact_id), ("source", .str m.source), ("score", .float m.score)]

def MatchRef.read (p : Pydantic) (data : PyDict) : Option MatchRef := do
  let contact_id ← Workflows.field data "contact_id" read_str none
  let source ← Workflows.field data "source" read_str none
  let score ← Workflows.field data "score" p.float (some ⟨"1.0", one_repr_ok⟩)
  return ⟨contact_id, source, score⟩

inductive DedupeDecision where
  | reuse_contact
  | new_contact
  | ambiguous
  deriving DecidableEq, Repr

def DedupeDecision.value : DedupeDecision → String
  | .reuse_contact => "reuse_contact"
  | .new_contact => "new_contact"
  | .ambiguous => "ambiguous"

def read_decision (x : PyValue) : Option DedupeDecision :=
  (read_str x).bind fun s =>
    [DedupeDecision.reuse_contact, .new_contact, .ambiguous].find? fun d => decide (d.value = s)

structure DedupeResult where
  contact_match : Option MatchRef
  matter_match : Option MatchRef
  decision : DedupeDecision
  score : PyFloat

def dump_match : Option MatchRef → PyValue
  | none => .null
  | some m => .dict m.dump

namespace DedupeResult

def dump (r : DedupeResult) : PyDict :=
  [("contact_match", dump_match r.contact_match), ("matter_match", dump_match r.matter_match),
    ("decision", .str r.decision.value), ("score", .float r.score)]

def read (p : Pydantic) (data : PyDict) : Option DedupeResult := do
  let match_ref (name : String) :=
    Workflows.field data name (read_nullable (read_model (MatchRef.read p))) (some none)
  let contact_match ← match_ref "contact_match"
  let matter_match ← match_ref "matter_match"
  let decision ← Workflows.field data "decision" read_decision (some .new_contact)
  let score ← Workflows.field data "score" p.float (some ⟨"0.0", zero_repr_ok⟩)
  return ⟨contact_match, matter_match, decision, score⟩

end DedupeResult

/-! ## What is JSON -/

open PyValue

theorem isJson_dump_fields (f : IntakeFields) : IsJson (.dict f.dump) := by
  have hfilings : ∀ x ∈ f.prior_filings.map PyValue.str, IsJson x := by
    intro x hx
    obtain ⟨s, -, rfl⟩ := List.mem_map.mp hx
    exact isJson_str s
  have hconfidence : ∀ e ∈ f.field_confidence.entries.map fun e => (e.1, PyValue.float e.2),
      IsJson e.2 := by
    intro e he
    obtain ⟨e', -, rfl⟩ := List.mem_map.mp he
    exact isJson_float e'.2
  simp only [isJson_dict, IntakeFields.dump, List.forall_mem_cons, isJson_optional, isJson_list,
    true_and, List.not_mem_nil, false_implies, implies_true]
  exact ⟨hfilings, hconfidence, trivial⟩

theorem isJson_dump_gaps (gaps : List IntakeGap) : (dump_gaps gaps).IsJson := by
  rw [dump_gaps, isJson_list, List.forall_mem_map]
  intro g _
  simp [IntakeGap.dump]

theorem isJson_dump_match (m : Option MatchRef) : (dump_match m).IsJson := by
  cases m with
  | none => exact isJson_null
  | some m => simp [dump_match, MatchRef.dump]

theorem isJson_dump_dedupe (r : DedupeResult) : IsJson (.dict r.dump) := by
  simp [DedupeResult.dump, isJson_dump_match]

end CaseAutomation.Intake
