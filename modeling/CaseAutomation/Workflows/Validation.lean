import CaseAutomation.Workflows.Services

/-! # Dumping and Validating Models

    `model.model_dump()` and `Model(**data)` of the domain models that step outputs carry. A model is validated field by
    field: a missing field takes its default, other fields of the data are ignored, and a
    value that a field does not accept is a `ValidationError`.
-/

namespace CaseAutomation.Workflows

open Framework Domain

/-- What the validation library accepts besides values of the declared type, and the
    addresses it recognises. -/
structure Pydantic where
  datetime : PyValue → Option Time
  float : PyValue → Option PyFloat
  int : PyValue → Option Int
  /-- `EmailStr`: the normalised address. -/
  email : String → Option String

def validation_error (model : String) : Exn := .other "ValidationError" model

/-! ## Readers of fields -/

def read_str : PyValue → Option String
  | .str s => some s
  | _ => none

/-- A field that may be `None`. -/
def read_nullable {α : Type} (read : PyValue → Option α) : PyValue → Option (Option α)
  | .null => some none
  | x => (read x).map some

def read_list {α : Type} (read : PyValue → Option α) : PyValue → Option (List α)
  | .list xs => xs.mapM read
  | _ => none

def read_dict {α : Type} (read : PyValue → Option α) : PyValue → Option (Dict String α)
  | .dict fields => fields.foldlM (fun d f => (read f.2).map (d.set f.1)) ∅
  | _ => none

/-- A `dict[str, Any]`. -/
def read_any_dict : PyValue → Option PyDict
  | .dict fields => some fields
  | _ => none

def read_email (p : Pydantic) (x : PyValue) : Option String := (read_str x).bind p.email

def read_literal (values : List String) (x : PyValue) : Option String :=
  (read_str x).filter fun s => decide (s ∈ values)

/-- One field of the data: its value, or its default. -/
def field {α : Type} (data : PyDict) (name : String) (read : PyValue → Option α)
    (default : Option α) : Option α :=
  match data.lookup name with
  | none => default
  | some x => read x

/-- `Model(**x)`. -/
def construct {α : Type} (model : String) (read : PyDict → Option α) : PyValue → Except Exn α
  | .dict data =>
    match read data with
    | some a => .ok a
    | none => .error (validation_error model)
  | x => .error (.type_error (model ++ "() argument after ** must be a mapping, not " ++ x.type_name))

/-- A field that holds a model. -/
def read_model {α : Type} (read : PyDict → Option α) : PyValue → Option α
  | .dict data => read data
  | _ => none

/-! ## The domain models -/

def dump_ids (ids : Dict String String) : PyValue :=
  .dict (ids.entries.map fun e => (e.1, .str e.2))

def dump_contact (c : Contact) : PyDict :=
  [("id", .str c.id), ("source", .str c.source), ("name", .str c.name), ("email", .optional c.email),
    ("phone", .optional c.phone), ("role", .optional c.role), ("external_ids", dump_ids c.external_ids)]

def read_contact (p : Pydantic) (data : PyDict) : Option Contact := do
  let id ← field data "id" read_str none
  let source ← field data "source" read_str none
  let name ← field data "name" read_str none
  let email ← field data "email" (read_nullable (read_email p)) (some none)
  let phone ← field data "phone" (read_nullable read_str) (some none)
  let role ← field data "role" (read_nullable read_str) (some none)
  let external_ids ← field data "external_ids" (read_dict read_str) (some ∅)
  return ⟨id, source, name, email, phone, role, external_ids⟩

def DeadlineStatus.value : DeadlineStatus → String
  | .pending => "pending"
  | .reminded => "reminded"
  | .done => "done"
  | .missed => "missed"

def read_status (x : PyValue) : Option DeadlineStatus :=
  (read_str x).bind fun s =>
    [DeadlineStatus.pending, .reminded, .done, .missed].find? fun status =>
      decide (DeadlineStatus.value status = s)

def dump_deadline (d : Domain.Deadline) : PyDict :=
  [("id", .str d.id), ("matter_id", .str d.matter_id), ("name", .str d.name),
    ("due_at", .datetime d.due_at), ("rule_id", .optional d.rule_id),
    ("status", .str (DeadlineStatus.value d.status)), ("escalation_level", .int d.escalation_level)]

def read_deadline (p : Pydantic) (data : PyDict) : Option Domain.Deadline := do
  let id ← field data "id" read_str none
  let matter_id ← field data "matter_id" read_str none
  let name ← field data "name" read_str none
  let due_at ← field data "due_at" p.datetime none
  let rule_id ← field data "rule_id" (read_nullable read_str) (some none)
  let status ← field data "status" read_status (some .pending)
  let escalation_level ← field data "escalation_level" p.int (some 0)
  return ⟨id, matter_id, name, due_at, rule_id, status, escalation_level⟩

def dump_matter (m : Matter) : PyDict :=
  [("id", .str m.id), ("source", .str m.source), ("reference", .str m.reference),
    ("title", .str m.title), ("status", .str m.status), ("practice_area", .optional m.practice_area),
    ("client", .dict (dump_contact m.client)), ("responsible", .optional m.responsible),
    ("opened_at", .datetime m.opened_at),
    ("key_dates", .list (m.key_dates.map fun d => .dict (dump_deadline d))),
    ("external_ids", dump_ids m.external_ids)]

def read_matter (p : Pydantic) (data : PyDict) : Option Matter := do
  let id ← field data "id" read_str none
  let source ← field data "source" read_str none
  let reference ← field data "reference" read_str none
  let title ← field data "title" read_str none
  let status ← field data "status" read_str none
  let practice_area ← field data "practice_area" (read_nullable read_str) (some none)
  let client ← field data "client" (read_model (read_contact p)) none
  let responsible ← field data "responsible" (read_nullable read_str) (some none)
  let opened_at ← field data "opened_at" p.datetime none
  let key_dates ← field data "key_dates" (read_list (read_model (read_deadline p))) (some [])
  let external_ids ← field data "external_ids" (read_dict read_str) (some ∅)
  return ⟨id, source, reference, title, status, practice_area, client, responsible, opened_at,
    key_dates, external_ids⟩

/-! ## What of a model is JSON -/

@[simp] theorem isJson_dump_ids (ids : Dict String String) : (dump_ids ids).IsJson := by
  rw [dump_ids, PyValue.isJson_dict, List.forall_mem_map]
  intro e _
  exact PyValue.isJson_str e.2

/-- A contact is dumped to JSON. -/
theorem isJson_dump_contact (c : Contact) : PyValue.IsJson (.dict (dump_contact c)) := by
  simp [dump_contact]

/-- A matter is not: it was opened at an instant. -/
theorem not_isJson_dump_matter (m : Matter) : ¬ PyValue.IsJson (.dict (dump_matter m)) := by
  simp [dump_matter]

end CaseAutomation.Workflows
