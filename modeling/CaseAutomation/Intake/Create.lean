import CaseAutomation.Intake.Parse
import Mathlib.Data.List.Sort

/-! # Contacts, Matters, Tasks and the Welcome E-Mail

    `intake/create.py`, `intake/tasks.py` and `intake/welcome.py`.
-/

namespace CaseAutomation.Intake

open Framework Workflows Program Domain

/-! ## Contacts and matters -/

/-- `Contact(...)`: the e-mail address is validated. -/
def make_contact (p : Pydantic) (c : Contact) : Except Exn Contact :=
  match c.email with
  | none => .ok c
  | some email =>
    match p.email email with
    | some normalised => .ok { c with email := some normalised }
    | none => .error (validation_error "Contact")

/-- The identifiers of a new contact. -/
def contact_ids (fields : IntakeFields) (run_id : String) : Dict String String :=
  let ids := (∅ : Dict String String).set "run_id" run_id
  match fields.a_number with
  | none => ids
  | some a_number => if a_number = "" then ids else ids.set "a_number" a_number

/-- `create_contact`: a contact that is reused is not written. -/
def create_contact (p : Pydantic) (fields : IntakeFields) (dedupe : DedupeResult) (run_id : String) :
    M Contact := do
  let name := text_or fields.full_name "Unknown"
  match dedupe.decision, dedupe.contact_match with
  | .reuse_contact, some found =>
    .ofExcept (make_contact p
      { id := found.contact_id, source := found.source, name := name, email := fields.email,
        phone := fields.phone, role := some "client",
        external_ids := (∅ : Dict String String).set "run_id" run_id })
  | _, _ => do
    let id ← await .uuid4
    let contact ← .ofExcept (make_contact p
      { id := id, source := "intake", name := name, email := fields.email, phone := fields.phone,
        role := some "client", external_ids := contact_ids fields run_id })
    await (.upsert_contact contact)

/-- `create_matter`. -/
def create_matter (platform : Platform) (fields : IntakeFields) (contact : Contact)
    (case_cfg : CaseTypeConfig) (run_id : String) : M Matter := do
  let now ← await .now
  await (.create_matter
    { reference := "INTAKE-" ++ platform.upper (slice_to run_id 8)
      title := contact.name ++ " — " ++ case_cfg.case_type
      status := "open"
      practice_area := some case_cfg.case_type
      client := contact
      responsible := none
      opened_at := now
      external_ids := ((∅ : Dict String String).set "run_id" run_id).set "source_channel"
        (text_or fields.lead_source "intake") })

/-! ## Tasks -/

/-- `ROLE_ASSIGNEE_MAP`. -/
def ROLE_ASSIGNEE_MAP : Dict String String :=
  (((∅ : Dict String String).set "paralegal" "paralegal_default").set
    "attorney" "attorney_default").set "intake_coordinator" "intake_coordinator_default"

/-- `_stable_task_id`. -/
def stable_task_id (platform : Platform) (run_id matter_id title : String) : String :=
  platform.uuid5 "6ba7b810-9dad-11d1-80b4-00c04fd430c8" (run_id ++ ":" ++ matter_id ++ ":" ++ title)

/-- `datetime.min` and `datetime.max`, in UTC. -/
def MIN_TIME : Time := -62135596800000000
def MAX_TIME : Time := 253402300799999999

/-- `now + timedelta(days=days)`. -/
def add_days (now : Time) (days : Int) : Except Exn Time :=
  let result := now + seconds (86400 * days)
  if days.natAbs ≤ 999999999 ∧ MIN_TIME ≤ result ∧ result ≤ MAX_TIME then .ok result
  else .error (.other "OverflowError" "date value out of range")

/-- The task of one template. -/
def render_task (platform : Platform) (matter_id run_id : String) (now : Time)
    (template : TaskTemplate) : Except Exn Domain.Task := do
  let due_at ← match template.due_offset_days with
    | none => .ok none
    | some days => (add_days now days).map some
  return {
    id := stable_task_id platform run_id matter_id template.title
    matter_id := matter_id
    title := template.title
    assignee := some ((ROLE_ASSIGNEE_MAP.get? template.assignee_role).getD template.assignee_role)
    due_at := due_at
    status := "open" }

/-- `render_tasks`. -/
def render_tasks (platform : Platform) (matter_id : String) (case_cfg : CaseTypeConfig)
    (run_id : String) : M (List Domain.Task) := do
  let now ← await .now
  .ofExcept ((case_cfg.opening_tasks.insertionSort fun a b => a.sort ≤ b.sort).mapM
    (render_task platform matter_id run_id now))

/-! ## The welcome e-mail -/

/-- The body of the e-mail. -/
def welcome_body (matter : Matter) (contact : Contact) (fields : IntakeFields) : String :=
  "Dear " ++ text_or (some contact.name) "Client" ++ ",\n\n" ++
  "Thank you for reaching out to us regarding your " ++
  text_or fields.case_type "immigration" ++ " matter.\n\n" ++
  "We have opened a matter for you (reference: " ++ matter.reference ++ ") and " ++
  "our team will be in touch shortly.\n\n" ++
  "Best regards,\nThe Immigration Team"

/-- A client without an e-mail address. -/
def no_address : IntakeGap :=
  ⟨"email", "Client contact has no email address — cannot draft welcome.", .block⟩

/-- `draft_welcome`. -/
def draft_welcome (matter : Matter) (contact : Contact) (fields : IntakeFields) :
    M (String × List IntakeGap) :=
  if contact.email.getD "" = "" then return ("", [no_address])
  else do
    let id ← await .uuid4
    let draft_id ← await (.create_draft
      { id := id, matter_id := some matter.id, direction := .outgoing, channel := "email",
        subject := some ("Welcome — " ++ matter.reference),
        body := welcome_body matter contact fields, status := "draft", participants := [contact] })
    return (draft_id, [])

/-- `send_welcome`. -/
def send_welcome (draft_id : PyValue) (run_id : String) : M String :=
  await (.send draft_id (run_id ++ ":send_welcome"))

end CaseAutomation.Intake
