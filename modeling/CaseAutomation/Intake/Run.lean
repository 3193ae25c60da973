import CaseAutomation.Audit.Record
import CaseAutomation.Intake.Types
import CaseAutomation.Orchestrator.Starts

/-! # The Intake Tool

    `tool_intake_run` of `intake/workflow.py`: the idempotency key of a lead, and the run that is started or located
    under it.
-/

namespace CaseAutomation.Intake

open Framework Program Orchestrator
open Audit (optional_str)
open Security (hexdigest sha256)

/-- `str(x)` and the JSON text of an instant, as far as the tool needs them. -/
structure LeadTexts where
  /-- `str(x)` of a value with an instant in it. -/
  str : PyValue → String
  /-- An instant under `model_dump(mode="json")`. -/
  iso : Time → String

/-- `f"{x}"`. -/
def LeadTexts.format (texts : LeadTexts) (x : PyValue) : String :=
  match x.json? with
  | some j => py_str j
  | none => texts.str x

namespace LeadPayload

/-! ## The key of a lead -/

/-- `lead.raw.get("email", "")`. -/
def raw_email (lead : LeadPayload) : PyValue := (lead.raw.lookup "email").getD (.str "")

/-- `lead.raw.get("full_name", lead.raw.get("name", ""))`. -/
def raw_name (lead : LeadPayload) : PyValue :=
  (lead.raw.lookup "full_name").getD ((lead.raw.lookup "name").getD (.str ""))

/-- `not lead.provider_event_id`. -/
def has_no_event (lead : LeadPayload) : Bool := decide (text_or lead.provider_event_id "" = "")

/-- The text that the key is the hash of. -/
def base (texts : LeadTexts) (lead : LeadPayload) : String :=
  if lead.has_no_event then
    lead.source_channel ++ ":" ++ texts.format lead.raw_email ++ ":" ++ texts.format lead.raw_name
  else lead.source_channel ++ ":" ++ text_or lead.provider_event_id ""

/-- The key that `tool_intake_run` derives. -/
def derive_idem_key (texts : LeadTexts) (lead : LeadPayload) : String :=
  slice_to (hexdigest (sha256 (encode_utf8 (lead.base texts)))) 16

/-- `lead.model_dump(mode="json")`. -/
def model_dump (texts : LeadTexts) (lead : LeadPayload) : JsonObj :=
  [("source_channel", .str lead.source_channel), ("received_at", .str (texts.iso lead.received_at)),
    ("raw", .obj (Workflows.Step.render_fields texts.iso lead.raw)),
    ("attachments", .arr (lead.attachments.map fun attachment =>
      .obj (attachment.entries.map fun entry => (entry.1, .str entry.2)))),
    ("provider_event_id", optional_str lead.provider_event_id)]

end LeadPayload

/-! ## The tool -/

/-- `make_agent_trigger`. -/
def make_agent_trigger (agent_identity : String) (idem_key : Option String) : TriggerRef :=
  ⟨.agent, agent_identity, idem_key⟩

/-- What the tool answers. -/
structure IntakeRun where
  run_id : String
  status : RunStatus
  current_step : Option String
  is_new : Bool

/-- A call of the tool. -/
structure IntakeCall where
  lead : LeadPayload
  case_type_hint : Option String
  idempotency_key : Option String
  actor : String

namespace IntakeCall

/-- The key that is given, or else the key of the lead. -/
def key (texts : LeadTexts) (call : IntakeCall) : String :=
  call.idempotency_key.getD (call.lead.derive_idem_key texts)

/-- The `start_run` call of the tool. -/
def start_args (texts : LeadTexts) (call : IntakeCall) (candidate_id : String) : StartArgs where
  workflow_name := "intake"
  context := [("lead", .obj (call.lead.model_dump texts)),
    ("case_type_hint", optional_str call.case_type_hint)]
  trigger := make_agent_trigger call.actor (some (call.key texts))
  idem_key := some (call.key texts)
  run_id := some candidate_id

end IntakeCall

/-- `tool_intake_run`. -/
def tool_intake_run (texts : LeadTexts) (call : IntakeCall) : M IntakeRun := do
  let candidate_id ← await .uuid4
  let run ← start_run (call.start_args texts candidate_id)
  pure ⟨run.id, run.status, run.current_step, decide (run.id = candidate_id)⟩

section tool
variable (env : Env) (texts : LeadTexts) (call : IntakeCall) (w : World)

/-- The tool draws an id and hands over to `start_run`. -/
theorem tool_intake_run_run :
    (tool_intake_run texts call).run (exec env) w =
      match (start_run (call.start_args texts (env.uuid w.uuids))).run (exec env)
          { w with uuids := w.uuids + 1 } with
      | (.ok run, w') => (.ok ⟨run.id, run.status, run.current_step,
          decide (run.id = env.uuid w.uuids)⟩, w')
      | (.error e, w') => (.error e, w') := by
  have huuid : exec env .uuid4 w = (.ok (env.uuid w.uuids), { w with uuids := w.uuids + 1 }) := rfl
  refine (run_await huuid).trans ?_
  rcases hstart : (start_run (call.start_args texts (env.uuid w.uuids))).run (exec env)
    { w with uuids := w.uuids + 1 } with ⟨_ | run, w'⟩
  · exact run_bind_error hstart
  · exact run_bind_ok hstart

/-- **A lead whose key is in use** starts no run, whatever else it says. The caller gets the run
    that has the key. -/
theorem tool_intake_run_located {defn : WorkflowDef} {run : WorkflowRun}
    (hlatest : get_workflow_latest w.registry "intake" = .ok defn)
    (hvalid : defn.validate_context (call.start_args texts (env.uuid w.uuids)).context = .ok ())
    (hkey : (call.start_args texts (env.uuid w.uuids)).key.bind w.store.dedupe.get? = some run.id)
    (hstored : w.store.runs.get? run.id = some run) (hother : run.id ≠ env.uuid w.uuids) :
    ∃ w', (tool_intake_run texts call).run (exec env) w =
        (.ok ⟨run.id, run.status, run.current_step, false⟩, w') ∧ w'.store = w.store := by
  obtain ⟨w', hstart, hsame⟩ := start_run_located env { w with uuids := w.uuids + 1 }
    (call.start_args texts (env.uuid w.uuids)) hlatest hvalid hkey hstored
  refine ⟨w', ?_, hsame⟩
  rw [tool_intake_run_run, hstart]
  simp only [hother, decide_false]

end tool

end CaseAutomation.Intake
