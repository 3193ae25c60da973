import CaseAutomation.Intake.Create
import CaseAutomation.Intake.Deadlines
import CaseAutomation.Intake.Dedupe

/-! # The Intake Workflow

    `intake/workflow.py`: eight steps and the gate before the last of them. Each step rebuilds what it needs from the
    outputs of earlier steps, and returns a dictionary.
-/

namespace CaseAutomation.Intake

open Framework Workflows Program Domain
open Orchestrator (Event Registry WorkflowClass GateConfig Handler WorkflowDef is_gate gate_name workflow registry_key
  default_gate_config)

/-- `IntakeServices`: what the steps are registered with. The connectors answer the calls. -/
structure IntakeServices where
  platform : Platform
  config : IntakeConfig
  /-- An extraction service is configured. -/
  extraction : Bool
  rule_store : Deadline.RuleStore

namespace IntakeServices

variable (svc : IntakeServices)

/-! ## Reading earlier outputs -/

/-- `IntakeFields(**parse_out.get("fields", {}))`. -/
def fields (ctx : Context) : Except Exn IntakeFields :=
  construct "IntakeFields" (IntakeFields.read svc.platform.pydantic svc.platform.a_number)
    ((ctx.output_field "parse_lead" "fields").getD (.dict []))

/-- `out[key]`, for the output of a step. -/
def entry (ctx : Context) (step key : String) : Except Exn PyValue :=
  match ctx.output_field step key with
  | some x => .ok x
  | none => .error (.key_error key)

/-- `Contact(**contact_out["contact"])`. -/
def contact (ctx : Context) : Except Exn Contact := do
  let x ← entry ctx "create_contact" "contact"
  construct "Contact" (read_contact svc.platform.pydantic) x

/-- `Matter(**matter_out["matter"])`. -/
def matter (ctx : Context) : Except Exn Matter := do
  let x ← entry ctx "create_matter" "matter"
  construct "Matter" (read_matter svc.platform.pydantic) x

/-- The lead of the run; whatever is not a dictionary has no `raw`. -/
def lead (ctx : Context) : Except Exn LeadPayload :=
  match (ctx.context.lookup "lead").getD (.dict []) with
  | .dict data => construct "LeadPayload" (read_lead svc.platform.pydantic) (.dict data)
  | x => .error (.other "AttributeError" ("'" ++ x.type_name ++ "' object has no attribute 'raw'"))

/-! ## The steps -/

/-- The extraction proposal for the body of the lead; whatever goes wrong leaves none. -/
def propose (ctx : Context) (lead : LeadPayload) : M (Option ExtractionProposal) :=
  match svc.extraction, lead.raw.lookup "body" with
  | true, some (.str body) =>
    if body = "" then return none
    else do
      match ← (await (.extract ctx.run_id body) : M ExtractionProposal).attempt with
      | .ok proposal => return some proposal
      | .error _ => return none
  | _, _ => return none

def parse_lead : Step := fun ctx => do
  let lead ← .ofExcept (svc.lead ctx)
  let proposal ← svc.propose ctx lead
  let (fields, gaps) ← .ofExcept (Intake.parse_lead svc.platform lead proposal
    (get ctx.context "case_type_hint") svc.config)
  return [("fields", .dict fields.dump), ("gaps", dump_gaps gaps)]

def dedupe_contact : Step := fun ctx => do
  let fields ← .ofExcept (svc.fields ctx)
  let (dedupe_result, gaps) ← Intake.dedupe_contact fields
  return [("dedupe", .dict dedupe_result.dump), ("gaps", dump_gaps gaps)]

def create_contact : Step := fun ctx => do
  let fields ← .ofExcept (svc.fields ctx)
  let dedupe ← .ofExcept (construct "DedupeResult" (DedupeResult.read svc.platform.pydantic)
    ((ctx.output_field "dedupe_contact" "dedupe").getD (.dict [("decision", .str "new_contact")])))
  let contact ← Intake.create_contact svc.platform.pydantic fields dedupe ctx.run_id
  return [("contact", .dict (dump_contact contact))]

def create_matter : Step := fun ctx => do
  let fields ← .ofExcept (svc.fields ctx)
  let contact ← .ofExcept (svc.contact ctx)
  let case_cfg ← .ofExcept (svc.config.get_case_type fields.case_type)
  let matter ← Intake.create_matter svc.platform fields contact case_cfg ctx.run_id
  return [("matter", .dict (dump_matter matter))]

def compute_deadlines : Step := fun ctx => do
  let fields ← .ofExcept (svc.fields ctx)
  let matter ← .ofExcept (svc.matter ctx)
  let case_cfg ← .ofExcept (svc.config.get_case_type fields.case_type)
  let deadlines ← of_deadline
    (Intake.compute_deadlines svc.rule_store case_cfg matter.id ctx.run_id none)
  return [("deadline_ids", .list (deadlines.map fun d => .str d.id))]

def open_tasks : Step := fun ctx => do
  let fields ← .ofExcept (svc.fields ctx)
  let matter ← .ofExcept (svc.matter ctx)
  let case_cfg ← .ofExcept (svc.config.get_case_type fields.case_type)
  let tasks ← render_tasks svc.platform matter.id case_cfg ctx.run_id
  return [("task_ids", .list (tasks.map fun t => .str t.id)), ("task_count", .int tasks.length)]

def draft_welcome : Step := fun ctx => do
  let fields ← .ofExcept (svc.fields ctx)
  let matter ← .ofExcept (svc.matter ctx)
  let contact ← .ofExcept (svc.contact ctx)
  let _ ← .ofExcept (svc.config.get_case_type fields.case_type)
  let (draft_id, gaps) ← Intake.draft_welcome matter contact fields
  return [("draft_id", .str draft_id), ("gaps", dump_gaps gaps)]

def send_welcome : Step := fun ctx => do
  let draft_id := (ctx.output_field "draft_welcome" "draft_id").getD (.str "")
  let message_id ← Intake.send_welcome draft_id ctx.run_id
  return [("message_id", .str message_id)]

/-- The methods of the workflow class. -/
def step : String → Option Step
  | "parse_lead" => some svc.parse_lead
  | "dedupe_contact" => some svc.dedupe_contact
  | "create_contact" => some svc.create_contact
  | "create_matter" => some svc.create_matter
  | "compute_deadlines" => some svc.compute_deadlines
  | "open_tasks" => some svc.open_tasks
  | "draft_welcome" => some svc.draft_welcome
  | "send_welcome" => some send_welcome
  | _ => none

end IntakeServices

/-! ## Registration -/

/-- `IntakeWorkflow.steps`. -/
def STEPS : List String :=
  ["parse_lead", "dedupe_contact", "create_contact", "create_matter", "compute_deadlines",
    "open_tasks", "draft_welcome", "GATE:human_review", "send_welcome"]

/-- `GateConfig` of the review. -/
def human_review : GateConfig where
  required_role := "attorney"
  quorum := 1
  channels := [.mcp, .web, .email]
  ttl_seconds := 86400

section registration
variable (svc : IntakeServices) (iso : Time → String) (services : List Event → Answers)

/-- The workflow class. -/
def IntakeWorkflow : WorkflowClass where
  cls_name := "IntakeWorkflow"
  steps := STEPS
  gates gate := if gate = "human_review" then some human_review else none
  methods name := (svc.step name).map fun step => ⟨true, step.handler iso services⟩

/-- `register_intake_workflow`. -/
def register_intake_workflow (registry : Registry) : Except Exn Registry :=
  workflow "intake" 1 none (IntakeWorkflow svc iso services) registry

/-- The handler of a step. -/
def intake_handler (name : String) : Option Handler :=
  if name ∈ STEPS ∧ is_gate name = false then
    (svc.step name).map fun step => step.handler iso services
  else none

theorem has_handlers : ∀ name ∈ STEPS, is_gate name = false → (svc.step name).isSome = true := by
  intro name hname hgate
  simp only [STEPS, List.mem_cons, List.not_mem_nil, or_false] at hname
  obtain rfl | rfl | rfl | rfl | rfl | rfl | rfl | rfl | rfl := hname
  all_goals first | rfl | exact absurd hgate (by decide)

/-- The definition that the decorator registers. -/
def intake_definition : WorkflowDef where
  name := "intake"
  version := 1
  steps := STEPS
  handlers := intake_handler svc iso services
  gate_configs gate :=
    match if gate = "human_review" then some human_review else none with
    | some cfg => some cfg
    | none =>
      if ∃ name ∈ STEPS, is_gate name = true ∧ gate_name name = gate then some default_gate_config
      else none
  input_schema := none
  steps_ne_nil := by decide
  handlers_total := by
    intro name hname hgate
    unfold intake_handler
    rw [if_pos ⟨hname, hgate⟩, Option.isSome_map]
    exact has_handlers svc name hname hgate

/-- What the decorator makes of the class. -/
theorem register_intake {registry : Registry} (h : registry_key "intake" 1 ∉ registry.keys) :
    register_intake_workflow svc iso services registry =
      .ok (registry.set (registry_key "intake" 1) (intake_definition svc iso services)) := by
  have hgood : (IntakeWorkflow svc iso services).first_bad_step = none := by
    rw [WorkflowClass.first_bad_step, List.find?_eq_none]
    intro name hname hbad
    simp only [Bool.and_eq_true, Bool.not_eq_true'] at hbad
    obtain ⟨step, hstep⟩ := Option.isSome_iff_exists.mp (has_handlers svc name hname hbad.1)
    have hmethod : (IntakeWorkflow svc iso services).has_handler name = true := by
      unfold WorkflowClass.has_handler IntakeWorkflow
      simp only [hstep, Option.map_some]
    rw [hmethod] at hbad
    cases hbad.2
  unfold register_intake_workflow workflow
  have hsteps : ¬ (IntakeWorkflow svc iso services).steps = [] := List.cons_ne_nil _ _
  rw [dif_neg hsteps]
  split
  · next step hbad =>
    rw [hgood] at hbad
    cases hbad
  · rw [if_neg h]
    have hhandlers : (fun name => if name ∈ (IntakeWorkflow svc iso services).steps ∧ is_gate name = false
        then ((IntakeWorkflow svc iso services).methods name).map Orchestrator.Method.handler else none) =
          intake_handler svc iso services := by
      funext name
      show (if _ then ((svc.step name).map _).map Orchestrator.Method.handler else none) = _
      rw [Option.map_map]
      rfl
    congr 2
    unfold intake_definition
    congr 1

end registration

end CaseAutomation.Intake
