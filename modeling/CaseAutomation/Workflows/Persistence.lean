import CaseAutomation.Intake.Gaps
import CaseAutomation.StatusUpdate.Outputs

/-! # Step Outputs and Their Text

    The production stores keep the output of a step as JSON text: `RedisIdempotencyStore.record` and the JSONB
    column of the step row call `json.dumps` after the handler has returned, hence after its effect.

    `output_survives_iff`: of all the steps of the two workflows, only `create_matter` returns what
    this text cannot hold; every other output is read back as it was returned.
-/

namespace CaseAutomation.Workflows

open Framework Program Domain

/-! ## Outputs in a run -/

/-- One of the two workflows, with what its steps are registered with. -/
inductive Pipeline where
  | intake (svc : Intake.IntakeServices)
  | status_update_email (svc : StatusUpdate.StatusUpdateServices)

namespace Pipeline

def is_intake : Pipeline → Bool
  | .intake _ => true
  | .status_update_email _ => false

/-- The methods of the workflow class. -/
def step : Pipeline → String → Option Step
  | .intake svc => svc.step
  | .status_update_email svc => svc.step

end Pipeline

/-- What a step has returned, whatever the services answered, in a context whose earlier outputs were
    returned by steps of the same workflow. -/
inductive Produced (wf : Pipeline) : String → PyDict → Prop where
  | returned {name : String} {step : Step} {answers : Answers} {ctx : Context} {out : PyDict} :
      wf.step name = some step → (∀ earlier d, ctx.output earlier = some d → Produced wf earlier d) →
      (step.invoke answers ctx).1 = .ok out → Produced wf name out

/-! ## Which outputs survive -/

section survival
open PyDict

/-- A value in an output that survives is JSON. -/
theorem isJson_output_field {ctx : Context} {name key : String} {x : PyValue}
    (hsurvives : ∀ d, ctx.output name = some d → Survives d)
    (h : ctx.output_field name key = some x) : x.IsJson := by
  unfold Context.output_field at h
  cases hout : ctx.output name with
  | none =>
    rw [hout] at h
    cases h
  | some d =>
    rw [hout] at h
    obtain ⟨before, after, hd, -⟩ := List.lookup_eq_some_iff.mp h
    have hjson := survives_iff.mp (hsurvives d hout)
    have hmem : (key, x) ∈ d := by
      show (key, x) ∈ (some d).getD []
      rw [hd]
      simp
    exact hjson _ hmem

/-- In the intake, exactly the matter does not survive. -/
theorem intake_survives_iff {name : String} {out : PyDict}
    (h : Intake.IntakeServices.Output name out) : Survives out ↔ name ≠ "create_matter" := by
  rw [survives_iff]
  cases h with
  | create_matter matter => simp [-PyValue.isJson_dict, not_isJson_dump_matter]
  | parse_lead fields gaps => simp [-PyValue.isJson_dict, Intake.isJson_dump_fields, Intake.isJson_dump_gaps]
  | dedupe_contact result gaps => simp [-PyValue.isJson_dict, Intake.isJson_dump_dedupe, Intake.isJson_dump_gaps]
  | create_contact contact => simp [-PyValue.isJson_dict, isJson_dump_contact]
  | compute_deadlines ids => simp
  | open_tasks ids count => simp
  | draft_welcome draft_id gaps => simp [Intake.isJson_dump_gaps]
  | send_welcome message_id => simp

/-- In the status update every output survives, if the earlier ones did. -/
theorem status_update_survives {ctx : Context} {name : String} {out : PyDict}
    (hctx : ∀ earlier d, ctx.output earlier = some d → Survives d)
    (h : StatusUpdate.StatusUpdateServices.Output ctx name out) : Survives out := by
  rw [survives_iff]
  cases h with
  | blocked gaps hgaps =>
    have hjson := isJson_output_field (hctx _) hgaps
    simp [hjson]
  | recorded sent hsent =>
    have hjson := isJson_output_field (hctx _) hsent
    simp [hjson]
  | _ => simp

/-- **Step outputs survive persistence**, except the matter that the intake has just created: the text
    of every other output exists, and it is read back as the output that the step returned. -/
theorem output_survives_iff {wf : Pipeline} {name : String} {out : PyDict} (h : Produced wf name out) :
    Survives out ↔ ¬ (wf.is_intake = true ∧ name = "create_matter") := by
  induction h with
  | @returned name step answers ctx out hstep _ hout ih =>
    cases wf with
    | intake svc =>
      have houtput := (svc.step_returns ctx hstep).run hout
      rw [intake_survives_iff houtput]
      simp [Pipeline.is_intake]
    | status_update_email svc =>
      have houtput := (svc.step_returns ctx hstep).run hout
      have hctx : ∀ earlier d, ctx.output earlier = some d → Survives d := by
        intro earlier d hd
        rw [ih earlier d hd]
        simp [Pipeline.is_intake]
      simp [Pipeline.is_intake, status_update_survives hctx houtput]

end survival

/-! ## A lead up to its matter

    The steps of the sample intake, one after the other, on the lead with an A-number. -/

section sample

/-- The dictionary returned, if one is. -/
def output_of : Except Exn PyDict → PyDict
  | .ok out => out
  | .error _ => []

theorem eq_output_of {r : Except Exn PyDict} (h : r.isOk = true) : r = .ok (output_of r) := by
  cases r with
  | ok out => rfl
  | error e => cases h

/-- The context of a step after the given outputs. -/
def sample_context (outputs : List (String × PyDict)) : Context where
  run_id := "id-0"
  context := PyValue.of_fields (Intake.sample_start Intake.with_number).context
  output name := outputs.lookup name

/-- The outcome and the calls of a step after the given outputs. -/
def sample_invoke (step : Step) (outputs : List (String × PyDict)) : Except Exn PyDict × List Call :=
  step.invoke (Intake.sample_services []) (sample_context outputs)

/-- What the steps have returned after the given outputs. -/
theorem sample_produced {name : String} {step : Step} {outputs : List (String × PyDict)}
    (hstep : Intake.sample_intake.step name = some step)
    (houtputs : ∀ e ∈ outputs, Produced (.intake Intake.sample_intake) e.1 e.2)
    (hok : (sample_invoke step outputs).1.isOk = true) :
    Produced (.intake Intake.sample_intake) name (output_of (sample_invoke step outputs).1) := by
  refine Produced.returned hstep ?_ (eq_output_of hok)
  intro earlier d hd
  obtain ⟨before, after, rfl, -⟩ := List.lookup_eq_some_iff.mp hd
  exact houtputs (earlier, d) (by simp)

def parsed_lead : PyDict := output_of (sample_invoke Intake.sample_intake.parse_lead []).1

def created_contact : PyDict :=
  output_of (sample_invoke Intake.sample_intake.create_contact [("parse_lead", parsed_lead)]).1

/-- The outputs before `create_matter`. -/
def before_matter : List (String × PyDict) :=
  [("parse_lead", parsed_lead), ("create_contact", created_contact)]

theorem parsed_lead_produced : Produced (.intake Intake.sample_intake) "parse_lead" parsed_lead := by
  apply sample_produced rfl
  · intro e he
    cases he
  · decide +kernel

theorem before_matter_produced :
    ∀ e ∈ before_matter, Produced (.intake Intake.sample_intake) e.1 e.2 := by
  have hparsed : ∀ e ∈ [("parse_lead", parsed_lead)],
      Produced (.intake Intake.sample_intake) e.1 e.2 := by
    intro e he
    obtain rfl := List.mem_singleton.mp he
    exact parsed_lead_produced
  have hstep : Intake.sample_intake.step "create_contact" =
      some Intake.sample_intake.create_contact := rfl
  have hok : (sample_invoke Intake.sample_intake.create_contact
      [("parse_lead", parsed_lead)]).1.isOk = true := by
    decide +kernel
  intro e he
  obtain rfl | he := List.mem_cons.mp he
  · exact parsed_lead_produced
  · obtain rfl := List.mem_singleton.mp he
    exact sample_produced hstep hparsed hok

/-- The guarantee at work, on the output of the first step. -/
theorem parsed_lead_survives : PyDict.Survives parsed_lead ↔
    ¬ (Pipeline.is_intake (.intake Intake.sample_intake) = true ∧ "parse_lead" = "create_matter") :=
  output_survives_iff parsed_lead_produced

/-- **The matter is created and its output is lost.** `create_matter` has called the connector and
    returned, and `json.dumps` raises on what it returned. -/
theorem created_matter_is_lost :
    ∃ out, Produced (.intake Intake.sample_intake) "create_matter" out ∧
      (sample_invoke Intake.sample_intake.create_matter before_matter).1 = .ok out ∧
      (∃ draft, Call.create_matter draft ∈
        (sample_invoke Intake.sample_intake.create_matter before_matter).2) ∧
      out.dumps = .error (.type_error "Object of type datetime is not JSON serializable") := by
  have hok : (sample_invoke Intake.sample_intake.create_matter before_matter).1.isOk = true := by
    decide +kernel
  refine ⟨_, sample_produced rfl before_matter_produced hok, eq_output_of hok, ?_, ?_⟩
  · have hcalled : (sample_invoke Intake.sample_intake.create_matter before_matter).2.any
        (fun c => match c with
          | .create_matter _ => true
          | _ => false) = true := by
      decide +kernel
    obtain ⟨c, hc, hcreate⟩ := List.any_eq_true.mp hcalled
    cases c with
    | create_matter draft => exact ⟨draft, hc⟩
    | _ => cases hcreate
  · decide +kernel

end sample

end CaseAutomation.Workflows
