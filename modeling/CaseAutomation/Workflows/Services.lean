import CaseAutomation.Base.PyValues
import CaseAutomation.Deadline.World
import CaseAutomation.Domain.Models
import CaseAutomation.Orchestrator.Dsl
import CaseAutomation.Qc.Registry

/-! # What the Workflows Call

    The steps of a workflow are programs over the calls of this module: the connector ports
    (`connectors/ports.py`), the extraction, QC, audit and deadline services, the clock and
    the source of fresh ids. `Answers` says how one invocation of a step is answered, call by call, and
    nothing is assumed about it.

    `Step.handler` makes an orchestrator handler of such a program. The orchestrator carries outputs as JSON;
    an instant in an output, which its in-memory store keeps as it is, appears there as
    the text that the readers of the output accept in its place.
-/

namespace CaseAutomation.Workflows

open Framework Program Domain Orchestrator

/-! ## Calls -/

/-- `ExtractedField`, as far as the workflows read it. -/
structure ExtractedField where
  key : String
  value : PyValue
  confidence : PyFloat

/-- `ExtractionProposal`. -/
structure ExtractionProposal where
  fields : List ExtractedField

inductive Call where
  | now
  | uuid4
  | get_matter (id : String)
  | create_matter (data : MatterDraft)
  | upsert_contact (c : Contact)
  | find_contact (q : String)
  | create_draft (c : Communication)
  | send (draft_id : PyValue) (idem_key : String)
  | extract (input_ref content : String)
  /-- The recipient check of `tool_qc_verify`, with its aggregate result. -/
  | qc_verify (matter : Matter) (recipients : List Contact) (run_id : String)
  | audit (action : String) (inputs outputs : PyDict) (run_id : String)
  | update_last_status (matter_id status : String)
  | mark_delivered (change_id run_id : String)
  /-- A call of the deadline engine. -/
  | deadline (c : Deadline.Call)

abbrev Call.Resp : Call → Type
  | .now => Time
  | .uuid4 => String
  | .get_matter _ => Matter
  | .create_matter _ => Matter
  | .upsert_contact _ => Contact
  | .find_contact _ => List Contact
  | .create_draft _ => String
  | .send _ _ => String
  | .extract _ _ => ExtractionProposal
  | .qc_verify _ _ _ => Qc.Aggregate
  | .audit _ _ _ _ => Unit
  | .update_last_status _ _ => Unit
  | .mark_delivered _ _ => Unit
  | .deadline c => c.Resp

abbrev M (α : Type) : Type := Program Call Call.Resp Exn α

abbrev await (c : Call) : M c.Resp := Program.perform c

/-- A program of the deadline engine, among the calls of a workflow. -/
def of_deadline {α : Type} : Deadline.M α → M α
  | .ret a => .ret a
  | .raise e => .raise e
  | .call c k => .call (.deadline c) fun r => of_deadline (k r)

/-- How the calls of one invocation are answered, given the calls made before. -/
abbrev Answers : Type := List Call → (c : Call) → Except Exn c.Resp

/-- Every call is answered and noted. -/
def exec (answers : Answers) (c : Call) (made : List Call) : Except Exn c.Resp × List Call :=
  (answers made c, made ++ [c])

/-! ## Steps -/

/-- `StepContext`, with the outputs as the handlers read them. -/
structure Context where
  run_id : String
  context : PyDict
  output : String → Option PyDict

/-- The method of a step. -/
abbrev Step : Type := Context → M PyDict

/-- `(ctx.output(name) or {}).get(key)`. -/
def Context.output_field (ctx : Context) (name key : String) : Option PyValue :=
  ((ctx.output name).getD []).lookup key

namespace Step

/-- One invocation: its outcome and the calls it made. -/
def invoke (step : Step) (answers : Answers) (ctx : Context) : Except Exn PyDict × List Call :=
  (step ctx).run (exec answers) []

mutual
/-- The JSON value that stands for a value, with `iso` for an instant. -/
def render (iso : Time → String) : PyValue → Json
  | .null => .null
  | .bool b => .bool b
  | .int n => .int n
  | .float x => .float x
  | .str s => .str s
  | .list xs => .arr (render_items iso xs)
  | .dict fields => .obj (render_fields iso fields)
  | .datetime t => .str (iso t)
def render_items (iso : Time → String) : List PyValue → List Json
  | [] => []
  | x :: xs => render iso x :: render_items iso xs
def render_fields (iso : Time → String) : PyDict → JsonObj
  | [] => []
  | (k, x) :: fs => (k, render iso x) :: render_fields iso fs
end

/-- The context of an invocation by the engine. -/
def context (ctx : StepContext) : Context where
  run_id := ctx.run_id
  context := PyValue.of_fields ctx.context
  output name := (ctx.output name).map PyValue.of_fields

/-- The handler of a step, when the services answer by what happened in the outside world so far. -/
def handler (step : Step) (iso : Time → String) (services : List Event → Answers) : Handler :=
  fun trace ctx =>
    match (step.invoke (services trace) (context ctx)).1 with
    | .ok output => .returned (some (render_fields iso output)) []
    | .error e => .raised e

/-! ## What a handler returns -/

mutual
/-- A JSON value stands for itself. -/
theorem render_eq {iso : Time → String} {x : PyValue} {j : Json} (h : x.json? = some j) :
    render iso x = j := by
  cases x with
  | list xs =>
    obtain ⟨js, hjs, rfl⟩ := Option.map_eq_some_iff.mp h
    rw [render, render_items_eq hjs]
  | dict fs =>
    obtain ⟨js, hjs, rfl⟩ := Option.map_eq_some_iff.mp h
    rw [render, render_fields_eq hjs]
  | datetime t => cases h
  | _ => cases h; rfl
theorem render_items_eq {iso : Time → String} {xs : List PyValue} {js : List Json}
    (h : PyValue.items? xs = some js) : render_items iso xs = js := by
  cases xs with
  | nil => cases h; rfl
  | cons x xs =>
    obtain ⟨j, hj, hrest⟩ := Option.bind_eq_some_iff.mp h
    obtain ⟨js, hjs, rfl⟩ := Option.map_eq_some_iff.mp hrest
    rw [render_items, render_eq hj, render_items_eq hjs]
theorem render_fields_eq {iso : Time → String} {fs : PyDict} {js : JsonObj}
    (h : PyValue.fields? fs = some js) : render_fields iso fs = js := by
  cases fs with
  | nil => cases h; rfl
  | cons f fs =>
    obtain ⟨j, hj, hrest⟩ := Option.bind_eq_some_iff.mp h
    obtain ⟨js, hjs, rfl⟩ := Option.map_eq_some_iff.mp hrest
    rw [render_fields, render_eq hj, render_fields_eq hjs]
end

/-- A dictionary without instants is read as it was returned. -/
theorem of_fields_render {iso : Time → String} {d : PyDict} (h : ∀ f ∈ d, f.2.IsJson) :
    PyValue.of_fields (render_fields iso d) = d := by
  rw [← PyValue.fields?_isSome, Option.isSome_iff_exists] at h
  obtain ⟨o, ho⟩ := h
  rw [render_fields_eq ho, PyValue.of_fields_eq ho]

/-- What a handler returns is the output of its step. -/
theorem handler_returned {step : Step} {iso : Time → String} {services : List Event → Answers}
    {trace : List Event} {ctx : StepContext} {output : Option JsonObj} {hooks : List Compensation}
    (h : step.handler iso services trace ctx = .returned output hooks) :
    ∃ out, (step.invoke (services trace) (context ctx)).1 = .ok out ∧
      output = some (render_fields iso out) := by
  unfold handler at h
  split at h
  · next out hout =>
    cases h
    exact ⟨out, hout, rfl⟩
  · cases h

end Step

end CaseAutomation.Workflows
