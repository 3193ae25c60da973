import CaseAutomation.Intake.Outputs
import CaseAutomation.Orchestrator.Review

/-! # Blocking Gaps and the Review

    Three steps of the intake put gaps into their outputs. The workflow documentation says that blocking gaps
    prevent the approval of the review; neither the resolver nor the engine reads them.

    `blocking_gaps_stop_the_send`: they do prevent it, and the send behind it, as long as nobody approves
    a run whose data are incomplete.
-/

namespace CaseAutomation.Intake

open Framework Workflows Program Domain Orchestrator Review

/-! ## Gaps in outputs -/

/-- The gate of the workflow. -/
def HUMAN_REVIEW : String := "GATE:human_review"

/-- `gap["severity"] == "block"`. -/
def gap_blocks : Json → Bool
  | .obj gap =>
    match gap.lookup "severity" with
    | some (.str severity) => decide (severity = "block")
    | _ => false
  | _ => false

/-- Some gap of an output blocks. -/
def has_blocking_gap (output : JsonObj) : Bool :=
  match output.lookup "gaps" with
  | some (.arr gaps) => gaps.any gap_blocks
  | _ => false

/-- The steps whose outputs carry gaps. -/
def GAP_STEPS : List String := ["parse_lead", "dedupe_contact", "draft_welcome"]

/-- A blocking gap has been returned for the run. -/
def Gapped (w : World) (run_id : String) : Prop :=
  Flagged (fun step _ output => decide (step ∈ GAP_STEPS) && has_blocking_gap output) w run_id

/-- An invocation of `send_welcome` for the run has called `email.send`. -/
def Sent (services : List Event → Answers) (w : World) (run_id : String) : Prop :=
  ∃ before ctx result after,
    w.trace = before ++ Event.invoked run_id "send_welcome" ctx result :: after ∧
      ∃ draft_id idem_key, Call.send draft_id idem_key ∈
        (IntakeServices.send_welcome.invoke (services before) (Step.context ctx)).2

/-! ## Incomplete data -/

section data
variable (svc : IntakeServices)

/-- A text among the fields of a dictionary. -/
def text_field (d : PyDict) (name : String) : Option String := (d.lookup name).bind read_str

/-- A required field of the case type is missing from the fields that `parse_lead` found. -/
def lacks_required (output : JsonObj) : Bool :=
  match output.lookup "fields" with
  | some (.obj fields) =>
    match svc.config.get_case_type (text_field (PyValue.of_fields fields) "case_type") with
    | .ok case_cfg => case_cfg.required_fields.any fun name =>
        missing (((PyValue.of_fields fields).lookup name).getD (svc.platform.class_attribute name))
    | .error _ => false
  | _ => false

/-- The contact of the lead is ambiguous. -/
def left_to_human (output : JsonObj) : Bool :=
  match output.lookup "dedupe" with
  | some (.obj dedupe) => decide (text_field (PyValue.of_fields dedupe) "decision" = some "ambiguous")
  | _ => false

/-- The contact on record has no e-mail address. -/
def lacks_address (ctx : StepContext) : Bool :=
  match svc.contact (Step.context ctx) with
  | .ok contact => decide (contact.email.getD "" = "")
  | .error _ => false

/-- What an approver should look for in the data of a run. -/
def incomplete (step : String) (ctx : StepContext) (output : JsonObj) : Bool :=
  decide (step = "parse_lead") && lacks_required svc output ||
    decide (step = "dedupe_contact") && left_to_human output ||
    decide (step = "draft_welcome") && lacks_address svc ctx

end data

/-! ## A gap blocks when the data are incomplete -/

section rendered
variable {iso : Time → String} {out : PyDict} {gaps : List IntakeGap}

theorem lookup_render (d : PyDict) (name : String) :
    (Step.render_fields iso d).lookup name = (d.lookup name).map (Step.render iso) := by
  induction d with
  | nil => rfl
  | cons f fs ih =>
    obtain ⟨key, x⟩ := f
    simp only [Step.render_fields, List.lookup_cons]
    by_cases hname : (name == key) = true
    · simp [hname]
    · simp [hname, ih]

theorem gap_blocks_dump (g : IntakeGap) :
    gap_blocks (Step.render iso (.dict g.dump)) = decide (g.severity = .block) := by
  have hlookup : (Step.render_fields iso g.dump).lookup "severity" = some (.str g.severity.value) := by
    rw [lookup_render]
    rfl
  unfold Step.render gap_blocks
  simp only [hlookup]
  cases g.severity with
  | block => rfl
  | warn => rfl

theorem has_blocking_gap_render (h : out.lookup "gaps" = some (dump_gaps gaps)) :
    has_blocking_gap (Step.render_fields iso out) = blocking gaps := by
  have hitems : ∀ gaps : List IntakeGap, (Step.render_items iso (gaps.map fun g => .dict g.dump)).any
      gap_blocks = blocking gaps := by
    intro gaps
    induction gaps with
    | nil => rfl
    | cons g rest ih =>
      have hany : blocking (g :: rest) = (decide (g.severity = .block) || blocking rest) := rfl
      rw [List.map_cons, Step.render_items, List.any_cons, gap_blocks_dump, ih, hany]
  unfold has_blocking_gap
  rw [lookup_render, h, Option.map_some, dump_gaps, Step.render]
  exact hitems gaps

theorem read_str_optional (s : Option String) : read_str (.optional s) = s := by
  cases s with
  | none => rfl
  | some s => rfl

theorem lacks_required_render {svc : IntakeServices} {fields : IntakeFields}
    (h : out.lookup "fields" = some (.dict fields.dump)) :
    lacks_required svc (Step.render_fields iso out) = required_missing svc.platform svc.config fields := by
  have hjson : PyValue.of_fields (Step.render_fields iso fields.dump) = fields.dump :=
    Step.of_fields_render (PyValue.isJson_dict.mp (isJson_dump_fields fields))
  have hcase : text_field fields.dump "case_type" = fields.case_type := read_str_optional _
  unfold lacks_required
  rw [lookup_render, h, Option.map_some, Step.render]
  simp only [hjson, hcase]
  rfl

theorem left_to_human_render {result : DedupeResult}
    (h : out.lookup "dedupe" = some (.dict result.dump)) :
    left_to_human (Step.render_fields iso out) = decide (result.decision = .ambiguous) := by
  have hjson : PyValue.of_fields (Step.render_fields iso result.dump) = result.dump :=
    Step.of_fields_render (PyValue.isJson_dict.mp (isJson_dump_dedupe result))
  have hdecision : text_field result.dump "decision" = some result.decision.value := rfl
  unfold left_to_human
  rw [lookup_render, h, Option.map_some, Step.render]
  simp only [hjson, hdecision]
  cases result.decision with
  | reuse_contact => rfl
  | new_contact => rfl
  | ambiguous => rfl

end rendered

section workflow
variable {svc : IntakeServices} {iso : Time → String} {services : List Event → Answers}

/-- The handler of a step runs the method of that name. -/
theorem intake_handler_eq {name : String} {handler : Handler}
    (h : (intake_definition svc iso services).handlers name = some handler) :
    ∃ step, svc.step name = some step ∧ handler = step.handler iso services := by
  have hmethod : intake_handler svc iso services name = some handler := h
  unfold intake_handler at hmethod
  split at hmethod
  · obtain ⟨step, hstep, rfl⟩ := Option.map_eq_some_iff.mp hmethod
    exact ⟨step, hstep, rfl⟩
  · cases hmethod

/-- **When an output has a blocking gap.** Exactly when the data are incomplete. -/
theorem has_blocking_gap_iff {name : String} {handler : Handler} {trace : List Event}
    {ctx : StepContext} {output : JsonObj} {hooks : List Compensation}
    (hhandler : (intake_definition svc iso services).handlers name = some handler)
    (hreturned : handler trace ctx = .returned (some output) hooks) (hname : name ∈ GAP_STEPS) :
    has_blocking_gap output = incomplete svc name ctx output := by
  obtain ⟨step, hstep, rfl⟩ := intake_handler_eq hhandler
  obtain ⟨out, hout, houtput⟩ := Step.handler_returned hreturned
  obtain rfl := Option.some.inj houtput
  unfold incomplete
  simp only [GAP_STEPS, List.mem_cons, List.not_mem_nil, or_false] at hname
  obtain rfl | rfl | rfl := hname
  · obtain rfl : svc.parse_lead = step := Option.some.inj hstep
    obtain ⟨fields, gaps, rfl, hblocks⟩ := (svc.parse_lead_returns _).run hout
    rw [has_blocking_gap_render rfl, lacks_required_render rfl, hblocks]
    simp
  · obtain rfl : svc.dedupe_contact = step := Option.some.inj hstep
    obtain ⟨result, gaps, rfl, hblocks⟩ := (svc.dedupe_contact_returns _).run hout
    rw [has_blocking_gap_render rfl, left_to_human_render rfl, hblocks]
    simp
  · obtain rfl : svc.draft_welcome = step := Option.some.inj hstep
    obtain ⟨draft_id, gaps, contact, hcontact, rfl, hblocks⟩ := (svc.draft_welcome_returns _).run hout
    rw [has_blocking_gap_render rfl, lacks_address, hcontact, hblocks]
    simp

/-- No handler returns an empty output. -/
theorem intake_productive (svc : IntakeServices) (iso : Time → String)
    (services : List Event → Answers) :
    OpenGates.Productive (intake_definition svc iso services) := by
  intro name handler trace ctx output hooks hhandler hreturned
  obtain ⟨step, hstep, rfl⟩ := intake_handler_eq hhandler
  obtain ⟨out, hout, rfl⟩ := Step.handler_returned hreturned
  have hne : out ≠ [] := ((svc.step_returns _ hstep).run hout).ne_nil
  cases out with
  | nil => exact absurd rfl hne
  | cons f fs =>
    obtain ⟨key, x⟩ := f
    exact List.cons_ne_nil _ _

/-- The steps with gaps come before the review. -/
theorem intake_placed (svc : IntakeServices) (iso : Time → String) (services : List Event → Answers) :
    Placed (intake_definition svc iso services) HUMAN_REVIEW (incomplete svc) where
  is_gate := by decide
  nodup := show STEPS.Nodup by decide
  before := by
    intro step ctx output hincomplete
    have hstep : step = "parse_lead" ∨ step = "dedupe_contact" ∨ step = "draft_welcome" := by
      simp only [incomplete, Bool.or_eq_true, Bool.and_eq_true, decide_eq_true_eq] at hincomplete
      tauto
    obtain rfl | rfl | rfl := hstep
    · exact ⟨by decide, 0, 7, by decide, rfl, rfl⟩
    · exact ⟨by decide, 1, 7, by decide, rfl, rfl⟩
    · exact ⟨by decide, 6, 7, by decide, rfl, rfl⟩

/-! ## Sending -/

/-- Every invocation of `send_welcome` calls `email.send`. -/
theorem send_welcome_sends (answers : Answers) (ctx : Context) :
    ∃ draft_id idem_key, Call.send draft_id idem_key ∈
      (IntakeServices.send_welcome.invoke answers ctx).2 := by
  refine ⟨(ctx.output_field "draft_welcome" "draft_id").getD (.str ""),
    ctx.run_id ++ ":send_welcome", ?_⟩
  unfold Step.invoke IntakeServices.send_welcome Intake.send_welcome
  simp only [monad_bind, run_bind, run_perform, Workflows.exec]
  split
  · next hsent =>
    rw [← (Prod.mk.inj hsent).2]
    simp
  · next hsent =>
    rw [← (Prod.mk.inj hsent).2]
    simp

end workflow

/-! ## Every history -/

/-- The requests on the runs of the intake, when no approval is submitted for a run with incomplete
    data. -/
def Diligent (svc : IntakeServices) (crypto : Crypto) : World → Request → Prop :=
  Careful crypto "intake" HUMAN_REVIEW (incomplete svc)

/-- **Blocking gaps stop the send.** In every sequential history of starts, executions, sweeps,
    operator changes and gate resolutions of the intake, with failing calls and crashes, any leads and any
    answers of the services, in which approvals are diligent: once a blocking gap has been
    returned for a run, the review of the run has no approval on record, its gate step is not
    done, and `send_welcome` has not called `email.send` for it. -/
theorem blocking_gaps_stop_the_send {env : Env} {engine : Engine} {registry : Registry}
    {svc : IntakeServices} {iso : Time → String} {services : List Event → Answers} {p : Orchestrator.M Unit}
    {w : World} {run_id : String}
    (hlatest : get_workflow_latest registry "intake" = .ok (intake_definition svc iso services))
    (h : Sequential (faulty env) engine registry (Diligent svc engine.crypto) p w)
    (hgap : Gapped w run_id) :
    ¬ ApprovedAt HUMAN_REVIEW w run_id ∧
    (∀ rows, w.store.steps.get? run_id = some rows → ∀ row ∈ rows, row.step = HUMAN_REVIEW →
      Engine.step_done row.status = false) ∧
    ¬ Sent services w run_id := by
  have hreviewed := reviewed hlatest (intake_productive svc iso services)
    (intake_placed svc iso services) h
  -- the gap was returned by a registered handler, so the data are incomplete
  have hflagged : Flagged (incomplete svc) w run_id := by
    obtain ⟨step, ctx, output, hooks, hmem, hgapped⟩ := hgap
    rw [Bool.and_eq_true, decide_eq_true_eq] at hgapped
    obtain ⟨hstep, hblocks⟩ := hgapped
    obtain ⟨handler, trace, hhandler, hreturned⟩ := hreviewed.genuine _ _ _ _ hmem
    have hincomplete : incomplete svc step ctx output = true := by
      rw [← has_blocking_gap_iff hhandler hreturned.symm hstep]
      exact hblocks
    exact ⟨step, ctx, output, hooks, hmem, hincomplete⟩
  obtain ⟨hopen, hbehind⟩ := hreviewed.stopped hflagged
  refine ⟨hopen, ?_, ?_⟩
  · intro rows hrows row hrow hstep
    by_contra hdone
    rw [Bool.not_eq_false] at hdone
    have hsound : Sound env registry "intake" (intake_definition svc iso services) w := by
      obtain ⟨ts, hts, -⟩ := h.interleaved (fun _ _ _ _ hcall => hcall) fun _ _ hq => hq.1
      exact hts.sound hlatest
    have hgate : is_gate row.step = true := hstep ▸ by decide
    obtain ⟨d, hd⟩ := hsound.store.gate_rows run_id rows hrows row hrow hgate hdone
    exact hopen ⟨d, hd.stored, hd.approves, hd.of_run, hd.of_step.trans hstep⟩
  · rintro ⟨before, ctx, result, after, htrace, -⟩
    apply hbehind "send_welcome" ctx result 7 8 (by decide) rfl rfl
    rw [htrace]
    simp

/-! ## Two leads

    The asylum intake asks for a name and an A-number; one of two leads comes without the number. -/

section leads

def sample_platform : Platform where
  pydantic :=
    { datetime := fun x => match x with
        | .str "1970-01-01T00:00:00Z" => some 0
        | _ => none
      float := fun x => match x with
        | .float x => some x
        | _ => none
      int := fun x => match x with
        | .int n => some n
        | _ => none
      email := some }
  a_number := none
  fixed2 x := x.repr
  upper s := String.ofList (s.toList.map Char.toUpper)
  uuid5 _ name := name
  class_attribute _ := .null

def sample_intake : IntakeServices where
  platform := sample_platform
  config :=
    { case_type_configs := (∅ : Dict String CaseTypeConfig).set "asylum"
        ⟨"asylum", ["full_name", "a_number"], [], [], "welcome"⟩
      default_case_type := "asylum"
      confidence_threshold := .finite ⟨"0.7", by decide⟩ }
  extraction := false
  rule_store := {}

/-- Connectors that answer every call the sample leads lead to. -/
def sample_services : List Event → Answers := fun _ _ c =>
  match c with
  | .now => .ok (0 : Time)
  | .uuid4 => .ok "contact-1"
  | .find_contact _ => .ok []
  | .upsert_contact contact => .ok contact
  | .create_matter draft =>
    .ok ⟨"matter-1", "crm", draft.reference, draft.title, draft.status, draft.practice_area,
      draft.client, draft.responsible, draft.opened_at, [], draft.external_ids⟩
  | .create_draft _ => .ok "draft-1"
  | .send _ _ => .ok "message-1"
  | .deadline .now => .ok (⟨0, 0, some 0⟩ : Deadline.DateTime)
  | _ => .error (.other "ConnectorError" "unavailable")

def sample_definition : WorkflowDef :=
  intake_definition sample_intake (fun _ => "1970-01-01T00:00:00Z") sample_services

/-- The start of a run for a lead with the given fields. -/
def sample_start (raw : JsonObj) : StartArgs where
  workflow_name := "intake"
  context := [("lead", .obj [("received_at", .str "1970-01-01T00:00:00Z"), ("raw", .obj raw)])]
  trigger := ⟨.agent, "mcp", none⟩
  idem_key := none
  run_id := none

def without_number : JsonObj := [("full_name", .str "Client A"), ("email", .str "a@example.org")]

def with_number : JsonObj :=
  [("full_name", .str "Client B"), ("email", .str "b@example.org"), ("a_number", .str "A123456789")]

def no_leads : World := World.fresh (.in_memory ∅) none (singleton_registry sample_definition)

/-- A lead comes in and is worked on up to the review. -/
def World.take (w : World) (raw : JsonObj) (run_id : String) : World :=
  (w.serve reference_env reference_engine (.start_run (sample_start raw))).serve
    reference_env reference_engine (.execute 1 run_id)

/-- The review is approved, and the run goes on. -/
def World.let_pass (w : World) (run_id : String) : World :=
  w.approve_first.serve reference_env reference_engine (.execute 1 run_id)

def gap_sent : World := World.let_pass (World.take no_leads without_number "id-0") "id-0"

def gap_waiting : World :=
  World.take (World.let_pass (World.take no_leads with_number "id-0") "id-0") without_number "id-5"

/-! ### How the two worlds are reached -/

section reached
variable {accept : World → Request → Prop} {p : Orchestrator.M Unit} {w : World}

/-- Where every admitted request is accepted that resolves no gate. -/
def Open (accept : World → Request → Prop) : Prop :=
  ∀ w q, Admitted reference_crypto "intake" w q → (∀ args, q ≠ .resolve_gate args) → accept w q

theorem take_reachable (hopen : Open accept) (raw : JsonObj) (run_id : String)
    (h : Sequential (faulty reference_env) reference_engine (singleton_registry sample_definition)
      accept p w) :
    ∃ p', Sequential (faulty reference_env) reference_engine (singleton_registry sample_definition)
      accept p' (World.take w raw run_id) := by
  have hstart : accept w (.start_run (sample_start raw)) := by
    apply hopen w _ (.start_run rfl)
    intro args hargs
    cases hargs
  obtain ⟨p₁, h₁⟩ := h.serve (fun _ _ => .answered) hstart
  have hexecute : ∀ w', accept w' (.execute 1 run_id) := by
    intro w'
    apply hopen w' _ (.execute 1 run_id)
    intro args hargs
    cases hargs
  exact h₁.serve (fun _ _ => .answered) (hexecute _)

theorem let_pass_reachable (hopen : Open accept) (run_id : String)
    (haccept : accept w (.resolve_gate (resolve_with (first_token w) .approve "attorney")))
    (h : Sequential (faulty reference_env) reference_engine (singleton_registry sample_definition)
      accept p w) :
    ∃ p', Sequential (faulty reference_env) reference_engine (singleton_registry sample_definition)
      accept p' (World.let_pass w run_id) := by
  obtain ⟨p₁, h₁⟩ := h.approve_first (fun _ _ => .answered) haccept
  have hexecute : accept w.approve_first (.execute 1 run_id) := by
    apply hopen _ _ (.execute 1 run_id)
    intro args hargs
    cases hargs
  exact h₁.serve (fun _ _ => .answered) hexecute

theorem no_leads_reachable (accept : World → Request → Prop) :
    Sequential (faulty reference_env) reference_engine (singleton_registry sample_definition) accept
      (.ret ()) no_leads :=
  .boot ⟨_, _, rfl⟩

/-- Where `send_welcome` was invoked, it sent. -/
theorem sent_of_invoked {services : List Event → Answers} {run_id : String}
    (h : Flagged (fun step _ _ => decide (step = "send_welcome")) w run_id) :
    Sent services w run_id := by
  obtain ⟨step, ctx, output, hooks, hmem, hstep⟩ := h
  rw [decide_eq_true_eq] at hstep
  subst hstep
  obtain ⟨before, after, htrace⟩ := List.append_of_mem hmem
  exact ⟨before, ctx, _, after, htrace, send_welcome_sends _ _⟩

end reached

/-- **Nothing else stops it.** A lead without a required field is approved all the same, and
    the welcome e-mail goes out. -/
theorem blocking_gap_is_sent :
    (∃ p, Sequential (faulty reference_env) reference_engine (singleton_registry sample_definition)
      (Admitted reference_crypto "intake") p gap_sent) ∧
    Gapped gap_sent "id-0" ∧ ApprovedAt HUMAN_REVIEW gap_sent "id-0" ∧
      Sent sample_services gap_sent "id-0" := by
  have hopen : Open (Admitted reference_crypto "intake") := fun _ _ hq _ => hq
  -- one evaluation: the run is shared
  have hevaluated : gap_sent.trace.any (marks (fun step _ output =>
        decide (step ∈ GAP_STEPS) && has_blocking_gap output) "id-0") = true ∧
      gap_sent.store.decisions.any (fun d =>
        decide (d.decision = .approve ∧ d.run_id = "id-0" ∧ d.step = HUMAN_REVIEW)) = true ∧
      gap_sent.trace.any (marks (fun step _ _ => decide (step = "send_welcome")) "id-0") = true := by
    decide +kernel
  obtain ⟨hgapped, happroved, hsent⟩ := hevaluated
  refine ⟨?_, ?_, ?_, ?_⟩
  · obtain ⟨p₁, h₁⟩ := take_reachable hopen without_number "id-0" (no_leads_reachable _)
    refine let_pass_reachable hopen "id-0" (.resolve_gate ?_) h₁
    exact authentic_resolve_with .approve "attorney" (first_token_mem (by decide +kernel))
  · exact flagged_iff.mpr hgapped
  · obtain ⟨d, hd, happroves⟩ := List.any_eq_true.mp happroved
    exact ⟨d, hd, of_decide_eq_true happroves⟩
  · exact sent_of_invoked (flagged_iff.mpr hsent)

/-- The complete lead is approved and sent, then the other one comes up to the review. -/
theorem gap_waiting_reachable : ∃ p, Sequential (faulty reference_env) reference_engine
    (singleton_registry sample_definition) (Diligent sample_intake reference_crypto) p
    gap_waiting := by
  have hopen : Open (Diligent sample_intake reference_crypto) := by
    intro w q hq hresolves
    refine ⟨hq, ?_⟩
    rintro run_id ⟨args, payload, hargs, -⟩
    exact absurd hargs (hresolves args)
  obtain ⟨p₁, h₁⟩ := take_reachable hopen with_number "id-0" (no_leads_reachable _)
  -- the data of the first lead are complete
  have hclear : ¬ Flagged (incomplete sample_intake) (World.take no_leads with_number "id-0")
      (first_token (World.take no_leads with_number "id-0")).run_id := by
    rw [flagged_iff, Bool.not_eq_true]
    decide +kernel
  have hstored := first_token_mem (w := World.take no_leads with_number "id-0") (by decide +kernel)
  have hcareful : Diligent sample_intake reference_crypto (World.take no_leads with_number "id-0")
      (.resolve_gate (resolve_with (first_token (World.take no_leads with_number "id-0")) .approve "attorney")) :=
    careful_resolve_with "attorney" hstored hclear
  obtain ⟨p₂, h₂⟩ := let_pass_reachable hopen "id-0" hcareful h₁
  exact take_reachable hopen without_number "id-5" h₂

theorem gap_waiting_gapped : Gapped gap_waiting "id-5" := by
  rw [Gapped, flagged_iff]
  decide +kernel

/-- The guarantee at work: approvals are diligent, and the run of the other lead is neither
    approved nor sent. -/
theorem gap_is_not_sent : ¬ ApprovedAt HUMAN_REVIEW gap_waiting "id-5" ∧
    (∀ rows, gap_waiting.store.steps.get? "id-5" = some rows → ∀ row ∈ rows,
      row.step = HUMAN_REVIEW → Engine.step_done row.status = false) ∧
    ¬ Sent sample_services gap_waiting "id-5" := by
  obtain ⟨p, hreached⟩ := gap_waiting_reachable
  exact blocking_gaps_stop_the_send (latest_singleton sample_definition) hreached gap_waiting_gapped

end leads

end CaseAutomation.Intake
