import CaseAutomation.Framework.Mimicry
import CaseAutomation.Intake.Run
import CaseAutomation.Orchestrator.Filing
import CaseAutomation.Orchestrator.GateSafety
import CaseAutomation.Sidecar.Approvals

/-! # The Front Ends of the Orchestrator

    The tools of `mcp_server/workflow_tools.py` and the approval pages, next to the requests of
    the engine itself.

    * `front_ends_add_nothing`     : every state reached through them is reached by requests of
      the orchestrator alone, thread by thread; what holds in every history of those holds
      behind the front ends.
    * `unprivileged_never_decide`  : actors without the permission to approve gates decide
      nothing, through whatever channel, and no handler behind a gate runs.
-/

namespace CaseAutomation.Sidecar

open Framework Program Orchestrator Orchestrator.Filing Security
open Intake (make_agent_trigger)

/-! ## The tools -/

structure WorkflowRunInput where
  workflow : String
  context : JsonObj
  idem_key : Option String

structure WorkflowRunOutput where
  run_id : String
  status : RunStatus
  current_step : Option String
  is_new : Bool

/-- What `tool_workflow_run` hands to `start_run`. -/
def WorkflowRunInput.start_args (inp : WorkflowRunInput) (actor candidate_id : String) :
    StartArgs where
  workflow_name := inp.workflow
  context := inp.context
  trigger := make_agent_trigger actor inp.idem_key
  idem_key := inp.idem_key
  run_id := some candidate_id

/-- `tool_workflow_run`; `candidate_id` is the id that it draws first. -/
def tool_workflow_run (inp : WorkflowRunInput) (actor candidate_id : String) :
    M WorkflowRunOutput := do
  let run ← start_run (inp.start_args actor candidate_id)
  pure { run_id := run.id, status := run.status, current_step := run.current_step,
         is_new := decide (run.id = candidate_id) }

structure StepView where
  step : String
  seq : Nat
  status : StepStatus
  attempt : Nat
  started_at : Option String
  ended_at : Option String
  error_class : Option String

structure WorkflowStatusOutput where
  run_id : String
  workflow : String
  status : RunStatus
  current_step : Option String
  steps : List StepView
  gate_status : Option String
  last_error : Option String

/-- The view of one row; of an error only the class is shown. -/
def step_view (isoformat : Time → String) (s : StepState) : StepView where
  step := s.step
  seq := s.seq
  status := s.status
  attempt := s.attempt
  started_at := s.started_at.map isoformat
  ended_at := s.ended_at.map isoformat
  error_class := s.error.map StepError.error_class

/-- `tool_workflow_status`. -/
def tool_workflow_status (isoformat : Time → String) (run_id : String) :
    M WorkflowStatusOutput := do
  match ← await (.get_run run_id) with
  | none => raise (.key_error ("Run " ++ repr_str run_id ++ " not found."))
  | some run => do
    let raw_steps ← await (.get_steps run_id)
    pure { run_id := run.id, workflow := run.workflow, status := run.status,
           current_step := run.current_step, steps := raw_steps.map (step_view isoformat),
           gate_status := if run.status = .AWAITING_APPROVAL then some "awaiting_approval" else none,
           last_error := run.last_error.map StepError.error_class }

structure ApprovalDecideInput where
  token : String
  decision : Decision
  reason : Option String

structure ApprovalDecideOutput where
  gate_request_id : String
  run_id : String
  decision : Decision
  actor : String
  channel : String

/-- What `tool_approval_decide` hands to `resolve_gate`. -/
def ApprovalDecideInput.resolve_args (inp : ApprovalDecideInput) (signing_key : Bytes)
    (actor : String) (audited : Bool) : ResolveArgs where
  raw_token := inp.token
  decision := inp.decision
  actor := actor
  channel := .mcp
  signing_key := signing_key
  audited := audited
  reason := inp.reason

/-- `tool_approval_decide`. -/
def tool_approval_decide (crypto : Crypto) (inp : ApprovalDecideInput) (signing_key : Bytes)
    (actor : String) (audited : Bool) : M ApprovalDecideOutput := do
  let record ← resolve_gate crypto (inp.resolve_args signing_key actor audited)
  pure { gate_request_id := record.gate_request_id, run_id := record.run_id,
         decision := record.decision, actor := record.actor, channel := "mcp" }

/-! ## Traffic -/

/-- What the front ends are configured with. -/
structure Surface where
  app : AppState
  format_utc : FormatUtc
  isoformat : Time → String
  /-- The key of the tool channel. -/
  signing_key : Bytes

/-- What reaches the process. -/
inductive Inbound where
  /-- A request of the orchestrator's own: a queue worker, the sweep at start-up, an operator. -/
  | engine (q : Request)
  | approval_page (raw_token : String)
  | submit_approval (s : Submission)
  | workflow_run (inp : WorkflowRunInput) (actor candidate_id : String)
  | workflow_status (run_id : String)
  | approval_decide (inp : ApprovalDecideInput) (actor : String) (audited : Bool)

/-- The program of a front end; the answer goes to the caller. -/
def Inbound.program (engine : Engine) (surface : Surface) : Inbound → M Unit
  | .engine q => q.program engine
  | .approval_page raw_token =>
      (Sidecar.approval_page engine.crypto surface.format_utc surface.app raw_token).discard
  | .submit_approval s => (Sidecar.submit_approval engine.crypto surface.app s).discard
  | .workflow_run inp actor candidate_id => (tool_workflow_run inp actor candidate_id).discard
  | .workflow_status run_id => (tool_workflow_status surface.isoformat run_id).discard
  | .approval_decide inp actor audited =>
      (tool_approval_decide engine.crypto inp surface.signing_key actor audited).discard

/-- The gate resolution that a message asks for, if any. -/
def Inbound.resolution (surface : Surface) : Inbound → Option ResolveArgs
  | .engine (.resolve_gate args) => some args
  | .submit_approval s => s.decision.map (s.resolve_args surface.app)
  | .approval_decide inp actor audited =>
      some (inp.resolve_args surface.signing_key actor audited)
  | _ => none

/-- Messages that concern the runs of one workflow and carry tokens that were issued. -/
structure Accepted (engine : Engine) (surface : Surface) (name : String) (w : World)
    (q : Inbound) : Prop where
  admitted : ∀ request, q = .engine request → Admitted engine.crypto name w request
  workflow : ∀ inp actor candidate_id, q = .workflow_run inp actor candidate_id →
    inp.workflow = name
  authentic : ∀ args, q.resolution surface = some args → Authentic engine.crypto w args

/-- `Served env engine surface registry allowed w ts`: from empty stores, some interleaving of
    allowed messages, about any workflows, reaches `w`, with `ts` still to run. -/
def Served (env : Env) (engine : Engine) (surface : Surface) (registry : Registry)
    (allowed : World → Inbound → Prop) : World → List (M Unit) → Prop :=
  Pool (fun _ => faulty env) expiry
    (fun w => ∃ idem lock, w = World.fresh idem lock registry)
    (fun w p => ∃ q, allowed w q ∧ p = q.program engine surface)

/-! ## Front ends mimic the core -/

/-- Reads of the run store that the front ends make on their own account. -/
def Call.reads : Call → Bool
  | .get_run _ => true
  | .get_steps _ => true
  | _ => false

/-- Reading, answered or not, leaves the world as it is. -/
theorem reads_idle {env : Env} {c : Call} {w w' : World} {r : Except Exn c.Resp}
    (hc : Call.reads c = true) (h : faulty env c w r w') : w' = w := by
  rcases h.world with ⟨hw, -⟩ | hw
  · exact hw
  · rw [hw]
    cases c <;> first | rfl | cases hc

theorem approval_page_reads (crypto : Crypto) (format_utc : FormatUtc) (app : AppState)
    (raw_token : String) :
    Issues (fun c => Call.reads c = true) (approval_page crypto format_utc app raw_token) := by
  unfold approval_page
  split
  · exact .raise
  · exact .ret
  · refine .bind .ofExcept fun _ => .bind ?_ fun _ => .ret
    unfold lookup_workflow_name
    split
    · refine .bind (.attempt (.perform rfl)) fun found => ?_
      split
      · exact .ret
      · exact .ret
    · exact .ret

theorem tool_workflow_status_reads (isoformat : Time → String) (run_id : String) :
    Issues (fun c => Call.reads c = true) (tool_workflow_status isoformat run_id) := by
  refine .bind (.perform rfl) fun found => ?_
  cases found with
  | none => exact .raise
  | some run => exact .bind (.perform rfl) fun _ => .ret

theorem answer_resolution_reads (reason : Option String) (outcome : Except Exn ApprovalDecision) :
    Issues (fun c => Call.reads c = true) (answer_resolution reason outcome) := by
  unfold answer_resolution
  split
  · exact .ret
  · exact .ret
  · exact .raise

/-- The core request that stands behind a front end. A page that only reads has none; any
    request that is never advanced will do. -/
theorem inbound_mimics (engine : Engine) (surface : Surface) (q : Inbound) :
    ∃ request, (∀ name w, Accepted engine surface name w q →
        Admitted engine.crypto name w request) ∧
      Mimics (fun c => Call.reads c = true) (q.program engine surface)
        (request.program engine) := by
  have hidle : ∀ name w, Accepted engine surface name w q →
      Admitted engine.crypto name w (.recovery_sweep 0 false) :=
    fun _ _ _ => .recovery_sweep 0 false
  cases q with
  | engine request => exact ⟨request, fun _ _ hq => hq.admitted request rfl, .refl _⟩
  | approval_page raw_token =>
    exact ⟨.recovery_sweep 0 false, hidle, .of_issues (approval_page_reads _ _ _ _).discard _⟩
  | workflow_status run_id =>
    exact ⟨.recovery_sweep 0 false, hidle, .of_issues (tool_workflow_status_reads _ _).discard _⟩
  | workflow_run inp actor candidate_id =>
    refine ⟨.start_run (inp.start_args actor candidate_id),
      fun _ _ hq => .start_run (hq.workflow inp actor candidate_id rfl), ?_⟩
    exact Mimics.discard_left (Mimics.finish_ok fun _ => .ret)
  | approval_decide inp actor audited =>
    refine ⟨.resolve_gate (inp.resolve_args surface.signing_key actor audited),
      fun _ _ hq => .resolve_gate (hq.authentic _ rfl), ?_⟩
    exact Mimics.discard_left (Mimics.finish_ok fun _ => .ret)
  | submit_approval s =>
    show ∃ request, _ ∧ Mimics _ (Sidecar.submit_approval engine.crypto surface.app s).discard _
    unfold Sidecar.submit_approval
    by_cases hstore : surface.app.run_store = false
    · rw [if_pos hstore]
      exact ⟨.recovery_sweep 0 false, hidle, .of_issues Issues.ret _⟩
    rw [if_neg hstore]
    cases hdecision : s.decision with
    | none => exact ⟨.recovery_sweep 0 false, hidle, .of_issues Issues.ret _⟩
    | some decision =>
      have hargs : Inbound.resolution surface (.submit_approval s) =
          some (s.resolve_args surface.app decision) := by
        simp [Inbound.resolution, hdecision]
      refine ⟨.resolve_gate (s.resolve_args surface.app decision),
        fun _ _ hq => .resolve_gate (hq.authentic _ hargs), ?_⟩
      exact Mimics.discard_left (Mimics.finish (answer_resolution_reads s.reason))

section traffic
variable {env : Env} {engine : Engine} {surface : Surface} {registry : Registry} {name : String}
  {allowed : World → Inbound → Prop} {w : World} {ts : List (M Unit)}

/-- The core requests that stand behind the messages. -/
def Behind (engine : Engine) (surface : Surface) (allowed : World → Inbound → Prop) (w : World)
    (p : M Unit) : Prop :=
  ∃ request : Request, (∀ name, (∀ w q, allowed w q → Accepted engine surface name w q) →
    Admitted engine.crypto name w request) ∧ p = request.program engine

theorem Served.behind (h : Served env engine surface registry allowed w ts) :
    ∃ ts', Pool (fun _ => faulty env) expiry
      (fun w => ∃ idem lock, w = World.fresh idem lock registry) (Behind engine surface allowed)
      w ts' ∧ Follows (fun c => Call.reads c = true) ts ts' := by
  refine Pool.mimicked (fun _ _ _ _ _ hc hstep => reads_idle hc hstep) ?_ h
  rintro w p ⟨q, hq, rfl⟩
  obtain ⟨request, hadmitted, hmimics⟩ := inbound_mimics engine surface q
  exact ⟨_, ⟨request, fun name hallowed => hadmitted name w (hallowed w q hq), rfl⟩, hmimics⟩

/-- A history, and one of a single workflow if all messages are. -/
theorem Served.history (h : Served env engine surface registry allowed w ts) :
    ∃ ts', History env engine registry w ts' ∧
      (∀ name, (∀ w q, allowed w q → Accepted engine surface name w q) →
        Interleaved env engine registry name w ts') ∧
      Follows (fun c => Call.reads c = true) ts ts' := by
  obtain ⟨ts', hpool, hfollows⟩ := h.behind
  refine ⟨ts', ?_, ?_, hfollows⟩
  · exact Pool.map id (fun _ hinit => hinit) (fun _ _ ⟨request, _, hp⟩ => ⟨request, hp⟩)
      (fun _ _ _ _ _ hstep => hstep) (fun _ _ hdrift => hdrift) hpool
  · intro name hallowed
    exact Pool.map id (fun _ hinit => hinit)
      (fun _ _ ⟨request, hadmitted, hp⟩ => ⟨request, hadmitted name hallowed, hp⟩)
      (fun _ _ _ _ _ hstep => hstep) (fun _ _ hdrift => hdrift) hpool

/-- **Front ends add nothing.** Every state that tools, pages, workers, sweeps and operators
    reach together, with any calls failing and any of them crashing, is reached by requests of
    the orchestrator alone, which are about one workflow and carry issued tokens if the
    messages are and do; and each handler that is about to run behind a front end is about to
    run there too. -/
theorem front_ends_add_nothing (h : Served env engine surface registry allowed w ts) :
    ∃ ts', History env engine registry w ts' ∧
      (∀ name, (∀ w q, allowed w q → Accepted engine surface name w q) →
        Interleaved env engine registry name w ts') ∧
      ts'.length = ts.length ∧
      ∀ (t : Nat) (p : M Unit) (run_id step : String), ts[t]? = some p →
        invoking p = some (run_id, step) →
        ∃ q, ts'[t]? = some q ∧ invoking q = some (run_id, step) := by
  obtain ⟨ts', hreach, hworkflow, hfollows⟩ := h.history
  refine ⟨ts', hreach, hworkflow, hfollows.length, ?_⟩
  intro t p run_id step hp hinvoke
  obtain ⟨q, hq, hmimics⟩ := hfollows.at_place hp
  obtain ⟨handler, ctx, k, rfl, hrun⟩ := invoking_eq_some hinvoke
  obtain ⟨k', rfl⟩ := hmimics.next (by simp [Call.reads])
  exact ⟨_, hq, by rw [← hinvoke]; rfl⟩

end traffic

/-! ## Actors without the permission -/

/-- Whether `resolve_gate` would let the actor decide some gate. -/
def may_approve (actor : String) : Bool :=
  match Role.parse actor with
  | none => false
  | some role => decide (Permission.GATE_APPROVE ∈ grants role)

/-- The actor of the tools, unless the server names another one, and the actor of the web form,
    unless something in front of it sets an identity. -/
theorem default_actors : may_approve "agent_service" = false ∧ may_approve "web_anonymous" = false :=
  ⟨by decide, by decide⟩

/-- The gate resolution, if any, is asked for by an actor without the permission. -/
def Unprivileged (surface : Surface) (q : Inbound) : Prop :=
  ∀ args, q.resolution surface = some args → may_approve args.actor = false

/-- Calls that record no decision and leave gate steps undone. -/
def Call.undecided : Call → Prop
  | .save_approval_decision _ => False
  | .update_gate_request _ => False
  | .advance_gate_step _ _ => False
  | .create_run _ rows => ∀ row ∈ rows, Engine.step_done row.status = false
  | .update_step row => is_gate row.step = false
  | _ => True

theorem not_authorised {actor required_role : String} (h : may_approve actor = false) :
    authorise_actor actor required_role ≠ .ok true := by
  intro hauth
  obtain ⟨-, role, hparse, hgrant⟩ := authorise_actor_true hauth
  have hmay : may_approve actor = true := by
    unfold may_approve
    rw [hparse]
    exact decide_eq_true hgrant
  rw [hmay] at h
  cases h

/-- Whatever the token and the gate, the resolver stops before it records anything. -/
theorem resolve_gate_decides_nothing (crypto : Crypto) {args : ResolveArgs}
    (h : may_approve args.actor = false) :
    Issues Call.undecided (resolve_gate crypto args) := by
  have hlog : ∀ action inputs, Issues Call.undecided
      (maybe_audit args.audited args.actor action inputs) :=
    fun _ _ => maybe_audit_issues _ _ _ _ fun _ => trivial
  unfold resolve_gate
  split
  · exact .raise
  · exact .bind (hlog _ _) fun _ => .raise
  unfold use_token
  refine .bind (.perform trivial) fun now => ?_
  split
  · exact .bind (hlog _ _) fun _ => .raise
  refine .bind (.perform trivial) fun found => ?_
  cases found with
  | none => exact .raise
  | some token =>
    refine .bind (.perform trivial) fun used_at => .bind (.perform trivial) fun first_use => ?_
    split
    · unfold check_gate
      refine .bind (.perform trivial) fun gate => ?_
      cases gate with
      | none => exact .raise
      | some gate =>
        simp only
        split
        · exact .raise
        split
        · exact .raise
        · exact .bind (hlog _ _) fun _ => .raise
        · next hauth => exact absurd hauth (not_authorised h)
    · exact .bind (hlog _ _) fun _ => .raise

/-- No other request records a decision or acts on one. -/
theorem inbound_decides_nothing {engine : Engine} {surface : Surface} {q : Inbound}
    (h : Unprivileged surface q) :
    Issues Call.undecided (q.program engine surface) := by
  have hpass : ∀ c : Call, c.of_pass = true → Call.undecided c := by
    intro c hc
    cases c with
    | update_step row =>
      change is_gate row.step = false
      simpa [Call.of_pass] using hc
    | _ => trivial
  have hreads : ∀ c : Call, Call.reads c = true → Call.undecided c := by
    intro c hc
    cases c <;> trivial
  have hexecute : ∀ depth run_id, Issues Call.undecided
      (engine.execute depth run_id) :=
    fun depth run_id => (Engine.execute_of_pass engine depth run_id).mono hpass
  have hstart : ∀ args, Issues Call.undecided (start_run args) :=
    fun args => start_run_issues args (fun _ => trivial) trivial trivial fun _ run_id steps => by
      intro row hrow
      obtain ⟨step, seq, rfl⟩ := mem_initial_rows hrow
      rfl
  cases q with
  | engine request =>
    cases request with
    | start_run args => exact (hstart args).discard
    | execute depth run_id => exact (hexecute depth run_id).discard
    | recovery_sweep depth enqueue =>
      apply Issues.discard
      exact recovery_sweep_issues engine depth enqueue trivial (fun _ => trivial)
        (fun _ => trivial) (fun _ _ _ => trivial) (hexecute depth)
    | resolve_gate args => exact (resolve_gate_decides_nothing _ (h args rfl)).discard
    | update_run_status run_id status => exact .perform trivial
  | approval_page raw_token => exact ((approval_page_reads _ _ _ _).mono hreads).discard
  | submit_approval s =>
    apply Issues.discard
    unfold Sidecar.submit_approval
    split
    · exact .ret
    cases hdecision : s.decision with
    | none => exact .ret
    | some decision =>
      have hargs : Inbound.resolution surface (.submit_approval s) =
          some (s.resolve_args surface.app decision) := by
        simp [Inbound.resolution, hdecision]
      exact .bind (.attempt (resolve_gate_decides_nothing _ (h _ hargs))) fun outcome =>
        (answer_resolution_reads s.reason outcome).mono hreads
  | workflow_run inp actor candidate_id => exact (Issues.bind (hstart _) fun _ => .ret).discard
  | workflow_status run_id => exact ((tool_workflow_status_reads _ _).mono hreads).discard
  | approval_decide inp actor audited =>
    exact (Issues.bind (resolve_gate_decides_nothing _ (h _ rfl)) fun _ => .ret).discard

/-- There is no decision, and no gate step is done. -/
structure Undecided (s : RunStore) : Prop where
  decisions : s.decisions = []
  gates : ∀ run_id rows, s.steps.get? run_id = some rows → ∀ row ∈ rows,
    is_gate row.step = true → Engine.step_done row.status = false

/-- **Step lemma.** -/
theorem Undecided.step {env : Env} {c : Call} {w w' : World} {r : Except Exn c.Resp}
    (h : Undecided w.store) (hc : Call.undecided c) (hstep : faulty env c w r w') :
    Undecided w'.store := by
  rcases hstep.world with ⟨rfl, -⟩ | rfl
  · exact h
  have hchange : StoreChange env w c (exec env c w).2.store (exec env c w).2.clock :=
    exec_store_change env c w
  generalize (exec env c w).2.store = s', (exec env c w).2.clock = clock' at hchange
  -- rows appear undone, and only application rows are rewritten
  cases hchange with
  | created run rows =>
    refine ⟨h.decisions, ?_⟩
    intro run_id found hfound row hrow hgate
    rcases Dict.get?_set_cases hfound with ⟨rfl, rfl⟩ | ⟨-, hold⟩
    · exact hc row hrow
    · exact h.gates run_id found hold row hrow hgate
  | updated hget =>
    refine ⟨h.decisions, ?_⟩
    intro run_id found hfound row hrow hgate
    rcases Dict.get?_set_cases hfound with ⟨rfl, rfl⟩ | ⟨-, hold⟩
    · rcases mem_replace hrow with rfl | hrow
      · rw [show is_gate row.step = false from hc] at hgate
        cases hgate
      · exact h.gates _ _ hget row hrow hgate
    · exact h.gates run_id found hold row hrow hgate
  | advanced => exact hc.elim
  | gate_updated => exact hc.elim
  | decided => exact hc.elim
  | _ => exact ⟨h.decisions, h.gates⟩

section traffic
variable {env : Env} {engine : Engine} {surface : Surface} {registry : Registry}
  {allowed : World → Inbound → Prop} {w : World} {ts : List (M Unit)}

theorem nothing_decided (h : Served env engine surface registry allowed w ts)
    (hunprivileged : ∀ w q, allowed w q → Unprivileged surface q) : Undecided w.store := by
  -- every thread keeps it by itself, whatever the others do
  let inv (w : World) : Prop := Undecided w.store
  let rely (_ : Nat) (_ _ : World) : Prop := True
  have hrefl : ∀ i w, rely i w w := fun _ _ => trivial
  have htrans : ∀ i {a b c}, rely i a b → rely i b c → rely i a c := fun _ _ _ _ _ _ => trivial
  refine (@Pool.safe _ _ _ _ _ _ _ _ inv rely (fun _ c _ => Call.undecided c) w ts hrefl htrans
    ?_ ?_ ?_ h).1
  · rintro w ⟨idem, lock, rfl⟩
    exact ⟨rfl, fun _ _ hrows => by cases hrows⟩
  · rintro w p hinv ⟨q, hq, rfl⟩ i
    refine (Safe.of_issues (A := fun _ => True) (fun _ _ _ h => h) ?_
      (inbound_decides_nothing (hunprivileged w q hq)) trivial).weaken fun _ _ _ => trivial
    intro c w hc hinv _
    exact ⟨hc, fun r w' hstep => ⟨Undecided.step hinv hc hstep, fun _ _ => trivial, trivial⟩⟩
  · rintro w w' hinv ⟨held, held', -, -, rfl⟩
    exact ⟨hinv, fun _ => trivial⟩

/-- **Only a privileged actor decides.** If every gate resolution, over whatever channel, is
    asked for by an actor without the permission, then no decision is ever stored and no gate
    step is ever done. In the traffic of one workflow with distinct step names and issued tokens,
    no handler of a step behind a gate is ever about to run. -/
theorem unprivileged_never_decide (h : Served env engine surface registry allowed w ts)
    (hunprivileged : ∀ w q, allowed w q → Unprivileged surface q) :
    w.store.decisions = [] ∧
    (∀ run_id rows, w.store.steps.get? run_id = some rows → ∀ row ∈ rows,
      is_gate row.step = true → Engine.step_done row.status = false) ∧
    (∀ name defn, (∀ w q, allowed w q → Accepted engine surface name w q) →
      get_workflow_latest registry name = .ok defn → defn.steps.Nodup →
      ∀ (t : Nat) (p : M Unit) (run_id step : String), ts[t]? = some p →
      invoking p = some (run_id, step) → ∀ (i j : Nat) (earlier : String), i < j →
      defn.steps[j]? = some step → defn.steps[i]? = some earlier → is_gate earlier = false) := by
  have hundecided := nothing_decided h hunprivileged
  refine ⟨hundecided.decisions, hundecided.gates, ?_⟩
  intro name defn haccepted hlatest hnodup t p run_id step hp hinvoke i j earlier hij hj hi
  obtain ⟨ts', -, hworkflow, hfollows⟩ := h.history
  have hreach := hworkflow name haccepted
  obtain ⟨q, hq, hmimics⟩ := hfollows.at_place hp
  obtain ⟨handler, ctx, k, rfl, hrun⟩ := invoking_eq_some hinvoke
  obtain ⟨k', rfl⟩ := hmimics.next (by simp [Call.reads])
  -- the core's thread is at the same call, where the gates before the step are approved
  obtain ⟨owners, hthreads⟩ := hreach.threads hlatest
  have hguard := Pool.guard_holds (G := Guard env name defn) (Rely.refl env) hthreads hq
  cases hgate : is_gate earlier with
  | false => rfl
  | true =>
    -- an approval would be a stored decision
    obtain ⟨d, hd⟩ := hguard.2 hnodup i j earlier hij hj hi hgate
    have hstored := hd.stored
    rw [show w.store.decisions = [] from hundecided.decisions] at hstored
    cases hstored

end traffic

/-! ## An agent that tries to approve its own gate

    The run is started by the tool, executed up to its gate, and then the agent presents the
    token that it was sent. -/

section agent

/-- The world after a message is served alone, without faults. -/
def serve_inbound (env : Env) (engine : Engine) (surface : Surface) (w : World) (q : Inbound) :
    World :=
  ((q.program engine surface).run (exec env) w).2

theorem Served.serve {env : Env} {engine : Engine} {surface : Surface} {registry : Registry}
    {allowed : World → Inbound → Prop} {w : World} {ts : List (M Unit)} {q : Inbound}
    (h : Served env engine surface registry allowed w ts) (hallowed : allowed w q) :
    ∃ ts', Served env engine surface registry allowed
      (serve_inbound env engine surface w q) ts' :=
  Pool.served (fun _ _ _ => .answered) h ⟨q, hallowed, rfl⟩

def plain_surface : Surface where
  app := ⟨reference_engine.signing_key, true⟩
  format_utc := fun _ => .ok ""
  isoformat := fun _ => ""
  signing_key := reference_engine.signing_key

def agent_waiting : World :=
  serve_inbound reference_env reference_engine plain_surface
    (serve_inbound reference_env reference_engine plain_surface reviewed_start
      (.workflow_run ⟨"plain", [], none⟩ "agent_service" "run-1"))
    (.engine (.execute 1 "run-1"))

def agent_approval : ApprovalDecideInput where
  token := raw_token reference_crypto reference_engine.signing_key (first_token agent_waiting).payload
  decision := .approve
  reason := none

def agent_approved : World :=
  serve_inbound reference_env reference_engine plain_surface agent_waiting
    (.approval_decide agent_approval "agent_service" false)

/-- Messages of the workflow by actors without the permission. -/
def AgentTraffic (w : World) (q : Inbound) : Prop :=
  Accepted reference_engine plain_surface "plain" w q ∧ Unprivileged plain_surface q

theorem agent_reachable :
    ∃ ts, Served reference_env reference_engine plain_surface
      (singleton_registry reviewed_workflow) AgentTraffic agent_approved ts := by
  have hboot : Served reference_env reference_engine plain_surface
      (singleton_registry reviewed_workflow) AgentTraffic reviewed_start [] := .boot ⟨_, _, rfl⟩
  obtain ⟨ts₁, h₁⟩ := hboot.serve (q := .workflow_run ⟨"plain", [], none⟩ "agent_service" "run-1")
    ⟨⟨nofun, fun _ _ _ h => by cases h; rfl, nofun⟩, nofun⟩
  obtain ⟨ts₂, h₂⟩ := h₁.serve (q := .engine (.execute 1 "run-1"))
    ⟨⟨fun _ h => by cases h; exact .execute _ _, nofun, nofun⟩, nofun⟩
  refine h₂.serve (q := .approval_decide agent_approval "agent_service" false)
    ⟨⟨nofun, nofun, ?_⟩, ?_⟩
  · -- the token is the one that the engine issued
    intro args hargs payload hverify
    obtain rfl := Option.some.inj hargs
    have hraw : verify_token reference_engine.crypto agent_approval.token
        plain_surface.signing_key = .ok (.ok (first_token agent_waiting).payload) := by
      simp only [agent_approval]
      exact verify_raw_token _ _ _
    simp only [ApprovalDecideInput.resolve_args, hraw, Except.ok.injEq] at hverify
    exact ⟨first_token agent_waiting, first_token_mem (by decide +kernel), hverify⟩
  · intro args hargs
    obtain rfl := Option.some.inj hargs
    exact default_actors.1

/-- The agent's approval is refused: nothing is decided. -/
theorem agent_approval_refused : agent_approved.store.decisions = [] := by
  obtain ⟨ts, h⟩ := agent_reachable
  exact (unprivileged_never_decide h fun _ _ hq => hq.2).1

/-- The same world, reached without the tools. -/
theorem agent_approved_history :
    ∃ ts, History reference_env reference_engine (singleton_registry reviewed_workflow)
        agent_approved ts ∧
      Interleaved reference_env reference_engine (singleton_registry reviewed_workflow) "plain"
        agent_approved ts := by
  obtain ⟨ts, h⟩ := agent_reachable
  obtain ⟨ts', hreach, hworkflow, -⟩ := front_ends_add_nothing h
  exact ⟨ts', hreach, hworkflow "plain" fun _ _ hq => hq.1⟩

end agent

end CaseAutomation.Sidecar
