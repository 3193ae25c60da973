import CaseAutomation.Orchestrator.OpenGates

/-! # A Gate That Is Approved With Care

    A `Flag` marks outputs which the approver of a gate should not let pass, at steps before that
    gate. Suppose that no run is approved at the gate while a marked output has been returned for it.

    Then this holds in every state, whatever fails, crashes or is re-driven: a run with a marked
    output has no approval at the gate, and no step behind the gate has been invoked for it. A
    marked output cannot turn up later, because no step before an open gate is invoked again.
-/

namespace CaseAutomation.Orchestrator.Review

open Framework Program OpenGates

/-! ## Definitions -/

/-- Which outputs are marked: the step, the context of the invocation, and what it returned. -/
abbrev Flag : Type := String → StepContext → JsonObj → Bool

/-- A marked output has been returned for the run. -/
def Flagged (flag : Flag) (w : World) (run_id : String) : Prop :=
  ∃ step ctx output hooks, Event.invoked run_id step ctx (.returned (some output) hooks) ∈ w.trace ∧
    flag step ctx output = true

/-- The event returns a marked output for the run. -/
def marks (flag : Flag) (run_id : String) : Event → Bool
  | .invoked run step ctx (.returned (some output) _) => decide (run = run_id) && flag step ctx output
  | _ => false

theorem flagged_iff {flag : Flag} {w : World} {run_id : String} :
    Flagged flag w run_id ↔ w.trace.any (marks flag run_id) = true := by
  rw [List.any_eq_true]
  constructor
  · rintro ⟨step, ctx, output, hooks, hmem, hflag⟩
    exact ⟨_, hmem, by simp [marks, hflag]⟩
  · rintro ⟨e, hmem, hmarks⟩
    unfold marks at hmarks
    split at hmarks
    · next run step ctx output hooks =>
      rw [Bool.and_eq_true, decide_eq_true_eq] at hmarks
      obtain ⟨rfl, hflag⟩ := hmarks
      exact ⟨step, ctx, output, hooks, hmem, hflag⟩
    · cases hmarks

/-- An approval of the run at the gate is on record. -/
def ApprovedAt (gate : String) (w : World) (run_id : String) : Prop :=
  ∃ d ∈ w.store.decisions, d.decision = .approve ∧ d.run_id = run_id ∧ d.step = gate

/-- A request of the run for the gate is on record. -/
def Asked (gate : String) (w : World) (run_id : String) : Prop :=
  ∃ id request, w.store.gates.get? id = some request ∧ request.run_id = run_id ∧ request.step = gate

/-- The request submits an approval of the run at the gate, with a token that verifies. -/
def Approves (crypto : Crypto) (gate : String) (q : Request) (run_id : String) : Prop :=
  ∃ args payload, q = .resolve_gate args ∧ args.decision = .approve ∧
    verify_token crypto args.raw_token args.signing_key = .ok (.ok payload) ∧
    payload.step = gate ∧ payload.rid = run_id

/-- An admitted request that approves no run with a marked output at the gate. -/
def Careful (crypto : Crypto) (name gate : String) (flag : Flag) (w : World) (q : Request) : Prop :=
  Admitted crypto name w q ∧ ∀ run_id, Approves crypto gate q run_id → ¬ Flagged flag w run_id

/-! ## The invariant -/

/-- Every run that is approved at the gate has been asked for and has no marked output, every step
    behind the gate was approved before it ran, and every invocation is one of a registered handler. -/
structure Reviewed (defn : WorkflowDef) (gate : String) (flag : Flag) (w : World) : Prop where
  approved : ∀ run_id, ApprovedAt gate w run_id → Asked gate w run_id ∧ ¬ Flagged flag w run_id
  behind : ∀ run_id step ctx result (i j : Nat), Event.invoked run_id step ctx result ∈ w.trace →
    i < j → defn.steps[i]? = some gate → defn.steps[j]? = some step → ApprovedAt gate w run_id
  genuine : ∀ run_id step ctx result, Event.invoked run_id step ctx result ∈ w.trace →
    ∃ handler trace, defn.handlers step = some handler ∧ result = handler trace ctx

/-- Where the flag may be: at application steps before the gate. -/
def Before (defn : WorkflowDef) (gate step : String) : Prop :=
  is_gate step = false ∧ ∃ i j : Nat, i < j ∧ defn.steps[i]? = some step ∧ defn.steps[j]? = some gate

/-- What must hold where a decision is saved. -/
def saved_with_care (gate : String) (flag : Flag) : Call → World → Prop
  | .save_approval_decision d, w => d.decision = .approve → d.step = gate →
      Asked gate w d.run_id ∧ ¬ Flagged flag w d.run_id
  | _, _ => True

section calls
variable {env : Env} {registry : Registry} {name : String} {defn : WorkflowDef} {gate : String}
  {flag : Flag} {c : Call} {w : World} {run_id : String}

/-! ## One call -/

/-- A request for a gate stays on record. -/
theorem Asked.exec (h : Asked gate w run_id) (hfacts : CallFacts env registry name defn c w) :
    Asked gate (exec env c w).2 run_id := by
  obtain ⟨id, request, hget, hrun, hstep⟩ := h
  obtain ⟨i, owners, hguard⟩ := hfacts.guard
  obtain ⟨request', hget', hsame⟩ := hguard.grows.gates id request hget
  exact ⟨id, request', hget', hsame.run_id.trans hrun, hsame.step.trans hstep⟩

/-- So does an approval. -/
theorem ApprovedAt.exec (h : ApprovedAt gate w run_id) (hfacts : CallFacts env registry name defn c w) :
    ApprovedAt gate (exec env c w).2 run_id := by
  obtain ⟨d, hd, happroves⟩ := h
  obtain ⟨i, owners, hguard⟩ := hfacts.guard
  exact ⟨d, hguard.grows.decisions d hd, happroves⟩

/-- A new approval is one that the call saves. -/
theorem approvedAt_exec (h : ApprovedAt gate (exec env c w).2 run_id) :
    ApprovedAt gate w run_id ∨
      ∃ d, c = .save_approval_decision d ∧ d.decision = .approve ∧ d.run_id = run_id ∧ d.step = gate := by
  obtain ⟨d, hd, happroves⟩ := h
  have hchange := exec_store_change env c w
  generalize (Orchestrator.exec env c w).2.store = s', (Orchestrator.exec env c w).2.clock = clock'
    at hchange hd
  cases hchange with
  | decided d' =>
    obtain hold | hnew := List.mem_append.mp hd
    · exact Or.inl ⟨d, hold, happroves⟩
    · obtain rfl := List.mem_singleton.mp hnew
      exact Or.inr ⟨d, rfl, happroves⟩
  | _ => exact Or.inl ⟨d, hd, happroves⟩

/-- A new marked output is one that the call returns. -/
theorem flagged_exec (h : Flagged flag (exec env c w).2 run_id) :
    Flagged flag w run_id ∨ ∃ handler step ctx output, c = .invoke handler step ctx ∧
      ctx.run_id = run_id ∧ flag step ctx output = true := by
  obtain ⟨step, ctx, output, hooks, hmem, hflag⟩ := h
  rw [exec_trace] at hmem
  obtain hold | hnew := List.mem_append.mp hmem
  · exact Or.inl ⟨step, ctx, output, hooks, hold, hflag⟩
  · obtain ⟨handler, hc, hrun, -⟩ := mem_events_invoked c w hnew
    exact Or.inr ⟨handler, step, ctx, output, hc, hrun.symm, hflag⟩

/-- No marked output turns up for a run that has been asked for. -/
theorem not_flagged_exec (hflag : ∀ step ctx output, flag step ctx output = true → Before defn gate step)
    (hfacts : CallFacts env registry name defn c w) (hasked : Asked gate w run_id)
    (h : ¬ Flagged flag w run_id) : ¬ Flagged flag (exec env c w).2 run_id := by
  intro hflagged
  obtain hold | ⟨handler, step, ctx, output, rfl, hrun, hmarked⟩ := flagged_exec hflagged
  · exact h hold
  · obtain ⟨hstep, i, j, hij, hi, hj⟩ := hflag step ctx output hmarked
    obtain ⟨id, request, hget, hrequest, hgate⟩ := hasked
    exact hfacts.no_open_gate hij hj hi hstep hget (hrequest.trans hrun.symm) hgate

/-- **One call.** -/
theorem Reviewed.exec (hgate : is_gate gate = true) (hnodup : defn.steps.Nodup)
    (hflag : ∀ step ctx output, flag step ctx output = true → Before defn gate step)
    (h : Reviewed defn gate flag w) (hfacts : CallFacts env registry name defn c w)
    (hcare : saved_with_care gate flag c w) : Reviewed defn gate flag (exec env c w).2 := by
  constructor
  · intro run_id happroved
    have hbefore : Asked gate w run_id ∧ ¬ Flagged flag w run_id := by
      obtain hold | ⟨d, rfl, hdecision, rfl, hstep⟩ := approvedAt_exec happroved
      · exact h.approved run_id hold
      · exact hcare hdecision hstep
    exact ⟨hbefore.1.exec hfacts, not_flagged_exec hflag hfacts hbefore.1 hbefore.2⟩
  · intro run_id step ctx result i j hmem hij hi hj
    rw [exec_trace] at hmem
    obtain hold | hnew := List.mem_append.mp hmem
    · exact (h.behind run_id step ctx result i j hold hij hi hj).exec hfacts
    · -- the invocation is the one that the call makes
      obtain ⟨handler, rfl, rfl, -⟩ := mem_events_invoked c w hnew
      obtain ⟨_, _, -, hguard⟩ := hfacts.guard
      obtain ⟨d, hd⟩ := hguard hnodup i j gate hij hj hi hgate
      have happroved : ApprovedAt gate w ctx.run_id :=
        ⟨d, hd.stored, hd.approves, hd.of_run, hd.of_step⟩
      exact happroved.exec hfacts
  · intro run_id step ctx result hmem
    rw [exec_trace] at hmem
    obtain hold | hnew := List.mem_append.mp hmem
    · exact h.genuine run_id step ctx result hold
    · obtain ⟨handler, rfl, -, hresult⟩ := mem_events_invoked c w hnew
      exact ⟨handler, w.trace, hfacts.needs.1, hresult⟩

end calls

/-! ## The walk -/

section walk
variable {env : Env} {registry : Registry} {name : String} {defn : WorkflowDef} {gate : String}
  {flag : Flag}

/-- One program at a time; only locks expire in between. -/
def contract (env : Env) (registry : Registry) (name : String) (defn : WorkflowDef) (gate : String)
    (flag : Flag) : Contract Call Call.Resp Exn World where
  step := fun c w r w' => faulty env c w r w' ∧ CallFacts env registry name defn c w
  inv := Reviewed defn gate flag
  rely := fun w w' => w'.store = w.store ∧ w'.trace = w.trace
  guar := fun _ _ => True
  guard := saved_with_care gate flag

/-- The assumptions about the gate: it is a gate, step names are distinct, and the flag is for steps
    before it. -/
structure Placed (defn : WorkflowDef) (gate : String) (flag : Flag) : Prop where
  is_gate : is_gate gate = true
  nodup : defn.steps.Nodup
  before : ∀ step ctx output, flag step ctx output = true → Before defn gate step

/-- Saving a decision is all that needs care. -/
def careless : Call → Bool
  | .save_approval_decision _ => false
  | _ => true

theorem free_careless (hplaced : Placed defn gate flag) {c : Call} (hc : careless c = true) :
    Free (contract env registry name defn gate flag) c := by
  intro w hinv
  have hcare : saved_with_care gate flag c w := by
    cases c <;> trivial
  refine ⟨hcare, ?_⟩
  intro r w' hstep
  obtain ⟨hfaulty, hfacts⟩ := hstep
  obtain ⟨rfl, -⟩ | rfl := hfaulty.world
  · exact ⟨hinv, trivial⟩
  · exact ⟨hinv.exec hplaced.is_gate hplaced.nodup hplaced.before hfacts hcare, trivial⟩

/-- A resolution saves the decision it was asked for, on the run and the step of its token. -/
def decides (args : ResolveArgs) (payload : TokenPayload) : Call → Prop
  | .save_approval_decision d =>
    d.decision = args.decision ∧ d.run_id = payload.rid ∧ d.step = payload.step
  | c => c.invokes = false

/-- It is safe when it is careful. -/
theorem safe_resolution (hplaced : Placed defn gate flag) (args : ResolveArgs)
    (payload : TokenPayload) {w : World}
    (hcare : args.decision = .approve → payload.step = gate →
      Asked gate w payload.rid ∧ ¬ Flagged flag w payload.rid) :
    Yields (contract env registry name defn gate flag) (fun _ _ => True) (use_token args payload) w := by
  have hdecides : Issues (decides args payload) (use_token args payload) :=
    use_token_issues args payload rfl rfl (fun _ => rfl) rfl (fun _ => ⟨rfl, rfl, rfl⟩) (fun _ => rfl)
      rfl rfl fun _ => rfl
  have hsafe : Safe (contract env registry name defn gate flag)
      (fun _ w => args.decision = .approve → payload.step = gate →
        Asked gate w payload.rid ∧ ¬ Flagged flag w payload.rid) (use_token args payload) w := by
    apply Safe.of_issues (P := decides args payload) _ _ hdecides hcare
    · rintro w w' ⟨hstore, htrace⟩ hcare
      unfold Asked Flagged
      rw [hstore, htrace]
      exact hcare
    · intro c w hc hinv hcare
      have hsaved : saved_with_care gate flag c w := by
        cases c with
        | save_approval_decision d =>
          obtain ⟨hdecision, hrun, hstep⟩ := hc
          intro happroves hgate
          rw [hrun]
          exact hcare (hdecision.symm.trans happroves) (hstep.symm.trans hgate)
        | _ => trivial
      refine ⟨hsaved, ?_⟩
      intro r w' hstep
      obtain ⟨hfaulty, hfacts⟩ := hstep
      obtain ⟨rfl, -⟩ | rfl := hfaulty.world
      · exact ⟨hinv, trivial, hcare⟩
      refine ⟨hinv.exec hplaced.is_gate hplaced.nodup hplaced.before hfacts hsaved, trivial, ?_⟩
      intro happroves hgate
      obtain ⟨hasked, hclear⟩ := hcare happroves hgate
      exact ⟨hasked.exec hfacts, not_flagged_exec hplaced.before hfacts hasked hclear⟩
  exact hsafe.weaken fun _ _ _ _ _ => trivial

/-- Every careful request is safe where it starts. -/
theorem safe_request (hplaced : Placed defn gate flag) (engine : Engine) {q : Request} {w : World}
    (hsound : Sound env registry name defn w) (hq : Careful engine.crypto name gate flag w q) :
    Safe (contract env registry name defn gate flag) (fun _ _ => True) (q.program engine) w := by
  have hfree : ∀ {α : Type} {p : M α}, Issues (fun c => careless c = true) p →
      Yields (contract env registry name defn gate flag) (fun _ _ => True) p w :=
    fun hp => walk_free (hp.mono fun _ hc => free_careless hplaced hc) w
  have hexecute : ∀ depth run_id, Issues (fun c => careless c = true) (engine.execute depth run_id) := by
    intro depth run_id
    apply (engine.execute_of_pass depth run_id).mono
    intro c hc
    cases c <;> first | rfl | cases hc
  have hlog : ∀ audited actor action inputs,
      Issues (fun c => careless c = true) (maybe_audit audited actor action inputs) :=
    fun _ _ _ _ => maybe_audit_issues _ _ _ _ fun _ => rfl
  obtain ⟨hadmitted, hcare⟩ := hq
  cases hadmitted with
  | start_run _ => exact (hfree (start_run_issues _ (fun _ => rfl) rfl rfl fun _ _ _ => rfl)).discard
  | execute depth run_id => exact (hfree (hexecute depth run_id)).discard
  | recovery_sweep depth enqueue =>
    exact (hfree (recovery_sweep_issues engine depth enqueue rfl (fun _ => rfl) (fun _ => rfl)
      (fun _ _ _ => rfl) (hexecute depth))).discard
  | @resolve_gate args hauth =>
    apply Yields.discard (R := fun _ _ => True)
    unfold resolve_gate
    cases hverify : verify_token engine.crypto args.raw_token args.signing_key with
    | error e => exact Yields.raise
    | ok verified =>
      cases verified with
      | error err => exact hfree (.bind (hlog _ _ _ _) fun _ => .raise)
      | ok payload =>
        apply safe_resolution hplaced args payload
        intro happroves hgate
        refine ⟨?_, hcare payload.rid ⟨args, payload, rfl, happroves, hverify, hgate, rfl⟩⟩
        -- the token was issued for a request on record
        obtain ⟨token, htoken, rfl⟩ := hauth payload hverify
        obtain ⟨id, hid⟩ := Dict.mem_values_iff.mp htoken
        obtain ⟨request, hget, hrun, hstep⟩ := hsound.store.tokens id token hid
        exact ⟨_, request, hget, hrun, hstep.trans hgate⟩
  | update_run_status run_id status =>
    exact Safe.weaken (hfree (.perform rfl)) fun _ _ _ => trivial

theorem reviewed_fresh (defn : WorkflowDef) (gate : String) (flag : Flag) (idem : IdemStore)
    (lock : Option (List String)) (registry : Registry) :
    Reviewed defn gate flag (World.fresh idem lock registry) := by
  constructor
  · rintro run_id ⟨d, hd, -⟩
    cases hd
  · intro _ _ _ _ _ _ hmem
    cases hmem
  · intro _ _ _ _ hmem
    cases hmem

end walk

/-! ## Every history -/

section histories
variable {env : Env} {engine : Engine} {registry : Registry} {name : String} {defn : WorkflowDef}
  {gate : String} {flag : Flag} {p : M Unit} {w : World}

/-- The invariant holds in every state of every careful history. -/
theorem reviewed (hlatest : get_workflow_latest registry name = .ok defn) (hprod : Productive defn)
    (hplaced : Placed defn gate flag)
    (h : Sequential (faulty env) engine registry (Careful engine.crypto name gate flag) p w) :
    Reviewed defn gate flag w := by
  have haccept : ∀ w q, Careful engine.crypto name gate flag w q → Admitted engine.crypto name w q :=
    fun _ _ hq => hq.1
  have hsound : ∀ p w, Sequential (faulty env) engine registry
      (Careful engine.crypto name gate flag) p w → Sound env registry name defn w := by
    intro p w hpw
    obtain ⟨ts, hts, -⟩ := hpw.interleaved (fun _ _ _ _ hstep => hstep) haccept
    exact hts.sound hlatest
  have hstrong := Session.strengthen (P := CallFacts env registry name defn)
    (fun _ _ _ hcall => call_facts hlatest hplaced.nodup hprod haccept hcall) hsound h
  refine (Session.safe (C := contract env registry name defn gate flag) (fun _ => ⟨rfl, rfl⟩)
    (fun hab hbc => ⟨hbc.1.trans hab.1, hbc.2.trans hab.2⟩) ?_ ?_ ?_ hstrong).1
  · rintro w ⟨idem, lock, rfl⟩
    exact reviewed_fresh defn gate flag idem lock registry
  · rintro w p _ ⟨⟨q, hq, rfl⟩, hsound⟩
    exact safe_request hplaced engine hsound hq
  · rintro w w' hinv ⟨held, held', -, -, rfl⟩
    exact ⟨⟨hinv.approved, hinv.behind, hinv.genuine⟩, rfl, rfl⟩

/-- **What is marked is not let pass.** A run with a marked output is not approved at the gate, and
    no step behind the gate has been invoked for it. -/
theorem Reviewed.stopped (h : Reviewed defn gate flag w) {run_id : String}
    (hflagged : Flagged flag w run_id) : ¬ ApprovedAt gate w run_id ∧
      ∀ step ctx result (i j : Nat), i < j → defn.steps[i]? = some gate → defn.steps[j]? = some step →
        Event.invoked run_id step ctx result ∉ w.trace := by
  have hopen : ¬ ApprovedAt gate w run_id := by
    intro happroved
    exact (h.approved run_id happroved).2 hflagged
  refine ⟨hopen, ?_⟩
  intro step ctx result i j hij hi hj hmem
  exact hopen (h.behind run_id step ctx result i j hmem hij hi hj)

/-- An approval with a token of a run without marked output is careful. -/
theorem careful_resolve_with {token : ApprovalToken} (actor : String)
    (hstored : token ∈ w.store.tokens.values) (hclear : ¬ Flagged flag w token.run_id) :
    Careful reference_crypto name gate flag w (.resolve_gate (resolve_with token .approve actor)) := by
  refine ⟨.resolve_gate (authentic_resolve_with .approve actor hstored), ?_⟩
  rintro run_id ⟨args, payload, hargs, -, hverify, -, hrun⟩
  obtain rfl := Request.resolve_gate.inj hargs
  rw [verify_resolve_with] at hverify
  obtain rfl := Except.ok.inj (Except.ok.inj hverify)
  rw [← hrun]
  exact hclear

end histories

end CaseAutomation.Orchestrator.Review
