import Mathlib.Data.List.Dedup
import CaseAutomation.Orchestrator.Reference
import CaseAutomation.Orchestrator.Walk

/-! # Quorum of Approvals

    A gate request carries a quorum: "N-of-M approvals required". The resolver never reads
    it: the first approval approves the gate, resumes the run and completes the gate
    step. So the quorum is respected when every gate asks for a single approval, and
    one approval is enough to pass a gate that asks for two.

    The histories are sequential, with failing calls and crashes, and the tokens presented
    are arbitrary.
-/

namespace CaseAutomation.Orchestrator

open Framework Program

/-! ## What the quorum asks for -/

/-- The ids of the tokens with which the gate was approved, without repetition. -/
def approvals (s : RunStore) (gate_id : String) : List String :=
  ((s.decisions.filter fun d =>
    decide (d.decision = .approve) && decide (d.gate_request_id = gate_id)).map
      ApprovalDecision.token_id).dedup

/-- At least as many approvals as the gate asks for. -/
def QuorumMet (s : RunStore) (gate : GateRequest) : Prop :=
  gate.quorum ≤ (approvals s gate.id).length

instance (s : RunStore) (gate : GateRequest) : Decidable (QuorumMet s gate) :=
  inferInstanceAs (Decidable (_ ≤ _))

/-- One approval meets a quorum of one. -/
theorem quorum_met_of_approval {s : RunStore} {gate : GateRequest} {d : ApprovalDecision}
    (hquorum : gate.quorum ≤ 1) (hmem : d ∈ s.decisions) (hd : d.decision = .approve)
    (hgate : d.gate_request_id = gate.id) : QuorumMet s gate := by
  have htoken : d.token_id ∈ approvals s gate.id := by
    unfold approvals
    rw [List.mem_dedup]
    apply List.mem_map_of_mem
    rw [List.mem_filter]
    exact ⟨hmem, by simp [hd, hgate]⟩
  have hpos : 0 < (approvals s gate.id).length := List.length_pos_of_mem htoken
  unfold QuorumMet
  omega

/-! ## The contract -/

section contract
variable {env : Env} {registry : Registry}

/-- A decision approves this step of this run, and its gate request is stored. -/
def Backed (s : RunStore) (run_id step : String) : Prop :=
  ∃ d ∈ s.decisions, d.decision = .approve ∧ d.run_id = run_id ∧ d.step = step ∧
    ∃ gate, s.gates.get? d.gate_request_id = some gate

/-- Gates ask for one approval; an approved gate has one, and so has a completed gate step. -/
structure QuorumInv (registry : Registry) (w : World) : Prop where
  registry : w.registry = registry
  keyed : ∀ id gate, w.store.gates.get? id = some gate → gate.id = id
  single : ∀ id gate, w.store.gates.get? id = some gate → gate.quorum ≤ 1
  approved : ∀ id gate, w.store.gates.get? id = some gate → gate.status = .approved →
    ∃ d ∈ w.store.decisions, d.decision = .approve ∧ d.gate_request_id = id
  gate_rows : ∀ run_id rows, w.store.steps.get? run_id = some rows → ∀ row ∈ rows,
    is_gate row.step = true → row.status = .SUCCEEDED → Backed w.store run_id row.step

/-- What must be known where a call is issued. -/
def quorum_guard : Call → World → Prop
  | .create_run run rows, _ => run.status = .QUEUED ∧ ∀ row ∈ rows, row.status ≠ .SUCCEEDED
  | .update_step row, _ => is_gate row.step = false
  | .create_gate_request gate, _ => gate.quorum ≤ 1 ∧ gate.status = .pending
  | .update_gate_request gate, w => gate.quorum ≤ 1 ∧ (gate.status = .approved →
      ∃ d ∈ w.store.decisions, d.decision = .approve ∧ d.gate_request_id = gate.id)
  | .advance_gate_step run_id step, w => Backed w.store run_id step
  -- a waiting run is set running only after an approval of one of its gates
  | .update_run_status run_id status _ _, w => status = .RUNNING →
      (∀ run, w.store.runs.get? run_id = some run → run.status ≠ .AWAITING_APPROVAL) ∨
      ∃ step, Backed w.store run_id step
  | _, _ => True

/-- One program at a time; only locks expire in between. -/
def quorum_contract (env : Env) (registry : Registry) : Contract Call Call.Resp Exn World where
  step := faulty env
  inv := QuorumInv registry
  rely := fun w w' => w'.store = w.store ∧ w'.registry = w.registry
  guar := fun _ _ => True
  guard := quorum_guard

/-- Decisions and gate requests are never deleted. -/
structure Keeps (s s' : RunStore) : Prop where
  decisions : ∀ d ∈ s.decisions, d ∈ s'.decisions
  gates : ∀ id gate, s.gates.get? id = some gate → ∃ gate', s'.gates.get? id = some gate'

theorem StoreChange.keeps {w : World} {c : Call} {s' : RunStore} {n : Nat}
    (h : StoreChange env w c s' n) : Keeps w.store s' := by
  have hput : ∀ (g : GateRequest) id gate, w.store.gates.get? id = some gate →
      ∃ gate', (w.store.put_gate g).gates.get? id = some gate' := by
    intro g id gate hgate
    by_cases hid : id = g.id
    · subst hid
      exact ⟨g, Dict.get?_set_self _ _ _⟩
    · exact ⟨gate, (Dict.get?_set_ne _ _ hid).trans hgate⟩
  cases h with
  | gate_created g => exact ⟨fun _ hd => hd, hput g⟩
  | gate_updated g => exact ⟨fun _ hd => hd, hput g⟩
  | decided d => exact ⟨fun _ hd => List.mem_append_left _ hd, fun _ gate hgate => ⟨gate, hgate⟩⟩
  | _ => exact ⟨fun _ hd => hd, fun _ gate hgate => ⟨gate, hgate⟩⟩

theorem faulty.keeps {c : Call} {w w' : World} {r : Except Exn c.Resp}
    (h : faulty env c w r w') : Keeps w.store w'.store := by
  rcases h.world with ⟨rfl, -⟩ | rfl
  · exact ⟨fun _ hd => hd, fun _ gate hgate => ⟨gate, hgate⟩⟩
  · exact (exec_store_change env c w).keeps

theorem Backed.mono {s s' : RunStore} {run_id step : String} (h : Backed s run_id step)
    (hkeeps : Keeps s s') : Backed s' run_id step := by
  obtain ⟨d, hmem, happrove, hrun, hstep, gate, hgate⟩ := h
  exact ⟨d, hkeeps.decisions d hmem, happrove, hrun, hstep, hkeeps.gates _ gate hgate⟩

/-- A guarded call keeps the invariant. -/
theorem QuorumInv.step {c : Call} {w : World} (h : QuorumInv registry w) (hg : quorum_guard c w) :
    QuorumInv registry (exec env c w).2 := by
  have hregistry : (exec env c w).2.registry = registry := by rw [exec_registry, h.registry]
  have hchange := exec_store_change env c w
  have hkeeps := hchange.keeps
  generalize hw' : (exec env c w).2 = w' at hchange hkeeps hregistry ⊢
  generalize hs' : w'.store = s' at hchange hkeeps
  generalize w'.clock = n at hchange
  -- what every case inherits
  have hrows : ∀ run_id rows, w.store.steps.get? run_id = some rows → ∀ row ∈ rows,
      is_gate row.step = true → row.status = .SUCCEEDED → Backed s' run_id row.step := by
    intro run_id rows hget row hrow hgate hstatus
    exact (h.gate_rows run_id rows hget row hrow hgate hstatus).mono hkeeps
  have happroved : ∀ id gate, w.store.gates.get? id = some gate → gate.status = .approved →
      ∃ d ∈ s'.decisions, d.decision = .approve ∧ d.gate_request_id = id := by
    intro id gate hgate hstatus
    obtain ⟨d, hmem, hd⟩ := h.approved id gate hgate hstatus
    exact ⟨d, hkeeps.decisions d hmem, hd⟩
  have hput : ∀ g : GateRequest, g.quorum ≤ 1 → s' = w.store.put_gate g →
      (g.status = .approved → ∃ d ∈ s'.decisions, d.decision = .approve ∧ d.gate_request_id = g.id) →
      QuorumInv registry w' := by
    intro g hquorum heq hstatus
    have hget : ∀ id gate, w'.store.gates.get? id = some gate →
        id = g.id ∧ gate = g ∨ id ≠ g.id ∧ w.store.gates.get? id = some gate := by
      intro id gate hgate
      rw [hs', heq] at hgate
      exact Dict.get?_set_cases hgate
    refine ⟨hregistry, ?_, ?_, ?_, ?_⟩
    · intro id gate hgate
      rcases hget id gate hgate with ⟨rfl, rfl⟩ | ⟨-, hold⟩
      · rfl
      · exact h.keyed id gate hold
    · intro id gate hgate
      rcases hget id gate hgate with ⟨rfl, rfl⟩ | ⟨-, hold⟩
      · exact hquorum
      · exact h.single id gate hold
    · intro id gate hgate
      rw [hs']
      rcases hget id gate hgate with ⟨rfl, rfl⟩ | ⟨-, hold⟩
      · exact hstatus
      · exact happroved id gate hold
    · intro run_id rows hrow
      rw [hs', heq] at hrow
      rw [hs']
      exact hrows run_id rows hrow
  -- a call that leaves the gate requests alone
  have hsame : s'.gates = w.store.gates → (∀ run_id rows, s'.steps.get? run_id = some rows →
      ∀ row ∈ rows, is_gate row.step = true → row.status = .SUCCEEDED →
        Backed s' run_id row.step) → QuorumInv registry w' := by
    intro heq hrows'
    refine ⟨hregistry, ?_, ?_, ?_, ?_⟩
    · rw [hs', heq]; exact h.keyed
    · rw [hs', heq]; exact h.single
    · rw [hs', heq]; exact happroved
    · rw [hs']; exact hrows'
  cases hchange with
  | same => exact hsame rfl hrows
  | created run rows dedupe _ =>
    apply hsame rfl
    intro run_id rs hget row hrow hgate hstatus
    rcases Dict.get?_set_cases hget with ⟨rfl, rfl⟩ | ⟨-, hold⟩
    · exact absurd hstatus (hg.2 row hrow)
    · exact hrows run_id rs hold row hrow hgate hstatus
  | status => exact hsame rfl hrows
  | current => exact hsame rfl hrows
  | @advanced rid step row pre post hold _ hname =>
    apply hsame rfl
    intro run_id rs hget r hr hgate hstatus
    rcases Dict.get?_set_cases hget with ⟨rfl, rfl⟩ | ⟨-, hget⟩
    · rcases mem_replace hr with rfl | hr
      · subst hname
        exact Backed.mono hg hkeeps
      · exact hrows _ _ hold r hr hgate hstatus
    · exact hrows run_id rs hget r hr hgate hstatus
  | @updated step row pre post hold _ _ _ =>
    apply hsame rfl
    intro run_id rs hget r hr hgate hstatus
    rcases Dict.get?_set_cases hget with ⟨rfl, rfl⟩ | ⟨-, hget⟩
    · rcases mem_replace hr with rfl | hr
      · have hnot : is_gate r.step = false := hg
        rw [hnot] at hgate
        cases hgate
      · exact hrows _ _ hold r hr hgate hstatus
    · exact hrows run_id rs hget r hr hgate hstatus
  | gate_created g =>
    obtain ⟨hquorum, hpending⟩ := hg
    apply hput g hquorum rfl
    intro hstatus
    rw [hpending] at hstatus
    cases hstatus
  | gate_updated g => exact hput g hg.1 rfl hg.2
  | token_saved => exact hsame rfl hrows
  | token_used => exact hsame rfl hrows
  | decided => exact hsame rfl hrows

/-! ## The walk through the programs -/

/-- Calls whose guard does not look at the state. -/
def Call.harmless : Call → Bool
  | .create_run _ _ => false
  | .update_step row => !is_gate row.step
  | .create_gate_request gate => decide (gate.quorum ≤ 1 ∧ gate.status = .pending)
  | .update_gate_request _ => false
  | .advance_gate_step _ _ => false
  | .update_run_status _ status _ _ => decide (status ≠ .RUNNING)
  | _ => true

theorem Call.harmless_guard {c : Call} (h : c.harmless = true) (w : World) : quorum_guard c w := by
  cases c with
  | create_run => cases h
  | update_step row => simpa [Call.harmless, quorum_guard] using h
  | create_gate_request gate => simpa [Call.harmless, quorum_guard] using h
  | update_gate_request => cases h
  | advance_gate_step => cases h
  | update_run_status run_id status cur err =>
    intro hrunning
    exact absurd hrunning (of_decide_eq_true h)
  | _ => trivial

/-- One guarded call, answered or failing. -/
theorem QuorumInv.faulty {c : Call} {w w' : World} {r : Except Exn c.Resp}
    (h : QuorumInv registry w) (hg : quorum_guard c w)
    (hstep : Orchestrator.faulty env c w r w') : QuorumInv registry w' := by
  rcases hstep.world with ⟨rfl, -⟩ | rfl
  · exact h
  · exact h.step hg

theorem quorum_free {c : Call} (hc : c.harmless = true) : Free (quorum_contract env registry) c := by
  intro w hinv
  refine ⟨Call.harmless_guard hc w, ?_⟩
  intro r w' hstep
  exact ⟨QuorumInv.faulty hinv (Call.harmless_guard hc w) hstep, trivial⟩

theorem quorum_harmless {α : Type} {p : M α} (hp : Issues (fun c => c.harmless = true) p)
    (w : World) : Yields (quorum_contract env registry) (fun _ _ => True) p w :=
  walk_free (hp.mono fun _ hc => quorum_free hc) w

/-- Harmless calls keep what survives every change of the store. -/
theorem quorum_harmless_keeps {α : Type} {p : M α} {A : World → Prop} {w : World}
    (hp : Issues (fun c => c.harmless = true) p)
    (hA : ∀ w w', Keeps w.store w'.store → A w → A w') (hw : A w) :
    Yields (quorum_contract env registry) (fun _ w => A w) p w := by
  have hsafe : Safe (quorum_contract env registry) (fun _ w => A w) p w := by
    apply Safe.of_issues (P := fun c => c.harmless = true) (A := A)
    · intro w w' hrely
      apply hA
      rw [hrely.1]
      exact ⟨fun _ hd => hd, fun _ gate hgate => ⟨gate, hgate⟩⟩
    · intro c w hc hinv hw
      obtain ⟨hguard, hk⟩ := quorum_free hc w hinv
      refine ⟨hguard, ?_⟩
      intro r w' hstep
      obtain ⟨hinv', hguar⟩ := hk r w' hstep
      exact ⟨hinv', hguar, hA w w' (faulty.keeps hstep) hw⟩
    · exact hp
    · exact hw
  exact hsafe.weaken fun _ _ h _ _ => h

theorem quorum_lenient (env : Env) (registry : Registry) :
    Lenient (quorum_contract env registry) where
  plain := by
    intro c hc
    apply quorum_free
    cases c <;> first | rfl | cases hc
  parked := fun _ _ => quorum_free rfl
  no_reset := by
    intro row w a w' hrow hstep
    exact exec_pending hrow hstep.ok

/-- The rule for one call. -/
theorem quorum_await {c : Call} {R : c.Resp → World → Prop} {w : World}
    (hguard : ∀ w', w'.store = w.store → QuorumInv registry w' → quorum_guard c w')
    (hR : ∀ w' a w'', w'.store = w.store → QuorumInv registry w' →
      exec env c w' = (.ok a, w'') → Keeps w'.store w''.store → R a w'') :
    Yields (quorum_contract env registry) R (await c) w := by
  apply Yields.perform
  intro w' hrely hinv
  have hg : quorum_guard c w' := hguard w' hrely.1 hinv
  refine ⟨hg, ?_⟩
  intro r w'' hstep
  refine ⟨QuorumInv.faulty hinv hg hstep, trivial, ?_⟩
  intro a ha
  subst ha
  exact hR w' a w'' hrely.1 hinv hstep.ok hstep.keeps

/-- A definition found by name is one of the registered ones. -/
theorem mem_of_latest {registry : Registry} {name : String} {defn : WorkflowDef}
    (h : get_workflow_latest registry name = .ok defn) : defn ∈ registry.values := by
  have hmax : ∀ (rest : List WorkflowDef) (best : WorkflowDef),
      max_version best rest ∈ best :: rest := by
    intro rest
    induction rest with
    | nil => intro best; exact List.mem_cons_self
    | cons d rest ih =>
      intro best
      unfold max_version
      split
      · exact List.mem_cons_of_mem _ (ih d)
      · rcases List.mem_cons.mp (ih best) with hbest | hrest
        · rw [hbest]
          exact List.mem_cons_self
        · exact List.mem_cons_of_mem _ (List.mem_cons_of_mem _ hrest)
  unfold get_workflow_latest at h
  split at h
  · cases h
  · next d rest hfilter =>
    have hmem : max_version d rest ∈ registry.values.filter fun x => decide (x.name = name) := by
      rw [hfilter]
      exact hmax rest d
    rw [Except.ok.inj h] at hmem
    exact List.mem_of_mem_filter hmem

/-- The `try` block writes back the row of an application step. -/
theorem quorum_try_step (engine : Engine) (defn : WorkflowDef) (run_id : String) (row : StepState)
    (ctx : StepContext) (compensations : List Compensation) (w : World)
    (hrow : is_gate row.step = false) :
    Yields (quorum_contract env registry) (fun done _ => is_gate done.row.step = false)
      (engine.try_step defn run_id row ctx compensations) w := by
  have hnot : (!is_gate row.step) = true := by rw [hrow]; rfl
  unfold Engine.try_step
  cases defn.handlers row.step with
  | none => exact Yields.ret hrow
  | some handler =>
    apply Yields.bind (P := fun _ _ => True)
    · exact quorum_harmless (.attempt (.perform rfl)) w
    intro returned w₁ _
    rcases returned with e | ⟨output, hooks⟩
    · exact Yields.ret hrow
    apply Yields.bind (P := fun _ _ => True)
    · exact quorum_harmless (.attempt (.bind (.perform rfl) fun _ => .perform rfl)) w₁
    intro recorded w₂ _
    rcases recorded with e | u
    · exact Yields.ret hrow
    apply Yields.bind (P := fun _ _ => True)
    · exact quorum_harmless (.perform rfl) w₂
    intro now w₃ _
    apply Yields.bind (P := fun _ _ => True)
    · exact quorum_harmless (.attempt (.bind (.perform (by exact hnot)) fun _ =>
        .bind (Engine.audit_issues engine _ _ _ _ fun _ => rfl) fun _ => .perform rfl)) w₃
    intro completed w₄ _
    rcases completed with e | u
    · exact Yields.ret hrow
    · exact Yields.ret hrow

/-- The loop writes back application rows and opens gates that ask for one approval. -/
theorem quorum_execute_loop (engine : Engine) (again : M WorkflowRun) (run : WorkflowRun)
    (defn : WorkflowDef) (run_id : String) (rows : List StepState)
    (outputs : Dict String JsonObj) (compensations : List Compensation) (w : World)
    (hquorum : ∀ step, (defn.gate_config step).quorum ≤ 1) :
    Yields (quorum_contract env registry) (fun _ _ => True)
      (engine.execute_loop again run defn run_id rows outputs compensations) w := by
  induction rows generalizing outputs compensations w with
  | nil =>
    apply quorum_harmless
    exact .bind (.perform rfl) fun _ =>
      .bind (Engine.audit_issues engine _ _ _ _ fun _ => rfl) fun _ =>
        Engine.reload_issues run_id rfl
  | cons row rest ih =>
    unfold Engine.execute_loop
    by_cases hdone : Engine.step_done row.status = true
    · rw [if_pos hdone]
      exact ih _ _ w
    rw [if_neg hdone]
    by_cases hgate : is_gate row.step = true
    · rw [if_pos hgate]
      apply quorum_harmless
      exact .bind (Engine.handle_gate_issues engine run row _ rfl rfl
        (fun _ _ => decide_eq_true ⟨hquorum row.step, rfl⟩) (fun _ => rfl) rfl
        fun _ => rfl) fun _ => Engine.reload_issues run_id rfl
    rw [if_neg hgate]
    have hrow : is_gate row.step = false := Bool.eq_false_iff.mpr hgate
    have hnot : (!is_gate row.step) = true := by rw [hrow]; rfl
    apply Yields.bind (P := fun _ _ => True)
    · exact quorum_harmless (.perform rfl) w
    intro found w₁ _
    cases found with
    | some existing =>
      apply Yields.bind (P := fun _ _ => True)
      · exact quorum_harmless (.perform rfl) w₁
      intro _ w₂ _
      exact ih _ _ w₂
    | none =>
      apply Yields.bind (P := fun _ _ => True)
      · exact quorum_harmless (.perform rfl) w₁
      intro now w₂ _
      apply Yields.bind (P := fun _ _ => True)
      · exact quorum_harmless (.perform (by exact hnot)) w₂
      intro _ w₃ _
      apply Yields.bind (P := fun done _ => is_gate done.row.step = false)
      · exact quorum_try_step engine defn run_id _ _ compensations w₃ hrow
      intro done w₄ hdone₄
      have hnot₄ : (!is_gate done.row.step) = true := by rw [hdone₄]; rfl
      cases done.result with
      | ok output => exact ih _ _ w₄
      | error e =>
        exact walk_fail_step (quorum_lenient env registry) engine again run_id _ _ e w₄
          (fun _ _ => quorum_free hnot₄) fun _ _ => quorum_free hnot₄

/-- `_execute` sets a run running only when it found it queued. -/
theorem quorum_execute_locked (engine : Engine) (again : M WorkflowRun) (run_id : String)
    (w : World) (hsingle : ∀ defn ∈ registry.values, ∀ step, (defn.gate_config step).quorum ≤ 1) :
    Yields (quorum_contract env registry) (fun _ _ => True)
      (engine.execute_locked again run_id) w := by
  unfold Engine.execute_locked
  apply Yields.bind (P := fun found w => w.store.runs.get? run_id = found)
  · apply quorum_await
    · intro w' _ _
      trivial
    · intro w' a w'' _ _ hexec _
      simp only [exec, Prod.mk.injEq, Except.ok.injEq] at hexec
      obtain ⟨ha, rfl⟩ := hexec
      exact ha
  intro found w₁ hfound
  cases found with
  | none => exact Yields.raise
  | some run =>
    apply Yields.bind (P := fun _ _ => True)
    · unfold Engine.begin_run
      by_cases hqueued : run.status = .QUEUED
      · rw [if_pos hqueued]
        apply Yields.bind (P := fun _ _ => True)
        · apply quorum_await
          · intro w' hstore _ _
            left
            intro run' hrun'
            rw [hstore, hfound] at hrun'
            obtain rfl := Option.some.inj hrun'
            rw [hqueued]
            intro h
            cases h
          · intro _ _ _ _ _ _ _
            trivial
        intro _ w₂ _
        apply quorum_harmless
        refine .bind (.perform rfl) ?_
        intro found
        cases found with
        | none => exact .raise
        | some run => exact .ret
      · rw [if_neg hqueued]
        exact Yields.ret trivial
    intro run' w₂ _
    apply Yields.bind (P := fun defn _ => defn ∈ registry.values)
    · apply quorum_await
      · intro w' _ _
        trivial
      · intro w' defn w'' _ hinv hexec _
        have hlatest : get_workflow_latest w'.registry run'.workflow = .ok defn :=
          congrArg Prod.fst hexec
        rw [hinv.registry] at hlatest
        exact mem_of_latest hlatest
    intro defn w₃ hdefn
    apply Yields.bind (P := fun _ _ => True)
    · exact quorum_harmless (.perform rfl) w₃
    intro rows w₄ _
    exact quorum_execute_loop engine again run' defn run_id rows _ _ w₄ (hsingle defn hdefn)

/-! ## Resolution -/

/-- The approval of this resolution is stored, and so is its gate request. -/
def ApprovalStored (args : ResolveArgs) (payload : TokenPayload) (w : World) : Prop :=
  args.decision = .approve → ∃ d ∈ w.store.decisions, d.decision = .approve ∧
    d.run_id = payload.rid ∧ d.step = payload.step ∧ d.gate_request_id = payload.gid ∧
    ∃ gate, w.store.gates.get? payload.gid = some gate

theorem ApprovalStored.mono {args : ResolveArgs} {payload : TokenPayload} {w w' : World}
    (h : ApprovalStored args payload w) (hkeeps : Keeps w.store w'.store) :
    ApprovalStored args payload w' := by
  intro happrove
  obtain ⟨d, hmem, hd, hrun, hstep, hgid, gate, hgate⟩ := h happrove
  exact ⟨d, hkeeps.decisions d hmem, hd, hrun, hstep, hgid, hkeeps.gates _ gate hgate⟩

theorem ApprovalStored.backed {args : ResolveArgs} {payload : TokenPayload} {w : World}
    (h : ApprovalStored args payload w) (happrove : args.decision = .approve) :
    Backed w.store payload.rid payload.step := by
  obtain ⟨d, hmem, hd, hrun, hstep, hgid, gate, hgate⟩ := h happrove
  exact ⟨d, hmem, hd, hrun, hstep, gate, hgid ▸ hgate⟩

/-- A call made after the decision was stored. -/
theorem quorum_after_decision {args : ResolveArgs} {payload : TokenPayload} {c : Call} {w : World}
    (hstored : ApprovalStored args payload w)
    (hguard : ∀ w', ApprovalStored args payload w' → quorum_guard c w') :
    Yields (quorum_contract env registry) (fun _ w => ApprovalStored args payload w) (await c) w := by
  have hsame : ∀ w' : World, w'.store = w.store → ApprovalStored args payload w' := by
    intro w' hstore
    unfold ApprovalStored
    rw [hstore]
    exact hstored
  apply quorum_await
  · intro w' hstore _
    exact hguard w' (hsame w' hstore)
  · intro w' a w'' hstore _ _ hkeeps
    exact (hsame w' hstore).mono hkeeps

/-- The decision is stored before the gate, the run and the row are written. -/
theorem quorum_record_resolution (args : ResolveArgs) (payload : TokenPayload)
    {gate : GateRequest} {w : World} (hgate : w.store.gates.get? payload.gid = some gate)
    (hid : gate.id = payload.gid) (hquorum : gate.quorum ≤ 1) :
    Yields (quorum_contract env registry) (fun _ _ => True)
      (record_resolution args payload gate) w := by
  unfold record_resolution
  apply Yields.bind (P := fun _ w => w.store.gates.get? payload.gid = some gate)
  · apply quorum_await
    · intro w' _ _
      trivial
    · intro w' a w'' hstore _ hexec _
      simp only [exec, Prod.mk.injEq] at hexec
      obtain ⟨-, rfl⟩ := hexec
      show w'.store.gates.get? payload.gid = some gate
      rw [hstore]
      exact hgate
  intro decided_at w₁ hgate₁
  apply Yields.bind (P := fun _ w => ApprovalStored args payload w)
  · apply quorum_await
    · intro w' _ _
      trivial
    · intro w' a w'' hstore _ hexec _ happrove
      simp only [exec, Prod.mk.injEq] at hexec
      obtain ⟨-, rfl⟩ := hexec
      refine ⟨args.approval_decision payload decided_at, ?_, happrove, rfl, rfl, rfl, gate, ?_⟩
      · exact List.mem_append_right _ List.mem_cons_self
      · show w'.store.gates.get? payload.gid = some gate
        rw [hstore]
        exact hgate₁
  intro _ w₂ h₂
  apply Yields.bind (P := fun _ w => ApprovalStored args payload w)
  · apply quorum_after_decision h₂
    intro w' h'
    refine ⟨hquorum, ?_⟩
    intro hstatus
    have happrove : args.decision = .approve := by
      cases hd : args.decision with
      | approve => rfl
      | reject => rw [hd] at hstatus; cases hstatus
    obtain ⟨d, hmem, hd, -, -, hgid, -⟩ := h' happrove
    exact ⟨d, hmem, hd, hgid.trans hid.symm⟩
  intro _ w₃ h₃
  apply Yields.bind (P := fun _ w => ApprovalStored args payload w)
  · exact quorum_harmless_keeps (maybe_audit_issues _ _ _ _ fun _ => rfl)
      (fun _ _ hkeeps h => h.mono hkeeps) h₃
  intro _ w₄ h₄
  apply Yields.bind (P := fun _ w => ApprovalStored args payload w)
  · apply quorum_after_decision h₄
    intro w' h' hrunning
    have happrove : args.decision = .approve := by
      cases hd : args.decision with
      | approve => rfl
      | reject => rw [hd] at hrunning; cases hrunning
    exact Or.inr ⟨payload.step, h'.backed happrove⟩
  intro _ w₅ h₅
  apply Yields.bind (P := fun _ _ => True)
  · unfold resume_step
    cases hd : args.decision with
    | approve =>
      have hadvance : Yields (quorum_contract env registry)
          (fun _ w => ApprovalStored args payload w)
          (await (.advance_gate_step payload.rid payload.step)) w₅ := by
        apply quorum_after_decision h₅
        intro w' h'
        exact h'.backed hd
      exact hadvance.weaken fun _ _ _ => trivial
    | reject => exact Yields.ret trivial
  · intro _ _ _
    exact Yields.ret trivial

/-- Gate resolution, with any token. -/
theorem quorum_resolve_gate (crypto : Crypto) (args : ResolveArgs) (w : World) :
    Yields (quorum_contract env registry) (fun _ _ => True) (resolve_gate crypto args) w := by
  have haudit : ∀ actor action inputs (e : Exn) (w : World),
      Yields (quorum_contract env registry) (fun _ _ => True)
        ((maybe_audit args.audited actor action inputs).bind fun _ =>
          (.raise e : M ApprovalDecision)) w := by
    intro actor action inputs e w
    apply quorum_harmless
    exact .bind (maybe_audit_issues _ _ _ _ fun _ => rfl) fun _ => .raise
  unfold resolve_gate
  split
  · exact Yields.raise
  · exact haudit _ _ _ _ w
  next payload _ =>
  unfold use_token
  apply Yields.bind (P := fun _ _ => True)
  · exact quorum_harmless (.perform rfl) w
  intro now w₁ _
  split
  · exact haudit _ _ _ _ w₁
  apply Yields.bind (P := fun _ _ => True)
  · exact quorum_harmless (.perform rfl) w₁
  intro found w₂ _
  cases found with
  | none => exact Yields.raise
  | some token =>
    apply Yields.bind (P := fun _ _ => True)
    · exact quorum_harmless (.perform rfl) w₂
    intro used_at w₃ _
    apply Yields.bind (P := fun _ _ => True)
    · exact quorum_harmless (.perform rfl) w₃
    intro first_use w₄ _
    split
    · unfold check_gate
      apply Yields.bind (P := fun found w => w.store.gates.get? payload.gid = found ∧
        ∀ gate, found = some gate → gate.id = payload.gid ∧ gate.quorum ≤ 1)
      · apply quorum_await
        · intro _ _ _
          trivial
        · intro w' found w'' _ hinv hexec _
          simp only [exec, Prod.mk.injEq, Except.ok.injEq] at hexec
          obtain ⟨hfound, rfl⟩ := hexec
          refine ⟨hfound, ?_⟩
          intro gate hgate
          rw [hgate] at hfound
          exact ⟨hinv.keyed _ gate hfound, hinv.single _ gate hfound⟩
      intro found w₅ h₅
      cases found with
      | none => exact Yields.raise
      | some gate =>
        obtain ⟨hgate, hok⟩ := h₅
        obtain ⟨hid, hquorum⟩ := hok gate rfl
        simp only
        split
        · exact Yields.raise
        split
        · exact Yields.raise
        · exact haudit _ _ _ _ w₅
        · exact quorum_record_resolution args payload hgate hid hquorum
    · exact haudit _ _ _ _ w₄

/-- `start_run` creates queued runs with pending rows. -/
theorem quorum_start_run (args : StartArgs) (w : World) :
    Yields (quorum_contract env registry) (fun _ _ => True) (start_run args) w := by
  unfold start_run
  apply Yields.bind (P := fun _ _ => True)
  · exact quorum_harmless (.perform rfl) w
  intro defn w₁ _
  apply Yields.bind (P := fun _ _ => True)
  · exact Yields.ofExcept fun _ _ => trivial
  intro _ w₂ _
  apply Yields.bind (P := fun _ _ => True)
  · exact quorum_harmless (.perform rfl) w₂
  intro now w₃ _
  apply Yields.bind (P := fun _ _ => True)
  · unfold StartArgs.choose_run_id
    split
    · exact Yields.ret trivial
    · exact quorum_harmless (.perform rfl) w₃
  intro run_id w₄ _
  apply quorum_await
  · intro w' _ _
    refine ⟨rfl, ?_⟩
    intro row hrow
    obtain ⟨step, seq, rfl⟩ := mem_initial_rows hrow
    intro hstatus
    cases hstatus
  · intro _ _ _ _ _ _ _
    trivial

/-- Requests without an operator's own status changes. -/
def Unattended : World → Request → Prop
  | _, .update_run_status _ _ => False
  | _, _ => True

theorem quorum_request (engine : Engine) {q : Request} (w : World) (hq : Unattended w q)
    (hsingle : ∀ defn ∈ registry.values, ∀ step, (defn.gate_config step).quorum ≤ 1) :
    Safe (quorum_contract env registry) (fun _ _ => True) (q.program engine) w := by
  have hlocked : ∀ run_id again w, Yields (quorum_contract env registry) (fun _ _ => True)
      (engine.execute_locked again run_id) w := by
    intro run_id again w
    exact quorum_execute_locked engine again run_id w hsingle
  cases q with
  | start_run args => exact (quorum_start_run args w).discard
  | execute depth run_id =>
    exact (walk_execute (quorum_lenient env registry) engine depth run_id w (hlocked run_id)).discard
  | resolve_gate args => exact (quorum_resolve_gate _ args w).discard
  | update_run_status run_id status => exact hq.elim
  | recovery_sweep depth enqueue =>
    exact (walk_recovery_sweep (quorum_lenient env registry) engine depth enqueue w hlocked).discard

/-! ## Every history -/

theorem quorum_fresh (idem : IdemStore) (lock : Option (List String)) :
    QuorumInv registry (World.fresh idem lock registry) where
  registry := rfl
  keyed := by intro id gate h; cases h
  single := by intro id gate h; cases h
  approved := by intro id gate h; cases h
  gate_rows := by intro run_id rows h; cases h

/-- The invariant, and the safety of what remains of the request in flight. -/
theorem quorum_history {engine : Engine} {p : M Unit} {w : World}
    (hsingle : ∀ defn ∈ registry.values, ∀ step, (defn.gate_config step).quorum ≤ 1)
    (h : Sequential (faulty env) engine registry Unattended p w) :
    QuorumInv registry w ∧ Safe (quorum_contract env registry) (fun _ _ => True) p w := by
  refine Session.safe (C := quorum_contract env registry) ?_ ?_ ?_ ?_ ?_ h
  · intro w
    exact ⟨rfl, rfl⟩
  · intro a b c hab hbc
    exact ⟨hbc.1.trans hab.1, hbc.2.trans hab.2⟩
  · rintro w ⟨idem, lock, rfl⟩
    exact quorum_fresh idem lock
  · rintro w p _ ⟨q, hq, rfl⟩
    exact quorum_request engine w hq hsingle
  · rintro w w' hinv ⟨held, held', -, -, rfl⟩
    exact ⟨⟨hinv.registry, hinv.keyed, hinv.single, hinv.approved, hinv.gate_rows⟩, rfl, rfl⟩

end contract

/-- The gate step of the run was approved by as many decisions as its gate request asks for. -/
def PassedGate (s : RunStore) (run_id step : String) : Prop :=
  ∃ id gate, s.gates.get? id = some gate ∧ QuorumMet s gate ∧
    ∃ d ∈ s.decisions, d.decision = .approve ∧ d.gate_request_id = id ∧ d.run_id = run_id ∧
      d.step = step

/-- A run that was waiting for an approval is now running. -/
def Resumed (w w' : World) (run_id : String) : Prop :=
  ∃ run run', w.store.runs.get? run_id = some run ∧ run.status = .AWAITING_APPROVAL ∧
    w'.store.runs.get? run_id = some run' ∧ run'.status = .RUNNING

theorem Backed.passed {registry : Registry} {w : World} {run_id step : String}
    (h : Backed w.store run_id step) (hinv : QuorumInv registry w) :
    PassedGate w.store run_id step := by
  obtain ⟨d, hmem, happrove, hrun, hstep, gate, hgate⟩ := h
  have hid : gate.id = d.gate_request_id := hinv.keyed _ gate hgate
  have hmet : QuorumMet w.store gate :=
    quorum_met_of_approval (hinv.single _ gate hgate) hmem happrove hid.symm
  exact ⟨_, gate, hgate, hmet, d, hmem, happrove, rfl, hrun, hstep⟩

/-- Only a guarded status change sets a waiting run running. -/
theorem resumed_backed {env : Env} {c : Call} {w w' : World} {r : Except Exn c.Resp}
    {run_id : String} (hg : quorum_guard c w) (hstep : faulty env c w r w')
    (h : Resumed w w' run_id) : ∃ step, Backed w.store run_id step := by
  obtain ⟨run, run', hrun, hwaiting, hrun', hrunning⟩ := h
  -- the run found afterwards is not the one found before
  have hchanged : w'.store.runs.get? run_id ≠ w.store.runs.get? run_id := by
    intro hsame
    rw [hrun, hrun'] at hsame
    obtain rfl := Option.some.inj hsame
    rw [hwaiting] at hrunning
    cases hrunning
  rcases hstep.world with ⟨rfl, -⟩ | rfl
  · exact absurd rfl hchanged
  have hchange := exec_store_change env c w
  generalize (exec env c w).2.store = s' at hchange hrun' hchanged
  generalize (exec env c w).2.clock = n at hchange
  cases hchange with
  | created new rows dedupe hmiss =>
    rcases Dict.get?_set_cases hrun' with ⟨rfl, rfl⟩ | ⟨-, hold⟩
    · rw [hg.1] at hrunning
      cases hrunning
    · exact absurd (hold ▸ hrun') hchanged
  | @status id new cur err old hold hlegal =>
    rcases Dict.get?_set_cases hrun' with ⟨rfl, rfl⟩ | ⟨-, hsame⟩
    · rcases hg hrunning with hnot | hbacked
      · exact absurd hwaiting (hnot run hrun)
      · exact hbacked
    · exact absurd (hsame ▸ hrun') hchanged
  | @current id step old hold =>
    rcases Dict.get?_set_cases hrun' with ⟨rfl, rfl⟩ | ⟨-, hsame⟩
    · rw [hrun] at hold
      obtain rfl := Option.some.inj hold
      rw [hwaiting] at hrunning
      cases hrunning
    · exact absurd (hsame ▸ hrun') hchanged
  | _ => exact absurd rfl hchanged

/-- **The quorum, when every gate asks for a single approval.** In every sequential history
    of requests, with failing calls and crashes and whatever tokens are presented: an
    approved gate has as many approvals as it asks for, so has the gate of every gate
    step that succeeded, and so has the gate of every waiting run that is set running. -/
theorem quorum_met_when_single {env : Env} {engine : Engine} {registry : Registry}
    (hsingle : ∀ defn ∈ registry.values, ∀ step, (defn.gate_config step).quorum ≤ 1)
    {p : M Unit} {w : World} (h : Sequential (faulty env) engine registry Unattended p w) :
    (∀ id gate, w.store.gates.get? id = some gate → gate.status = .approved →
      QuorumMet w.store gate) ∧
    (∀ run_id rows, w.store.steps.get? run_id = some rows → ∀ row ∈ rows,
      is_gate row.step = true → row.status = .SUCCEEDED → PassedGate w.store run_id row.step) ∧
    (∀ c k r w', p = .call c k → faulty env c w r w' → ∀ run_id, Resumed w w' run_id →
      ∃ step, PassedGate w.store run_id step) := by
  obtain ⟨hinv, hsafe⟩ := quorum_history hsingle h
  refine ⟨?_, ?_, ?_⟩
  · intro id gate hgate hstatus
    obtain ⟨d, hmem, happrove, hgid⟩ := hinv.approved id gate hgate hstatus
    have hid : gate.id = id := hinv.keyed id gate hgate
    exact quorum_met_of_approval (hinv.single id gate hgate) hmem happrove (hgid.trans hid.symm)
  · intro run_id rows hrows row hrow hgate hstatus
    exact (hinv.gate_rows run_id rows hrows row hrow hgate hstatus).passed hinv
  · intro c k r w' hp hstep run_id hresumed
    subst hp
    obtain ⟨hguard, -⟩ := hsafe w ⟨rfl, rfl⟩ hinv
    obtain ⟨step, hbacked⟩ := resumed_backed hguard hstep hresumed
    exact ⟨step, hbacked.passed hinv⟩

/-! ## One signature

    The run waiting at a gate that asks for `quorum` approvals is approved with the first
    token. -/

section signature

def signature_args (quorum : Int) : ResolveArgs :=
  resolve_with (first_token (signature_waiting quorum)) .approve "attorney"

/-- The world after the approval; the signature check is replaced by its outcome. -/
def signature_given (quorum : Int) : World :=
  ((use_token (signature_args quorum) (first_token (signature_waiting quorum)).payload).discard.run
    (exec reference_env) (signature_waiting quorum)).2

theorem signature_reachable (quorum : Int) :
    ∃ p, Sequential (faulty reference_env) reference_engine
      (singleton_registry (signature_workflow quorum)) Unattended p (signature_given quorum) := by
  have hanswered : ∀ c w, faulty reference_env c w (exec reference_env c w).1
      (exec reference_env c w).2 := fun _ _ => .answered
  have hboot : Sequential (faulty reference_env) reference_engine
      (singleton_registry (signature_workflow quorum)) Unattended (.ret ())
      (signature_start quorum) := .boot ⟨_, _, rfl⟩
  obtain ⟨p₁, h₁⟩ := hboot.serve (q := .start_run plain_start) hanswered trivial
  obtain ⟨p₂, h₂⟩ := h₁.serve (q := .execute 1 "id-0") hanswered trivial
  obtain ⟨p₃, h₃⟩ := h₂.serve (q := .resolve_gate (signature_args quorum)) hanswered trivial
  have hgiven : (signature_waiting quorum).serve reference_env reference_engine
      (.resolve_gate (signature_args quorum)) = signature_given quorum :=
    serve_resolve_with _ _ _ _ _
  rw [← hgiven]
  exact ⟨p₃, h₃⟩

/-- The gate request of the run. -/
def signature_gate (quorum : Int) : Option GateRequest :=
  (signature_given quorum).store.gates.get? "id-1"

/-- One approval is enough for the resolver, whatever the gate asks for. -/
theorem signature_approved (quorum : Int) (h : ∀ gate ∈ signature_gate quorum,
    gate.quorum = quorum ∧ gate.status = .approved) (hsome : (signature_gate quorum).isSome = true) :
    ∃ gate, (signature_given quorum).store.gates.get? "id-1" = some gate ∧ gate.quorum = quorum ∧
      gate.status = .approved := by
  obtain ⟨gate, hget⟩ := Option.isSome_iff_exists.mp hsome
  exact ⟨gate, hget, h gate hget⟩

/-- **One approval passes a gate that asks for two**: the gate is approved although its
    quorum is not met. -/
theorem single_approval_passes_quorum_of_two :
    ∃ p w gate, Sequential (faulty reference_env) reference_engine
      (singleton_registry (signature_workflow 2)) Unattended p w ∧
      w.store.gates.get? "id-1" = some gate ∧ gate.quorum = 2 ∧ gate.status = .approved ∧
      ¬ QuorumMet w.store gate := by
  obtain ⟨p, hreach⟩ := signature_reachable 2
  obtain ⟨gate, hget, hquorum, hstatus⟩ :=
    signature_approved 2 (by decide +kernel) (by decide +kernel)
  have hunmet : ∀ g ∈ signature_gate 2, ¬ QuorumMet (signature_given 2).store g := by
    decide +kernel
  exact ⟨p, _, gate, hreach, hget, hquorum, hstatus, hunmet gate hget⟩

/-- The guarantee at work: a gate that asks for one approval has one when it is approved. -/
theorem single_approval_meets_quorum_of_one :
    ∃ gate, (signature_given 1).store.gates.get? "id-1" = some gate ∧ gate.status = .approved ∧
      QuorumMet (signature_given 1).store gate := by
  obtain ⟨p, hreach⟩ := signature_reachable 1
  have hsingle : ∀ defn ∈ (singleton_registry (signature_workflow 1)).values, ∀ step,
      (defn.gate_config step).quorum ≤ 1 := by
    intro defn hdefn step
    have hvalues : (singleton_registry (signature_workflow 1)).values = [signature_workflow 1] := rfl
    rw [hvalues, List.mem_singleton] at hdefn
    subst hdefn
    exact Int.le_refl 1
  obtain ⟨gate, hget, -, hstatus⟩ :=
    signature_approved 1 (by decide +kernel) (by decide +kernel)
  exact ⟨gate, hget, hstatus, (quorum_met_when_single hsingle hreach).1 "id-1" gate hget hstatus⟩

end signature

end CaseAutomation.Orchestrator
