import CaseAutomation.Orchestrator.Invariants
import CaseAutomation.Orchestrator.Passes
import CaseAutomation.Orchestrator.Walk

/-! # How Runs Are Filed

    What holds in every reachable world whatever workflows the requests are about, and whatever
    fails or crashes: a run is stored under its id, with the rows of its workflow and the stamp
    of an earlier reading of the clock; a gate request is stored under an id that was drawn.
-/

namespace CaseAutomation.Orchestrator.Filing

open Framework Program

/-! ## The invariant -/

/-- The id was drawn earlier. -/
def WasDrawn (env : Env) (id : String) (w : World) : Prop := ∃ k < w.uuids, id = env.uuid k

/-- The instant was read off the clock earlier. -/
def WasRead (env : Env) (now : Time) (w : World) : Prop := ∃ k < w.clock, now = env.time k

/-- Runs are stored under their ids, each with the rows of its workflow, and gate requests
    under ids that were drawn. -/
structure Filed (env : Env) (w : World) : Prop where
  keyed : ∀ id run, w.store.runs.get? id = some run → run.id = id
  stamped : ∀ id run, w.store.runs.get? id = some run → WasRead env run.updated_at w
  declared : ∀ id run, w.store.runs.get? id = some run → ∃ defn rows,
    get_workflow_latest w.registry run.workflow = .ok defn ∧ w.store.steps.get? id = some rows ∧
      rows.map StepState.step = defn.steps
  rows : ∀ id rows, w.store.steps.get? id = some rows → ∀ row ∈ rows, RowOk id row
  gates : ∀ id gate, w.store.gates.get? id = some gate → GateOk env w.uuids id gate

/-- What a call needs where it is issued. -/
def files (env : Env) : Call → World → Prop
  | .create_run run rows, w => WasRead env run.updated_at w ∧ (∀ row ∈ rows, RowOk run.id row) ∧
      ∃ defn, get_workflow_latest w.registry run.workflow = .ok defn ∧
        rows.map StepState.step = defn.steps
  | .update_step row, _ => RowOk row.run_id row
  | .create_gate_request gate, w => WasDrawn env gate.id w
  | .update_gate_request gate, w => WasDrawn env gate.id w
  | _, _ => True

/-- What a thread may assume about the others. -/
structure Later (w w' : World) : Prop where
  registry : w'.registry = w.registry
  clock : w.clock ≤ w'.clock
  uuids : w.uuids ≤ w'.uuids

theorem Later.refl (w : World) : Later w w := ⟨rfl, Nat.le_refl _, Nat.le_refl _⟩

theorem Later.trans {a b c : World} (h : Later a b) (h' : Later b c) : Later a c :=
  ⟨h'.registry.trans h.registry, h.clock.trans h'.clock, h.uuids.trans h'.uuids⟩

theorem Later.exec (env : Env) (c : Call) (w : World) : Later w (exec env c w).2 :=
  ⟨exec_registry env c w, exec_clock_le env c w, exec_uuids_le env c w⟩

theorem Later.faulty {env : Env} {c : Call} {w w' : World} {r : Except Exn c.Resp}
    (h : faulty env c w r w') : Later w w' := by
  rcases h.world with ⟨rfl, -⟩ | rfl
  · exact .refl _
  · exact .exec env c w

theorem WasDrawn.later {env : Env} {id : String} {w w' : World} (h : Later w w')
    (hdrawn : WasDrawn env id w) : WasDrawn env id w' := by
  obtain ⟨k, hk, hid⟩ := hdrawn
  exact ⟨k, Nat.lt_of_lt_of_le hk h.uuids, hid⟩

theorem WasRead.later {env : Env} {now : Time} {w w' : World} (h : Later w w')
    (hread : WasRead env now w) : WasRead env now w' := by
  obtain ⟨k, hk, hnow⟩ := hread
  exact ⟨k, Nat.lt_of_lt_of_le hk h.clock, hnow⟩

section filed
variable {env : Env} {w : World}

/-- Ids that were not drawn yet are free. -/
theorem Filed.unused (h : Filed env w) : w.store.gates.get? (env.uuid w.uuids) = none := by
  cases hget : w.store.gates.get? (env.uuid w.uuids) with
  | none => rfl
  | some gate =>
    obtain ⟨k, hk, hid⟩ := (h.gates _ _ hget).drawn
    have heq := env.uuid_injective hid
    omega

/-- A stored run has the rows of its workflow. -/
theorem Filed.known (h : Filed env w) {run_id : String} {run : WorkflowRun}
    (hrun : w.store.runs.get? run_id = some run) : ∃ defn rows,
      get_workflow_latest w.registry run.workflow = .ok defn ∧ Stored run_id run rows w ∧
        RowsOk defn run_id rows := by
  obtain ⟨defn, rows, hlatest, hrows, hnames⟩ := h.declared run_id run hrun
  exact ⟨defn, rows, hlatest, ⟨hrun, hrows⟩, hnames, h.rows run_id rows hrows⟩

/-- A run is rewritten in place. -/
theorem rewritten {runs : Dict String WorkflowRun} {run_id : String} {run run' : WorkflowRun}
    {P : String → WorkflowRun → Prop} (hget : runs.get? run_id = some run)
    (h : ∀ id run, runs.get? id = some run → P id run) (hnew : P run_id run → P run_id run') :
    ∀ id found, (runs.set run_id run').get? id = some found → P id found := by
  intro id found hfound
  rcases Dict.get?_set_cases hfound with ⟨rfl, rfl⟩ | ⟨-, hold⟩
  · exact hnew (h _ _ hget)
  · exact h id found hold

/-- A row is replaced by one of its name. -/
theorem declared_replace {steps : Dict String (List StepState)} {run_id id : String}
    {names : List String} {row row' : StepState} {pre post : List StepState}
    (hget : steps.get? run_id = some (pre ++ row :: post)) (hname : row'.step = row.step)
    (h : ∃ rows, steps.get? id = some rows ∧ rows.map StepState.step = names) :
    ∃ rows, (steps.set run_id (pre ++ row' :: post)).get? id = some rows ∧
      rows.map StepState.step = names := by
  obtain ⟨rows, hrows, hnames⟩ := h
  by_cases hid : id = run_id
  · subst hid
    rw [hget] at hrows
    cases hrows
    refine ⟨_, Dict.get?_set_self _ _ _, ?_⟩
    rw [← hnames]
    simp [hname]
  · exact ⟨rows, (Dict.get?_set_ne _ _ hid).trans hrows, hnames⟩

theorem rows_replace {steps : Dict String (List StepState)} {run_id : String}
    {row row' : StepState} {pre post : List StepState}
    (hget : steps.get? run_id = some (pre ++ row :: post)) (hok : RowOk run_id row')
    (h : ∀ id rows, steps.get? id = some rows → ∀ row ∈ rows, RowOk id row) :
    ∀ id rows, (steps.set run_id (pre ++ row' :: post)).get? id = some rows →
      ∀ row ∈ rows, RowOk id row := by
  intro id rows hrows r hr
  rcases Dict.get?_set_cases hrows with ⟨rfl, rfl⟩ | ⟨-, hold⟩
  · rcases mem_replace hr with rfl | hr
    · exact hok
    · exact h _ _ hget r hr
  · exact h id rows hold r hr

theorem gates_put {gates : Dict String GateRequest} {gate : GateRequest} {uuids : Nat}
    (h : ∀ id gate, gates.get? id = some gate → GateOk env uuids id gate)
    (hdrawn : ∃ k < uuids, gate.id = env.uuid k) :
    ∀ id found, (gates.set gate.id gate).get? id = some found → GateOk env uuids id found := by
  intro id found hfound
  rcases Dict.get?_set_cases hfound with ⟨rfl, rfl⟩ | ⟨-, hold⟩
  · exact ⟨rfl, hdrawn⟩
  · exact h id found hold

/-- **Step lemma.** -/
theorem Filed.exec {c : Call} (h : Filed env w) (hfiles : files env c w) :
    Filed env (exec env c w).2 := by
  have hlater := Later.exec env c w
  have hstamped : ∀ id run, w.store.runs.get? id = some run →
      WasRead env run.updated_at (Orchestrator.exec env c w).2 :=
    fun id run hrun => (h.stamped id run hrun).later hlater
  have hgates : ∀ id gate, w.store.gates.get? id = some gate →
      GateOk env (Orchestrator.exec env c w).2.uuids id gate :=
    fun id gate hgate => (h.gates id gate hgate).mono hlater.uuids
  have hnow : w.clock < (Orchestrator.exec env c w).2.clock →
      WasRead env (env.time w.clock) (Orchestrator.exec env c w).2 := fun hlt => ⟨_, hlt, rfl⟩
  have hdrawn : ∀ {id}, WasDrawn env id w →
      ∃ k < (Orchestrator.exec env c w).2.uuids, id = env.uuid k := fun hid => hid.later hlater
  have hread : ∀ {now}, WasRead env now w →
      WasRead env now (Orchestrator.exec env c w).2 := fun hnow => hnow.later hlater
  have hchange := exec_store_change env c w
  have hregistry := hlater.registry
  generalize (Orchestrator.exec env c w).2 = w' at *
  obtain ⟨store, idem, lock, registry, clock, uuids, trace⟩ := w'
  simp only at hchange hregistry hnow
  subst hregistry
  -- what is stored changes in one place at most
  cases hchange with
  | created run rows dedupe hmiss =>
    obtain ⟨hstamp, hrows, defn, hlatest, hnames⟩ := hfiles
    refine ⟨?_, ?_, ?_, ?_, hgates⟩
    · intro id found hfound
      rcases Dict.get?_set_cases hfound with ⟨rfl, rfl⟩ | ⟨-, hold⟩
      · rfl
      · exact h.keyed id found hold
    · intro id found hfound
      rcases Dict.get?_set_cases hfound with ⟨rfl, rfl⟩ | ⟨-, hold⟩
      · exact hread hstamp
      · exact hstamped id found hold
    · intro id found hfound
      rcases Dict.get?_set_cases hfound with ⟨rfl, rfl⟩ | ⟨hid, hold⟩
      · exact ⟨defn, rows, hlatest, Dict.get?_set_self _ _ _, hnames⟩
      · obtain ⟨defn', rows', hlatest', hrows', hnames'⟩ := h.declared id found hold
        exact ⟨defn', rows', hlatest', (Dict.get?_set_ne _ _ hid).trans hrows', hnames'⟩
    · intro id found hfound
      rcases Dict.get?_set_cases hfound with ⟨rfl, rfl⟩ | ⟨-, hold⟩
      · exact hrows
      · exact h.rows id found hold
  | status _ _ _ hget _ =>
    exact ⟨rewritten hget h.keyed id, rewritten hget hstamped fun _ => hnow (Nat.lt_succ_self _),
      rewritten hget h.declared id, h.rows, hgates⟩
  | current _ hget =>
    exact ⟨rewritten hget h.keyed id, rewritten hget hstamped fun _ => hnow (Nat.lt_succ_self _),
      rewritten hget h.declared id, h.rows, hgates⟩
  | @advanced run_id step row pre post hget _ _ =>
    have hok : RowOk run_id row := h.rows run_id _ hget row (by simp)
    refine ⟨h.keyed, hstamped, ?_, rows_replace hget ⟨hok.of_run, hok.key⟩ h.rows, hgates⟩
    intro id found hfound
    obtain ⟨defn, rows, hlatest, hrows⟩ := h.declared id found hfound
    have hname : StepState.step { row with
      status := .SUCCEEDED, ended_at := some (env.time w.clock) } = row.step := rfl
    obtain ⟨rows', hrows'⟩ := declared_replace hget hname ⟨rows, hrows⟩
    exact ⟨defn, rows', hlatest, hrows'⟩
  | updated hget _ hname _ =>
    refine ⟨h.keyed, hstamped, ?_, rows_replace hget hfiles h.rows, hgates⟩
    intro id found hfound
    obtain ⟨defn, rows, hlatest, hrows⟩ := h.declared id found hfound
    obtain ⟨rows', hrows'⟩ := declared_replace hget hname.symm ⟨rows, hrows⟩
    exact ⟨defn, rows', hlatest, hrows'⟩
  | gate_created gate => exact ⟨h.keyed, hstamped, h.declared, h.rows, gates_put hgates (hdrawn hfiles)⟩
  | gate_updated gate => exact ⟨h.keyed, hstamped, h.declared, h.rows, gates_put hgates (hdrawn hfiles)⟩
  | _ => exact ⟨h.keyed, hstamped, h.declared, h.rows, hgates⟩

theorem Filed.step {c : Call} {w' : World} {r : Except Exn c.Resp} (h : Filed env w)
    (hfiles : files env c w) (hstep : faulty env c w r w') : Filed env w' := by
  rcases hstep.world with ⟨rfl, -⟩ | rfl
  · exact h
  · exact h.exec hfiles

end filed

/-! ## The calls of one pass -/

/-- The call is of a pass over the run `id`. -/
def concerns (id : String) : Call → Prop
  | .update_step row => RowOk id row ∧ is_gate row.step = false
  | .update_run_status run_id _ _ _ => run_id = id
  | .set_current_step run_id _ => run_id = id
  | .reserve key => ∃ step, key = id ++ ":" ++ step
  | .record key _ => ∃ step, key = id ++ ":" ++ step
  | .invoke _ _ ctx => ctx.run_id = id
  | .acquire run_id => run_id = id
  | .release run_id => run_id = id
  | .log_error _ _ _ => False
  | .create_run _ _ => False
  | .advance_gate_step _ _ => False
  | _ => True

/-- The contract of a thread that makes calls in `G`, among others that keep the runs filed. -/
def thread (env : Env) (G : Call → Prop) : Nat → Contract Call Call.Resp Exn World :=
  threadContract (fun _ => faulty env) (Filed env) (fun _ => Later) fun _ c w => G c ∧ files env c w

section walk
variable {env : Env} {G : Call → Prop} {i : Nat} {run_id : String}

theorem guarded {c : Call} {w w' : World} {r : Except Exn c.Resp} (hinv : Filed env w)
    (hfiles : files env c w) (hstep : faulty env c w r w') :
    Filed env w' ∧ ∀ j, j ≠ i → Later w w' :=
  ⟨hinv.step hfiles hstep, fun _ _ => .faulty hstep⟩

theorem free {c : Call} (hG : G c) (hfiles : ∀ w, files env c w) : Free (thread env G i) c :=
  fun w hinv => ⟨⟨hG, hfiles w⟩, fun _ _ hstep => guarded hinv (hfiles w) hstep⟩

/-- Free calls keep what others cannot change. -/
theorem yields_keeps {α : Type} {p : M α} {A : World → Prop} {w : World}
    (hstable : ∀ w w', Later w w' → A w → A w') (hp : Issues (Free (thread env G i)) p) (hA : A w) :
    Yields (thread env G i) (fun _ w' => A w') p w := by
  apply Yields.of_keeps
  apply Safe.of_issues (A := A) (fun w w' => hstable w w') ?_ hp hA
  intro c w₁ hc hinv h
  obtain ⟨hguard, hstep⟩ := hc w₁ hinv
  refine ⟨hguard, ?_⟩
  intro r w₂ hr
  exact ⟨(hstep r w₂ hr).1, (hstep r w₂ hr).2, hstable w₁ w₂ (.faulty hr) h⟩

/-- A call that is not free, where it may be made. -/
theorem yields_guarded {c : Call} {w : World} (hG : G c)
    (hfiles : ∀ w', Later w w' → files env c w') :
    Yields (thread env G i) (fun _ _ => True) (await c) w := by
  apply Yields.perform
  intro w' hrely hinv
  refine ⟨⟨hG, hfiles w' hrely⟩, ?_⟩
  intro r w'' hstep
  obtain ⟨hinv', hguar⟩ := guarded (i := i) hinv (hfiles w' hrely) hstep
  exact ⟨hinv', hguar, fun _ _ => trivial⟩

theorem free_update {row : StepState} (hG : ∀ c, concerns run_id c → G c) (hrow : RowOk run_id row)
    (hplain : is_gate row.step = false) : Free (thread env G i) (.update_step row) := by
  apply free (hG (.update_step row) ⟨hrow, hplain⟩)
  intro w
  show RowOk row.run_id row
  rw [hrow.of_run]
  exact hrow

/-- A call of the pass that changes no row. -/
theorem yields_call (hG : ∀ c, concerns run_id c → G c) (c : Call) (hc : concerns run_id c)
    (hfiles : ∀ w, files env c w) (w : World) :
    Yields (thread env G i) (fun _ _ => True) (await c) w :=
  walk_free (.perform (free (hG c hc) hfiles)) w

/-- What a call answers. -/
theorem yields_read {c : Call} (hc : Free (thread env G i) c) (w : World) :
    Yields (thread env G i) (fun a w' => ∃ w₁, Filed env w₁ ∧ exec env c w₁ = (.ok a, w'))
      (await c) w := by
  apply Yields.perform
  intro w₁ _ hinv
  obtain ⟨hguard, hstep⟩ := hc w₁ hinv
  refine ⟨hguard, ?_⟩
  intro r w₂ hr
  refine ⟨(hstep r w₂ hr).1, (hstep r w₂ hr).2, ?_⟩
  rintro a rfl
  exact ⟨w₁, hinv, faulty.ok hr⟩

theorem yields_get_run (hG : ∀ c, concerns run_id c → G c) (w : World) :
    Yields (thread env G i) (fun found _ => ∀ run, found = some run → run.id = run_id)
      (await (.get_run run_id)) w := by
  have hfree : Free (thread env G i) (.get_run run_id) :=
    free (hG (.get_run run_id) trivial) fun _ => trivial
  refine (yields_read hfree w).weaken ?_
  rintro found w' ⟨w₁, hinv, hexec⟩ run rfl
  simp only [exec, Prod.mk.injEq, Except.ok.injEq] at hexec
  exact hinv.keyed run_id run hexec.1

theorem yields_begin_run (hG : ∀ c, concerns run_id c → G c) {run : WorkflowRun}
    (hid : run.id = run_id) (w : World) :
    Yields (thread env G i) (fun run' _ => run'.id = run_id) (Engine.begin_run run_id run) w := by
  unfold Engine.begin_run
  split
  · apply Yields.bind (yields_call hG (.update_run_status run_id .RUNNING none none) rfl
      (fun _ => trivial) w)
    intro _ w₁ _
    apply Yields.bind (yields_get_run hG w₁)
    intro found w₂ hfound
    cases found with
    | none => exact Yields.raise
    | some run' => exact Yields.ret (hfound run' rfl)
  · exact Yields.ret hid

/-- A gate request is stored under an id that was drawn for it. -/
theorem yields_handle_gate (hG : ∀ c, concerns run_id c → G c) (engine : Engine)
    {run : WorkflowRun} (hid : run.id = run_id) (row : StepState) (cfg : GateConfig) (w : World) :
    Yields (thread env G i) (fun _ _ => True) (engine.handle_gate run row cfg) w := by
  have hfree : ∀ {c : Call}, concerns run_id c → (∀ w, files env c w) → Free (thread env G i) c :=
    fun hc hfiles => free (hG _ hc) hfiles
  have huuid : Free (thread env G i) .uuid4 := hfree trivial fun _ => trivial
  have hnow : Free (thread env G i) .now := hfree trivial fun _ => trivial
  unfold Engine.handle_gate
  apply Yields.bind (P := fun gate_id w => WasDrawn env gate_id w)
  · refine (yields_read huuid w).weaken ?_
    rintro gate_id w' ⟨w₁, -, hexec⟩
    simp only [exec, Prod.mk.injEq, Except.ok.injEq] at hexec
    obtain ⟨rfl, rfl⟩ := hexec
    exact ⟨w₁.uuids, Nat.lt_succ_self _, rfl⟩
  intro gate_id w₁ h₁
  apply Yields.bind (yields_keeps (fun _ _ => WasDrawn.later) (.perform hnow) h₁)
  intro now w₂ h₂
  apply Yields.bind (yields_guarded (hG (.create_gate_request _) trivial) fun _ hlater => h₂.later hlater)
  intro _ w₃ _
  apply walk_free
  refine .bind (Engine.issue_tokens_issues engine _ _ _ _ _ huuid hnow fun _ =>
    hfree trivial fun _ => trivial) fun _ => .bind (.perform ?_) fun _ =>
      Engine.audit_issues engine _ _ _ _ fun _ => hfree trivial fun _ => trivial
  exact hfree hid fun _ => trivial

/-- The loop, over rows of this run. -/
theorem yields_execute_loop (hG : ∀ c, concerns run_id c → G c) (engine : Engine)
    (again : M WorkflowRun) {run : WorkflowRun} (defn : WorkflowDef) (rows : List StepState)
    (outputs : Dict String JsonObj) (compensations : List Compensation) (hid : run.id = run_id)
    (hrows : ∀ row ∈ rows, RowOk run_id row) (w : World) :
    Yields (thread env G i) (fun _ _ => True)
      (engine.execute_loop again run defn run_id rows outputs compensations) w := by
  have hfree : ∀ {c : Call}, concerns run_id c → (∀ w, files env c w) → Free (thread env G i) c :=
    fun hc hfiles => free (hG _ hc) hfiles
  have haudit : ∀ action inputs outputs, Issues (Free (thread env G i))
      (engine.audit action run_id inputs outputs) :=
    fun _ _ _ => Engine.audit_issues engine _ _ _ _ fun _ => hfree trivial fun _ => trivial
  have hreload : Issues (Free (thread env G i)) (Engine.reload run_id) :=
    Engine.reload_issues run_id (hfree trivial fun _ => trivial)
  -- over the rows: each is passed over, opens a gate, or is worked on
  induction rows generalizing outputs compensations w with
  | nil =>
    apply walk_free
    exact .bind (.perform (hfree rfl fun _ => trivial)) fun _ => .bind (haudit _ _ _) fun _ => hreload
  | cons row rest ih =>
    have hrest : ∀ r ∈ rest, RowOk run_id r := fun r hr => hrows r (List.mem_cons_of_mem row hr)
    have hrow : RowOk run_id row := hrows row List.mem_cons_self
    unfold Engine.execute_loop
    by_cases hdone : Engine.step_done row.status = true
    · rw [if_pos hdone]
      exact ih _ _ hrest w
    rw [if_neg hdone]
    by_cases hgate : is_gate row.step = true
    · rw [if_pos hgate]
      apply Yields.bind (yields_handle_gate hG engine hid row _ w)
      intro _ w₁ _
      exact walk_free hreload w₁
    rw [if_neg hgate]
    have hplain : is_gate row.step = false := Bool.eq_false_iff.mpr hgate
    apply Yields.bind (yields_call hG (.lookup row.idem_key) trivial (fun _ => trivial) w)
    intro found w₁ _
    cases found with
    | some existing =>
      apply Yields.bind (yields_call hG (.set_current_step run_id row.step) rfl
        (fun _ => trivial) w₁)
      intro _ w₂ _
      exact ih _ _ hrest w₂
    | none =>
      apply Yields.bind (yields_call hG .now trivial (fun _ => trivial) w₁)
      intro now w₂ _
      have hrunning : RowOk run_id (Engine.running_row row now) := ⟨hrow.of_run, hrow.key⟩
      apply Yields.bind (walk_free (.perform (free_update hG hrunning hplain)) w₂)
      intro _ w₃ _
      have hkey : ∃ step, row.idem_key = run_id ++ ":" ++ step := ⟨row.step, hrow.key⟩
      have htry := Engine.try_step_issues (P := Free (thread env G i)) engine defn run_id
        (Engine.running_row row now)
        { run_id := run_id, context := run.context, step_outputs := outputs,
          idem_key := (Engine.running_row row now).idem_key } compensations
        (fun _ => hfree rfl fun _ => trivial) (hfree hkey fun _ => trivial)
        (fun _ => hfree hkey fun _ => trivial) (hfree trivial fun _ => trivial)
        (fun _ _ => free_update hG ⟨hrow.of_run, hrow.key⟩ hplain) (fun _ => hfree trivial fun _ => trivial)
        (hfree rfl fun _ => trivial)
      apply Yields.bind ((walk_free htry w₃).with_returns
        (Engine.try_step_returns engine defn run_id _ _ compensations))
      rintro done w₄ ⟨hdone', -⟩
      -- the row that comes back is this one, with another status
      have hok : RowOk run_id done.row ∧ is_gate done.row.step = false := by
        rcases hdone' with hsame | ⟨output, ended, hsame⟩
        · rw [hsame]
          exact ⟨hrunning, hplain⟩
        · rw [hsame]
          exact ⟨⟨hrow.of_run, hrow.key⟩, hplain⟩
      cases done.result with
      | ok output => exact ih _ _ hrest w₄
      | error e =>
        apply free_fail_step engine again run_id _ _ e w₄ (hfree trivial fun _ => trivial)
        · exact fun _ _ => free_update hG ⟨hok.1.of_run, hok.1.key⟩ hok.2
        · exact fun _ _ => free_update hG ⟨hok.1.of_run, hok.1.key⟩ hok.2
        · intro row w a w' hpending hstep
          exact exec_pending hpending (faulty.ok hstep)
        · intro err
          exact Engine.park_issues engine run_id _ _ (fun _ => hfree trivial fun _ => trivial)
            (hfree rfl fun _ => trivial) fun _ => hfree trivial fun _ => trivial
        · exact hfree trivial fun _ => trivial

theorem yields_execute_locked (hG : ∀ c, concerns run_id c → G c) (engine : Engine)
    (again : M WorkflowRun) (w : World) :
    Yields (thread env G i) (fun _ _ => True) (engine.execute_locked again run_id) w := by
  apply Yields.bind (yields_get_run hG w)
  intro found w₁ hfound
  cases found with
  | none => exact Yields.raise
  | some run =>
    apply Yields.bind (yields_begin_run hG (hfound run rfl) w₁)
    intro run' w₂ hid
    apply Yields.bind (yields_call hG (.get_workflow_latest run'.workflow) trivial
      (fun _ => trivial) w₂)
    intro defn w₃ _
    have hfree : Free (thread env G i) (.get_steps run_id) :=
      free (hG (.get_steps run_id) trivial) fun _ => trivial
    apply Yields.bind (yields_read hfree w₃)
    rintro rows w₄ ⟨w', hinv, hexec⟩
    simp only [exec, Prod.mk.injEq, Except.ok.injEq] at hexec
    obtain ⟨rfl, rfl⟩ := hexec
    -- a run without rows has an empty pass
    have hrows : ∀ row ∈ w'.store.get_steps run_id, RowOk run_id row := by
      cases hget : w'.store.steps.get? run_id with
      | none =>
        rw [RunStore.get_steps, hget]
        intro row hrow
        cases hrow
      | some rows =>
        rw [RunStore.get_steps_eq hget]
        exact hinv.rows run_id rows hget
    exact yields_execute_loop hG engine again defn _ _ [] hid hrows w'

/-- **A pass over a run** makes calls that concern this run. -/
theorem yields_execute (hG : ∀ c, concerns run_id c → G c) (engine : Engine) (depth : Nat)
    (w : World) :
    Yields (thread env G i) (fun _ _ => True) (engine.execute depth run_id) w :=
  free_execute engine depth run_id w (free (hG _ rfl) fun _ => trivial)
    (free (hG _ rfl) fun _ => trivial) (free (hG _ trivial) fun _ => trivial)
    fun again w => yields_execute_locked hG engine again w

end walk

/-! ## Every history files its runs -/

/-- Any interleaving of requests, on any workflows, with failing calls and crashes. -/
def History (env : Env) (engine : Engine) (registry : Registry) : World → List (M Unit) → Prop :=
  Pool (fun _ => faulty env) expiry (fun w => ∃ idem lock, w = World.fresh idem lock registry)
    (fun _ p => ∃ q : Request, p = q.program engine)

section history
variable {env : Env} {i : Nat}

/-- Calls that file nothing. -/
def fileless : Call → Bool
  | .create_run _ _ => false
  | .update_step _ => false
  | .create_gate_request _ => false
  | .update_gate_request _ => false
  | _ => true

theorem free_fileless {c : Call} (hc : fileless c = true) :
    Free (thread env (fun _ => True) i) c := by
  apply free trivial
  intro w
  cases c with
  | create_run => cases hc
  | update_step => cases hc
  | create_gate_request => cases hc
  | update_gate_request => cases hc
  | _ => trivial

theorem lenient (env : Env) (i : Nat) : Lenient (thread env (fun _ => True) i) where
  plain := by
    intro c hc
    apply free_fileless
    cases c <;> first | rfl | cases hc
  parked := fun _ _ => free_fileless rfl
  no_reset := by
    intro row w a w' hrow hstep
    exact exec_pending hrow (faulty.ok hstep)

theorem yields_start_run (args : StartArgs) (w : World) :
    Yields (thread env (fun _ => True) i) (fun _ _ => True) (start_run args) w := by
  -- the definition found stays the latest, and the instant an earlier one
  have hfound : ∀ (defn : WorkflowDef) (w w' : World), Later w w' →
      get_workflow_latest w.registry args.workflow_name = .ok defn →
      get_workflow_latest w'.registry args.workflow_name = .ok defn := by
    intro defn w w' hlater h
    rw [hlater.registry]
    exact h
  apply Yields.bind (P := fun defn w' =>
    get_workflow_latest w'.registry args.workflow_name = .ok defn)
  · refine (yields_read (free_fileless rfl) w).weaken ?_
    rintro defn w' ⟨w₁, -, hexec⟩
    simp only [exec, Prod.mk.injEq] at hexec
    obtain ⟨hlatest, rfl⟩ := hexec
    exact hlatest
  intro defn w₁ h₁
  apply Yields.bind (yields_keeps (hfound defn) .ofExcept h₁)
  intro _ w₂ h₂
  apply Yields.bind (P := fun now w' =>
    get_workflow_latest w'.registry args.workflow_name = .ok defn ∧ WasRead env now w')
  · apply Yields.perform
    intro w₃ hrely hinv
    refine ⟨⟨trivial, trivial⟩, ?_⟩
    intro r w₄ hr
    have hfiles : files env .now w₃ := trivial
    obtain ⟨hinv', hguar⟩ := guarded (i := i) hinv hfiles hr
    refine ⟨hinv', hguar, ?_⟩
    rintro now rfl
    have hexec := faulty.ok hr
    simp only [exec, Prod.mk.injEq, Except.ok.injEq] at hexec
    obtain ⟨rfl, rfl⟩ := hexec
    exact ⟨hfound defn w₂ w₃ hrely h₂, w₃.clock, Nat.lt_succ_self _, rfl⟩
  intro now w₃ h₃
  have hchoose : Issues (Free (thread env (fun _ => True) i)) args.choose_run_id := by
    unfold StartArgs.choose_run_id
    split
    · exact .ret
    · exact .perform (free_fileless rfl)
  apply Yields.bind (yields_keeps (A := fun w =>
    get_workflow_latest w.registry args.workflow_name = .ok defn ∧ WasRead env now w)
    (fun w w' hlater h => ⟨hfound defn w w' hlater h.1, h.2.later hlater⟩) hchoose h₃)
  intro run_id w₄ h₄
  -- what is created is laid out by the definition found above
  refine yields_guarded trivial fun w' hlater => ⟨h₄.2.later hlater, ?_, defn, ?_, ?_⟩
  · intro row hrow
    obtain ⟨step, seq, rfl⟩ := mem_initial_rows hrow
    exact ⟨rfl, rfl⟩
  · exact hfound defn w₄ w' hlater h₄.1
  · exact initial_rows_steps _ _ _

/-- The gate request that is written back has an id that was drawn for it. -/
theorem yields_check_gate (args : ResolveArgs) (payload : TokenPayload) (w : World) :
    Yields (thread env (fun _ => True) i) (fun _ _ => True) (check_gate args payload) w := by
  have haudit : ∀ action inputs, Issues (Free (thread env (fun _ => True) i))
      (maybe_audit args.audited args.actor action inputs) :=
    fun _ _ => maybe_audit_issues _ _ _ _ fun _ => free_fileless rfl
  unfold check_gate
  apply Yields.bind (P := fun found w => ∀ gate, found = some gate → WasDrawn env gate.id w)
  · refine (yields_read (free_fileless rfl) w).weaken ?_
    rintro found w' ⟨w₁, hinv, hexec⟩ gate rfl
    simp only [exec, Prod.mk.injEq, Except.ok.injEq] at hexec
    obtain ⟨hget, rfl⟩ := hexec
    -- the invariant knows the id under which the gate was found
    have hok := hinv.gates _ gate hget
    rw [hok.keyed]
    exact hok.drawn
  intro found w₁ h₁
  cases found with
  | none => exact Yields.raise
  | some gate =>
    simp only
    split
    · exact Yields.raise
    cases authorise_actor args.actor gate.required_role with
    | error e => exact Yields.raise
    | ok allowed =>
      cases allowed with
      | false => exact walk_free (.bind (haudit _ _) fun _ => .raise) w₁
      | true =>
        simp only
        unfold record_resolution
        have hstable : ∀ w w', Later w w' → WasDrawn env gate.id w → WasDrawn env gate.id w' :=
          fun _ _ => WasDrawn.later
        apply Yields.bind (yields_keeps hstable (.perform (free_fileless rfl)) (h₁ gate rfl))
        intro decided_at w₂ h₂
        apply Yields.bind (yields_keeps hstable (.perform (free_fileless rfl)) h₂)
        intro _ w₃ h₃
        have hupdate : ∀ w', Later w₃ w' → files env
            (.update_gate_request { gate with status := args.decision.gate_status }) w' :=
          fun _ hlater => h₃.later hlater
        apply Yields.bind (yields_guarded trivial hupdate)
        intro _ w₄ _
        apply walk_free
        refine .bind (haudit _ _) fun _ => .bind (.perform (free_fileless rfl)) fun _ =>
          .bind ?_ fun _ => .ret
        unfold resume_step
        split
        · exact .perform (free_fileless rfl)
        · exact .ret

theorem yields_resolve_gate (crypto : Crypto) (args : ResolveArgs) (w : World) :
    Yields (thread env (fun _ => True) i) (fun _ _ => True) (resolve_gate crypto args) w := by
  have haudit : ∀ action inputs, Issues (Free (thread env (fun _ => True) i))
      (maybe_audit args.audited args.actor action inputs) :=
    fun _ _ => maybe_audit_issues _ _ _ _ fun _ => free_fileless rfl
  unfold resolve_gate
  split
  · exact Yields.raise
  · exact walk_free (.bind (haudit _ _) fun _ => .raise) w
  · next payload _ =>
    unfold use_token
    apply Yields.bind (walk_free (.perform (free_fileless rfl)) w)
    intro now w₁ _
    split
    · exact walk_free (.bind (haudit _ _) fun _ => .raise) w₁
    apply Yields.bind (walk_free (.perform (free_fileless rfl)) w₁)
    intro found w₂ _
    cases found with
    | none => exact Yields.raise
    | some token =>
      apply Yields.bind (walk_free (.perform (free_fileless rfl)) w₂)
      intro used_at w₃ _
      apply Yields.bind (walk_free (.perform (free_fileless rfl)) w₃)
      intro first_use w₄ _
      split
      · exact yields_check_gate args payload w₄
      · exact walk_free (.bind (haudit _ _) fun _ => .raise) w₄

theorem safe_request (engine : Engine) (q : Request) (w : World) :
    Safe (thread env (fun _ => True) i) (fun _ _ => True) (q.program engine) w := by
  cases q with
  | start_run args => exact (yields_start_run args w).discard
  | execute depth run_id => exact (yields_execute (fun _ _ => trivial) engine depth w).discard
  | recovery_sweep depth enqueue =>
    exact (walk_recovery_sweep (lenient env i) engine depth enqueue w fun run_id again w =>
      yields_execute_locked (fun _ _ => trivial) engine again w).discard
  | resolve_gate args => exact (yields_resolve_gate engine.crypto args w).discard
  | update_run_status run_id status =>
    exact Safe.weaken (walk_free (.perform (free_fileless rfl)) w) fun _ _ _ => trivial

theorem History.filed {engine : Engine} {registry : Registry} {w : World} {ts : List (M Unit)}
    (h : History env engine registry w ts) : Filed env w := by
  have hinit : ∀ w, (∃ idem lock, w = World.fresh idem lock registry) → Filed env w := by
    rintro w ⟨idem, lock, rfl⟩
    refine ⟨?_, ?_, ?_, ?_, ?_⟩
    all_goals
      intro id found hfound
      cases hfound
  refine (Pool.safe (G := fun _ c w => True ∧ files env c w) (fun _ => Later.refl)
    (fun _ => Later.trans) hinit ?_ ?_ h).1
  · rintro w p hinv ⟨q, rfl⟩ i
    exact safe_request engine q w
  · rintro w w' hinv ⟨held, held', -, -, rfl⟩
    refine ⟨⟨hinv.keyed, hinv.stamped, hinv.declared, hinv.rows, hinv.gates⟩, fun _ => ?_⟩
    exact ⟨rfl, Nat.le_refl _, Nat.le_refl _⟩

/-- The interleavings of one workflow are histories. -/
theorem interleaved_history {engine : Engine} {registry : Registry} {name : String} {w : World}
    {ts : List (M Unit)} (h : Interleaved env engine registry name w ts) :
    History env engine registry w ts :=
  Pool.map id (fun _ hinit => hinit) (fun _ _ ⟨q, _, hp⟩ => ⟨q, hp⟩) (fun _ _ _ _ _ hstep => hstep)
    (fun _ _ hdrift => hdrift) h

end history

/-! ## What the sweep lists -/

section listed
variable {env : Env} {w : World} {run_id : String}

/-- A run that is listed is queued or running. -/
theorem Filed.listed (h : Filed env w) (hlisted : run_id ∈ w.store.find_recoverable_runs) :
    ∃ run, w.store.runs.get? run_id = some run ∧ (run.status = .QUEUED ∨ run.status = .RUNNING) := by
  obtain ⟨run, hrun, rfl⟩ := List.mem_map.mp hlisted
  obtain ⟨hvalue, hactive⟩ := List.mem_filter.mp hrun
  obtain ⟨id, hget⟩ := Dict.mem_values_iff.mp hvalue
  have hid := h.keyed id run hget
  refine ⟨run, hid ▸ hget, ?_⟩
  simpa using hactive

/-- No run is listed twice. -/
theorem Filed.listed_once (h : Filed env w) : w.store.find_recoverable_runs.Nodup := by
  have hkeys : w.store.runs.values.map WorkflowRun.id = w.store.runs.keys := by
    unfold Dict.values Dict.keys
    rw [List.map_map]
    apply List.map_congr_left
    rintro ⟨id, run⟩ hentry
    exact h.keyed id run (Dict.get?_of_mem_entries hentry)
  have hsub : List.Sublist w.store.find_recoverable_runs (w.store.runs.values.map WorkflowRun.id) :=
    List.filter_sublist.map _
  rw [hkeys] at hsub
  exact hsub.nodup w.store.runs.nodup_keys

end listed

end CaseAutomation.Orchestrator.Filing
