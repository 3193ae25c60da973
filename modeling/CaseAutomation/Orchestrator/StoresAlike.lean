import CaseAutomation.Orchestrator.Reference
import CaseAutomation.Orchestrator.StoreCalls

/-! # Both Run Stores Behave Alike

    Whatever requests are interleaved, every call that reaches the run store is one that the
    two stores treat alike (`every_call_sent`). So two stores that are fed with the same
    calls answer alike and stay alike, as long as no second run is created with an empty
    dedupe key (`stores_alike_while_keys_distinct`).
-/

namespace CaseAutomation.Orchestrator.StoreCalls

open Framework Program

/-! ## The engine -/

section engine
variable {env : Env} {registry : Registry} {i : Nat} {s : World × List Nat}

theorem lasting_true : Lasting fun _ => True := fun _ _ _ _ => trivial

theorem lasting_placed (gate_id run_id step : String) :
    Lasting fun store => Placed store gate_id run_id step :=
  fun _ _ hp h => h.persists hp

/-- The rows that a pass has read are rows of the run. -/
structure Known (run_id : String) (rows : List StepState) (store : RunStore) : Prop where
  run : (store.runs.get? run_id).isSome
  rows : ∀ row ∈ rows, row.stub ∈ stubs store run_id

theorem lasting_known (run_id : String) (rows : List StepState) : Lasting (Known run_id rows) := by
  intro s s' hp h
  refine ⟨hp.runs _ h.run, ?_⟩
  intro row hrow
  rw [hp.stubs run_id h.run]
  exact h.rows row hrow

/-- A row that was read may be written back, whatever has become of its status. -/
theorem allowed_update_step {run_id : String} {rows : List StepState} {row row' : StepState}
    (hrow : row ∈ rows) (hstub : row'.stub = row.stub) :
    Allowed env registry i (Known run_id rows) (.update_step row') := by
  intro s hinv hknown
  obtain ⟨stored, hstored, hsame⟩ := of_mem_stubs (hknown.rows row hrow)
  have hid : row'.run_id = run_id := by
    rw [run_id_of_stub hstub, ← run_id_of_stub hsame]
    exact (hinv.kept.laid_out run_id).of_run stored hstored
  refine ⟨stored, ?_, hsame.trans hstub.symm⟩
  rw [hid]
  exact hstored

/-- One token per channel, each under an id of its own. -/
theorem yields_issue_tokens (engine : Engine) (gate_id run_id step : String) (ttl : Int)
    (channels : List Channel) (h : Placed s.1.store gate_id run_id step) :
    Yields (contract env registry i) (fun _ _ => True)
      (engine.issue_tokens gate_id run_id step ttl channels) s := by
  have hlasting := lasting_placed gate_id run_id step
  induction channels generalizing s with
  | nil => exact Yields.ret trivial
  | cons channel rest ih =>
    apply Yields.bind (yields_uuid4 hlasting h)
    intro token_id s₁ h₁
    apply Yields.bind (yields_now hlasting h₁)
    intro now s₂ h₂
    apply Yields.bind (P := fun _ s' => Placed s'.1.store gate_id run_id step)
    · apply yields_await
      · intro s' hrely _
        have hunused := h₂.1.rely hrely
        exact ⟨hunused.tokens, hunused.own, h₂.2.persists hrely.persists⟩
      · intro s' _ s'' hrely _ _ _ hpersists _
        exact (h₂.2.persists hrely.persists).persists hpersists
    · intro _ s₃ h₃
      exact ih h₃

/-- `_handle_gate` stores a request for a row of the run, then its tokens. -/
theorem yields_handle_gate (engine : Engine) {run : WorkflowRun} {run_id : String}
    {rows : List StepState} {row : StepState} (cfg : GateConfig) (hrun : run.id = run_id)
    (hrow : row ∈ rows) (h : Known run_id rows s.1.store) :
    Yields (contract env registry i) (fun _ _ => True) (engine.handle_gate run row cfg) s := by
  have hlasting := lasting_known run_id rows
  unfold Engine.handle_gate
  apply Yields.bind (yields_uuid4 hlasting h)
  intro gate_id s₁ h₁
  apply Yields.bind (yields_now hlasting h₁)
  intro now s₂ h₂
  apply Yields.bind (P := fun _ s' => Placed s'.1.store gate_id run.id row.step)
  · apply yields_await
    · intro s' hrely _
      have hunused := h₂.1.rely hrely
      have hknown := hlasting _ _ hrely.persists h₂.2
      refine ⟨⟨hunused.gates, ?_⟩, hunused.own⟩
      show (s'.1.store.runs.get? run.id).isSome = true
      rw [hrun]
      exact hknown.run
    · intro s' _ s'' hrely _ hexec _ hpersists _
      have hknown := hlasting _ _ hpersists (hlasting _ _ hrely.persists h₂.2)
      have hstore : s''.1 = s'.1.with_store (s'.1.store.put_gate
          (Engine.gate_request run.id row.step gate_id cfg now)) := (congrArg Prod.snd hexec).symm
      refine ⟨?_, ?_, ?_⟩
      · -- the request just stored
        rw [hstore]
        show ((s'.1.store.gates.set gate_id _).get? gate_id).isSome = true
        rw [Dict.get?_set_self]
        rfl
      · rw [hrun]
        exact hknown.run
      · obtain ⟨stored, hstored, hsame⟩ := of_mem_stubs (hknown.rows row hrow)
        rw [hrun]
        exact ⟨stored, hstored, step_of_stub hsame⟩
  intro _ s₃ h₃
  apply Yields.bind (yields_issue_tokens engine gate_id run.id row.step _ _ h₃)
  intro _ s₄ _
  have hrest : Issues (Allowed env registry i fun _ => True) (do
      await (.update_run_status run.id .AWAITING_APPROVAL none none)
      engine.audit "gate.requested" run.id
        [("step", .str row.step), ("gate_id", .str gate_id),
          ("channels", .arr (cfg.channels.map fun c => .str c.value))] [] : M Unit) :=
    .bind (.perform (allowed_unguarded rfl)) fun _ =>
      Engine.audit_issues engine _ _ _ _ fun _ => allowed_unguarded rfl
  exact yields_allowed lasting_true hrest trivial

/-- The `except` block of a step. The store refuses to reset the row, so the recursive call
    is never reached. -/
theorem yields_fail_step (engine : Engine) (again : M WorkflowRun) {run_id : String}
    {rows : List StepState} {row row' : StepState} (compensations : List Compensation) (exn : Exn)
    (hrow : row ∈ rows) (hstub : row'.stub = row.stub) (h : Known run_id rows s.1.store) :
    Yields (contract env registry i) (fun _ _ => True)
      (engine.fail_step again run_id row' compensations exn) s := by
  have hlasting := lasting_known run_id rows
  have hwrite : ∀ {row'' : StepState} {s : World × List Nat}, row''.stub = row.stub →
      Known run_id rows s.1.store → Yields (contract env registry i)
        (fun _ s' => Known run_id rows s'.1.store) (await (.update_step row'')) s := by
    intro row'' s hstub'' hs
    exact yields_allowed hlasting (.perform (allowed_update_step hrow hstub'')) hs
  unfold Engine.fail_step
  apply Yields.bind (yields_allowed hlasting (.perform (allowed_unguarded rfl)) h)
  intro now s₁ h₁
  apply Yields.bind (hwrite (by exact hstub) h₁)
  intro _ s₂ h₂
  split
  · apply Yields.bind (P := fun _ _ => False)
    · apply yields_await
      · intro s' hrely hinv
        exact allowed_update_step hrow (by exact hstub) s' hinv (hlasting _ _ hrely.persists h₂)
      · intro s' a s'' _ _ hexec _ _ _
        exact exec_pending rfl hexec
    · intro _ _ hfalse
      exact hfalse.elim
  · have hpark : Issues (Allowed env registry i fun _ => True) (do
        engine.park run_id (classify_error exn row'.attempt) compensations
        Engine.reload run_id) :=
      .bind (Engine.park_issues engine run_id _ _ (fun _ => allowed_unguarded rfl)
        (allowed_unguarded rfl) fun _ => allowed_unguarded rfl) fun _ =>
          Engine.reload_issues run_id (allowed_unguarded rfl)
    exact yields_allowed lasting_true hpark trivial

/-- The `try` block of a step. -/
theorem yields_try_step (engine : Engine) (defn : WorkflowDef) {run_id : String}
    {rows : List StepState} {row row' : StepState} (ctx : StepContext)
    (compensations : List Compensation) (hrow : row ∈ rows) (hstub : row'.stub = row.stub)
    (h : Known run_id rows s.1.store) :
    Yields (contract env registry i)
      (fun done s' => done.row.stub = row.stub ∧ Known run_id rows s'.1.store)
      (engine.try_step defn run_id row' ctx compensations) s := by
  have hissues : Issues (Allowed env registry i (Known run_id rows))
      (engine.try_step defn run_id row' ctx compensations) :=
    Engine.try_step_issues engine defn run_id row' ctx compensations
      (fun _ => allowed_unguarded rfl) (allowed_unguarded rfl) (fun _ => allowed_unguarded rfl)
      (allowed_unguarded rfl) (fun _ _ => allowed_update_step hrow (by exact hstub))
      (fun _ => allowed_unguarded rfl) (allowed_unguarded rfl)
  have hyields := (yields_allowed (lasting_known run_id rows) hissues h).with_returns
    (Engine.try_step_returns engine defn run_id row' ctx compensations)
  apply hyields.weaken
  rintro done s' ⟨hdone, hknown⟩
  refine ⟨?_, hknown⟩
  rcases hdone with heq | ⟨output, now, heq⟩
  · rw [heq]
    exact hstub
  · rw [heq]
    exact hstub

/-- The loop of `_execute` over rows that the pass has read. -/
theorem yields_execute_loop (engine : Engine) (again : M WorkflowRun) {run : WorkflowRun}
    (defn : WorkflowDef) {run_id : String} {rows : List StepState} (rest : List StepState)
    (outputs : Dict String JsonObj) (compensations : List Compensation) (hrun : run.id = run_id)
    (hrest : ∀ row ∈ rest, row ∈ rows) (h : Known run_id rows s.1.store) :
    Yields (contract env registry i) (fun _ _ => True)
      (engine.execute_loop again run defn run_id rest outputs compensations) s := by
  have hlasting := lasting_known run_id rows
  induction rest generalizing s outputs compensations with
  | nil =>
    have hend : Issues (Allowed env registry i fun _ => True)
        (engine.execute_loop again run defn run_id [] outputs compensations) :=
      .bind (.perform (allowed_unguarded rfl)) fun _ =>
        .bind (Engine.audit_issues engine _ _ _ _ fun _ => allowed_unguarded rfl) fun _ =>
          Engine.reload_issues run_id (allowed_unguarded rfl)
    exact yields_allowed lasting_true hend trivial
  | cons row rest ih =>
    have hrow : row ∈ rows := hrest row List.mem_cons_self
    have hnext : ∀ r ∈ rest, r ∈ rows := fun r hr => hrest r (List.mem_cons_of_mem row hr)
    unfold Engine.execute_loop
    by_cases hdone : Engine.step_done row.status = true
    · rw [if_pos hdone]
      exact ih _ _ hnext h
    rw [if_neg hdone]
    by_cases hgate : is_gate row.step = true
    · rw [if_pos hgate]
      apply Yields.bind (yields_handle_gate engine _ hrun hrow h)
      intro _ s₁ _
      exact walk_free (Engine.reload_issues run_id ((lenient env registry i).plain _ rfl)) s₁
    rw [if_neg hgate]
    apply Yields.bind (yields_allowed hlasting (.perform (allowed_unguarded rfl)) h)
    intro found s₁ h₁
    cases found with
    | some existing =>
      apply Yields.bind (yields_allowed hlasting (.perform (allowed_unguarded rfl)) h₁)
      intro _ s₂ h₂
      exact ih _ _ hnext h₂
    | none =>
      apply Yields.bind (yields_allowed hlasting (.perform (allowed_unguarded rfl)) h₁)
      intro now s₂ h₂
      apply Yields.bind (yields_allowed hlasting
        (.perform (allowed_update_step hrow (by exact rfl))) h₂)
      intro _ s₃ h₃
      apply Yields.bind (yields_try_step engine defn _ compensations hrow (by exact rfl) h₃)
      rintro ⟨row₄, comps₄, result⟩ s₄ ⟨hstub₄, h₄⟩
      cases result with
      | ok output => exact ih _ _ hnext h₄
      | error e => exact yields_fail_step engine again comps₄ e hrow hstub₄ h₄

/-- The run is there. -/
def Stored (run_id : String) (store : RunStore) : Prop := (store.runs.get? run_id).isSome

theorem lasting_stored (run_id : String) : Lasting (Stored run_id) :=
  fun _ _ hp h => hp.runs run_id h

/-- A run that is read is stored under its own id. -/
theorem yields_get_run (run_id : String) :
    Yields (contract env registry i) (fun found s' => ∀ run, found = some run →
      run.id = run_id ∧ Stored run_id s'.1.store) (await (.get_run run_id)) s := by
  apply yields_await
  · intro s' _ _
    exact unguarded_guard rfl s'
  intro s' found s'' _ hinv hexec _ hpersists _ run hfound
  have hget : s'.1.store.runs.get? run_id = some run := by
    rw [hfound] at hexec
    exact Except.ok.inj (congrArg Prod.fst hexec)
  refine ⟨hinv.keyed run_id run hget, lasting_stored run_id _ _ hpersists ?_⟩
  unfold Stored
  rw [hget]
  rfl

/-- `_execute`. -/
theorem yields_execute_locked (engine : Engine) (again : M WorkflowRun) (run_id : String)
    (s : World × List Nat) :
    Yields (contract env registry i) (fun _ _ => True) (engine.execute_locked again run_id) s := by
  have hlasting := lasting_stored run_id
  unfold Engine.execute_locked
  apply Yields.bind (yields_get_run run_id)
  intro found s₁ h₁
  cases found with
  | none => exact Yields.raise
  | some run =>
    obtain ⟨hid, hstored⟩ := h₁ run rfl
    apply Yields.bind (P := fun run' s' => run'.id = run_id ∧ Stored run_id s'.1.store)
    · unfold Engine.begin_run
      split
      · apply Yields.bind (yields_allowed hlasting (.perform (allowed_unguarded rfl)) hstored)
        intro _ s' _
        apply Yields.bind (yields_get_run run_id)
        intro found s'' h''
        cases found with
        | none => exact Yields.raise
        | some run' => exact Yields.ret (h'' run' rfl)
      · exact Yields.ret ⟨hid, hstored⟩
    rintro run' s₂ ⟨hid', h₂⟩
    apply Yields.bind (yields_allowed hlasting (.perform (allowed_unguarded rfl)) h₂)
    intro defn s₃ h₃
    apply Yields.bind (P := fun rows s' => Known run_id rows s'.1.store)
    · apply yields_await
      · intro s' _ _
        exact unguarded_guard rfl s'
      intro s' rows s'' hrely _ hexec _ hpersists _
      have hrows : s'.1.store.get_steps run_id = rows := Except.ok.inj (congrArg Prod.fst hexec)
      apply lasting_known run_id rows _ _ hpersists
      refine ⟨hlasting _ _ hrely.persists h₃, ?_⟩
      intro row hrow
      rw [← hrows] at hrow
      exact mem_stubs hrow
    intro rows s₄ h₄
    exact yields_execute_loop engine again defn rows _ _ hid' (fun _ hrow => hrow) h₄

end engine

/-! ## The other requests -/

section requests
variable {env : Env} {registry : Registry} {i : Nat} {s : World × List Nat}

/-- The rows of a new run, for a workflow with distinct step names. -/
theorem laid_out_initial (run_id : String) (steps : List String) (h : steps.Nodup) :
    LaidOut run_id (initial_rows run_id 0 steps) := by
  refine ⟨?_, ?_, ?_⟩
  · intro row hrow
    obtain ⟨step, seq, rfl⟩ := mem_initial_rows hrow
    rfl
  · rw [initial_rows_steps]
    exact h
  · -- the sequence numbers count up
    have hordered : ∀ seq, (∀ row ∈ initial_rows run_id seq steps, seq ≤ row.seq) ∧
        (initial_rows run_id seq steps).Pairwise fun a b => a.seq < b.seq := by
      clear h
      induction steps with
      | nil =>
        intro seq
        refine ⟨?_, List.Pairwise.nil⟩
        intro row hrow
        cases hrow
      | cons step rest ih =>
        intro seq
        obtain ⟨hle, hpair⟩ := ih (seq + 1)
        constructor
        · intro row hrow
          rcases List.mem_cons.mp hrow with rfl | hrow
          · exact Nat.le_refl seq
          · have hlater := hle row hrow
            omega
        · apply List.Pairwise.cons _ hpair
          intro row hrow
          have hlater := hle row hrow
          show seq < row.seq
          omega
    exact (hordered 0).2

/-- Every workflow has distinct step names. -/
def DistinctNames (registry : Registry) : Prop :=
  ∀ name defn, get_workflow_latest registry name = .ok defn → defn.steps.Nodup

/-- `start_run`. -/
theorem yields_start_run (hnames : DistinctNames registry) (args : StartArgs) :
    Yields (contract env registry i) (fun _ _ => True) (start_run args) s := by
  unfold start_run
  apply Yields.bind (P := fun defn _ => defn.steps.Nodup)
  · apply yields_await
    · intro s' _ _
      exact unguarded_guard rfl s'
    intro s' defn s'' _ hinv hexec _ _ _
    have hlatest : get_workflow_latest s'.1.registry args.workflow_name = .ok defn :=
      congrArg Prod.fst hexec
    rw [hinv.registry] at hlatest
    exact hnames _ defn hlatest
  intro defn s₁ hdefn
  apply Yields.bind (P := fun _ _ => True)
  · apply Yields.ofExcept
    intro _ _
    trivial
  intro _ s₂ _
  apply Yields.bind (yields_allowed lasting_true (.perform (allowed_unguarded rfl)) trivial)
  intro now s₃ _
  apply Yields.bind (P := fun _ _ => True)
  · unfold StartArgs.choose_run_id
    split
    · exact Yields.ret trivial
    · exact yields_allowed lasting_true (.perform (allowed_unguarded rfl)) trivial
  intro run_id s₄ _
  apply yields_allowed lasting_true _ trivial
  apply Issues.perform
  intro s' _ _
  exact laid_out_initial run_id defn.steps hdefn

/-- A gate request that was read: only its status may have changed since. -/
def Read (gate : GateRequest) (store : RunStore) : Prop :=
  ∃ now, store.gates.get? gate.id = some now ∧ now = { gate with status := now.status }

theorem lasting_read (gate : GateRequest) : Lasting (Read gate) := by
  rintro s s' hp ⟨now, hnow, hsame⟩
  obtain ⟨later, hlater, hlike⟩ := hp.gates _ now hnow
  refine ⟨later, hlater, ?_⟩
  rw [hlike, hsame]

/-- Steps 5 to 9 of a resolution, for a payload whose gate request, run and row are there. -/
theorem yields_check_gate (args : ResolveArgs) (payload : TokenPayload)
    (h : Placed s.1.store payload.gid payload.rid payload.step) :
    Yields (contract env registry i) (fun _ _ => True) (check_gate args payload) s := by
  have hplaced := lasting_placed payload.gid payload.rid payload.step
  unfold check_gate
  apply Yields.bind (P := fun found s' => ∀ gate, found = some gate → Read gate s'.1.store ∧
    Placed s'.1.store payload.gid payload.rid payload.step)
  · apply yields_await
    · intro s' _ _
      exact unguarded_guard rfl s'
    intro s' found s'' hrely hinv hexec _ hpersists _ gate hfound
    have hget : s'.1.store.gates.get? payload.gid = some gate := by
      rw [hfound] at hexec
      exact Except.ok.inj (congrArg Prod.fst hexec)
    refine ⟨lasting_read gate _ _ hpersists ⟨gate, ?_, rfl⟩,
      hplaced _ _ hpersists (hplaced _ _ hrely.persists h)⟩
    rw [(hinv.gates _ gate hget).keyed]
    exact hget
  intro found s₁ h₁
  cases found with
  | none => exact Yields.raise
  | some gate =>
    have hboth := h₁ gate rfl
    have hlasting : Lasting fun store =>
        Read gate store ∧ Placed store payload.gid payload.rid payload.step :=
      fun _ _ hp h => ⟨lasting_read gate _ _ hp h.1, hplaced _ _ hp h.2⟩
    have haudit : ∀ action inputs, Issues (Allowed env registry i fun store =>
        Read gate store ∧ Placed store payload.gid payload.rid payload.step)
        (maybe_audit args.audited args.actor action inputs) :=
      fun _ _ => maybe_audit_issues _ _ _ _ fun _ => allowed_unguarded rfl
    have hrest : Issues (Allowed env registry i fun store =>
        Read gate store ∧ Placed store payload.gid payload.rid payload.step)
        (record_resolution args payload gate) := by
      unfold record_resolution
      refine .bind (.perform (allowed_unguarded rfl)) fun decided_at => ?_
      refine .bind (.perform fun s' _ h' => ⟨h'.2.gate, h'.2.run⟩) fun _ => ?_
      refine .bind (.perform fun s' _ h' => ?_) fun _ => ?_
      · obtain ⟨now, hnow, hsame⟩ := h'.1
        refine ⟨now, hnow, ?_⟩
        rw [hsame]
      refine .bind (haudit _ _) fun _ => ?_
      refine .bind (.perform (allowed_unguarded rfl)) fun _ => ?_
      refine .bind ?_ fun _ => .ret
      unfold resume_step
      cases args.decision with
      | approve => exact .perform fun s' _ h' => h'.2.row
      | reject => exact .ret
    have hall := yields_allowed hlasting hrest hboth
    simp only
    split
    · exact Yields.raise
    split
    · exact Yields.raise
    · exact Yields.bind (yields_allowed hlasting (haudit _ _) hboth) fun _ _ _ => Yields.raise
    · exact hall.weaken fun _ _ _ => trivial

/-- `resolve_gate`, for a token that was issued. -/
theorem yields_resolve_gate {crypto : Crypto} {args : ResolveArgs}
    (h : Authentic crypto s.1 args) (hinv : Inv env registry s) :
    Yields (contract env registry i) (fun _ _ => True) (resolve_gate crypto args) s := by
  have haudit : ∀ action inputs, Issues (Allowed env registry i fun _ => True)
      (maybe_audit args.audited args.actor action inputs) :=
    fun _ _ => maybe_audit_issues _ _ _ _ fun _ => allowed_unguarded rfl
  have hrefuse : ∀ {e : Exn} action inputs (s' : World × List Nat),
      Yields (contract env registry i) (fun _ _ => True) (do
        maybe_audit args.audited args.actor action inputs
        raise e : M ApprovalDecision) s' := by
    intro e action inputs s'
    exact Yields.bind (yields_allowed lasting_true (haudit action inputs) trivial)
      fun _ _ _ => Yields.raise
  unfold resolve_gate
  split
  · exact Yields.raise
  · exact hrefuse _ _ s
  · next payload hverify =>
    -- the record of the token leads to the gate request, the run and the row
    obtain ⟨token, htoken, rfl⟩ := h payload hverify
    obtain ⟨id, hget⟩ := Dict.mem_values_iff.mp htoken
    obtain ⟨-, hplaced⟩ := hinv.tokens id token hget
    have hlasting := lasting_placed token.payload.gid token.payload.rid token.payload.step
    unfold use_token
    apply Yields.bind (yields_allowed hlasting (.perform (allowed_unguarded rfl)) hplaced)
    intro now s₁ h₁
    split
    · exact hrefuse _ _ s₁
    apply Yields.bind (yields_allowed hlasting (.perform (allowed_unguarded rfl)) h₁)
    intro found s₂ h₂
    cases found with
    | none => exact Yields.raise
    | some found =>
      apply Yields.bind (yields_allowed hlasting (.perform (allowed_unguarded rfl)) h₂)
      intro used_at s₃ h₃
      apply Yields.bind (yields_allowed hlasting (.perform (allowed_unguarded rfl)) h₃)
      intro first_use s₄ h₄
      split
      · exact yields_check_gate args token.payload h₄
      · exact hrefuse _ _ s₄

/-- The requests: a raw token that verifies was issued. -/
def Received (crypto : Crypto) (w : World) : Request → Prop
  | .resolve_gate args => Authentic crypto w args
  | _ => True

/-- Every request is safe where it is received. -/
theorem safe_request (engine : Engine) (hnames : DistinctNames registry) {q : Request}
    (hq : Received engine.crypto s.1 q) (hinv : Inv env registry s) :
    Safe (contract env registry i) (fun _ _ => True) (q.program engine) s := by
  have hlenient := lenient env registry i
  cases q with
  | start_run args => exact Yields.discard (yields_start_run hnames args)
  | execute depth run_id =>
    exact Yields.discard (walk_execute hlenient engine depth run_id s fun again w =>
      yields_execute_locked engine again run_id w)
  | recovery_sweep depth enqueue =>
    exact Yields.discard (walk_recovery_sweep hlenient engine depth enqueue s
      fun run_id again w => yields_execute_locked engine again run_id w)
  | resolve_gate args => exact Yields.discard (yields_resolve_gate hq hinv)
  | update_run_status run_id status =>
    exact keeps_allowed lasting_true (.perform (allowed_unguarded rfl)) trivial

end requests

/-! ## Histories -/

/-- Any interleaving of requests, from empty stores. -/
def History (env : Env) (engine : Engine) (registry : Registry) : World → List (M Unit) → Prop :=
  Pool (fun _ => steady env) expiry
    (fun w => ∃ idem lock, w = World.fresh idem lock registry)
    (fun w p => ∃ q, Received engine.crypto w q ∧ p = q.program engine)

theorem inv_fresh (env : Env) (registry : Registry) (idem : IdemStore) (lock : Option (List String)) :
    Inv env registry (World.fresh idem lock registry, []) := by
  have hempty : ∀ id, (World.fresh idem lock registry).store.get_steps id = [] := fun _ => rfl
  refine ⟨rfl, rfl, ⟨?_, ?_, ?_⟩, ?_, ?_, ?_⟩
  · intro id
    rw [hempty]
    exact ⟨fun row hrow => (by cases hrow), List.nodup_nil, List.Pairwise.nil⟩
  · intro id hne
    exact absurd (hempty id) hne
  · intro key id
    constructor
    · intro hget
      cases hget
    · rintro ⟨-, run, hrun, -⟩
      cases hrun
  · intro id run hrun
    cases hrun
  · intro id gate hgate
    cases hgate
  · intro id token htoken
    cases htoken

/-- Every reachable world keeps the invariant, and every thread is safe. -/
theorem History.threads {env : Env} {engine : Engine} {registry : Registry}
    (hnames : DistinctNames registry) {w : World} {ts : List (M Unit)}
    (h : History env engine registry w ts) :
    ∃ owners, Inv env registry (w, owners) ∧ ∀ i p, ts[i]? = some p →
      Safe (contract env registry i) (fun _ _ => True) p (w, owners) := by
  obtain ⟨owners, hpool⟩ := Pool.with_ghost note_owner [] h
  refine ⟨owners, Pool.safe (G := Guard env) (Rely.refl env) (fun _ => Rely.trans) ?_ ?_ ?_ hpool⟩
  · rintro ⟨w, owners⟩ ⟨⟨idem, lock, hw⟩, howners⟩
    simp only at hw howners
    subst hw howners
    exact inv_fresh env registry idem lock
  · rintro s p hinv ⟨q, hq, rfl⟩ i
    exact safe_request engine hnames hq hinv
  · -- expiry touches the locks only
    rintro ⟨w, owners⟩ ⟨w', owners'⟩ hinv ⟨hexpiry, howners⟩
    simp only at hexpiry howners
    subst howners
    obtain ⟨held, held', -, -, rfl⟩ := hexpiry
    exact ⟨⟨hinv.registry, hinv.owners, hinv.kept, hinv.keyed, hinv.gates, hinv.tokens⟩,
      fun i => ⟨.refl _, fun _ _ h => h, fun _ _ h => h, fun _ _ h => h⟩⟩

/-- **Every call is one that the stores treat alike.** In every interleaving, the store is well
    kept, and so is every call where it is made. -/
theorem every_call_sent {env : Env} {engine : Engine} {registry : Registry}
    (hnames : DistinctNames registry) {w : World} {ts : List (M Unit)}
    (h : History env engine registry w ts) :
    WellKept w.store ∧ ∀ (i : Nat) (c : Call) (k : Except Exn c.Resp → M Unit),
      ts[i]? = some (.call c k) → FreshRun w c → Sent w.store c := by
  obtain ⟨owners, hthreads⟩ := h.threads hnames
  refine ⟨hthreads.1.kept, ?_⟩
  intro i c k hi hfresh
  have hguard := Pool.guard_holds (G := Guard env) (Rely.refl env) hthreads hi
  exact Guard.sent hguard hfresh

/-! ## Two stores fed with the same calls -/

/-- A call made to both stores. No run is created with an empty dedupe key beside another one. -/
structure mirrored (env : Env) (c : Call) (s : World × Database) (r : Except Exn c.Resp)
    (s' : World × Database) : Prop where
  memory : steady env c s.1 r s'.1
  distinct : KeysDistinct s.1.store c
  postgres : ∃ now, s'.2 = (PostgresStore.call now c s.2).2

/-- Any interleaving of requests, with every store call made to both stores. -/
def Mirrored (env : Env) (engine : Engine) (registry : Registry) :
    World × Database → List (M Unit) → Prop :=
  Pool (fun _ => mirrored env) (ghostDrift expiry)
    (fun s => (∃ idem lock, s.1 = World.fresh idem lock registry) ∧ s.2 = PostgresStore.empty)
    (fun s p => ∃ q, Received engine.crypto s.1 q ∧ p = q.program engine)

section mirror
variable {env : Env} {engine : Engine} {registry : Registry}

/-- The store in memory goes through one of the histories. -/
theorem Mirrored.history {s : World × Database} {ts : List (M Unit)}
    (h : Mirrored env engine registry s ts) : History env engine registry s.1 ts := by
  refine Pool.map Prod.fst ?_ ?_ ?_ ?_ h
  · rintro s ⟨hfresh, -⟩
    exact hfresh
  · intro s p hp
    exact hp
  · intro i c s r s' hstep
    exact hstep.memory
  · rintro s s' ⟨hexpiry, -⟩
    exact hexpiry

/-- Calls to other services do not reach the database. -/
theorem call_other {c : Call} (hc : to_store c = false) (now : Time) (db : Database) :
    PostgresStore.call now c db = (none, db) := by
  cases c <;> first | rfl | cases hc

theorem alike_empty (idem : IdemStore) (lock : Option (List String)) :
    Alike (World.fresh idem lock registry).store PostgresStore.empty :=
  ⟨Mirrors.empty, fun _ => rfl, Mirrors.empty, Mirrors.empty, rfl⟩

/-- The stores are alike in every state that is reached. -/
theorem Mirrored.alike (hnames : DistinctNames registry) {s : World × Database}
    {ts : List (M Unit)} (h : Mirrored env engine registry s ts) : Alike s.1.store s.2 := by
  induction h with
  | @boot s hinit =>
    obtain ⟨⟨idem, lock, hw⟩, hdb⟩ := hinit
    rw [hw, hdb]
    exact alike_empty idem lock
  | spawn _ _ ih => exact ih
  | @advance s s' ts i c k r hpool hi hstep ih =>
    -- what holds of the call where it is made
    obtain ⟨hkept, hcalls⟩ := every_call_sent hnames (Mirrored.history hpool)
    have hsent := hcalls i c k hi hstep.memory.fresh
    obtain ⟨now, hdb⟩ := hstep.postgres
    have halike := (ih.call env now hkept hsent).2 hstep.distinct
    rw [hdb]
    by_cases hc : to_store c = true
    · have hexec := hstep.memory.committed hc
      rw [hexec] at halike
      exact halike
    · rw [call_other (Bool.eq_false_iff.mpr hc)] at halike ⊢
      rcases hstep.memory.faulty.world with ⟨hsame, -⟩ | hdone
      · rw [hsame]
        exact ih
      · rw [hdone]
        exact halike
  | crash _ _ ih => exact ih
  | @drift s s' ts _ hdrift ih =>
    obtain ⟨⟨held, held', -, -, hw⟩, hdb⟩ := hdrift
    rw [hw, hdb]
    exact ih

end mirror

/-- **Both run stores behave alike while empty dedupe keys do not collide.** In every
    interleaving of requests in which no run is created with an empty dedupe key beside another
    one, the tables hold what the dictionaries hold. And whatever call a request makes next, the
    two stores return the same or raise exceptions of the same class exactly if it does not
    create such a run. -/
theorem stores_alike_while_keys_distinct {env : Env} {engine : Engine} {registry : Registry}
    (hnames : DistinctNames registry) {w : World} {db : Database} {ts : List (M Unit)}
    (h : Mirrored env engine registry (w, db) ts) :
    Alike w.store db ∧ ∀ (i : Nat) (c : Call) (k : Except Exn c.Resp → M Unit) (now : Time)
      (r : Except Exn c.Resp), ts[i]? = some (.call c k) → FreshRun w c →
      (PostgresStore.call now c db).1 = some r →
      (AnswersAlike c (exec env c w).1 r ↔ KeysDistinct w.store c) := by
  have halike : Alike w.store db := h.alike hnames
  obtain ⟨hkept, hcalls⟩ := every_call_sent hnames h.history
  refine ⟨halike, ?_⟩
  intro i c k now r hi hfresh hr
  exact (halike.call env now hkept (hcalls i c k hi hfresh)).1 r hr

/-! ## Two runs with an empty dedupe key -/

section blank_keys

/-- Both stores, with the clock of the database stopped. -/
def mirror_exec (c : Call) (s : World × Database) : Except Exn c.Resp × World × Database :=
  ((exec reference_env c s.1).1, (exec reference_env c s.1).2, (PostgresStore.call 0 c s.2).2)

/-- A run is created under a new id, and not with an empty key beside another one. -/
def mirror_check : Call → World × Database → Bool
  | .create_run run _, s => (s.1.store.runs.get? run.id).isNone &&
      (decide (run.trigger.dedupe_key ≠ some "") ||
        s.1.store.runs.values.all fun other => decide (other.trigger.dedupe_key ≠ some ""))
  | _, _ => true

theorem fresh_of_check {c : Call} {s : World × Database} (h : mirror_check c s = true) :
    FreshRun s.1 c := by
  rintro run rows rfl
  unfold mirror_check at h
  rw [Bool.and_eq_true] at h
  exact Option.isNone_iff_eq_none.mp h.1

theorem distinct_of_check {c : Call} {s : World × Database} (h : mirror_check c s = true) :
    KeysDistinct s.1.store c := by
  cases c with
  | create_run run rows =>
    intro hblank other hother
    unfold mirror_check at h
    rw [Bool.and_eq_true, Bool.or_eq_true] at h
    rcases h.2 with hkey | hall
    · exact absurd hblank (of_decide_eq_true hkey)
    · exact of_decide_eq_true (List.all_eq_true.mp hall other hother)
  | _ => trivial

theorem mirrored_exec {c : Call} {s : World × Database} (h : mirror_check c s = true) :
    mirrored reference_env c s (mirror_exec c s).1 (mirror_exec c s).2 :=
  ⟨⟨.answered, fun _ => rfl, fresh_of_check h⟩, distinct_of_check h, 0, rfl⟩

/-- A request is received and makes its first `n` calls. -/
theorem Mirrored.proceed_calls {registry : Registry} {s : World × Database} {ts : List (M Unit)}
    (h : Mirrored reference_env reference_engine registry s ts) (n : Nat) (args : StartArgs)
    (hmeets : afterMeets mirror_exec mirror_check n
      (Request.program reference_engine (.start_run args)) s = true) :
    Mirrored reference_env reference_engine registry
      (after mirror_exec n (Request.program reference_engine (.start_run args)) s).2
      (ts ++ [(after mirror_exec n (Request.program reference_engine (.start_run args)) s).1]) := by
  have hspawn := Pool.spawn h ⟨.start_run args, trivial, rfl⟩
  have hsteps := steps_after_meets (S := mirrored reference_env)
    (fun c s hc => mirrored_exec (c := c) (s := s) hc) n _ s hmeets
  have hcalls := Pool.alone (i := ts.length) (R := mirrored reference_env) (fun _ _ _ _ hop => hop)
    hspawn List.getElem?_concat_length hsteps
  rw [List.set_append_right _ _ (Nat.le_refl _), Nat.sub_self] at hcalls
  exact hcalls

/-- A start whose trigger has an empty dedupe key. -/
def blank_start : StartArgs := { plain_start with trigger := ⟨.agent, "mcp", some ""⟩ }

def blank_before : World × Database :=
  (World.fresh (.in_memory ∅) none (singleton_registry (signature_workflow 1)), PostgresStore.empty)

/-- One run is created. -/
def blank_first : M Unit × World × Database :=
  after mirror_exec 4 (Request.program reference_engine (.start_run blank_start)) blank_before

/-- Another one is about to be. -/
def next_start (args : StartArgs) : M Unit × World × Database :=
  after mirror_exec 3 (Request.program reference_engine (.start_run args)) blank_first.2

theorem next_start_reached (args : StartArgs)
    (hmeets : afterMeets mirror_exec mirror_check 3
      (Request.program reference_engine (.start_run args)) blank_first.2 = true) :
    Mirrored reference_env reference_engine (singleton_registry (signature_workflow 1))
      (next_start args).2 [blank_first.1, (next_start args).1] := by
  have hboot : Mirrored reference_env reference_engine (singleton_registry (signature_workflow 1))
      blank_before [] := .boot ⟨⟨_, _, rfl⟩, rfl⟩
  have hfirst := hboot.proceed_calls 4 blank_start (by decide +kernel)
  exact Mirrored.proceed_calls hfirst 3 args hmeets

/-- The next call creates a run under a new id; it succeeds in memory and fails in the database. -/
def refused_next (p : M Unit) (s : World × Database) : Bool :=
  match p with
  | .call (.create_run run rows) _ => (s.1.store.runs.get? run.id).isNone &&
      match (exec reference_env (.create_run run rows) s.1).1,
        (PostgresStore.call 0 (.create_run run rows) s.2).1 with
      | .ok _, some (.error _) => true
      | _, _ => false
  | _ => false

theorem refused_next_spec {p : M Unit} {s : World × Database} (h : refused_next p s = true) :
    ∃ (c : Call) (k : Except Exn c.Resp → M Unit), p = .call c k ∧ FreshRun s.1 c ∧
      ∃ r, (PostgresStore.call 0 c s.2).1 = some r ∧
        ¬ AnswersAlike c (exec reference_env c s.1).1 r := by
  unfold refused_next at h
  split at h
  · next run rows k =>
    rw [Bool.and_eq_true] at h
    obtain ⟨hnew, hdiffer⟩ := h
    refine ⟨.create_run run rows, k, rfl, ?_, ?_⟩
    · intro run' rows' heq
      cases heq
      exact Option.isNone_iff_eq_none.mp hnew
    · split at hdiffer
      · next created e hmem hpg =>
        refine ⟨.error e, hpg, ?_⟩
        rw [hmem]
        exact fun halike => halike
      · cases hdiffer
  · cases h

/-- **The second run with an empty key is created in memory and refused by the database.** -/
theorem second_blank_key_refused :
    ∃ (w : World) (db : Database) (ts : List (M Unit)) (c : Call) (k : Except Exn c.Resp → M Unit),
      Mirrored reference_env reference_engine (singleton_registry (signature_workflow 1)) (w, db) ts ∧
      ts[1]? = some (.call c k) ∧ FreshRun w c ∧
      ∃ r, (PostgresStore.call 0 c db).1 = some r ∧ ¬ AnswersAlike c (exec reference_env c w).1 r := by
  have hreached := next_start_reached blank_start (by decide +kernel)
  have hrefused : refused_next (next_start blank_start).1 (next_start blank_start).2 = true := by
    decide +kernel
  obtain ⟨c, k, hnext, hfresh, hdiffer⟩ := refused_next_spec hrefused
  exact ⟨_, _, _, c, k, hreached, congrArg some hnext, hfresh, hdiffer⟩

/-- The next call passes the check, and reaches the database. -/
def allowed_next (p : M Unit) (s : World × Database) : Bool :=
  match p with
  | .call c _ => mirror_check c s && (PostgresStore.call 0 c s.2).1.isSome
  | _ => false

theorem allowed_next_spec {p : M Unit} {s : World × Database} (h : allowed_next p s = true) :
    ∃ (c : Call) (k : Except Exn c.Resp → M Unit), p = .call c k ∧ FreshRun s.1 c ∧
      KeysDistinct s.1.store c ∧ ∃ r, (PostgresStore.call 0 c s.2).1 = some r := by
  unfold allowed_next at h
  split at h
  · next c k =>
    rw [Bool.and_eq_true] at h
    exact ⟨c, k, rfl, fresh_of_check h.1, distinct_of_check h.1, Option.isSome_iff_exists.mp h.2⟩
  · cases h

theorem signature_names : DistinctNames (singleton_registry (signature_workflow 1)) := by
  intro name defn hlatest
  have hmem : defn ∈ [signature_workflow 1] := (latest_ok hlatest).1
  rw [List.mem_singleton.mp hmem]
  exact List.nodup_singleton _

/-- A run without a key beside the one with an empty key: both stores agree on it. -/
theorem keyless_start_alike :
    ∃ (w : World) (db : Database) (c : Call) (r : Except Exn c.Resp),
      w.store.runs.values.length = 1 ∧ Alike w.store db ∧
      (PostgresStore.call 0 c db).1 = some r ∧ AnswersAlike c (exec reference_env c w).1 r := by
  have hreached := next_start_reached plain_start (by decide +kernel)
  have hallowed : allowed_next (next_start plain_start).1 (next_start plain_start).2 = true := by
    decide +kernel
  obtain ⟨c, k, hnext, hfresh, hdistinct, r, hr⟩ := allowed_next_spec hallowed
  obtain ⟨halike, hanswers⟩ := stores_alike_while_keys_distinct signature_names hreached
  refine ⟨_, _, c, r, by decide +kernel, halike, hr, ?_⟩
  exact (hanswers 1 c k 0 r (congrArg some hnext) hfresh hr).mpr hdistinct

end blank_keys

end CaseAutomation.Orchestrator.StoreCalls
