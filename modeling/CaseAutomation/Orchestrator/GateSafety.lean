import CaseAutomation.Orchestrator.Calls
import CaseAutomation.Orchestrator.Invariants
import CaseAutomation.Orchestrator.Reference

/-! # No Handler Past an Unapproved Gate

    Every request, walked through call by call under interference: a thread
    always knows what `Guard` asks for. What it knows is stable: approvals and gate
    requests stay once they are there, and an id it drew is used by nobody else.
-/

namespace CaseAutomation.Orchestrator

open Framework Program Security

section walk
variable {env : Env} {engine : Engine} {registry : Registry} {name : String} {defn : WorkflowDef}
  {i : Nat}

/-- The invariant with its ghost component: every id drawn has an owner. -/
def Inv (env : Env) (registry : Registry) (name : String) (defn : WorkflowDef)
    (s : World × List Nat) : Prop :=
  Sound env registry name defn s.1 ∧ s.2.length = s.1.uuids

/-- The contract of thread `i`. -/
def contract (env : Env) (registry : Registry) (name : String) (defn : WorkflowDef) (i : Nat) :
    Contract Call Call.Resp Exn (World × List Nat) :=
  threadContract (ghosted (fun _ => faulty env) note_owner) (Inv env registry name defn)
    (Rely env) (Guard env name defn) i

/-! ## Rules for single calls -/

/-- One call of thread `i`, answered or failing. -/
theorem guarded_step {c : Call} {r : Except Exn c.Resp} {s s' : World × List Nat}
    (hinv : Inv env registry name defn s) (hg : Guard env name defn i c s)
    (hstep : ghosted (fun _ => faulty env) note_owner i c s r s') :
    Inv env registry name defn s' ∧ (∀ j, j ≠ i → Rely env j s s') ∧
      ((∀ gate, c ≠ .create_gate_request gate) → Rely env i s s') := by
  obtain ⟨w, owners⟩ := s
  obtain ⟨w', owners'⟩ := s'
  obtain ⟨hfaulty, hnote⟩ := hstep
  simp only at hfaulty hnote
  subst hnote
  rcases hfaulty.world with ⟨rfl, hfallible⟩ | rfl
  · -- the call was lost: an id cannot have been drawn
    have hsame : note_owner i c owners = owners := by
      cases c <;> first | rfl | cases hfallible
    rw [hsame]
    exact ⟨hinv, fun j _ => .refl _ _ _, fun _ => .refl _ _ _⟩
  · obtain ⟨hsound, hlen, hrely⟩ := hinv.1.step hinv.2 hg
    exact ⟨⟨hsound, hlen⟩, fun j hj => hrely j fun h => absurd h hj,
      fun hc => hrely i fun _ => hc⟩

/-- The rule for one call. -/
theorem yields_await {c : Call} {R : c.Resp → World × List Nat → Prop} {s : World × List Nat}
    (hguard : ∀ s', Rely env i s s' → Inv env registry name defn s' → Guard env name defn i c s')
    (hR : ∀ s' a s'', Rely env i s s' → Inv env registry name defn s' →
      exec env c s'.1 = (.ok a, s''.1) → s''.2 = note_owner i c s'.2 →
      ((∀ gate, c ≠ .create_gate_request gate) → Rely env i s' s'') → R a s'') :
    Yields (contract env registry name defn i) R (await c) s := by
  refine Yields.perform fun s' hrely hinv => ?_
  have hg := hguard s' hrely hinv
  refine ⟨hg, fun r s'' hstep => ?_⟩
  obtain ⟨hinv', hothers, hself⟩ := guarded_step hinv hg hstep
  refine ⟨hinv', hothers, fun a ha => ?_⟩
  subst ha
  exact hR s' a s'' hrely hinv hstep.1.ok hstep.2 hself

/-- Assertions that survive interference. -/
def Stable (env : Env) (i : Nat) (A : World × List Nat → Prop) : Prop :=
  ∀ s s', Rely env i s s' → A s → A s'

/-- Calls that need no guard and use up no id. -/
def Quiet : Call → Prop
  | .create_run _ _ => False
  | .update_step _ => False
  | .create_gate_request _ => False
  | .update_gate_request _ => False
  | .save_token _ => False
  | .advance_gate_step _ _ => False
  | .invoke _ _ _ => False
  | _ => True

theorem Quiet.guard {c : Call} (h : Quiet c) (s : World × List Nat) :
    Guard env name defn i c s := by
  cases c <;> trivial

theorem Quiet.not_create {c : Call} (h : Quiet c) (gate : GateRequest) :
    c ≠ .create_gate_request gate := by
  rintro rfl
  exact h

/-- A quiet call keeps every stable assertion. -/
theorem yields_quiet {c : Call} {A : World × List Nat → Prop} {s : World × List Nat}
    (hc : Quiet c) (hstable : Stable env i A) (hA : A s) :
    Yields (contract env registry name defn i) (fun _ s => A s) (await c) s :=
  yields_await (fun s' _ _ => hc.guard s') fun _ _ _ hrely _ _ _ hself =>
    hstable _ _ (hself hc.not_create) (hstable _ _ hrely hA)

/-- A program of quiet calls keeps every stable assertion. -/
theorem yields_all_quiet {α : Type} {p : M α} {A : World × List Nat → Prop}
    {s : World × List Nat} (hp : Issues Quiet p) (hstable : Stable env i A) (hA : A s) :
    Yields (contract env registry name defn i) (fun _ s => A s) p s := by
  refine Safe.weaken (Safe.of_issues (P := Quiet) (A := A) hstable ?_ hp hA)
    fun _ _ h _ _ => h
  intro c s hc hinv hs
  refine ⟨hc.guard s, fun r s' hstep => ?_⟩
  obtain ⟨hinv', hothers, hself⟩ := guarded_step hinv (hc.guard s) hstep
  exact ⟨hinv', hothers, hstable _ _ (hself hc.not_create) hs⟩

/-- The trivial assertion. -/
theorem stable_true : Stable env i fun _ => True := fun _ _ _ _ => trivial

theorem stable_and {A B : World × List Nat → Prop} (hA : Stable env i A) (hB : Stable env i B) :
    Stable env i fun s => A s ∧ B s :=
  fun s s' h hs => ⟨hA s s' h hs.1, hB s s' h hs.2⟩

/-- A gate request for this run and step is stored. -/
def GateStored (gate_id run_id step : String) (s : World × List Nat) : Prop :=
  ∃ gate, s.1.store.gates.get? gate_id = some gate ∧ gate.run_id = run_id ∧ gate.step = step

theorem stable_gate_stored (env : Env) (i : Nat) (gate_id run_id step : String) :
    Stable env i (GateStored gate_id run_id step) := by
  rintro s s' hrely ⟨gate, hgate, hrun, hstep⟩
  obtain ⟨gate', hgate', hsame⟩ := hrely.grows.gates _ _ hgate
  exact ⟨gate', hgate', hsame.run_id.trans hrun, hsame.step.trans hstep⟩

/-- An id drawn by this thread and not used yet. -/
def Drawn (env : Env) (i : Nat) (id : String) (s : World × List Nat) : Prop :=
  ∃ k : Nat, s.2[k]? = some i ∧ id = env.uuid k ∧ s.1.store.gates.get? id = none

theorem stable_drawn (id : String) : Stable env i (Drawn env i id) := by
  rintro s s' hrely ⟨k, hk, rfl, hnone⟩
  exact ⟨k, hrely.owners k i hk, rfl, hrely.mine k hk hnone⟩

/-- A freshly drawn id belongs to the thread, and no gate request uses it. -/
theorem yields_uuid4 {s : World × List Nat} :
    Yields (contract env registry name defn i) (fun id s => Drawn env i id s) (await .uuid4) s := by
  refine yields_await (fun _ _ _ => trivial) fun s' id s'' _ hinv hexec hnote _ => ?_
  obtain ⟨w', owners'⟩ := s'
  obtain ⟨w'', owners''⟩ := s''
  simp only [exec, Prod.mk.injEq, Except.ok.injEq] at hexec
  obtain ⟨rfl, rfl⟩ := hexec
  simp only [note_owner] at hnote
  subst hnote
  have hlen : owners'.length = w'.uuids := hinv.2
  refine ⟨w'.uuids, ?_, rfl, ?_⟩
  · show (owners' ++ [i])[w'.uuids]? = some i
    rw [← hlen]
    simp
  · -- every stored request has an id that was drawn earlier
    show w'.store.gates.get? (env.uuid w'.uuids) = none
    cases hget : w'.store.gates.get? (env.uuid w'.uuids) with
    | none => rfl
    | some gate =>
      obtain ⟨k, hk, hid⟩ := (hinv.1.store.gates _ _ hget).drawn
      have hlt : k < w'.uuids := hk
      have heq := env.uuid_injective hid
      omega

/-! ## The engine -/

/-- A token may be saved for a stored gate request. -/
theorem yields_issue_tokens (engine : Engine) (gate_id run_id step : String) (ttl : Int)
    (channels : List Channel) {s : World × List Nat} (h : GateStored gate_id run_id step s) :
    Yields (contract env registry name defn i) (fun _ _ => True)
      (engine.issue_tokens gate_id run_id step ttl channels) s := by
  induction channels generalizing s with
  | nil => exact Yields.ret trivial
  | cons channel rest ih =>
    have hstable := stable_gate_stored env i gate_id run_id step
    refine Yields.bind (yields_quiet trivial hstable h) fun token_id s₁ h₁ => ?_
    refine Yields.bind (yields_quiet trivial hstable h₁) fun now s₂ h₂ => ?_
    refine Yields.bind (P := fun _ s => GateStored gate_id run_id step s) ?_ fun _ s₃ h₃ => ih h₃
    refine yields_await (fun s' hrely _ => hstable _ _ hrely h₂) fun s' _ s'' hrely _ _ _ hself => ?_
    exact hstable _ _ (hself (by intro gate hc; cases hc)) (hstable _ _ hrely h₂)

/-- `_handle_gate` stores a request under an id of its own before it issues tokens. -/
theorem yields_handle_gate (engine : Engine) (run : WorkflowRun) (row : StepState)
    (cfg : GateConfig) {s : World × List Nat} :
    Yields (contract env registry name defn i) (fun _ _ => True)
      (engine.handle_gate run row cfg) s := by
  unfold Engine.handle_gate
  refine Yields.bind yields_uuid4 fun gate_id s₁ h₁ => ?_
  refine Yields.bind (yields_quiet trivial (stable_drawn gate_id) h₁) fun now s₂ h₂ => ?_
  refine Yields.bind (P := fun _ s => GateStored gate_id run.id row.step s) ?_ fun _ s₃ h₃ => ?_
  · refine yields_await (fun s' hrely _ => stable_drawn gate_id _ _ hrely h₂) ?_
    intro s' _ s'' _ _ hexec _ _
    -- the request just stored
    have hstore : s''.1 = s'.1.with_store (s'.1.store.put_gate
        (Engine.gate_request run.id row.step gate_id cfg now)) := (congrArg Prod.snd hexec).symm
    unfold GateStored
    rw [hstore]
    exact ⟨_, Dict.get?_set_self _ _ _, rfl, rfl⟩
  · refine Yields.bind (yields_issue_tokens engine gate_id run.id row.step _ _ h₃) fun _ s₄ _ => ?_
    refine Yields.bind (yields_quiet trivial stable_true trivial) fun _ s₅ _ => ?_
    exact yields_all_quiet (Engine.audit_issues engine _ _ _ _ fun _ => trivial) stable_true trivial

/-- A row of the run being executed, as far as writing it back is concerned. -/
structure OwnRow (row : StepState) : Prop where
  ok : RowOk row.run_id row
  not_gate : is_gate row.step = false

/-- Writing back a row of an application step. -/
theorem yields_update_step {A : World × List Nat → Prop} {row : StepState} {s : World × List Nat}
    (hrow : OwnRow row) (hstable : Stable env i A) (hA : A s) :
    Yields (contract env registry name defn i) (fun _ s => A s) (await (.update_step row)) s := by
  refine yields_await (fun _ _ _ => ⟨hrow.ok, hrow.not_gate⟩) fun s' _ s'' hrely _ _ _ hself => ?_
  exact hstable _ _ (hself (by intro gate hc; cases hc)) (hstable _ _ hrely hA)

/-- The `try` block of a step, when every gate before it is approved. -/
theorem yields_try_step (engine : Engine) (run_id : String) {row : StepState} (ctx : StepContext)
    (compensations : List Compensation) {A : World × List Nat → Prop} {s : World × List Nat}
    (hrow : OwnRow row) (hstable : Stable env i A) (hA : A s)
    (hinvoke : ∀ s' handler, A s' → Guard env name defn i (.invoke handler row.step ctx) s') :
    Yields (contract env registry name defn i)
      (fun done s => OwnRow done.row ∧ (∀ output, done.result = .ok output → A s))
      (engine.try_step defn run_id row ctx compensations) s := by
  unfold Engine.try_step
  cases defn.handlers row.step with
  | none => exact Yields.ret ⟨hrow, by intro output h; cases h⟩
  | some handler =>
    simp only
    refine Yields.bind (P := fun r s => ∀ a, r = .ok a → A s)
      (Yields.attempt (P := fun _ s => A s) ?_ fun r s' h => h) fun r s₁ h₁ => ?_
    · refine yields_await (fun s' hrely _ => hinvoke s' handler (hstable _ _ hrely hA)) ?_
      intro s' _ s'' hrely _ _ _ hself
      exact hstable _ _ (hself (by intro gate hc; cases hc)) (hstable _ _ hrely hA)
    cases r with
    | error e => exact Yields.ret ⟨hrow, by intro output h; cases h⟩
    | ok returned =>
      obtain ⟨returned, hooks⟩ := returned
      refine Yields.bind (P := fun r s => ∀ a, r = .ok a → A s)
        (Yields.attempt (P := fun _ s => A s) ?_ fun r s' h => h) fun r s₂ h₂ => ?_
      · exact Yields.bind (yields_quiet trivial hstable (h₁ _ rfl)) fun _ s' h' =>
          yields_quiet trivial hstable h'
      cases r with
      | error e => exact Yields.ret ⟨hrow, by intro output h; cases h⟩
      | ok u =>
        refine Yields.bind (yields_quiet trivial hstable (h₂ _ rfl)) fun now s₃ h₃ => ?_
        have hrow' : OwnRow (Engine.succeeded_row row (returned.getD []) now) :=
          ⟨⟨hrow.ok.of_run, hrow.ok.key⟩, hrow.not_gate⟩
        refine Yields.bind (P := fun r s => ∀ a, r = .ok a → A s)
          (Yields.attempt (P := fun _ s => A s) ?_ fun r s' h => h) fun r s₄ h₄ => ?_
        · refine Yields.bind (yields_update_step hrow' hstable h₃) fun _ s' h' => ?_
          refine Yields.bind (yields_all_quiet
            (Engine.audit_issues engine _ _ _ _ fun _ => trivial) hstable h') fun _ s'' h'' => ?_
          exact yields_quiet trivial hstable h''
        cases r with
        | error e => exact Yields.ret ⟨hrow', by intro output h; cases h⟩
        | ok u => exact Yields.ret ⟨hrow', fun _ _ => h₄ _ rfl⟩

/-- The `except` block of a step. The row can never be set back to `PENDING`, so the
    recursive call is not reached. -/
theorem yields_fail_step (engine : Engine) (again : M WorkflowRun) (run_id : String)
    {row : StepState} (compensations : List Compensation) (exn : Exn) {s : World × List Nat}
    (hrow : OwnRow row) :
    Yields (contract env registry name defn i) (fun _ _ => True)
      (engine.fail_step again run_id row compensations exn) s := by
  unfold Engine.fail_step
  refine Yields.bind (yields_quiet trivial stable_true trivial) fun now s₁ _ => ?_
  have hfailed : OwnRow (Engine.failed_row row (classify_error exn row.attempt) now) :=
    ⟨⟨hrow.ok.of_run, hrow.ok.key⟩, hrow.not_gate⟩
  refine Yields.bind (yields_update_step hfailed stable_true trivial) fun _ s₂ _ => ?_
  split
  · refine Yields.bind (P := fun _ _ => False) ?_ fun _ _ h => h.elim
    refine yields_await (fun _ _ _ => ⟨⟨hfailed.ok.of_run, hfailed.ok.key⟩, hfailed.not_gate⟩) ?_
    intro s' a s'' _ _ hexec _ _
    exact exec_pending rfl hexec
  · refine Yields.bind (yields_all_quiet (Engine.park_issues engine run_id _ _
      (fun _ => trivial) trivial fun _ => trivial) stable_true trivial) fun _ s₃ _ => ?_
    exact yields_all_quiet (Engine.reload_issues run_id trivial) stable_true trivial

/-- The gates that were done when the rows were read have approvals. -/
def GatesKnown (run_id : String) (rows : List StepState) (s : World × List Nat) : Prop :=
  ∀ row ∈ rows, is_gate row.step = true → Engine.step_done row.status = true →
    Approved s.1.store run_id row.step

theorem stable_gates_known (env : Env) (i : Nat) (run_id : String) (rows : List StepState) :
    Stable env i (GatesKnown run_id rows) :=
  fun _ _ hrely h row hrow hgate hdone => (h row hrow hgate hdone).mono hrely.grows

/-- When the loop has passed every row before `row`, its handler may be invoked. -/
theorem invoke_guard {run_id : String} {pre rest : List StepState}
    {row : StepState} {ctx : StepContext} {s : World × List Nat} (handler : Handler)
    (hctx : ctx.run_id = run_id) (hkey : ctx.idem_key = run_id ++ ":" ++ row.step)
    (hrows : RowsOk defn run_id (pre ++ row :: rest))
    (hpassed : ∀ r ∈ pre, is_gate r.step = true → Engine.step_done r.status = true)
    (hknown : GatesKnown run_id (pre ++ row :: rest) s) :
    Guard env name defn i (.invoke handler row.step ctx) s := by
  refine ⟨hctx ▸ hkey, fun hnodup m j gate hmj hj hm hgate => ?_⟩
  rw [hctx]
  obtain ⟨r, hmem, rfl⟩ := hrows.before hnodup hmj hj hm
  exact hknown r (List.mem_append_left _ hmem) hgate (hpassed r hmem hgate)

/-- The loop of `_execute`, after the rows `pre`. -/
theorem yields_execute_loop (engine : Engine) (again : M WorkflowRun) (run : WorkflowRun)
    (run_id : String) (rest : List StepState) :
    ∀ (pre : List StepState) (outputs : Dict String JsonObj) (compensations : List Compensation)
      (s : World × List Nat), RowsOk defn run_id (pre ++ rest) →
      (∀ r ∈ pre, is_gate r.step = true → Engine.step_done r.status = true) →
      GatesKnown run_id (pre ++ rest) s →
      Yields (contract env registry name defn i) (fun _ _ => True)
        (engine.execute_loop again run defn run_id rest outputs compensations) s := by
  induction rest with
  | nil =>
    intro pre outputs compensations s _ _ _
    refine Yields.bind (yields_quiet trivial stable_true trivial) fun _ s₁ _ => ?_
    refine Yields.bind (yields_all_quiet (Engine.audit_issues engine _ _ _ _ fun _ => trivial)
      stable_true trivial) fun _ s₂ _ => ?_
    exact yields_all_quiet (Engine.reload_issues run_id trivial) stable_true trivial
  | cons row rest ih =>
    intro pre outputs compensations s hrows hpassed hknown
    have hstable := stable_gates_known env i run_id (pre ++ row :: rest)
    -- once `row` is behind the loop
    have hnext : ∀ (outputs : Dict String JsonObj) (compensations : List Compensation)
        (s : World × List Nat), (is_gate row.step = true → Engine.step_done row.status = true) →
        GatesKnown run_id (pre ++ row :: rest) s →
        Yields (contract env registry name defn i) (fun _ _ => True)
          (engine.execute_loop again run defn run_id rest outputs compensations) s := by
      intro outputs compensations s hrow hs
      have happ : pre ++ row :: rest = (pre ++ [row]) ++ rest := by simp
      refine ih (pre ++ [row]) outputs compensations s (happ ▸ hrows) ?_ (happ ▸ hs)
      intro r hr
      rcases List.mem_append.mp hr with hr | hr
      · exact hpassed r hr
      · obtain rfl := List.mem_singleton.mp hr
        exact hrow
    unfold Engine.execute_loop
    by_cases hdone : Engine.step_done row.status = true
    · rw [if_pos hdone]
      exact hnext _ _ s (fun _ => hdone) hknown
    rw [if_neg hdone]
    by_cases hgate : is_gate row.step = true
    · rw [if_pos hgate]
      refine Yields.bind (yields_handle_gate engine run row _) fun _ s₁ _ => ?_
      exact yields_all_quiet (Engine.reload_issues run_id trivial) stable_true trivial
    rw [if_neg hgate]
    have hnot : is_gate row.step = true → Engine.step_done row.status = true :=
      fun h => absurd h hgate
    refine Yields.bind (yields_quiet trivial hstable hknown) fun found s₁ h₁ => ?_
    cases found with
    | some existing =>
      exact Yields.bind (yields_quiet trivial hstable h₁) fun _ s₂ h₂ => hnext _ _ s₂ hnot h₂
    | none =>
      refine Yields.bind (yields_quiet trivial hstable h₁) fun now s₂ h₂ => ?_
      have hok := hrows.ok row (List.mem_append_right _ List.mem_cons_self)
      have hown : OwnRow (Engine.running_row row now) := by
        refine ⟨⟨rfl, ?_⟩, Bool.eq_false_iff.mpr hgate⟩
        show row.idem_key = row.run_id ++ ":" ++ row.step
        rw [hok.of_run, hok.key]
      refine Yields.bind (yields_update_step hown hstable h₂) fun _ s₃ h₃ => ?_
      refine Yields.bind (yields_try_step engine run_id _ compensations hown hstable h₃
        fun s' handler hs' => ?_) fun done s₄ h₄ => ?_
      · show Guard env name defn i (.invoke handler row.step _) s'
        exact invoke_guard handler rfl hok.key hrows hpassed hs'
      · obtain ⟨hrow₄, hA₄⟩ := h₄
        obtain ⟨row₄, comps₄, result⟩ := done
        cases result with
        | ok output => exact hnext _ _ s₄ hnot (hA₄ output rfl)
        | error e => exact yields_fail_step engine again run_id comps₄ e hrow₄

/-- `_execute`. -/
theorem yields_execute_locked (engine : Engine) (again : M WorkflowRun) (run_id : String)
    (hlatest : get_workflow_latest registry name = .ok defn)
    {s : World × List Nat} :
    Yields (contract env registry name defn i) (fun _ _ => True)
      (engine.execute_locked again run_id) s := by
  unfold Engine.execute_locked
  -- every stored run is a run of this workflow
  have hread : ∀ {s : World × List Nat}, Yields (contract env registry name defn i)
      (fun found _ => ∀ run, found = some run → run.workflow = name) (await (.get_run run_id)) s := by
    intro s
    refine yields_await (fun _ _ _ => trivial) fun s' a s'' _ hinv hexec _ _ run hrun => ?_
    have hget : s'.1.store.runs.get? run_id = some run := by
      rw [hrun] at hexec
      exact Except.ok.inj (congrArg Prod.fst hexec)
    exact (hinv.1.store.runs _ _ hget).workflow
  refine Yields.bind hread fun found s₁ h₁ => ?_
  cases found with
  | none => exact Yields.raise
  | some run =>
    refine Yields.bind (P := fun run' _ => run'.workflow = name) ?_ fun run' s₂ h₂ => ?_
    · unfold Engine.begin_run
      split
      · refine Yields.bind (yields_quiet trivial stable_true trivial) fun _ s' _ => ?_
        refine Yields.bind hread fun found s'' h'' => ?_
        cases found with
        | none => exact Yields.raise
        | some run' => exact Yields.ret (h'' run' rfl)
      · exact Yields.ret (h₁ run rfl)
    refine Yields.bind (P := fun d _ => d = defn) ?_ fun d s₃ h₃ => ?_
    · refine yields_await (fun _ _ _ => trivial) fun s' a s'' _ hinv hexec _ _ => ?_
      have hget : get_workflow_latest s'.1.registry run'.workflow = .ok a :=
        congrArg Prod.fst hexec
      rw [hinv.1.registry, h₂, hlatest] at hget
      exact (Except.ok.inj hget).symm
    subst h₃
    refine Yields.bind (P := fun rows s => (rows = [] ∨ RowsOk d run_id rows) ∧
      GatesKnown run_id rows s) ?_ fun rows s₄ h₄ => ?_
    · refine yields_await (fun _ _ _ => trivial) fun s' a s'' _ hinv hexec _ hself => ?_
      have hrows : a = s'.1.store.get_steps run_id :=
        (Except.ok.inj (congrArg Prod.fst hexec)).symm
      subst hrows
      unfold RunStore.get_steps
      cases hget : s'.1.store.steps.get? run_id with
      | none => exact ⟨Or.inl rfl, by intro row hrow; cases hrow⟩
      | some rows =>
        refine ⟨Or.inr (hinv.1.store.rows _ _ hget), ?_⟩
        exact stable_gates_known env i run_id rows s' s'' (hself (by intro gate hc; cases hc))
          (hinv.1.store.gate_rows _ _ hget)
    obtain ⟨hrows, hknown⟩ := h₄
    rcases hrows with rfl | hrows
    · -- a run without rows: the loop ends at once
      refine Yields.bind (yields_quiet trivial stable_true trivial) fun _ s₅ _ => ?_
      refine Yields.bind (yields_all_quiet (Engine.audit_issues engine _ _ _ _ fun _ => trivial)
        stable_true trivial) fun _ s₆ _ => ?_
      exact yields_all_quiet (Engine.reload_issues run_id trivial) stable_true trivial
    · exact yields_execute_loop engine again run' run_id rows [] _ _ s₄ hrows
        (by intro r hr; cases hr) hknown

/-- `execute`. -/
theorem yields_execute (engine : Engine) (depth : Nat) (run_id : String)
    (hlatest : get_workflow_latest registry name = .ok defn)
    {s : World × List Nat} :
    Yields (contract env registry name defn i) (fun _ _ => True) (engine.execute depth run_id) s := by
  cases depth with
  | zero => exact Yields.raise
  | succ depth =>
    have hquiet : Quiet (.acquire run_id) := trivial
    refine Yields.bind (yields_quiet hquiet stable_true trivial) fun granted s₁ _ => ?_
    cases granted with
    | true =>
      refine Yields.tryFinally (yields_execute_locked engine _ run_id hlatest) ?_
      intro r s' _
      have hrelease : Quiet (.release run_id) := trivial
      exact (yields_quiet hrelease stable_true trivial).weaken fun _ _ _ _ _ => trivial
    | false =>
      refine Yields.bind (yields_quiet trivial stable_true trivial) fun found s₂ _ => ?_
      cases found with
      | none => exact Yields.raise
      | some run => exact Yields.ret trivial

/-! ## The recovery sweep and the trigger -/

theorem yields_sweep_runs (engine : Engine) (depth : Nat) (enqueue : Bool)
    (hlatest : get_workflow_latest registry name = .ok defn)
    (run_ids : List String) {s : World × List Nat} :
    Yields (contract env registry name defn i) (fun _ _ => True)
      (sweep_runs engine depth enqueue run_ids) s := by
  induction run_ids generalizing s with
  | nil => exact Yields.ret trivial
  | cons run_id rest ih =>
    have hget : Quiet (.get_run run_id) := trivial
    refine Yields.bind (yields_quiet hget stable_true trivial) fun found s₁ _ => ?_
    cases found with
    | none => exact ih
    | some run =>
      simp only
      split
      · exact ih
      · refine Yields.bind (P := fun _ _ => True) ?_ fun _ s₂ _ =>
          Yields.bind ih fun _ _ _ => Yields.ret trivial
        unfold sweep_run
        split
        · exact yields_quiet trivial stable_true trivial
        · refine Yields.bind (P := fun _ _ => True) (Yields.attempt
            (yields_execute engine depth run_id hlatest) fun _ _ _ => trivial) ?_
          intro r s' _
          cases r with
          | ok _ => exact Yields.ret trivial
          | error e => exact yields_quiet trivial stable_true trivial

theorem yields_start_run (args : StartArgs) (hname : args.workflow_name = name)
    (hlatest : get_workflow_latest registry name = .ok defn) {s : World × List Nat} :
    Yields (contract env registry name defn i) (fun _ _ => True) (start_run args) s := by
  unfold start_run
  refine Yields.bind (P := fun d _ => d = defn) ?_ fun d s₁ h₁ => ?_
  · refine yields_await (fun _ _ _ => trivial) fun s' a s'' _ hinv hexec _ _ => ?_
    have hget : get_workflow_latest s'.1.registry args.workflow_name = .ok a :=
      congrArg Prod.fst hexec
    rw [hinv.1.registry, hname, hlatest] at hget
    exact (Except.ok.inj hget).symm
  subst h₁
  refine Yields.bind (Yields.ofExcept (R := fun _ _ => True) fun _ _ => trivial) fun _ s₂ _ => ?_
  -- the instant is an earlier reading of the clock from now on
  let stamped : Time → World × List Nat → Prop := fun now s => ∃ k < s.1.clock, now = env.time k
  have hstable : ∀ now, Stable env i (stamped now) := by
    rintro now s s' hrely ⟨k, hk, hnow⟩
    exact ⟨k, Nat.lt_of_lt_of_le hk hrely.clock, hnow⟩
  refine Yields.bind (P := stamped) ?_ fun now s₃ h₃ => ?_
  · refine yields_await (fun _ _ _ => trivial) fun s' a s'' _ _ hexec _ _ => ?_
    simp only [exec, Prod.mk.injEq, Except.ok.injEq] at hexec
    obtain ⟨rfl, hw⟩ := hexec
    refine ⟨s'.1.clock, ?_, rfl⟩
    rw [← hw]
    exact Nat.lt_succ_self _
  refine Yields.bind (P := fun _ s => stamped now s) ?_ fun run_id s₄ h₄ => ?_
  · unfold StartArgs.choose_run_id
    split
    · exact Yields.ret h₃
    · exact yields_quiet trivial (hstable now) h₃
  refine yields_await (fun s' hrely _ => ?_) fun _ _ _ _ _ _ _ _ => trivial
  obtain ⟨k, hk, hnow⟩ := hstable now _ _ hrely h₄
  refine ⟨⟨rfl, hname, k, hk, hnow⟩, ⟨initial_rows_steps _ _ _, fun row hrow => ?_⟩,
    fun row hrow => ?_⟩
  · obtain ⟨step, seq, rfl⟩ := mem_initial_rows hrow
    exact ⟨rfl, rfl⟩
  · obtain ⟨step, seq, rfl⟩ := mem_initial_rows hrow
    rfl

/-! ## The resolver -/

/-- The gate request asks for what `gate` asked for. -/
def StillAsks (gate : GateRequest) (s : World × List Nat) : Prop :=
  ∃ gate', s.1.store.gates.get? gate.id = some gate' ∧ SameGate gate gate'

theorem stable_still_asks (env : Env) (i : Nat) (gate : GateRequest) : Stable env i (StillAsks gate) := by
  rintro s s' hrely ⟨gate', hgate', hsame⟩
  obtain ⟨gate'', hgate'', hsame'⟩ := hrely.grows.gates _ _ hgate'
  exact ⟨gate'', hgate'', hsame.trans hsame'⟩

theorem stable_decided (env : Env) (i : Nat) (d : ApprovalDecision) :
    Stable env i fun s => d ∈ s.1.store.decisions :=
  fun _ _ hrely h => hrely.grows.decisions d h

/-- Steps 7 to 9 of `resolve_gate`: the step is advanced only after an approval by the
    required role has been stored. -/
theorem yields_record_resolution (args : ResolveArgs) (payload : TokenPayload)
    {gate : GateRequest} {s : World × List Nat} (hid : gate.id = payload.gid)
    (hrun : gate.run_id = payload.rid) (hstep : gate.step = payload.step)
    (hactor : authorise_actor args.actor gate.required_role = .ok true) (hasks : StillAsks gate s) :
    Yields (contract env registry name defn i) (fun _ _ => True)
      (record_resolution args payload gate) s := by
  unfold record_resolution
  have hasks_stable := stable_still_asks env i gate
  refine Yields.bind (yields_quiet trivial hasks_stable hasks) fun decided_at s₁ h₁ => ?_
  have hstable := stable_and hasks_stable
    (stable_decided env i (args.approval_decision payload decided_at))
  refine Yields.bind (P := fun _ s => StillAsks gate s ∧
    args.approval_decision payload decided_at ∈ s.1.store.decisions) ?_ fun _ s₂ h₂ => ?_
  · refine yields_await (fun _ _ _ => trivial) fun s' _ s'' hrely _ hexec _ hself => ?_
    refine ⟨hasks_stable _ _ (hself (by intro g hc; cases hc)) (hasks_stable _ _ hrely h₁), ?_⟩
    have hw : s''.1 = s'.1.with_store (s'.1.store.save_approval_decision
        (args.approval_decision payload decided_at)) := (congrArg Prod.snd hexec).symm
    rw [hw]
    exact List.mem_append_right _ (List.mem_singleton.mpr rfl)
  refine Yields.bind (P := fun _ s => StillAsks gate s ∧
    args.approval_decision payload decided_at ∈ s.1.store.decisions) ?_ fun _ s₃ h₃ => ?_
  · refine yields_await (fun s' hrely _ => ?_) fun s' _ s'' hrely _ _ _ hself =>
      hstable _ _ (hself (by intro g hc; cases hc)) (hstable _ _ hrely h₂)
    obtain ⟨gate', hgate', hsame⟩ := (hstable _ _ hrely h₂).1
    exact ⟨gate', hgate', hsame.run_id.symm, hsame.step.symm, hsame.required_role.symm⟩
  refine Yields.bind (yields_all_quiet (maybe_audit_issues _ _ _ _ fun _ => trivial) hstable h₃)
    fun _ s₄ h₄ => ?_
  refine Yields.bind (yields_quiet trivial hstable h₄) fun _ s₅ h₅ => ?_
  refine Yields.bind (P := fun _ _ => True) ?_ fun _ _ _ => Yields.ret trivial
  unfold resume_step
  cases hdecision : args.decision with
  | reject => exact Yields.ret trivial
  | approve =>
    refine yields_await (fun s' hrely _ => ?_) fun _ _ _ _ _ _ _ _ => trivial
    obtain ⟨⟨gate', hgate', hsame⟩, hstored⟩ := hstable _ _ hrely h₅
    obtain ⟨heq, hrole⟩ := authorise_actor_true hactor
    rw [hid] at hgate'
    exact ⟨_, hstored, hdecision, rfl, rfl,
      ⟨gate', hgate', hsame.run_id.trans hrun, hsame.step.trans hstep,
        heq.trans hsame.required_role.symm⟩, hrole⟩

/-- `resolve_gate` with a token whose record is stored. -/
theorem yields_resolve_gate (crypto : Crypto) (args : ResolveArgs) {s : World × List Nat}
    (hinv : Inv env registry name defn s) (hauth : Authentic crypto s.1 args) :
    Yields (contract env registry name defn i) (fun _ _ => True) (resolve_gate crypto args) s := by
  unfold resolve_gate
  cases hverify : verify_token crypto args.raw_token args.signing_key with
  | error e => exact Yields.raise
  | ok verified =>
    cases verified with
    | error err =>
      exact Yields.bind (yields_all_quiet (maybe_audit_issues _ _ _ _ fun _ => trivial)
        stable_true trivial) fun _ _ _ => Yields.raise
    | ok payload =>
      -- the token was issued for a stored request of the same run and step
      have hstored : GateStored payload.gid payload.rid payload.step s := by
        obtain ⟨token, htoken, rfl⟩ := hauth payload hverify
        obtain ⟨id, hid⟩ := Dict.mem_values_iff.mp htoken
        exact hinv.1.store.tokens id token hid
      have hstable := stable_gate_stored env i payload.gid payload.rid payload.step
      simp only
      unfold use_token
      refine Yields.bind (yields_quiet trivial hstable hstored) fun now s₁ h₁ => ?_
      split
      · exact Yields.bind (yields_all_quiet (maybe_audit_issues _ _ _ _ fun _ => trivial)
          stable_true trivial) fun _ _ _ => Yields.raise
      refine Yields.bind (yields_quiet trivial hstable h₁) fun found s₂ h₂ => ?_
      cases found with
      | none => exact Yields.raise
      | some token =>
        refine Yields.bind (yields_quiet trivial hstable h₂) fun used_at s₃ h₃ => ?_
        have hmark : Quiet (.mark_token_used payload.tid used_at) := trivial
        refine Yields.bind (yields_quiet hmark hstable h₃) fun first_use s₄ h₄ => ?_
        cases first_use with
        | false =>
          exact Yields.bind (yields_all_quiet (maybe_audit_issues _ _ _ _ fun _ => trivial)
            stable_true trivial) fun _ _ _ => Yields.raise
        | true =>
          simp only [if_true]
          unfold check_gate
          refine Yields.bind (P := fun found s => ∀ gate, found = some gate →
            gate.id = payload.gid ∧ gate.run_id = payload.rid ∧ gate.step = payload.step ∧
            StillAsks gate s) ?_ fun found s₅ h₅ => ?_
          · refine yields_await (fun _ _ _ => trivial)
              fun s' a s'' hrely hinv' hexec _ hself gate hgate => ?_
            have hget : s'.1.store.gates.get? payload.gid = some gate := by
              rw [hgate] at hexec
              exact Except.ok.inj (congrArg Prod.fst hexec)
            have hkeyed : gate.id = payload.gid := (hinv'.1.store.gates _ _ hget).keyed
            obtain ⟨gate', hget', hrun, hstep⟩ := hstable _ _ hrely h₄
            obtain rfl : gate = gate' := Option.some.inj (hget.symm.trans hget')
            refine ⟨hkeyed, hrun, hstep, stable_still_asks env i gate s' s''
              (hself (by intro g hc; cases hc)) ⟨gate, hkeyed ▸ hget, .refl gate⟩⟩
          cases found with
          | none => exact Yields.raise
          | some gate =>
            obtain ⟨hid, hrun, hstep, hasks⟩ := h₅ gate rfl
            simp only
            split
            · exact Yields.raise
            cases hactor : authorise_actor args.actor gate.required_role with
            | error e => exact Yields.raise
            | ok allowed =>
              cases allowed with
              | false =>
                exact Yields.bind (yields_all_quiet (maybe_audit_issues _ _ _ _ fun _ => trivial)
                  stable_true trivial) fun _ _ _ => Yields.raise
              | true => exact yields_record_resolution args payload hid hrun hstep hactor hasks

/-! ## Every interleaving -/

/-- Every admitted request is safe where it starts. -/
theorem safe_request (engine : Engine) {q : Request} {s : World × List Nat}
    (hlatest : get_workflow_latest registry name = .ok defn)
    (hinv : Inv env registry name defn s) (hq : Admitted engine.crypto name s.1 q) :
    Safe (contract env registry name defn i) (fun _ _ => True) (q.program engine) s := by
  cases hq with
  | start_run hname => exact (yields_start_run _ hname hlatest).discard
  | execute depth run_id => exact (yields_execute engine depth run_id hlatest).discard
  | recovery_sweep depth enqueue =>
    refine Yields.discard (R := fun _ _ => True) (Yields.bind (P := fun _ _ => True) ?_
      fun ids _ _ => yields_sweep_runs engine depth enqueue hlatest ids)
    exact yields_quiet trivial stable_true trivial
  | resolve_gate hauth => exact (yields_resolve_gate _ _ hinv hauth).discard
  | update_run_status run_id status =>
    exact Safe.weaken (yields_quiet (c := .update_run_status run_id status none none) trivial
      stable_true trivial) fun _ _ _ => trivial

end walk

section interleavings
variable {env : Env} {engine : Engine} {registry : Registry} {name : String} {defn : WorkflowDef}
  {w : World} {ts : List (M Unit)}

theorem sound_fresh (idem : IdemStore) (lock : Option (List String)) :
    Sound env registry name defn (World.fresh idem lock registry) := by
  refine ⟨rfl, ?_, ?_, ?_, ?_, ?_, ?_⟩ <;> intro _ _ h <;> cases h

/-- The run rule, instantiated: every reachable world is sound, and every thread safe. -/
theorem Interleaved.threads (hlatest : get_workflow_latest registry name = .ok defn)
    (h : Interleaved env engine registry name w ts) :
    ∃ owners, Inv env registry name defn (w, owners) ∧ ∀ i p, ts[i]? = some p →
      Safe (contract env registry name defn i) (fun _ _ => True) p (w, owners) := by
  obtain ⟨owners, hpool⟩ := Pool.with_ghost note_owner [] h
  refine ⟨owners, Pool.safe (G := Guard env name defn) (Rely.refl env)
    (fun _ => Rely.trans) ?_ ?_ ?_ hpool⟩
  · rintro s ⟨⟨idem, lock, hw⟩, howners⟩
    obtain ⟨w, owners⟩ := s
    simp only at hw howners
    subst hw howners
    exact ⟨sound_fresh idem lock, rfl⟩
  · rintro s p hinv ⟨q, hq, rfl⟩ i
    exact safe_request engine hlatest hinv hq
  · rintro ⟨w, owners⟩ ⟨w', owners'⟩ hinv ⟨hexpiry, howners⟩
    simp only at hexpiry howners
    subst howners
    obtain ⟨held, held', -, -, rfl⟩ := hexpiry
    refine ⟨⟨⟨hinv.1.registry, hinv.1.store⟩, hinv.2⟩, fun i => ?_⟩
    exact ⟨.refl _, Nat.le_refl _, fun _ _ h => h, fun _ _ h => h⟩

/-- A handler is invoked under the idempotency key of its run and step. -/
theorem Interleaved.invoke_key (hlatest : get_workflow_latest registry name = .ok defn)
    (h : Interleaved env engine registry name w ts) {t : Nat} {handler : Handler} {step : String}
    {ctx : StepContext} {k : Except Exn (Option JsonObj × List Compensation) → M Unit}
    (ht : ts[t]? = some (.call (.invoke handler step ctx) k)) :
    ctx.idem_key = ctx.run_id ++ ":" ++ step := by
  obtain ⟨owners, hthreads⟩ := h.threads hlatest
  exact (Pool.guard_holds (G := Guard env name defn) (Rely.refl env) hthreads ht).1

/-- Every reachable world is sound. -/
theorem Interleaved.sound (hlatest : get_workflow_latest registry name = .ok defn)
    (h : Interleaved env engine registry name w ts) :
    Sound env registry name defn w := by
  obtain ⟨owners, hinv, -⟩ := h.threads hlatest
  exact hinv.1

/-- **No handler past an unapproved gate.** In every interleaving of requests on the runs of
    a workflow with distinct step names, whenever a thread is about to invoke the handler of
    step `j`, every gate step before `j` has a stored approval for that run: by the role its
    gate request requires, and that role may approve gates. -/
theorem gates_approved_before_invoke (hlatest : get_workflow_latest registry name = .ok defn)
    (hnodup : defn.steps.Nodup) (h : Interleaved env engine registry name w ts)
    {t : Nat} {p : M Unit} {run_id step : String} (ht : ts[t]? = some p)
    (hinvoke : invoking p = some (run_id, step))
    {i j : Nat} {gate : String} (hij : i < j) (hj : defn.steps[j]? = some step)
    (hi : defn.steps[i]? = some gate) (hgate : is_gate gate = true) :
    ∃ d ∈ w.store.decisions, d.decision = .approve ∧ d.run_id = run_id ∧ d.step = gate ∧
      (∃ request, w.store.gates.get? d.gate_request_id = some request ∧
        d.actor = request.required_role) ∧
      ∃ role, Role.parse d.actor = some role ∧ Permission.GATE_APPROVE ∈ grants role := by
  obtain ⟨owners, hthreads⟩ := h.threads hlatest
  obtain ⟨handler, ctx, k, rfl, hrun⟩ := invoking_eq_some hinvoke
  have hguard := Pool.guard_holds (G := Guard env name defn) (Rely.refl env) hthreads ht
  obtain ⟨d, hd⟩ := hguard.2 hnodup i j gate hij hj hi hgate
  obtain ⟨request, hrequest, -, -, hactor⟩ := hd.by_required_role
  exact ⟨d, hd.stored, hd.approves, hd.of_run.trans hrun, hd.of_step,
    ⟨request, hrequest, hactor⟩, hd.may_approve⟩

end interleavings

/-! ## A reviewed run

    A workflow with one gate: started, executed up to the gate, approved by an attorney
    with the first token, and executed again up to the handler behind the gate. -/

section reviewed

def reviewed_workflow : WorkflowDef :=
  plain_workflow ["draft", "GATE:review", "send"] (by decide) (fun _ _ _ => .returned none [])
    fun _ => none

def reviewed_start : World :=
  World.fresh (.in_memory ∅) none (singleton_registry reviewed_workflow)

def reviewed_waiting : World :=
  (reviewed_start.serve reference_env reference_engine (.start_run plain_start)).serve
    reference_env reference_engine (.execute 1 "id-0")

def reviewed_approval : ResolveArgs := resolve_with (first_token reviewed_waiting) .approve "attorney"

/-- The world after the approval; the signature check is replaced by its outcome. -/
def reviewed_approved : World :=
  ((use_token reviewed_approval (first_token reviewed_waiting).payload).discard.run
    (exec reference_env) reviewed_waiting).2

/-- The handler of `send` is next after seven calls of `execute`. -/
def reviewed_send : M Unit × World :=
  Program.after (exec reference_env) 7 ((reference_engine.execute 1 "id-0").discard)
    reviewed_approved

theorem reviewed_reachable :
    ∃ ts, Interleaved reference_env reference_engine (singleton_registry reviewed_workflow) "plain"
      reviewed_send.2 (ts ++ [reviewed_send.1]) := by
  have hboot : Interleaved reference_env reference_engine (singleton_registry reviewed_workflow)
      "plain" reviewed_start [] := .boot ⟨_, _, rfl⟩
  obtain ⟨ts₁, h₁⟩ := hboot.serve (q := .start_run plain_start) (.start_run rfl)
  obtain ⟨ts₂, h₂⟩ : ∃ ts, Interleaved reference_env reference_engine
      (singleton_registry reviewed_workflow) "plain" reviewed_waiting ts :=
    h₁.serve (.execute 1 "id-0")
  have hauth : Authentic reference_crypto reviewed_waiting reviewed_approval :=
    authentic_resolve_with .approve "attorney" (first_token_mem (by decide +kernel))
  obtain ⟨ts₃, h₃⟩ := h₂.serve (.resolve_gate hauth)
  have happroved : reviewed_waiting.serve reference_env reference_engine
      (.resolve_gate reviewed_approval) = reviewed_approved := serve_resolve_with _ _ _ _ _
  rw [happroved] at h₃
  exact ⟨ts₃, h₃.serve_calls 7 (.execute 1 "id-0")⟩

/-- The guarantee at work: `send` is about to run, and the review has been approved. -/
theorem reviewed_send_approved :
    ∃ d ∈ reviewed_send.2.store.decisions, d.decision = .approve ∧ d.run_id = "id-0" ∧
      d.step = "GATE:review" ∧
      (∃ request, reviewed_send.2.store.gates.get? d.gate_request_id = some request ∧
        d.actor = request.required_role) ∧
      ∃ role, Role.parse d.actor = some role ∧ Permission.GATE_APPROVE ∈ grants role := by
  obtain ⟨ts, hreach⟩ := reviewed_reachable
  exact gates_approved_before_invoke (t := ts.length) (i := 1) (j := 2)
    (latest_singleton reviewed_workflow) (by decide) hreach (by simp)
    (show invoking reviewed_send.1 = some ("id-0", "send") by decide +kernel) (by decide) rfl rfl
    (by decide)

end reviewed

end CaseAutomation.Orchestrator
