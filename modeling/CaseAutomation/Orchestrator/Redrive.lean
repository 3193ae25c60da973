import CaseAutomation.Orchestrator.Compensation
import CaseAutomation.Orchestrator.Walk

/-! # Re-Drives after Compensation

    When a run parks, the hooks of its succeeded steps are called, but their rows stay
    `SUCCEEDED`: the status `COMPENSATED` is in the transition table and nothing ever writes it.
    A re-driven pass skips such a row as completed, so the handler whose effect was
    undone is not invoked again.

    The histories are sequential, with failing calls and crashes; run ids are
    fresh, as every caller of `start_run` draws them with `uuid4`.
-/

namespace CaseAutomation.Orchestrator

open Framework Program

/-- Faulty calls, in which a run is never created over another one. -/
def minted (env : Env) : Relation Call Call.Resp Exn World := fun c w r w' =>
  faulty env c w r w' ∧
    ∀ run rows, c = .create_run run rows → w.store.runs.get? run.id = none

/-- `fn` undoes the step: the handler of the step has registered it, and the step has succeeded. -/
structure Undoes (run_id step : String) (fn : Compensation) (before : List Event) : Prop where
  registered : ∃ ctx output hooks,
    Event.invoked run_id step ctx (.returned output hooks) ∈ before ∧ fn ∈ hooks
  succeeded : Event.step_updated run_id step .SUCCEEDED ∈ before

/-- The effect of the step has been undone by a hook, and `post` is what happened since. -/
def Undone (run_id step : String) (trace post : List Event) : Prop :=
  ∃ pre fn, trace = pre ++ .compensated run_id fn :: post ∧ Undoes run_id step fn pre

/-- Every step whose effect was undone has had its handler invoked again since. -/
def Redone (run_id : String) (trace : List Event) : Prop :=
  ∀ step post, Undone run_id step trace post →
    ∃ ctx result, Event.invoked run_id step ctx result ∈ post

/-! ## The status of a step -/

/-- The status of the first row of that name. -/
def row_status (s : RunStore) (run_id step : String) : Option StepStatus :=
  ((s.get_steps run_id).find? fun row => row.step = step).map StepState.status

section rows
variable {s : RunStore} {run_id step : String} {row row' : StepState} {pre post : List StepState}

theorem find_first (hpre : ∀ r ∈ pre, r.step ≠ step) (hrow : row.step = step) :
    (pre ++ row :: post).find? (fun r => r.step = step) = some row := by
  rw [List.find?_append, List.find?_eq_none.mpr (by simpa using hpre)]
  simp [hrow]

theorem find_other {name : String} (hname : name ≠ step) (hrow : row.step = step)
    (hrow' : row'.step = step) :
    (pre ++ row' :: post).find? (fun r => r.step = name) =
      (pre ++ row :: post).find? (fun r => r.step = name) := by
  have hne : ¬ row.step = name := fun h => hname (h.symm.trans hrow)
  have hne' : ¬ row'.step = name := fun h => hname (h.symm.trans hrow')
  simp [List.find?_append, hne, hne']

/-- The first row of that name had this status. -/
theorem row_status_of (hget : s.steps.get? run_id = some (pre ++ row :: post))
    (hpre : ∀ r ∈ pre, r.step ≠ step) (hrow : row.step = step) :
    row_status s run_id step = some row.status := by
  rw [row_status, RunStore.get_steps_eq hget, find_first hpre hrow]
  rfl

/-- Replacing the first row of that name gives it the new status. -/
theorem row_status_replace (s : RunStore) (run_id : String) (hpre : ∀ r ∈ pre, r.step ≠ step)
    (hrow' : row'.step = step) :
    row_status { s with steps := s.steps.set run_id (pre ++ row' :: post) } run_id step =
      some row'.status := by
  rw [row_status, RunStore.get_steps_set_self, find_first hpre hrow']
  rfl

/-- Other steps keep theirs. -/
theorem row_status_elsewhere {id name : String}
    (hget : s.steps.get? run_id = some (pre ++ row :: post)) (hrow : row.step = step)
    (hrow' : row'.step = step) (hother : ¬ (id = run_id ∧ name = step)) :
    row_status { s with steps := s.steps.set run_id (pre ++ row' :: post) } id name =
      row_status s id name := by
  unfold row_status
  by_cases hid : id = run_id
  · subst hid
    have hname : name ≠ step := fun h => hother ⟨rfl, h⟩
    rw [RunStore.get_steps_set_self, RunStore.get_steps_eq hget, find_other hname hrow hrow']
  · rw [RunStore.get_steps_set_ne s _ hid]

end rows

/-! ## The invariant -/

/-- Rows belong to runs, steps that succeeded stay so, and their handlers are not invoked again. -/
structure Completed (w : World) : Prop where
  owned : ∀ id rows, w.store.steps.get? id = some rows → ∃ run, w.store.runs.get? id = some run
  rows : ∀ id rows, w.store.steps.get? id = some rows → ∀ row ∈ rows, row.run_id = id
  kept : ∀ run_id step, Event.step_updated run_id step .SUCCEEDED ∈ w.trace →
    row_status w.store run_id step = some .SUCCEEDED
  quiet : ∀ run_id step pre post, w.trace = pre ++ post →
    Event.step_updated run_id step .SUCCEEDED ∈ pre →
    ∀ ctx result, Event.invoked run_id step ctx result ∉ post

/-- A handler is invoked for a row that is running, and no row is marked compensated. -/
def completed_guard : Call → World → Prop
  | .invoke _ step ctx, w => row_status w.store ctx.run_id step = some .RUNNING
  | .update_step row, _ => row.status ≠ .COMPENSATED
  | .create_run run rows, _ => ∀ row ∈ rows, row.run_id = run.id
  | _, _ => True

/-- One program at a time; only locks expire in between. -/
def completed_contract (env : Env) : Contract Call Call.Resp Exn World where
  step := minted env
  inv := Completed
  rely := fun w w' => w'.store = w.store ∧ w'.trace = w.trace
  guar := fun _ _ => True
  guard := completed_guard

section proof
variable {env : Env} {c : Call} {w w' : World} {r : Except Exn c.Resp}

/-- A row that succeeded can only be marked compensated. -/
theorem succeeded_kept {row step : StepState}
    (hlegal : is_legal_step_transition row.status step.status = true)
    (hguard : step.status ≠ .COMPENSATED) : row.status ≠ .SUCCEEDED := by
  intro hrow
  rw [hrow] at hlegal
  cases hstatus : step.status with
  | COMPENSATED => exact hguard hstatus
  | _ => rw [hstatus] at hlegal; cases hlegal

/-- Writing a run loses none. -/
theorem Completed.owned_set (h : Completed w) {run_id id : String} (run : WorkflowRun)
    {rows : List StepState} (hrows : w.store.steps.get? id = some rows) :
    ∃ found, (w.store.runs.set run_id run).get? id = some found := by
  by_cases hid : id = run_id
  · rw [hid]
    exact ⟨run, Dict.get?_set_self _ _ _⟩
  · rw [Dict.get?_set_ne _ _ hid]
    exact h.owned id rows hrows

/-- What a guarded call does to the rows. -/
theorem Completed.store (env : Env) (h : Completed w) (hguard : completed_guard c w)
    (hfresh : ∀ run rows, c = .create_run run rows → w.store.runs.get? run.id = none) :
    (∀ id rows, (exec env c w).2.store.steps.get? id = some rows →
      (∃ run, (exec env c w).2.store.runs.get? id = some run) ∧ ∀ row ∈ rows, row.run_id = id) ∧
    ∀ run_id step, row_status w.store run_id step = some .SUCCEEDED →
      row_status (exec env c w).2.store run_id step = some .SUCCEEDED := by
  have hchange := exec_store_change env c w
  generalize (exec env c w).2.store = store at hchange
  generalize (exec env c w).2.clock = clock at hchange
  cases hchange with
  | created run rows dedupe hmiss =>
    have hnew := hfresh run rows rfl
    refine ⟨?_, ?_⟩
    · intro id found hfound
      rcases Dict.get?_set_cases hfound with ⟨rfl, rfl⟩ | ⟨hid, hold⟩
      · exact ⟨⟨run, Dict.get?_set_self _ _ _⟩, hguard⟩
      · obtain ⟨run', hrun'⟩ := h.owned id found hold
        refine ⟨⟨run', ?_⟩, h.rows id found hold⟩
        rw [Dict.get?_set_ne _ _ hid]
        exact hrun'
    · intro run_id step hstatus
      -- a run that has rows is not the new one
      have hid : run_id ≠ run.id := by
        rintro rfl
        cases hrows : w.store.steps.get? run.id with
        | none =>
          rw [row_status, RunStore.get_steps, hrows] at hstatus
          cases hstatus
        | some found =>
          obtain ⟨run', hrun'⟩ := h.owned run.id found hrows
          rw [hnew] at hrun'
          cases hrun'
      have hsame : RunStore.get_steps { w.store with
          runs := w.store.runs.set run.id run, steps := w.store.steps.set run.id rows,
          dedupe := dedupe } run_id = w.store.get_steps run_id := RunStore.get_steps_set_ne w.store rows hid
      rw [row_status, hsame]
      exact hstatus
  | @status run_id status cur err run hget _ =>
    exact ⟨fun id rows hrows => ⟨h.owned_set _ hrows, h.rows id rows hrows⟩,
      fun _ _ hstatus => hstatus⟩
  | @current run_id step run hget =>
    exact ⟨fun id rows hrows => ⟨h.owned_set _ hrows, h.rows id rows hrows⟩,
      fun _ _ hstatus => hstatus⟩
  | @advanced run_id step row pre post hget hpre hrow =>
    refine ⟨?_, ?_⟩
    · intro id rows hrows
      rcases Dict.get?_set_cases hrows with ⟨rfl, rfl⟩ | ⟨-, hold⟩
      · refine ⟨h.owned id _ hget, ?_⟩
        intro r hr
        rcases mem_replace hr with rfl | hr
        · exact h.rows id _ hget row (by simp)
        · exact h.rows id _ hget r hr
      · exact ⟨h.owned id rows hold, h.rows id rows hold⟩
    · intro id name hstatus
      by_cases hself : id = run_id ∧ name = step
      · obtain ⟨rfl, rfl⟩ := hself
        exact row_status_replace w.store id hpre hrow
      · rw [row_status_elsewhere hget hrow (by exact hrow) hself]
        exact hstatus
  | @updated step row pre post hget hpre hrow hlegal =>
    refine ⟨?_, ?_⟩
    · intro id rows hrows
      rcases Dict.get?_set_cases hrows with ⟨rfl, rfl⟩ | ⟨-, hold⟩
      · refine ⟨h.owned _ _ hget, ?_⟩
        intro r hr
        rcases mem_replace hr with rfl | hr
        · rfl
        · exact h.rows _ _ hget r hr
      · exact ⟨h.owned id rows hold, h.rows id rows hold⟩
    · intro id name hstatus
      by_cases hself : id = step.run_id ∧ name = step.step
      · obtain ⟨rfl, rfl⟩ := hself
        rw [row_status_of hget hpre hrow] at hstatus
        exact absurd (Option.some.inj hstatus) (succeeded_kept hlegal hguard)
      · rw [row_status_elsewhere hget hrow rfl hself]
        exact hstatus
  | _ => exact ⟨fun id rows hrows => ⟨h.owned id rows hrows, h.rows id rows hrows⟩,
      fun _ _ hstatus => hstatus⟩

/-- A row is reported as succeeded when it has been written so. -/
theorem succeeded_event {run_id step : String}
    (hmem : Event.step_updated run_id step .SUCCEEDED ∈ c.events w) :
    row_status (exec env c w).2.store run_id step = some .SUCCEEDED := by
  cases c with
  | update_step row =>
    cases hupdate : w.store.update_step row with
    | error e =>
      simp only [Call.events, hupdate, List.not_mem_nil] at hmem
    | ok s =>
      simp only [Call.events, hupdate, List.mem_singleton, Event.step_updated.injEq] at hmem
      obtain ⟨rfl, rfl, hstatus⟩ := hmem
      obtain ⟨pre, old, post, -, hpre, -, -, rfl⟩ := RunStore.update_step_ok hupdate
      simp only [exec, hupdate]
      rw [hstatus]
      exact row_status_replace w.store row.run_id hpre rfl
  | _ => simp [Call.events] at hmem

/-- Only `invoke` leaves an invocation in the trace. -/
theorem invoked_event {run_id step : String} {ctx : StepContext} {result : HandlerResult}
    (hguard : completed_guard c w) (hmem : Event.invoked run_id step ctx result ∈ c.events w) :
    row_status w.store run_id step = some .RUNNING ∧
      c.events w = [.invoked run_id step ctx result] := by
  cases c with
  | invoke handler step' ctx' =>
    simp only [Call.events, List.mem_singleton] at hmem ⊢
    rw [hmem]
    cases hmem
    exact ⟨hguard, rfl⟩
  | update_step row =>
    cases hupdate : w.store.update_step row with
    | error e => simp [Call.events, hupdate] at hmem
    | ok s => simp [Call.events, hupdate] at hmem
  | _ => simp [Call.events] at hmem

/-- **Step lemma.** -/
theorem Completed.step (h : Completed w) (hguard : completed_guard c w) (hstep : minted env c w r w') :
    Completed w' := by
  obtain ⟨hfaulty, hfresh⟩ := hstep
  rcases hfaulty.world with ⟨rfl, -⟩ | rfl
  · exact h
  obtain ⟨hrows, hstatus⟩ := h.store env hguard hfresh
  refine ⟨fun id rows hget => (hrows id rows hget).1, fun id rows hget => (hrows id rows hget).2,
    ?_, ?_⟩
  · intro run_id step hmem
    rw [exec_trace, List.mem_append] at hmem
    rcases hmem with hold | hnew
    · exact hstatus run_id step (h.kept run_id step hold)
    · exact succeeded_event hnew
  · intro run_id step pre post htrace hpre ctx result hpost
    rw [exec_trace] at htrace
    have hnot : Event.step_updated run_id step .SUCCEEDED ∈ w.trace →
        Event.invoked run_id step ctx result ∉ c.events w := by
      intro hold hnew
      have hsucceeded := h.kept run_id step hold
      rw [(invoked_event hguard hnew).1] at hsucceeded
      cases hsucceeded
    rcases List.append_eq_append_iff.mp htrace with ⟨tail, rfl, htail⟩ | ⟨tail, htail, rfl⟩
    · -- the invocation is new, and so it is the only event of this call
      have hnew : Event.invoked run_id step ctx result ∈ c.events w := by
        rw [htail]
        exact List.mem_append_right _ hpost
      rcases List.mem_append.mp hpre with hold | hother
      · exact hnot hold hnew
      · have hmem : Event.step_updated run_id step .SUCCEEDED ∈ c.events w := by
          rw [htail]
          exact List.mem_append_left _ hother
        rw [(invoked_event hguard hnew).2, List.mem_singleton] at hmem
        cases hmem
    · rcases List.mem_append.mp hpost with hold | hnew
      · exact h.quiet run_id step pre tail htail hpre ctx result hold
      · refine hnot ?_ hnew
        rw [htail]
        exact List.mem_append_left _ hpre

/-! ## The walk through the programs -/

/-- Calls that need no guard. -/
def unguarded : Call → Bool
  | .invoke _ _ _ => false
  | .update_step row => !decide (row.status = .COMPENSATED)
  | .create_run _ _ => false
  | _ => true

theorem unguarded_free (hc : unguarded c = true) : Free (completed_contract env) c := by
  intro w hinv
  have hguard : completed_guard c w := by
    cases c with
    | invoke handler step ctx => cases hc
    | create_run run rows => cases hc
    | update_step row =>
      show row.status ≠ .COMPENSATED
      simpa [unguarded] using hc
    | _ => trivial
  refine ⟨hguard, ?_⟩
  intro r w' hstep
  exact ⟨hinv.step hguard hstep, trivial⟩

theorem completed_lenient (env : Env) : Lenient (completed_contract env) where
  plain := by
    intro c hc
    apply unguarded_free
    cases c <;> first | rfl | cases hc
  parked := fun _ _ => unguarded_free rfl
  no_reset := by
    intro row w a w' hrow hstep
    exact exec_pending hrow hstep.1.ok

theorem completed_walk {α : Type} {p : M α} (hp : Issues (fun c => unguarded c = true) p)
    (w : World) : Yields (completed_contract env) (fun _ _ => True) p w :=
  walk_free (hp.mono fun _ hc => unguarded_free hc) w

/-- Marking a row running lets its handler run. -/
theorem completed_running {row : StepState} (hrow : row.status = .RUNNING) (w : World) :
    Yields (completed_contract env)
      (fun _ w' => row_status w'.store row.run_id row.step = some .RUNNING)
      (await (.update_step row)) w := by
  apply Yields.perform
  intro w₁ _ hinv
  have hguard : completed_guard (.update_step row) w₁ := by
    show row.status ≠ .COMPENSATED
    rw [hrow]
    decide
  refine ⟨hguard, ?_⟩
  intro r w₂ hstep
  refine ⟨hinv.step hguard hstep, trivial, ?_⟩
  rintro a rfl
  have hcall := hstep.1.ok
  cases hupdate : w₁.store.update_step row with
  | error e =>
    simp only [exec, hupdate] at hcall
    cases hcall
  | ok s =>
    simp only [exec, hupdate, Prod.mk.injEq] at hcall
    obtain ⟨-, rfl⟩ := hcall
    obtain ⟨pre, old, post, -, hpre, -, -, rfl⟩ := RunStore.update_step_ok hupdate
    have hstatus : row_status { w₁.store with
        steps := w₁.store.steps.set row.run_id (pre ++ row :: post) } row.run_id row.step =
        some row.status := row_status_replace w₁.store row.run_id hpre rfl
    rw [hrow] at hstatus
    exact hstatus

/-- The `try` block of a step whose row is running. -/
theorem completed_try_step (engine : Engine) (defn : WorkflowDef) (run_id : String)
    (row : StepState) (ctx : StepContext) (compensations : List Compensation)
    (hrunning : row_status w.store ctx.run_id row.step = some .RUNNING) :
    Yields (completed_contract env) (fun _ _ => True)
      (engine.try_step defn run_id row ctx compensations) w := by
  unfold Engine.try_step
  cases defn.handlers row.step with
  | none => exact Yields.ret trivial
  | some handler =>
    have hinvoke : Safe (completed_contract env) (fun _ _ => True)
        (await (.invoke handler row.step ctx)) w := by
      apply Safe.perform
      intro w₁ hrely hinv
      have hguard : completed_guard (.invoke handler row.step ctx) w₁ := by
        show row_status w₁.store ctx.run_id row.step = some .RUNNING
        rw [hrely.1]
        exact hrunning
      refine ⟨hguard, ?_⟩
      intro r w₂ hstep
      exact ⟨hinv.step hguard hstep, trivial, trivial⟩
    apply Yields.bind (.attempt_keeps hinvoke)
    intro returned w₁ _
    apply completed_walk
    -- after the handler, only stores and the audit service are called
    rcases returned with e | ⟨output, hooks⟩
    · exact .ret
    refine .bind (.attempt (.bind (.perform rfl) fun _ => .perform rfl)) ?_
    intro recorded
    rcases recorded with e | u
    · exact .ret
    refine .bind (.perform rfl) ?_
    intro now
    refine .bind (.attempt (.bind (.perform rfl) fun _ =>
      .bind (Engine.audit_issues engine _ _ _ _ fun _ => rfl) fun _ => .perform rfl)) ?_
    intro completed
    rcases completed with e | u
    · exact .ret
    · exact .ret

theorem completed_execute_loop (engine : Engine) (again : M WorkflowRun) (run : WorkflowRun)
    (defn : WorkflowDef) (run_id : String) (rows : List StepState)
    (outputs : Dict String JsonObj) (compensations : List Compensation) (w : World)
    (hrows : ∀ row ∈ rows, row.run_id = run_id) :
    Yields (completed_contract env) (fun _ _ => True)
      (engine.execute_loop again run defn run_id rows outputs compensations) w := by
  induction rows generalizing outputs compensations w with
  | nil =>
    apply completed_walk
    exact .bind (.perform rfl) fun _ =>
      .bind (Engine.audit_issues engine _ _ _ _ fun _ => rfl) fun _ =>
        Engine.reload_issues run_id rfl
  | cons row rest ih =>
    have hrest : ∀ r ∈ rest, r.run_id = run_id := fun r hr => hrows r (List.mem_cons_of_mem row hr)
    unfold Engine.execute_loop
    by_cases hdone : Engine.step_done row.status = true
    · rw [if_pos hdone]
      exact ih _ _ w hrest
    rw [if_neg hdone]
    by_cases hgate : is_gate row.step = true
    · rw [if_pos hgate]
      apply completed_walk
      exact .bind (Engine.handle_gate_issues engine run row _ rfl rfl (fun _ _ => rfl)
        (fun _ => rfl) rfl fun _ => rfl) fun _ => Engine.reload_issues run_id rfl
    rw [if_neg hgate]
    apply Yields.bind (completed_walk (.perform rfl) w)
    intro found w₁ _
    cases found with
    | some existing =>
      apply Yields.bind (completed_walk (.perform rfl) w₁)
      intro _ w₂ _
      exact ih _ _ w₂ hrest
    | none =>
      apply Yields.bind (completed_walk (.perform rfl) w₁)
      intro now w₂ _
      apply Yields.bind (completed_running rfl w₂)
      intro _ w₃ hrunning
      have hof : (Engine.running_row row now).run_id = run_id := hrows row List.mem_cons_self
      rw [hof] at hrunning
      apply Yields.bind (completed_try_step engine defn run_id _ _ compensations hrunning)
      intro done w₄ _
      cases done.result with
      | ok output => exact ih _ _ w₄ hrest
      | error e =>
        exact walk_fail_step (completed_lenient env) engine again run_id _ _ e w₄
          (fun _ _ => unguarded_free rfl) fun _ _ => unguarded_free rfl

theorem completed_execute_locked (engine : Engine) (again : M WorkflowRun) (run_id : String)
    (w : World) :
    Yields (completed_contract env) (fun _ _ => True) (engine.execute_locked again run_id) w := by
  apply Yields.bind (completed_walk (.perform rfl) w)
  intro found w₁ _
  cases found with
  | none => exact Yields.raise
  | some run =>
    apply Yields.bind (completed_walk (Engine.begin_run_issues run_id run (fun _ => rfl) rfl) w₁)
    intro run' w₂ _
    apply Yields.bind (completed_walk (.perform rfl) w₂)
    intro defn w₃ _
    have hsteps : Yields (completed_contract env) (fun rows _ => ∀ row ∈ rows, row.run_id = run_id)
        (await (.get_steps run_id)) w₃ := by
      apply Yields.perform
      intro w₄ _ hinv
      have hguard : completed_guard (.get_steps run_id) w₄ := trivial
      refine ⟨hguard, ?_⟩
      intro r w₅ hstep
      refine ⟨hinv.step hguard hstep, trivial, ?_⟩
      rintro rows rfl
      have hcall := hstep.1.ok
      simp only [exec, Prod.mk.injEq, Except.ok.injEq] at hcall
      obtain ⟨rfl, -⟩ := hcall
      unfold RunStore.get_steps
      cases hget : w₄.store.steps.get? run_id with
      | none => intro row hrow; cases hrow
      | some rows => exact hinv.rows run_id rows hget
    apply Yields.bind hsteps
    intro rows w₄ hrows
    exact completed_execute_loop engine again run' defn run_id rows _ _ w₄ hrows

theorem completed_start_run (args : StartArgs) (w : World) :
    Yields (completed_contract env) (fun _ _ => True) (start_run args) w := by
  apply Yields.bind (completed_walk (.perform rfl) w)
  intro defn w₁ _
  apply Yields.bind (completed_walk .ofExcept w₁)
  intro _ w₂ _
  apply Yields.bind (completed_walk (.perform rfl) w₂)
  intro now w₃ _
  have hchoose : Issues (fun c => unguarded c = true) args.choose_run_id := by
    unfold StartArgs.choose_run_id
    split
    · exact .ret
    · exact .perform rfl
  apply Yields.bind (completed_walk hchoose w₃)
  intro run_id w₄ _
  apply Yields.perform
  intro w₅ _ hinv
  have hguard : completed_guard (.create_run (args.initial_run defn run_id now)
      (initial_rows run_id 0 defn.steps)) w₅ := by
    intro row hrow
    obtain ⟨step, seq, rfl⟩ := mem_initial_rows hrow
    rfl
  refine ⟨hguard, ?_⟩
  intro r w₆ hstep
  exact ⟨hinv.step hguard hstep, trivial, fun _ _ => trivial⟩

theorem completed_request (engine : Engine) (q : Request) (w : World) :
    Safe (completed_contract env) (fun _ _ => True) (q.program engine) w := by
  cases q with
  | start_run args => exact (completed_start_run args w).discard
  | execute depth run_id =>
    exact (walk_execute (completed_lenient env) engine depth run_id w
      fun again w => completed_execute_locked engine again run_id w).discard
  | resolve_gate args =>
    refine (completed_walk ((resolve_gate_of_resolution _ args).mono ?_) w).discard
    intro c hc
    cases c <;> first | rfl | cases hc
  | update_run_status run_id status =>
    exact Safe.weaken (completed_walk (.perform rfl) w) fun _ _ _ => trivial
  | recovery_sweep depth enqueue =>
    exact (walk_recovery_sweep (completed_lenient env) engine depth enqueue w
      fun run_id again w => completed_execute_locked engine again run_id w).discard

end proof

/-! ## Every history -/

/-- Requests are served one at a time, on any workflows, with failing calls and crashes. -/
def Redriven (env : Env) (engine : Engine) (registry : Registry) : M Unit → World → Prop :=
  Sequential (minted env) engine registry fun _ _ => True

theorem Redriven.completed {env : Env} {engine : Engine} {registry : Registry} {p : M Unit}
    {w : World} (h : Redriven env engine registry p w) : Completed w := by
  refine (Session.safe (C := completed_contract env) ?_ ?_ ?_ ?_ ?_ h).1
  · intro w
    exact ⟨rfl, rfl⟩
  · intro a b c hab hbc
    exact ⟨hbc.1.trans hab.1, hbc.2.trans hab.2⟩
  · rintro w ⟨idem, lock, rfl⟩
    refine ⟨?_, ?_, ?_, ?_⟩
    · intro id rows hget
      cases hget
    · intro id rows hget
      cases hget
    · intro run_id step hmem
      cases hmem
    · intro run_id step pre post htrace hpre
      have hnil : pre = [] := (List.append_eq_nil_iff.mp htrace.symm).1
      rw [hnil] at hpre
      cases hpre
  · rintro w p _ ⟨q, -, rfl⟩
    exact completed_request engine q w
  · rintro w w' hinv ⟨held, held', -, -, rfl⟩
    exact ⟨⟨hinv.owned, hinv.rows, hinv.kept, hinv.quiet⟩, rfl, rfl⟩

/-- **An undone step is never done again.** In every history of requests with failing calls,
    crashes and re-drives, if a hook that undoes a succeeded step of a run has been called, the
    handler of that step has not been invoked since and its row still counts as succeeded. So the
    steps whose effect was undone have never all been redone. -/
theorem undone_steps_never_redone {env : Env} {engine : Engine} {registry : Registry} {p : M Unit}
    {w : World} (h : Redriven env engine registry p w) {run_id step : String} {post : List Event}
    (hundone : Undone run_id step w.trace post) :
    (∀ ctx result, Event.invoked run_id step ctx result ∉ post) ∧
      row_status w.store run_id step = some .SUCCEEDED ∧ ¬ Redone run_id w.trace := by
  obtain ⟨pre, fn, htrace, hundoes⟩ := hundone
  have hquiet : ∀ ctx result, Event.invoked run_id step ctx result ∉ post := by
    intro ctx result hmem
    exact h.completed.quiet run_id step pre _ htrace hundoes.succeeded ctx result
      (List.mem_cons_of_mem _ hmem)
  refine ⟨hquiet, ?_, ?_⟩
  · apply h.completed.kept
    rw [htrace]
    exact List.mem_append_left _ hundoes.succeeded
  · intro hredone
    obtain ⟨ctx, result, hmem⟩ := hredone step post ⟨pre, fn, htrace, hundoes⟩
    exact hquiet ctx result hmem

/-! ## A filing taken back

    `file` succeeds, `send` fails for good the first time: the run parks and the filing
    is taken back. The re-driven run sends what is no longer filed. -/

section filing_redriven

/-- An invocation of the step, for the run `id-0`. -/
def invokes_step (step : String) : Event → Bool
  | .invoked id s _ _ => decide (id = "id-0" ∧ s = step)
  | _ => false

def retried_filing : WorkflowDef :=
  plain_workflow ["file", "send"] file_send_ne_nil
    (fun step trace _ =>
      if step = "file" then .returned none [unfile]
      else if trace.any (invokes_step "send") then .returned none []
      else .raised (.value_error "no address"))
    fun _ => none

/-- A run is created only under a new id. -/
def creates_fresh : Call → World → Bool
  | .create_run run _, w => (w.store.runs.get? run.id).isNone
  | _, _ => true

theorem minted_exec {c : Call} {w : World} (h : creates_fresh c w = true) :
    minted reference_env c w (exec reference_env c w).1 (exec reference_env c w).2 := by
  refine ⟨.answered, ?_⟩
  rintro run rows rfl
  exact Option.isNone_iff_eq_none.mp h

/-- A request is started and makes its first `n` calls. -/
theorem Redriven.proceed_calls {registry : Registry} {p : M Unit} {w : World} (n : Nat)
    (h : Redriven reference_env reference_engine registry p w) (q : Request)
    (hfresh : afterMeets (exec reference_env) creates_fresh n (q.program reference_engine) w =
      true) :
    Redriven reference_env reference_engine registry
      (after (exec reference_env) n (q.program reference_engine) w).1
      (after (exec reference_env) n (q.program reference_engine) w).2 :=
  h.serve_calls (fun _ _ hc => minted_exec hc) n trivial hfresh

/-- A request served to its end, which takes fewer than forty calls. -/
def served (q : Request) (w : World) : M Unit × World :=
  after (exec reference_env) 40 (q.program reference_engine) w

def filing_start : World := World.fresh (.in_memory ∅) none (singleton_registry retried_filing)

def filing_parked : World :=
  (served (.execute 1 "id-0") (served (.start_run plain_start) filing_start).2).2

def filing_redriven : M Unit × World :=
  served (.execute 1 "id-0") (served (.update_run_status "id-0" .RUNNING) filing_parked).2

theorem filing_redriven_reached : Redriven reference_env reference_engine
    (singleton_registry retried_filing) filing_redriven.1 filing_redriven.2 := by
  have hboot : Redriven reference_env reference_engine (singleton_registry retried_filing)
      (.ret ()) filing_start := .boot ⟨_, _, rfl⟩
  have hstarted := hboot.proceed_calls 40 (.start_run plain_start) (by decide +kernel)
  have hparked := hstarted.proceed_calls 40 (.execute 1 "id-0") (by decide +kernel)
  have hrunning := hparked.proceed_calls 40 (.update_run_status "id-0" .RUNNING)
    (by decide +kernel)
  exact hrunning.proceed_calls 40 (.execute 1 "id-0") (by decide +kernel)

/-- The `n`-th event is a call of the hook `fn`, which undoes the step. -/
def undone_at (step : String) (fn : Compensation) (n : Nat) (events : List Event) : Bool :=
  (match events[n]? with
    | some (.compensated id called) => decide (id = "id-0" ∧ called = fn)
    | _ => false) &&
  ((events.take n).any fun
    | .invoked id s _ (.returned _ hooks) => decide (id = "id-0" ∧ s = step ∧ fn ∈ hooks)
    | _ => false) &&
  (events.take n).any fun
    | .step_updated id s .SUCCEEDED => decide (id = "id-0" ∧ s = step)
    | _ => false

theorem undone_of_at {step : String} {fn : Compensation} {n : Nat} {events : List Event}
    (h : undone_at step fn n events = true) : Undone "id-0" step events (events.drop (n + 1)) := by
  unfold undone_at at h
  rw [Bool.and_eq_true, Bool.and_eq_true] at h
  obtain ⟨⟨hcalled, hregistered⟩, hsucceeded⟩ := h
  have hget : events[n]? = some (.compensated "id-0" fn) := by
    split at hcalled
    · next id called hget =>
      obtain ⟨rfl, rfl⟩ := of_decide_eq_true hcalled
      exact hget
    · cases hcalled
  refine ⟨events.take n, fn, ?_, ?_, ?_⟩
  · obtain ⟨hlt, hn⟩ := List.getElem?_eq_some_iff.mp hget
    rw [← hn, List.getElem_cons_drop, List.take_append_drop]
  · obtain ⟨event, hmem, hevent⟩ := List.any_eq_true.mp hregistered
    split at hevent
    · next id s ctx output hooks =>
      obtain ⟨rfl, rfl, hfn⟩ := of_decide_eq_true hevent
      exact ⟨ctx, output, hooks, hmem, hfn⟩
    · cases hevent
  · obtain ⟨event, hmem, hevent⟩ := List.any_eq_true.mp hsucceeded
    split at hevent
    · obtain ⟨rfl, rfl⟩ := of_decide_eq_true hevent
      exact hmem
    · cases hevent

/-- **A run succeeds on a filing that was taken back**: `file` has been undone, its handler was not
    invoked again, and the run has succeeded. -/
theorem taken_back_filing_sent :
    ∃ p w, Redriven reference_env reference_engine (singleton_registry retried_filing) p w ∧
      status_of w = some .SUCCEEDED ∧ ¬ Redone "id-0" w.trace := by
  refine ⟨_, _, filing_redriven_reached, by decide +kernel, ?_⟩
  intro hredone
  have hundone : Undone "id-0" "file" filing_redriven.2.trace (filing_redriven.2.trace.drop 8) :=
    undone_of_at (show undone_at "file" unfile 7 _ = true by decide +kernel)
  obtain ⟨ctx, result, hmem⟩ := hredone "file" _ hundone
  have hnone : (filing_redriven.2.trace.drop 8).any (invokes_step "file") = false := by
    decide +kernel
  exact List.any_eq_false.mp hnone _ hmem (by simp [invokes_step])

/-- The general result there: the row of `file` still counts as succeeded. -/
theorem taken_back_filing_kept :
    row_status filing_redriven.2.store "id-0" "file" = some .SUCCEEDED := by
  have hundone : Undone "id-0" "file" filing_redriven.2.trace (filing_redriven.2.trace.drop 8) :=
    undone_of_at (show undone_at "file" unfile 7 _ = true by decide +kernel)
  exact (undone_steps_never_redone filing_redriven_reached hundone).2.1

end filing_redriven

end CaseAutomation.Orchestrator
