import CaseAutomation.Orchestrator.Calls
import CaseAutomation.Orchestrator.System

/-! # Walking Through the Programs Once

    Most of a program is calls that matter to no invariant: reads, audit
    records, locks. A contract that lets them pass (`Lenient`) is met by the outer
    programs as soon as it is met by one execution pass. Each contract then only has to
    look at the loop of `_execute` and at the requests it is about.
-/

namespace CaseAutomation.Orchestrator

open Framework Program

section walk
variable {σ : Type} {C : Contract Call Call.Resp Exn σ}

/-- A call that may be issued in every state. -/
def Free (C : Contract Call Call.Resp Exn σ) (c : Call) : Prop :=
  ∀ w, C.inv w → C.guard c w ∧ ∀ r w', C.step c w r w' → C.inv w' ∧ C.guar w w'

/-- Calls that read, lock, audit, queue or log. -/
def Call.plain : Call → Bool
  | .now => true
  | .uuid4 => true
  | .get_workflow_latest _ => true
  | .get_run _ => true
  | .find_recoverable_runs => true
  | .get_steps _ => true
  | .get_gate_request _ => true
  | .get_token _ => true
  | .lookup _ => true
  | .acquire _ => true
  | .release _ => true
  | .compensate _ _ => true
  | .audit _ => true
  | .enqueue _ => true
  | .log_error _ _ _ => true
  | _ => false

/-- A contract that lets plain calls pass, over a store that refuses to reset a row. -/
structure Lenient (C : Contract Call Call.Resp Exn σ) : Prop where
  plain : ∀ c : Call, c.plain = true → Free C c
  parked : ∀ run_id err, Free C (.update_run_status run_id .PARKED none (some err))
  no_reset : ∀ (row : StepState) w a w', row.status = .PENDING →
    ¬ C.step (.update_step row) w (.ok a) w'

/-- A program of free calls is safe. -/
theorem walk_free {α : Type} {p : M α} (hp : Issues (Free C) p) (w : σ) :
    Yields C (fun _ _ => True) p w := by
  have hsafe : Safe C (fun _ _ => True) p w := by
    apply Safe.of_issues (P := Free C) (A := fun _ => True)
    · intro _ _ _ _
      trivial
    · intro c w hc hinv _
      obtain ⟨hguard, hk⟩ := hc w hinv
      refine ⟨hguard, ?_⟩
      intro r w' hstep
      obtain ⟨hinv', hguar⟩ := hk r w' hstep
      exact ⟨hinv', hguar, trivial⟩
    · exact hp
    · trivial
  exact hsafe.weaken fun _ _ _ _ _ => trivial

/-- The `except` block of a step. The store refuses to reset the row, so the recursive call
    is never reached. -/
theorem free_fail_step (engine : Engine) (again : M WorkflowRun) (run_id : String)
    (row : StepState) (compensations : List Compensation) (exn : Exn) (w : σ)
    (hnow : Free C .now) (hfailed : ∀ err now, Free C (.update_step (Engine.failed_row row err now)))
    (hreset : ∀ err now,
      Free C (.update_step { Engine.failed_row row err now with status := .PENDING }))
    (hrefused : ∀ (row : StepState) w a w', row.status = .PENDING →
      ¬ C.step (.update_step row) w (.ok a) w')
    (hpark : ∀ err, Issues (Free C) (engine.park run_id err compensations))
    (hreload : Free C (.get_run run_id)) :
    Yields C (fun _ _ => True) (engine.fail_step again run_id row compensations exn) w := by
  unfold Engine.fail_step
  apply Yields.bind (walk_free (.perform hnow) w)
  intro now w₁ _
  apply Yields.bind (walk_free (.perform (hfailed _ _)) w₁)
  intro _ w₂ _
  split
  · apply Yields.bind (P := fun _ _ => False)
    · apply Yields.perform
      intro w' _ hinv
      obtain ⟨hguard, hk⟩ := hreset (classify_error exn row.attempt) now w' hinv
      refine ⟨hguard, ?_⟩
      intro r w'' hstep
      obtain ⟨hinv', hguar⟩ := hk r w'' hstep
      refine ⟨hinv', hguar, ?_⟩
      intro a ha
      subst ha
      exact hrefused _ w' a w'' rfl hstep
    · intro _ _ hfalse
      exact hfalse.elim
  · apply Yields.bind (walk_free (hpark _) w₂)
    intro _ w₃ _
    exact walk_free (Engine.reload_issues run_id hreload) w₃

theorem walk_fail_step (hC : Lenient C) (engine : Engine) (again : M WorkflowRun)
    (run_id : String) (row : StepState) (compensations : List Compensation) (exn : Exn) (w : σ)
    (hfailed : ∀ err now, Free C (.update_step (Engine.failed_row row err now)))
    (hreset : ∀ err now,
      Free C (.update_step { Engine.failed_row row err now with status := .PENDING })) :
    Yields C (fun _ _ => True) (engine.fail_step again run_id row compensations exn) w :=
  free_fail_step engine again run_id row compensations exn w (hC.plain _ rfl) hfailed hreset
    hC.no_reset (fun _ => Engine.park_issues engine run_id _ _ (fun _ => hC.plain _ rfl)
      (hC.parked run_id _) fun _ => hC.plain _ rfl) (hC.plain _ rfl)

/-- `execute` is safe if its pass is. -/
theorem free_execute (engine : Engine) (depth : Nat) (run_id : String) (w : σ)
    (hacquire : Free C (.acquire run_id)) (hrelease : Free C (.release run_id))
    (hget : Free C (.get_run run_id))
    (hlocked : ∀ again w, Yields C (fun _ _ => True) (engine.execute_locked again run_id) w) :
    Yields C (fun _ _ => True) (engine.execute depth run_id) w := by
  cases depth with
  | zero => exact Yields.raise
  | succ depth =>
    apply Yields.bind (P := fun _ _ => True)
    · exact walk_free (.perform hacquire) w
    intro granted w₁ _
    cases granted with
    | false =>
      apply walk_free
      refine .bind (.perform hget) ?_
      intro found
      cases found with
      | none => exact .raise
      | some run => exact .ret
    | true =>
      apply Yields.tryFinally (hlocked _ w₁)
      intro r w' _
      have hreleased : Yields C (fun _ _ => True) (await (.release run_id)) w' :=
        walk_free (.perform hrelease) w'
      exact hreleased.weaken fun _ _ _ _ _ => trivial

theorem walk_execute (hC : Lenient C) (engine : Engine) (depth : Nat) (run_id : String) (w : σ)
    (hlocked : ∀ again w, Yields C (fun _ _ => True) (engine.execute_locked again run_id) w) :
    Yields C (fun _ _ => True) (engine.execute depth run_id) w :=
  free_execute engine depth run_id w (hC.plain _ rfl) (hC.plain _ rfl) (hC.plain _ rfl) hlocked

/-- The recovery sweep is safe if the passes of the runs it finds are. -/
theorem walk_recovery_sweep (hC : Lenient C) (engine : Engine) (depth : Nat) (enqueue : Bool)
    (w : σ) (hlocked : ∀ run_id again w,
      Yields C (fun _ _ => True) (engine.execute_locked again run_id) w) :
    Yields C (fun _ _ => True) (recovery_sweep engine depth enqueue) w := by
  apply Yields.bind (P := fun _ _ => True) (walk_free (.perform (hC.plain _ rfl)) w)
  intro run_ids w₁ _
  induction run_ids generalizing w₁ with
  | nil => exact Yields.ret trivial
  | cons run_id rest ih =>
    apply Yields.bind (P := fun _ _ => True) (walk_free (.perform (hC.plain _ rfl)) w₁)
    intro found w₂ _
    cases found with
    | none => exact ih w₂
    | some run =>
      simp only
      split
      · exact ih w₂
      apply Yields.bind (P := fun _ _ => True)
      · unfold sweep_run
        split
        · exact walk_free (.perform (hC.plain _ rfl)) w₂
        apply Yields.bind (P := fun _ _ => True)
        · exact Yields.attempt (walk_execute hC engine depth run_id w₂ (hlocked run_id))
            fun _ _ _ => trivial
        intro r w₃ _
        cases r with
        | ok _ => exact Yields.ret trivial
        | error e => exact walk_free (.perform (hC.plain _ rfl)) w₃
      intro _ w₃ _
      exact Yields.bind (ih w₃) fun _ _ _ => Yields.ret trivial

end walk

end CaseAutomation.Orchestrator
