import CaseAutomation.Orchestrator.World

/-! # What Calls Change

    Frame and inversion lemmas for the store operations and for `exec`. The
    invariants of later modules are proved from these, never by unfolding a
    store method again.
-/

namespace CaseAutomation.Orchestrator

open Framework

/-! ## Step rows -/

/-- A successful `update_row` replaces the first row of that name, legally. -/
theorem update_row_ok {step : StepState} {rows rows' : List StepState}
    (h : RunStore.update_row step rows = .ok rows') :
    ∃ pre row post, rows = pre ++ row :: post ∧ (∀ r ∈ pre, r.step ≠ step.step) ∧
      row.step = step.step ∧ is_legal_step_transition row.status step.status = true ∧
      rows' = pre ++ step :: post := by
  induction rows generalizing rows' with
  | nil => cases h
  | cons row rest ih =>
    unfold RunStore.update_row at h
    by_cases hstep : row.step = step.step
    · rw [if_pos hstep] at h
      split at h
      · next hlegal =>
        cases h
        exact ⟨[], row, rest, rfl, by simp, hstep, hlegal, rfl⟩
      · cases h
    · rw [if_neg hstep] at h
      split at h
      · next rest' hrest =>
        cases h
        obtain ⟨pre, r, post, rfl, hpre, hname, hlegal, rfl⟩ := ih hrest
        refine ⟨row :: pre, r, post, rfl, ?_, hname, hlegal, rfl⟩
        intro x hx
        rcases List.mem_cons.mp hx with rfl | hx
        · exact hstep
        · exact hpre x hx
      · cases h

/-- `update_row` on a row whose name is not used before it. -/
theorem update_row_append {step row : StepState} {pre post : List StepState}
    (hpre : ∀ r ∈ pre, r.step ≠ step.step) (hrow : row.step = step.step) :
    RunStore.update_row step (pre ++ row :: post) =
      if is_legal_step_transition row.status step.status then .ok (pre ++ step :: post)
      else .error (.illegal_transition ("Step " ++ repr_str step.step ++ ": " ++
        row.status.repr ++ " → " ++ step.status.repr ++ " is illegal.")) := by
  induction pre with
  | nil => rw [List.nil_append, RunStore.update_row, if_pos hrow]; rfl
  | cons r pre ih =>
    rw [List.cons_append, RunStore.update_row, if_neg (hpre r List.mem_cons_self),
      ih fun x hx => hpre x (List.mem_cons_of_mem _ hx)]
    by_cases hlegal : is_legal_step_transition row.status step.status = true
    · simp only [if_pos hlegal, List.cons_append]
    · simp only [if_neg hlegal]

/-- `advance_row` marks the first row of that name, if there is one. -/
theorem advance_row_cases (name : String) (now : Time) (rows : List StepState) :
    (∀ r ∈ rows, r.step ≠ name) ∧ RunStore.advance_row name now rows = rows ∨
    ∃ pre row post, rows = pre ++ row :: post ∧ (∀ r ∈ pre, r.step ≠ name) ∧ row.step = name ∧
      RunStore.advance_row name now rows =
        pre ++ { row with status := .SUCCEEDED, ended_at := some now } :: post := by
  induction rows with
  | nil => exact Or.inl ⟨by simp, rfl⟩
  | cons row rest ih =>
    unfold RunStore.advance_row
    by_cases hname : row.step = name
    · rw [if_pos hname]
      exact Or.inr ⟨[], row, rest, rfl, by simp, hname, rfl⟩
    · rw [if_neg hname]
      have hcons : ∀ {l : List StepState}, (∀ r ∈ l, r.step ≠ name) →
          ∀ r ∈ row :: l, r.step ≠ name := by
        intro l hl r hr
        rcases List.mem_cons.mp hr with rfl | hr
        · exact hname
        · exact hl r hr
      rcases ih with ⟨hall, heq⟩ | ⟨pre, r, post, rfl, hpre, hr, heq⟩
      · exact Or.inl ⟨hcons hall, by rw [heq]⟩
      · exact Or.inr ⟨row :: pre, r, post, rfl, hcons hpre, hr, by rw [heq]; rfl⟩

/-- The rows after one of them is replaced. -/
theorem mem_replace {pre post : List StepState} {row row' r : StepState}
    (h : r ∈ pre ++ row' :: post) : r = row' ∨ r ∈ pre ++ row :: post := by
  rcases List.mem_append.mp h with hpre | hcons
  · exact Or.inr (List.mem_append_left _ hpre)
  · rcases List.mem_cons.mp hcons with rfl | hpost
    · exact Or.inl rfl
    · exact Or.inr (List.mem_append_right _ (List.mem_cons_of_mem _ hpost))

/-- No table entry leads back to `PENDING`. -/
theorem no_step_to_pending (from_status : StepStatus) :
    is_legal_step_transition from_status .PENDING = false := by
  cases from_status <;> rfl

namespace RunStore

variable {s s' : RunStore}

theorem get_steps_eq {run_id : String} {rows : List StepState}
    (h : s.steps.get? run_id = some rows) : s.get_steps run_id = rows := by
  rw [get_steps, h]
  rfl

theorem get_steps_set_self (s : RunStore) (run_id : String) (rows : List StepState) :
    get_steps { s with steps := s.steps.set run_id rows } run_id = rows := by
  rw [get_steps, Dict.get?_set_self]
  rfl

theorem get_steps_set_ne (s : RunStore) {run_id id : String} (rows : List StepState)
    (h : id ≠ run_id) :
    get_steps { s with steps := s.steps.set run_id rows } id = s.get_steps id := by
  rw [get_steps, Dict.get?_set_ne _ _ h]
  rfl

/-- A successful `update_step` replaces one row of an existing run. -/
theorem update_step_ok {step : StepState} (h : s.update_step step = .ok s') :
    ∃ pre row post, s.steps.get? step.run_id = some (pre ++ row :: post) ∧
      (∀ r ∈ pre, r.step ≠ step.step) ∧ row.step = step.step ∧
      is_legal_step_transition row.status step.status = true ∧
      s' = { s with steps := s.steps.set step.run_id (pre ++ step :: post) } := by
  unfold update_step at h
  split at h
  · next rows hrows =>
    cases h
    obtain ⟨pre, row, post, heq, hpre, hname, hlegal, rfl⟩ := update_row_ok hrows
    refine ⟨pre, row, post, ?_, hpre, hname, hlegal, rfl⟩
    -- the run has rows: otherwise the update would have raised
    unfold get_steps at heq
    cases hget : s.steps.get? step.run_id with
    | none => rw [hget] at heq; simp at heq
    | some rows => rw [hget] at heq; simpa using heq
  · cases h

/-- A row can never be set back to `PENDING`. -/
theorem update_step_pending {step : StepState} (hpending : step.status = .PENDING) :
    ∃ e, s.update_step step = .error e := by
  cases h : s.update_step step with
  | error e => exact ⟨e, rfl⟩
  | ok s' =>
    obtain ⟨_, row, _, -, -, -, hlegal, -⟩ := update_step_ok h
    rw [hpending, no_step_to_pending] at hlegal
    cases hlegal

/-- A successful `update_run_status` is a legal transition of an existing run. -/
theorem update_run_status_ok {run_id : String} {status : RunStatus} {current_step : Option String}
    {last_error : Option StepError} {now : Time}
    (h : s.update_run_status run_id status current_step last_error now = .ok s') :
    ∃ run, s.runs.get? run_id = some run ∧ is_legal_run_transition run.status status = true ∧
      s' = { s with
        runs := s.runs.set run_id (updated_run run status current_step last_error now) } := by
  unfold update_run_status at h
  split at h
  · cases h
  · next run hrun =>
    split at h
    · next hlegal => cases h; exact ⟨run, hrun, hlegal, rfl⟩
    · cases h

theorem set_current_step_ok {run_id step : String} {now : Time}
    (h : s.set_current_step run_id step now = .ok s') :
    ∃ run, s.runs.get? run_id = some run ∧
      s' = { s with
        runs := s.runs.set run_id { run with current_step := some step, updated_at := now } } := by
  unfold set_current_step at h
  split at h
  · cases h
  · next run hrun => cases h; exact ⟨run, hrun, rfl⟩

/-- `create_run` returns an existing run and changes nothing, or stores the new one. -/
theorem create_run_ok {run created : WorkflowRun} {rows : List StepState}
    (h : s.create_run run rows = .ok (created, s')) :
    s' = s ∨ created = run ∧ s.dedupe_hit run = none ∧ ∃ dedupe, s' = { s with
      runs := s.runs.set run.id run, steps := s.steps.set run.id rows, dedupe := dedupe } := by
  unfold create_run at h
  split at h
  · split at h
    · cases h; exact Or.inl rfl
    · cases h
  · next hmiss => cases h; exact Or.inr ⟨rfl, hmiss, _, rfl⟩

/-- `advance_gate_step` changes the rows of one run at most. -/
theorem advance_gate_step_cases (s : RunStore) (run_id name : String) (now : Time) :
    s.advance_gate_step run_id name now = s ∨
    ∃ rows, s.steps.get? run_id = some rows ∧ s.advance_gate_step run_id name now =
      { s with steps := s.steps.set run_id (advance_row name now rows) } := by
  unfold advance_gate_step
  split
  · exact Or.inl rfl
  · next rows hrows => exact Or.inr ⟨rows, hrows, rfl⟩

/-- `mark_token_used` touches one token, and only its use mark. -/
theorem mark_token_used_cases (s : RunStore) (token_id : String) (used_at : Time) :
    s.mark_token_used token_id used_at = (false, s) ∨
    ∃ token, s.tokens.get? token_id = some token ∧ token.is_used = false ∧
      s.mark_token_used token_id used_at =
        (true, { s with tokens := s.tokens.set token_id { token with used_at := some used_at } }) := by
  unfold mark_token_used
  split
  · exact Or.inl rfl
  · next token htoken =>
    split
    · exact Or.inl rfl
    · next hused => exact Or.inr ⟨token, htoken, by simpa using hused, rfl⟩

end RunStore

/-! ## Frames of `exec` -/

section frames
variable (env : Env) (c : Call) (w : World)

theorem World.write_cases (w : World) (r : Except Exn RunStore) :
    (∃ e, r = .error e ∧ w.write r = (.error e, w)) ∨
    ∃ s, r = .ok s ∧ w.write r = (.ok (), w.tick.with_store s) := by
  cases r with
  | error e => exact Or.inl ⟨e, rfl, rfl⟩
  | ok s => exact Or.inr ⟨s, rfl, rfl⟩

theorem World.write_registry (r : Except Exn RunStore) : (w.write r).2.registry = w.registry := by
  cases r <;> rfl

theorem World.write_uuids (r : Except Exn RunStore) : (w.write r).2.uuids = w.uuids := by
  cases r <;> rfl

theorem World.write_idem (r : Except Exn RunStore) : (w.write r).2.idem = w.idem := by
  cases r <;> rfl

theorem World.write_lock (r : Except Exn RunStore) : (w.write r).2.lock = w.lock := by
  cases r <;> rfl

theorem World.write_trace (r : Except Exn RunStore) : (w.write r).2.trace = w.trace := by
  cases r <;> rfl

theorem World.write_clock (r : Except Exn RunStore) : w.clock ≤ (w.write r).2.clock := by
  cases r with
  | error e => exact Nat.le_refl _
  | ok s => exact Nat.le_succ _

/-- **What a call can do to the run store**: nothing, or one write. The last index is the
    clock after the call; a stamped write reads it once. -/
inductive StoreChange (env : Env) (w : World) : Call → RunStore → Nat → Prop where
  | same (c : Call) {n : Nat} : w.clock ≤ n → StoreChange env w c w.store n
  | created (run : WorkflowRun) (rows : List StepState) (dedupe : Dict String String) :
      w.store.dedupe_hit run = none →
      StoreChange env w (.create_run run rows) { w.store with
        runs := w.store.runs.set run.id run, steps := w.store.steps.set run.id rows,
        dedupe := dedupe } w.clock
  | status {run_id : String} (status : RunStatus) (cur : Option String) (err : Option StepError)
      {run : WorkflowRun} : w.store.runs.get? run_id = some run →
      is_legal_run_transition run.status status = true →
      StoreChange env w (.update_run_status run_id status cur err) { w.store with
        runs := w.store.runs.set run_id
          (RunStore.updated_run run status cur err (env.time w.clock)) } (w.clock + 1)
  | current {run_id : String} (step : String) {run : WorkflowRun} :
      w.store.runs.get? run_id = some run →
      StoreChange env w (.set_current_step run_id step) { w.store with
        runs := w.store.runs.set run_id
          { run with current_step := some step, updated_at := env.time w.clock } } (w.clock + 1)
  | advanced {run_id step : String} {row : StepState} {pre post : List StepState} :
      w.store.steps.get? run_id = some (pre ++ row :: post) → (∀ r ∈ pre, r.step ≠ step) →
      row.step = step →
      StoreChange env w (.advance_gate_step run_id step) { w.store with
        steps := w.store.steps.set run_id (pre ++
          { row with status := .SUCCEEDED, ended_at := some (env.time w.clock) } :: post) }
        (w.clock + 1)
  | updated {step row : StepState} {pre post : List StepState} :
      w.store.steps.get? step.run_id = some (pre ++ row :: post) →
      (∀ r ∈ pre, r.step ≠ step.step) → row.step = step.step →
      is_legal_step_transition row.status step.status = true →
      StoreChange env w (.update_step step) { w.store with
        steps := w.store.steps.set step.run_id (pre ++ step :: post) } w.clock
  | gate_created (gate : GateRequest) :
      StoreChange env w (.create_gate_request gate) (w.store.put_gate gate) w.clock
  | gate_updated (gate : GateRequest) :
      StoreChange env w (.update_gate_request gate) (w.store.put_gate gate) w.clock
  | token_saved (token : ApprovalToken) :
      StoreChange env w (.save_token token) (w.store.save_token token) w.clock
  | token_used {token_id : String} (used_at : Time) {token : ApprovalToken} :
      w.store.tokens.get? token_id = some token → token.is_used = false →
      StoreChange env w (.mark_token_used token_id used_at) { w.store with
        tokens := w.store.tokens.set token_id { token with used_at := some used_at } } w.clock
  | decided (d : ApprovalDecision) :
      StoreChange env w (.save_approval_decision d) (w.store.save_approval_decision d) w.clock

/-- Setting a key to the value it has changes nothing. -/
theorem advance_nothing {s : RunStore} {run_id : String} {rows : List StepState}
    (h : s.steps.get? run_id = some rows) :
    ({ s with steps := s.steps.set run_id rows } : RunStore) = s := by
  rw [Dict.set_get?_self h]

theorem exec_store_change : StoreChange env w c (exec env c w).2.store (exec env c w).2.clock := by
  cases c with
  | create_run run rows =>
    rw [exec_create_run_eq]
    split
    · next created s hs =>
      rcases RunStore.create_run_ok hs with rfl | ⟨-, hmiss, dedupe, rfl⟩
      · exact .same _ (Nat.le_refl _)
      · exact .created run rows dedupe hmiss
    · exact .same _ (Nat.le_refl _)
  | update_run_status run_id status cur err =>
    rcases World.write_cases w (w.store.update_run_status run_id status cur err
      (env.time w.clock)) with ⟨e, -, hwr⟩ | ⟨s, hs, hwr⟩
    · rw [exec_update_run_status_eq, hwr]
      exact .same _ (Nat.le_refl _)
    · obtain ⟨run, hrun, hlegal, rfl⟩ := RunStore.update_run_status_ok hs
      rw [exec_update_run_status_eq, hwr]
      exact .status status cur err hrun hlegal
  | set_current_step run_id step =>
    rcases World.write_cases w (w.store.set_current_step run_id step
      (env.time w.clock)) with ⟨e, -, hwr⟩ | ⟨s, hs, hwr⟩
    · rw [exec_set_current_step_eq, hwr]
      exact .same _ (Nat.le_refl _)
    · obtain ⟨run, hrun, rfl⟩ := RunStore.set_current_step_ok hs
      rw [exec_set_current_step_eq, hwr]
      exact .current step hrun
  | advance_gate_step run_id step =>
    show StoreChange env w _ (w.store.advance_gate_step run_id step (env.time w.clock)) (w.clock + 1)
    rcases RunStore.advance_gate_step_cases w.store run_id step (env.time w.clock) with
      heq | ⟨rows, hrows, heq⟩
    · rw [heq]; exact .same _ (Nat.le_succ _)
    · rw [heq]
      rcases advance_row_cases step (env.time w.clock) rows with
        ⟨-, hsame⟩ | ⟨pre, row, post, rfl, hpre, hname, hadv⟩
      · rw [hsame, advance_nothing hrows]; exact .same _ (Nat.le_succ _)
      · rw [hadv]; exact .advanced hrows hpre hname
  | update_step step =>
    rw [exec_update_step_eq]
    split
    · next s hs =>
      obtain ⟨pre, row, post, hrows, hpre, hname, hlegal, rfl⟩ := RunStore.update_step_ok hs
      exact .updated hrows hpre hname hlegal
    · exact .same _ (Nat.le_refl _)
  | create_gate_request gate => exact .gate_created gate
  | update_gate_request gate => exact .gate_updated gate
  | save_token token => exact .token_saved token
  | mark_token_used token_id used_at =>
    show StoreChange env w _ (w.store.mark_token_used token_id used_at).2 w.clock
    rcases RunStore.mark_token_used_cases w.store token_id used_at with
      heq | ⟨token, htoken, hused, heq⟩
    · rw [heq]; exact .same _ (Nat.le_refl _)
    · rw [heq]; exact .token_used used_at htoken hused
  | save_approval_decision d => exact .decided d
  | now => exact .same _ (Nat.le_succ _)
  | _ => exact .same _ (Nat.le_refl _)

/-- The registry is fixed at start-up. -/
@[simp] theorem exec_registry : (exec env c w).2.registry = w.registry := by
  cases c with
  | create_run run steps => rw [exec_create_run_eq]; split <;> rfl
  | update_step step => rw [exec_update_step_eq]; split <;> rfl
  | update_run_status => exact World.write_registry w _
  | set_current_step => exact World.write_registry w _
  | _ => rfl

/-- The clock only moves forward. -/
theorem exec_clock_le : w.clock ≤ (exec env c w).2.clock := by
  cases c with
  | create_run run steps => rw [exec_create_run_eq]; split <;> exact Nat.le_refl _
  | update_step step => rw [exec_update_step_eq]; split <;> exact Nat.le_refl _
  | update_run_status => exact World.write_clock w _
  | set_current_step => exact World.write_clock w _
  | now => exact Nat.le_succ _
  | advance_gate_step => exact Nat.le_succ _
  | _ => exact Nat.le_refl _

/-- Only `uuid4` draws an id. -/
theorem exec_uuids : (exec env c w).2.uuids =
    match c with
    | .uuid4 => w.uuids + 1
    | _ => w.uuids := by
  cases c with
  | create_run run steps => rw [exec_create_run_eq]; split <;> rfl
  | update_step step => rw [exec_update_step_eq]; split <;> rfl
  | update_run_status => exact World.write_uuids w _
  | set_current_step => exact World.write_uuids w _
  | _ => rfl

theorem exec_uuids_le : w.uuids ≤ (exec env c w).2.uuids := by
  rw [exec_uuids]
  split
  · exact Nat.le_succ _
  · exact Nat.le_refl _

/-- The idempotency store changes only by `reserve` and `record`. -/
theorem exec_idem : (exec env c w).2.idem =
    match c with
    | .reserve key => (w.idem.reserve key).2
    | .record key output => w.idem.record env.json key output
    | _ => w.idem := by
  cases c with
  | create_run run steps => rw [exec_create_run_eq]; split <;> rfl
  | update_step step => rw [exec_update_step_eq]; split <;> rfl
  | update_run_status => exact World.write_idem w _
  | set_current_step => exact World.write_idem w _
  | _ => rfl

/-- The events a call leaves in the trace. -/
def Call.events : Call → World → List Event
  | .update_step step, w =>
    match w.store.update_step step with
    | .ok _ => [.step_updated step.run_id step.step step.status]
    | .error _ => []
  | .record key output, _ => [.recorded key output]
  | .invoke handler step ctx, w => [.invoked ctx.run_id step ctx (handler w.trace ctx)]
  | .compensate run_id fn, _ => [.compensated run_id fn]
  | .audit entry, _ => [.audited entry]
  | .enqueue run_id, _ => [.enqueued run_id]
  | .log_error event run_id exn, _ => [.logged_error event run_id exn]
  | _, _ => []

/-- The trace grows by the events of the call. -/
theorem exec_trace : (exec env c w).2.trace = w.trace ++ c.events w := by
  cases c with
  | create_run run steps =>
    rw [exec_create_run_eq]
    split <;> exact (List.append_nil _).symm
  | update_step step =>
    rw [exec_update_step_eq, Call.events]
    cases w.store.update_step step with
    | ok s => rfl
    | error e => exact (List.append_nil _).symm
  | update_run_status => exact (World.write_trace w _).trans (List.append_nil _).symm
  | set_current_step => exact (World.write_trace w _).trans (List.append_nil _).symm
  | record => rfl
  | invoke => rfl
  | compensate => rfl
  | audit => rfl
  | enqueue => rfl
  | log_error => rfl
  | _ => exact (List.append_nil _).symm

/-- Only `record` leaves a record in the trace. -/
theorem mem_events_recorded {key : String} {output : JsonObj}
    (h : Event.recorded key output ∈ c.events w) : c = .record key output := by
  cases c <;> simp only [Call.events, List.mem_singleton, List.not_mem_nil] at h
  case update_step step =>
    split at h <;> simp at h
  all_goals first | (cases h; rfl) | cases h

/-- Only an invocation leaves one in the trace. -/
theorem mem_events_invoked {run_id step : String} {ctx : StepContext} {result : HandlerResult}
    (h : Event.invoked run_id step ctx result ∈ c.events w) :
    ∃ handler, c = .invoke handler step ctx ∧ run_id = ctx.run_id ∧ result = handler w.trace ctx := by
  cases c <;> simp only [Call.events, List.mem_singleton, List.not_mem_nil] at h
  case update_step row =>
    split at h <;> simp at h
  case invoke handler step' ctx' =>
    cases h
    exact ⟨handler, rfl, rfl, rfl⟩
  all_goals cases h

/-- Resetting a row to `PENDING` never succeeds. -/
theorem exec_pending {env : Env} {row : StepState} {w w' : World} {a : Unit}
    (hrow : row.status = .PENDING) : exec env (.update_step row) w ≠ (.ok a, w') := by
  obtain ⟨e, he⟩ : ∃ e, w.store.update_step row = .error e := RunStore.update_step_pending hrow
  intro hexec
  simp only [exec, he] at hexec
  cases hexec

end frames

end CaseAutomation.Orchestrator
