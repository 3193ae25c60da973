import CaseAutomation.Orchestrator.Progress
import CaseAutomation.Orchestrator.Redrive

/-! # What a Succeeded Run Has Done

    Two records say that a step is complete: its row and its idempotency record. A pass
    that finds the record passes over the step and leaves the row as it is. So after a crash
    between the two writes, the run goes on past a row that never succeeds.

    Where no pass finds a record, only the rows count: the rows that succeeded come first, a run
    succeeds when all its rows have, and each row holds the answer of the last invocation of
    its handler. The histories are those of `Redriven`, one request at a time.
-/

namespace CaseAutomation.Orchestrator.Completion

open Framework Program

/-! ## Rows in order -/

/-- No row succeeds before the rows that come earlier. -/
def InOrder (rows : List StepState) : Prop :=
  rows.Pairwise fun row later => later.status = .SUCCEEDED → row.status = .SUCCEEDED

/-- All rows before the first row of that name have succeeded. -/
def Arrived (rows : List StepState) (step : String) : Prop :=
  ∀ row ∈ rows.takeWhile (fun row => decide (row.step ≠ step)), row.status = .SUCCEEDED

/-- The rows that succeeded come first. -/
theorem InOrder.filter_first {rows : List StepState} (h : InOrder rows) :
    rows.filter (fun row => decide (row.status = .SUCCEEDED)) <+: rows := by
  induction rows with
  | nil => exact List.prefix_rfl
  | cons row rows ih =>
    obtain ⟨hrow, hrows⟩ := List.pairwise_cons.mp h
    by_cases hsucceeded : row.status = .SUCCEEDED
    · rw [List.filter_cons_of_pos (by simpa using hsucceeded)]
      exact List.prefix_cons_inj row |>.mpr (ih hrows)
    · have hnone : rows.filter (fun row => decide (row.status = .SUCCEEDED)) = [] := by
        rw [List.filter_eq_nil_iff]
        intro later hlater hstatus
        exact hsucceeded (hrow later hlater (by simpa using hstatus))
      rw [List.filter_cons_of_neg (by simpa using hsucceeded), hnone]
      exact List.nil_prefix

section rows
variable {pre post done rest : List StepState} {row row' : StepState} {step : String}

/-- A row may be replaced if what succeeded stays so and nothing succeeds too early. -/
theorem InOrder.replace (h : InOrder (pre ++ row :: post))
    (hkept : row.status = .SUCCEEDED → row'.status = .SUCCEEDED)
    (hready : row'.status = .SUCCEEDED → ∀ r ∈ pre, r.status = .SUCCEEDED) :
    InOrder (pre ++ row' :: post) := by
  unfold InOrder at h ⊢
  rw [List.pairwise_append, List.pairwise_cons] at h ⊢
  obtain ⟨hpre, ⟨hrow, hpost⟩, hcross⟩ := h
  refine ⟨hpre, ⟨?_, hpost⟩, ?_⟩
  · intro later hlater hstatus
    exact hkept (hrow later hlater hstatus)
  · intro r hr later hlater hstatus
    rcases List.mem_cons.mp hlater with rfl | hlater
    · exact hready hstatus r hr
    · exact hcross r hr later (List.mem_cons_of_mem _ hlater) hstatus

/-- A row that has not succeeded has no succeeded row after it. -/
theorem InOrder.after (h : InOrder (pre ++ row :: post)) (hrow : row.status ≠ .SUCCEEDED)
    {later : StepState} (hlater : later ∈ post) : later.status ≠ .SUCCEEDED := by
  intro hstatus
  unfold InOrder at h
  rw [List.pairwise_append, List.pairwise_cons] at h
  exact hrow (h.2.1.1 later hlater hstatus)

/-- Arriving is not undone by replacing a row. -/
theorem Arrived.replace (h : Arrived (pre ++ row :: post) step) (hname : row'.step = row.step)
    (hkept : row.status = .SUCCEEDED → row'.status = .SUCCEEDED) :
    Arrived (pre ++ row' :: post) step := by
  unfold Arrived at h ⊢
  induction pre with
  | nil =>
    by_cases hstep : row.step = step
    · intro r hr
      rw [List.nil_append, List.takeWhile_cons_of_neg (by simp [hname, hstep])] at hr
      cases hr
    · rw [List.nil_append, List.takeWhile_cons_of_pos (by simp [hstep])] at h
      rw [List.nil_append, List.takeWhile_cons_of_pos (by simp [hname, hstep])]
      intro r hr
      rcases List.mem_cons.mp hr with rfl | hr
      · exact hkept (h row List.mem_cons_self)
      · exact h r (List.mem_cons_of_mem row hr)
  | cons first pre ih =>
    by_cases hstep : first.step = step
    · intro r hr
      rw [List.cons_append, List.takeWhile_cons_of_neg (by simp [hstep])] at hr
      cases hr
    · rw [List.cons_append, List.takeWhile_cons_of_pos (by simp [hstep])] at h ⊢
      intro r hr
      rcases List.mem_cons.mp hr with rfl | hr
      · exact h r List.mem_cons_self
      · exact ih (fun x hx => h x (List.mem_cons_of_mem first hx)) r hr

/-- The rows before a name, up to a row of that name. -/
theorem takeWhile_named (hrow : row.step = step) {r : StepState}
    (hr : r ∈ (done ++ row :: rest).takeWhile (fun row => decide (row.step ≠ step))) : r ∈ done := by
  induction done with
  | nil =>
    rw [List.nil_append, List.takeWhile_cons_of_neg (by simp [hrow])] at hr
    cases hr
  | cons first done ih =>
    by_cases hstep : first.step = step
    · rw [List.cons_append, List.takeWhile_cons_of_neg (by simp [hstep])] at hr
      cases hr
    · rw [List.cons_append, List.takeWhile_cons_of_pos (by simp [hstep])] at hr
      rcases List.mem_cons.mp hr with rfl | hr
      · exact List.mem_cons_self
      · exact List.mem_cons_of_mem first (ih hr)

/-- A pass that has the rows of `done` behind it has arrived at the next row. -/
theorem arrived_next (hdone : ∀ r ∈ done, r.status = .SUCCEEDED) :
    Arrived (done ++ row :: rest) row.step :=
  fun r hr => hdone r (takeWhile_named rfl hr)

/-- What has arrived at a name has passed the rows before it. -/
theorem Arrived.before (h : Arrived (pre ++ row :: post) step) (hpre : ∀ r ∈ pre, r.step ≠ step)
    {r : StepState} (hr : r ∈ pre) : r.status = .SUCCEEDED := by
  apply h
  rw [List.takeWhile_append_of_pos (by simpa using hpre)]
  exact List.mem_append_left _ hr

/-- There is one first row of a name. -/
theorem first_row_unique (hdone : ∀ r ∈ done, r.step ≠ row.step) (hpre : ∀ r ∈ pre, r.step ≠ row.step)
    (hname : row'.step = row.step) (h : done ++ row :: rest = pre ++ row' :: post) :
    pre = done ∧ row' = row ∧ post = rest := by
  rcases List.append_eq_append_iff.mp h with ⟨mid, hmid, hrest⟩ | ⟨mid, hmid, hrest⟩
  · cases mid with
    | nil =>
      rw [List.append_nil] at hmid
      cases hrest
      exact ⟨hmid, rfl, rfl⟩
    | cons r mid =>
      cases hrest
      exact absurd rfl (hpre row (by rw [hmid]; simp))
  · cases mid with
    | nil =>
      rw [List.append_nil] at hmid
      cases hrest
      exact ⟨hmid.symm, rfl, rfl⟩
    | cons r mid =>
      cases hrest
      exact absurd hname (hdone row' (by rw [hmid]; simp))

end rows

/-! ## The invariant -/

/-- The last invocation of the step's handler returned this output. -/
def Answered (trace : List Event) (run_id step : String) (output : Option JsonObj) : Prop :=
  ∃ before ctx returned hooks after,
    trace = before ++ .invoked run_id step ctx (.returned returned hooks) :: after ∧
    (∀ e ∈ after, e.invokes run_id step = false) ∧ output = some (returned.getD [])

theorem Answered.grow {trace new : List Event} {run_id step : String} {output : Option JsonObj}
    (h : Answered trace run_id step output) (hnew : ∀ e ∈ new, e.invokes run_id step = false) :
    Answered (trace ++ new) run_id step output := by
  obtain ⟨before, ctx, returned, hooks, after, rfl, hafter, houtput⟩ := h
  refine ⟨before, ctx, returned, hooks, after ++ new, by simp, ?_, houtput⟩
  intro e he
  rcases List.mem_append.mp he with he | he
  · exact hafter e he
  · exact hnew e he

/-- The rows of a run. -/
structure RowsWhole (trace : List Event) (run_id : String) (rows : List StepState) : Prop where
  of_run : ∀ row ∈ rows, row.run_id = run_id
  order : InOrder rows
  /-- Nothing is skipped or compensated. -/
  plain : ∀ row ∈ rows, row.status ≠ .SKIPPED ∧ row.status ≠ .COMPENSATED
  answered : ∀ row ∈ rows, row.status = .SUCCEEDED → is_gate row.step = false →
    Answered trace run_id row.step row.output

/-- A pass has come to this gate. -/
def Gated (s : RunStore) (run_id step : String) : Prop :=
  is_gate step = true ∧ ∃ rows, s.steps.get? run_id = some rows ∧ Arrived rows step

/-- All rows of the run have succeeded. -/
def AllSucceeded (s : RunStore) (run_id : String) : Prop :=
  ∀ rows, s.steps.get? run_id = some rows → ∀ row ∈ rows, row.status = .SUCCEEDED

/-- What holds of the store in every state. -/
structure Whole (registry : Registry) (trace : List Event) (s : RunStore) : Prop where
  keyed : ∀ id run, s.runs.get? id = some run → run.id = id
  owned : ∀ id rows, s.steps.get? id = some rows → ∃ run, s.runs.get? id = some run
  declared : ∀ id run, s.runs.get? id = some run → ∃ defn rows,
    get_workflow_latest registry run.workflow = .ok defn ∧ s.steps.get? id = some rows ∧
      rows.map StepState.step = defn.steps
  rows : ∀ id rows, s.steps.get? id = some rows → RowsWhole trace id rows
  /-- A token is issued for a gate that a pass has come to. -/
  tokens : ∀ id token, s.tokens.get? id = some token → Gated s token.run_id token.step
  succeeded : ∀ id run, s.runs.get? id = some run → run.status = .SUCCEEDED → AllSucceeded s id

/-- What a call needs where it is issued. -/
def needs : Call → World → Prop
  | .create_run run rows, w => run.status ≠ .SUCCEEDED ∧
      (∀ row ∈ rows, row.run_id = run.id ∧ row.status = .PENDING) ∧
      ∃ defn, get_workflow_latest w.registry run.workflow = .ok defn ∧
        rows.map StepState.step = defn.steps
  | .update_run_status run_id status _ _, w => status = .SUCCEEDED → AllSucceeded w.store run_id
  | .advance_gate_step run_id step, w => Gated w.store run_id step
  | .update_step row, w => (row.status ≠ .SKIPPED ∧ row.status ≠ .COMPENSATED) ∧
      (row.status = .SUCCEEDED →
        (∀ rows, w.store.steps.get? row.run_id = some rows → Arrived rows row.step) ∧
        (is_gate row.step = false → Answered w.trace row.run_id row.step row.output))
  | .save_token token, w => Gated w.store token.run_id token.step
  | .invoke _ step ctx, w => ∀ rows, w.store.steps.get? ctx.run_id = some rows →
      ∀ row ∈ rows, row.step = step → row.status ≠ .SUCCEEDED
  | _, _ => True

section step
variable {registry : Registry} {trace new : List Event} {s : RunStore}

/-- Events that invoke none of the handlers that are done. -/
theorem Whole.grow (h : Whole registry trace s)
    (hnew : ∀ id rows row, s.steps.get? id = some rows → row ∈ rows → row.status = .SUCCEEDED →
      ∀ e ∈ new, e.invokes id row.step = false) : Whole registry (trace ++ new) s := by
  refine ⟨h.keyed, h.owned, h.declared, ?_, h.tokens, h.succeeded⟩
  intro id rows hget
  have hrows := h.rows id rows hget
  refine ⟨hrows.of_run, hrows.order, hrows.plain, ?_⟩
  intro row hrow hstatus hgate
  exact (hrows.answered row hrow hstatus hgate).grow (hnew id rows row hget hrow hstatus)

/-- A gate that a pass has come to stays so when a row is replaced. -/
theorem Gated.replace {run_id id step : String} {row row' : StepState} {pre post : List StepState}
    (h : Gated s id step) (hget : s.steps.get? run_id = some (pre ++ row :: post))
    (hname : row'.step = row.step) (hkept : row.status = .SUCCEEDED → row'.status = .SUCCEEDED) :
    Gated { s with steps := s.steps.set run_id (pre ++ row' :: post) } id step := by
  obtain ⟨hgate, rows, hrows, harrived⟩ := h
  refine ⟨hgate, ?_⟩
  by_cases hid : id = run_id
  · subst hid
    rw [hget] at hrows
    cases hrows
    exact ⟨_, Dict.get?_set_self _ _ _, harrived.replace hname hkept⟩
  · exact ⟨rows, (Dict.get?_set_ne _ _ hid).trans hrows, harrived⟩

/-- One row is replaced by a row of its name. -/
theorem Whole.replace {run_id : String} {row row' : StepState} {pre post : List StepState}
    (h : Whole registry trace s) (hget : s.steps.get? run_id = some (pre ++ row :: post))
    (hname : row'.step = row.step) (hof : row'.run_id = run_id)
    (hplain : row'.status ≠ .SKIPPED ∧ row'.status ≠ .COMPENSATED)
    (hkept : row.status = .SUCCEEDED → row'.status = .SUCCEEDED)
    (hready : row'.status = .SUCCEEDED → ∀ r ∈ pre, r.status = .SUCCEEDED)
    (hanswered : row'.status = .SUCCEEDED → is_gate row'.step = false →
      Answered trace run_id row'.step row'.output) :
    Whole registry trace { s with steps := s.steps.set run_id (pre ++ row' :: post) } := by
  refine ⟨h.keyed, ?_, ?_, ?_, ?_, ?_⟩
  · intro id rows hrows
    rcases Dict.get?_set_cases hrows with ⟨rfl, rfl⟩ | ⟨-, hold⟩
    · exact h.owned _ _ hget
    · exact h.owned id rows hold
  · intro id run hrun
    obtain ⟨defn, rows, hlatest, hrows, hnames⟩ := h.declared id run hrun
    by_cases hid : id = run_id
    · subst hid
      rw [hget] at hrows
      cases hrows
      refine ⟨defn, _, hlatest, Dict.get?_set_self _ _ _, ?_⟩
      rw [← hnames]
      simp [hname]
    · exact ⟨defn, rows, hlatest, (Dict.get?_set_ne _ _ hid).trans hrows, hnames⟩
  · intro id rows hrows
    rcases Dict.get?_set_cases hrows with ⟨rfl, rfl⟩ | ⟨-, hold⟩
    · have hwhole := h.rows _ _ hget
      refine ⟨?_, hwhole.order.replace hkept hready, ?_, ?_⟩
      · intro r hr
        rcases mem_replace hr with rfl | hr
        · exact hof
        · exact hwhole.of_run r hr
      · intro r hr
        rcases mem_replace hr with rfl | hr
        · exact hplain
        · exact hwhole.plain r hr
      · intro r hr
        rcases mem_replace hr with rfl | hr
        · exact hanswered
        · exact hwhole.answered r hr
    · exact h.rows id rows hold
  · intro id token htoken
    exact (h.tokens id token htoken).replace hget hname hkept
  · intro id run hrun hstatus rows hrows
    have hall := h.succeeded id run hrun hstatus
    rcases Dict.get?_set_cases hrows with ⟨rfl, rfl⟩ | ⟨-, hold⟩
    · intro r hr
      rcases mem_replace hr with rfl | hr
      · exact hkept (hall _ hget row (by simp))
      · exact hall _ hget r hr
    · exact hall rows hold

/-- The run is written again, with its id and its workflow. -/
theorem Whole.rewrite {run_id : String} {run run' : WorkflowRun} (h : Whole registry trace s)
    (hget : s.runs.get? run_id = some run) (hid : run'.id = run.id)
    (hworkflow : run'.workflow = run.workflow)
    (hstatus : run'.status = .SUCCEEDED → AllSucceeded s run_id) :
    Whole registry trace { s with runs := s.runs.set run_id run' } := by
  refine ⟨?_, ?_, ?_, h.rows, h.tokens, ?_⟩
  · intro id found hfound
    rcases Dict.get?_set_cases hfound with ⟨rfl, rfl⟩ | ⟨-, hold⟩
    · exact hid.trans (h.keyed _ _ hget)
    · exact h.keyed id found hold
  · intro id rows hrows
    by_cases hself : id = run_id
    · rw [hself]
      exact ⟨run', Dict.get?_set_self _ _ _⟩
    · obtain ⟨found, hfound⟩ := h.owned id rows hrows
      exact ⟨found, (Dict.get?_set_ne _ _ hself).trans hfound⟩
  · intro id found hfound
    rcases Dict.get?_set_cases hfound with ⟨rfl, rfl⟩ | ⟨-, hold⟩
    · rw [hworkflow]
      exact h.declared _ _ hget
    · exact h.declared id found hold
  · intro id found hfound
    rcases Dict.get?_set_cases hfound with ⟨rfl, rfl⟩ | ⟨-, hold⟩
    · exact hstatus
    · exact h.succeeded id found hold

/-- A run is created under a new id. -/
theorem Whole.create {run : WorkflowRun} {rows : List StepState} {defn : WorkflowDef}
    (dedupe : Dict String String) (h : Whole registry trace s) (hnew : s.runs.get? run.id = none)
    (hstatus : run.status ≠ .SUCCEEDED)
    (hrows : ∀ row ∈ rows, row.run_id = run.id ∧ row.status = .PENDING)
    (hlatest : get_workflow_latest registry run.workflow = .ok defn)
    (hnames : rows.map StepState.step = defn.steps) :
    Whole registry trace { s with
      runs := s.runs.set run.id run, steps := s.steps.set run.id rows, dedupe := dedupe } := by
  -- no rows are stored under the new id
  have hother : ∀ id found, s.steps.get? id = some found → id ≠ run.id := by
    rintro id found hfound rfl
    obtain ⟨old, hold⟩ := h.owned run.id found hfound
    rw [hnew] at hold
    cases hold
  refine ⟨?_, ?_, ?_, ?_, ?_, ?_⟩
  · intro id found hfound
    rcases Dict.get?_set_cases hfound with ⟨rfl, rfl⟩ | ⟨-, hold⟩
    · rfl
    · exact h.keyed id found hold
  · intro id found hfound
    rcases Dict.get?_set_cases hfound with ⟨rfl, rfl⟩ | ⟨hid, hold⟩
    · exact ⟨run, Dict.get?_set_self _ _ _⟩
    · obtain ⟨old, hrun⟩ := h.owned id found hold
      exact ⟨old, (Dict.get?_set_ne _ _ hid).trans hrun⟩
  · intro id found hfound
    rcases Dict.get?_set_cases hfound with ⟨rfl, rfl⟩ | ⟨hid, hold⟩
    · exact ⟨defn, rows, hlatest, Dict.get?_set_self _ _ _, hnames⟩
    · obtain ⟨defn', rows', hlatest', hrows', hnames'⟩ := h.declared id found hold
      exact ⟨defn', rows', hlatest', (Dict.get?_set_ne _ _ hid).trans hrows', hnames'⟩
  · intro id found hfound
    rcases Dict.get?_set_cases hfound with ⟨rfl, rfl⟩ | ⟨-, hold⟩
    · have hpending : ∀ row ∈ found, row.status ≠ .SUCCEEDED := by
        intro row hrow
        rw [(hrows row hrow).2]
        decide
      refine ⟨fun row hrow => (hrows row hrow).1, ?_, ?_, ?_⟩
      · apply List.pairwise_of_forall_mem_list
        intro row _ later hlater hsucceeded
        exact absurd hsucceeded (hpending later hlater)
      · intro row hrow
        rw [(hrows row hrow).2]
        decide
      · intro row hrow hsucceeded
        exact absurd hsucceeded (hpending row hrow)
    · exact h.rows id found hold
  · intro id token htoken
    obtain ⟨hgate, found, hfound, harrived⟩ := h.tokens id token htoken
    exact ⟨hgate, found, (Dict.get?_set_ne _ _ (hother _ found hfound)).trans hfound, harrived⟩
  · intro id found hfound hsucceeded
    rcases Dict.get?_set_cases hfound with ⟨rfl, rfl⟩ | ⟨hid, hold⟩
    · exact absurd hsucceeded hstatus
    · intro rows' hrows'
      rw [Dict.get?_set_ne _ _ hid] at hrows'
      exact h.succeeded id found hold hsucceeded rows' hrows'

end step

/-! ## One call -/

/-- Calls of `minted`, of which no lookup finds a record. -/
def recordless (env : Env) : Relation Call Call.Resp Exn World := fun c w r w' =>
  minted env c w r w' ∧ ∀ key, c = .lookup key → w.idem.lookup env.json key = none

section calls
variable {env : Env} {c : Call} {w w' : World} {r : Except Exn c.Resp}

/-- Only `invoke` invokes a handler. -/
theorem events_quiet (hc : c.invokes = false) (w : World) {e : Event} (he : e ∈ c.events w)
    (run_id step : String) : e.invokes run_id step = false := by
  cases c with
  | invoke handler step' ctx => cases hc
  | update_step row =>
    simp only [Call.events] at he
    split at he
    · rw [List.mem_singleton.mp he]
      rfl
    · cases he
  | record key output => rw [List.mem_singleton.mp he]; rfl
  | compensate run_id' fn => rw [List.mem_singleton.mp he]; rfl
  | audit entry => rw [List.mem_singleton.mp he]; rfl
  | enqueue run_id' => rw [List.mem_singleton.mp he]; rfl
  | log_error event run_id' exn => rw [List.mem_singleton.mp he]; rfl
  | _ => cases he

/-- What a call does to the store, the trace apart. -/
theorem Whole.store (env : Env) (h : Whole w.registry w.trace w.store) (hneeds : needs c w)
    (hfresh : ∀ run rows, c = .create_run run rows → w.store.runs.get? run.id = none) :
    Whole w.registry w.trace (exec env c w).2.store := by
  have hchange := exec_store_change env c w
  generalize (exec env c w).2.store = store at hchange
  generalize (exec env c w).2.clock = clock at hchange
  cases hchange with
  | same => exact h
  | created run rows dedupe hmiss =>
    obtain ⟨hstatus, hrows, defn, hlatest, hnames⟩ := hneeds
    exact h.create dedupe (hfresh run rows rfl) hstatus hrows hlatest hnames
  | @status run_id status cur err run hget hlegal => exact h.rewrite hget rfl rfl hneeds
  | @current run_id step run hget =>
    exact h.rewrite hget rfl rfl fun hstatus => h.succeeded run_id run hget hstatus
  | @advanced run_id step row pre post hget hpre hrow =>
    obtain ⟨hgate, rows, hrows, harrived⟩ := hneeds
    rw [hget] at hrows
    cases hrows
    have hof := (h.rows run_id _ hget).of_run row (by simp)
    refine h.replace hget ?_ ?_ ?_ ?_ ?_ ?_
    · rfl
    · exact hof
    · exact ⟨StepStatus.noConfusion, StepStatus.noConfusion⟩
    · intro _
      rfl
    · intro _ r hr
      exact harrived.before hpre hr
    · intro _ hplain
      have hgate' : is_gate row.step = true := by rwa [hrow]
      exact absurd (hgate'.symm.trans hplain) (by decide)
  | @updated step row pre post hget hpre hrow hlegal =>
    obtain ⟨hplain, hsucceeded⟩ := hneeds
    have hkept := succeeded_kept hlegal hplain.2
    apply h.replace hget hrow.symm rfl hplain fun hstatus => absurd hstatus hkept
    · intro hstatus r hr
      exact ((hsucceeded hstatus).1 _ hget).before hpre hr
    · intro hstatus
      exact (hsucceeded hstatus).2
  | gate_created gate => exact ⟨h.keyed, h.owned, h.declared, h.rows, h.tokens, h.succeeded⟩
  | gate_updated gate => exact ⟨h.keyed, h.owned, h.declared, h.rows, h.tokens, h.succeeded⟩
  | token_saved token =>
    refine ⟨h.keyed, h.owned, h.declared, h.rows, ?_, h.succeeded⟩
    intro id found hfound
    rcases Dict.get?_set_cases hfound with ⟨rfl, rfl⟩ | ⟨-, hold⟩
    · exact hneeds
    · exact h.tokens id found hold
  | @token_used token_id used_at token hget hused =>
    refine ⟨h.keyed, h.owned, h.declared, h.rows, ?_, h.succeeded⟩
    intro id found hfound
    rcases Dict.get?_set_cases hfound with ⟨rfl, rfl⟩ | ⟨-, hold⟩
    · have hgated : Gated w.store token.run_id token.step := h.tokens _ token hget
      exact hgated
    · exact h.tokens id found hold
  | decided d => exact ⟨h.keyed, h.owned, h.declared, h.rows, h.tokens, h.succeeded⟩

/-- **Step lemma.** -/
theorem Whole.step (h : Whole w.registry w.trace w.store) (hneeds : needs c w)
    (hstep : recordless env c w r w') : Whole w'.registry w'.trace w'.store := by
  obtain ⟨⟨hfaulty, hfresh⟩, -⟩ := hstep
  rcases hfaulty.world with ⟨rfl, -⟩ | rfl
  · exact h
  rw [exec_registry, exec_trace]
  apply (h.store env hneeds hfresh).grow
  intro id rows row hget hrow hstatus e he
  cases hc : c.invokes with
  | false => exact events_quiet hc w he id row.step
  | true =>
    cases c with
    | invoke handler step ctx =>
      obtain rfl := List.mem_singleton.mp he
      simp only [Event.invokes, Bool.and_eq_false_iff, decide_eq_false_iff_not]
      by_cases hid : ctx.run_id = id
      · right
        intro hname
        rw [← hid] at hget
        exact hneeds rows hget row hrow hname.symm hstatus
      · exact Or.inl hid
    | _ => cases hc

end calls

/-- One program at a time; only locks expire in between. -/
def contract (env : Env) : Contract Call Call.Resp Exn World where
  step := recordless env
  inv := fun w => Whole w.registry w.trace w.store
  rely := fun w w' => w'.store = w.store ∧ w'.trace = w.trace ∧ w'.registry = w.registry
  guar := fun _ _ => True
  guard := needs

/-! ## Calls that touch no row -/

/-- Calls that need nothing and leave the rows and the handlers alone. -/
def rowless : Call → Bool
  | .create_run _ _ => false
  | .update_run_status _ status _ _ => !decide (status = .SUCCEEDED)
  | .advance_gate_step _ _ => false
  | .update_step _ => false
  | .save_token _ => false
  | .invoke _ _ _ => false
  | _ => true

/-- The rows are as before, and no handler was invoked. -/
structure SameRows (w w' : World) : Prop where
  steps : w'.store.steps = w.store.steps
  registry : w'.registry = w.registry
  trace : ∃ new, w'.trace = w.trace ++ new ∧ ∀ e ∈ new, ∀ run_id step, e.invokes run_id step = false

section walk
variable {env : Env} {c : Call} {w w' w'' : World} {r : Except Exn c.Resp}

theorem SameRows.refl (w : World) : SameRows w w :=
  ⟨rfl, rfl, [], (List.append_nil _).symm, fun e he => (by cases he)⟩

theorem SameRows.trans (h : SameRows w w') (h' : SameRows w' w'') : SameRows w w'' := by
  obtain ⟨new, htrace, hnew⟩ := h.trace
  obtain ⟨new', htrace', hnew'⟩ := h'.trace
  refine ⟨h'.steps.trans h.steps, h'.registry.trans h.registry, new ++ new',
    by rw [htrace', htrace, List.append_assoc], ?_⟩
  intro e he
  rcases List.mem_append.mp he with he | he
  · exact hnew e he
  · exact hnew' e he

theorem SameRows.rely (h : (contract env).rely w w') : SameRows w w' := by
  refine ⟨by rw [h.1], h.2.2, [], ?_, fun e he => (by cases he)⟩
  rw [h.2.1, List.append_nil]

theorem SameRows.answered (h : SameRows w w') {run_id step : String} {output : Option JsonObj}
    (hanswered : Answered w.trace run_id step output) : Answered w'.trace run_id step output := by
  obtain ⟨new, htrace, hnew⟩ := h.trace
  rw [htrace]
  exact hanswered.grow fun e he => hnew e he run_id step

theorem rowless_needs (hc : rowless c = true) (w : World) : needs c w := by
  cases c with
  | update_run_status run_id status cur err =>
    intro hstatus
    rw [hstatus] at hc
    cases hc
  | create_run => cases hc
  | advance_gate_step => cases hc
  | update_step => cases hc
  | save_token => cases hc
  | invoke => cases hc
  | _ => trivial

/-- A call leaves the rows alone unless it creates, advances or updates them. -/
theorem exec_steps (env : Env) (w : World) (hcreate : ∀ run rows, c ≠ .create_run run rows)
    (hadvance : ∀ run_id step, c ≠ .advance_gate_step run_id step)
    (hupdate : ∀ row, c ≠ .update_step row) :
    (exec env c w).2.store.steps = w.store.steps := by
  have hchange := exec_store_change env c w
  generalize (exec env c w).2.store = store at hchange
  generalize (exec env c w).2.clock = clock at hchange
  cases hchange with
  | created run rows => exact absurd rfl (hcreate run rows)
  | advanced => exact absurd rfl (hadvance _ _)
  | updated => exact absurd rfl (hupdate _)
  | _ => rfl

theorem rowless_step (hc : rowless c = true) (h : recordless env c w r w') : SameRows w w' := by
  rcases h.1.1.world with ⟨rfl, -⟩ | rfl
  · exact .refl _
  have hinvokes : c.invokes = false := by
    cases c with
    | invoke => cases hc
    | _ => rfl
  refine ⟨exec_steps env w ?_ ?_ ?_, exec_registry env c w, c.events w, exec_trace env c w, ?_⟩
  · rintro run rows rfl
    cases hc
  · rintro run_id step rfl
    cases hc
  · rintro row rfl
    cases hc
  · intro e he run_id step
    exact events_quiet hinvokes w he run_id step

theorem rowless_free (hc : rowless c = true) : Free (contract env) c := by
  intro w hinv
  refine ⟨rowless_needs hc w, ?_⟩
  intro r w' hstep
  exact ⟨hinv.step (rowless_needs hc w) hstep, trivial⟩

/-- Marking a row running, failed or pending needs nothing. -/
theorem update_free {row : StepState}
    (hrow : row.status = .RUNNING ∨ row.status = .FAILED ∨ row.status = .PENDING) :
    Free (contract env) (.update_step row) := by
  have hneeds : ∀ w, needs (.update_step row) w := by
    intro w
    rcases hrow with hrow | hrow | hrow <;> simp [needs, hrow]
  intro w hinv
  refine ⟨hneeds w, ?_⟩
  intro r w' hstep
  exact ⟨hinv.step (hneeds w) hstep, trivial⟩

theorem lenient (env : Env) : Lenient (contract env) where
  plain := by
    intro c hc
    apply rowless_free
    cases c <;> first | rfl | cases hc
  parked := fun _ _ => rowless_free rfl
  no_reset := by
    intro row w a w' hrow hstep
    exact exec_pending hrow hstep.1.1.ok

/-- A program of such calls leaves the rows alone, on both ways out. -/
theorem keeps_rows {α : Type} {p : M α} (hp : Issues (fun c => rowless c = true) p) (w : World) :
    Safe (contract env) (fun _ w' => SameRows w w') p w := by
  apply Safe.of_issues (A := fun w' => SameRows w w') _ _ hp (.refl w)
  · intro w₁ w₂ hrely h
    exact h.trans (.rely hrely)
  · intro c w₁ hc hinv h
    obtain ⟨hneeds, hstep⟩ := rowless_free hc w₁ hinv
    refine ⟨hneeds, ?_⟩
    intro r w₂ hr
    exact ⟨(hstep r w₂ hr).1, trivial, h.trans (rowless_step hc hr)⟩

theorem yields_rows {α : Type} {p : M α} (hp : Issues (fun c => rowless c = true) p) (w : World) :
    Yields (contract env) (fun _ w' => SameRows w w') p w :=
  .of_keeps (keeps_rows hp w)

end walk

/-! ## A pass -/

/-- The pass has the rows of `done` behind it, and the rows of `rest` before it. -/
structure At (run_id : String) (done rest : List StepState) (w : World) : Prop where
  steps : w.store.get_steps run_id = done ++ rest
  done : ∀ row ∈ done, row.status = .SUCCEEDED

section pass
variable {env : Env} {run_id : String} {done rest : List StepState} {row : StepState} {w w' : World}

theorem At.same (h : At run_id done rest w) (hsame : SameRows w w') : At run_id done rest w' := by
  refine ⟨?_, h.done⟩
  rw [← h.steps, RunStore.get_steps, RunStore.get_steps, hsame.steps]

theorem At.next (h : At run_id done (row :: rest) w) (hrow : row.status = .SUCCEEDED) :
    At run_id (done ++ [row]) rest w := by
  refine ⟨by rw [h.steps, List.append_assoc]; rfl, ?_⟩
  intro r hr
  rcases List.mem_append.mp hr with hr | hr
  · exact h.done r hr
  · rw [List.mem_singleton.mp hr]
    exact hrow

theorem At.rows (h : At run_id done (row :: rest) w) :
    w.store.steps.get? run_id = some (done ++ row :: rest) := by
  cases hget : w.store.steps.get? run_id with
  | none =>
    have hsteps := h.steps
    rw [RunStore.get_steps, hget] at hsteps
    simp at hsteps
  | some rows => rw [← h.steps, RunStore.get_steps_eq hget]

theorem At.arrived (h : At run_id done (row :: rest) w) (rows : List StepState)
    (hget : w.store.steps.get? run_id = some rows) : Arrived rows row.step := by
  rw [h.rows] at hget
  cases hget
  exact arrived_next h.done

/-- An accepted write of a row of that name, when no row behind the pass has it. -/
theorem At.written {row' : StepState} {u : Unit} (h : At run_id done (row :: rest) w)
    (hof : row'.run_id = run_id) (hname : row'.step = row.step)
    (hnames : ∀ r ∈ done, r.step ≠ row.step)
    (hexec : exec env (.update_step row') w = (.ok u, w')) : At run_id done (row' :: rest) w' := by
  cases hupdate : w.store.update_step row' with
  | error e =>
    simp only [exec, hupdate] at hexec
    cases hexec
  | ok s =>
    simp only [exec, hupdate, Prod.mk.injEq] at hexec
    obtain ⟨-, rfl⟩ := hexec
    obtain ⟨pre, old, post, hget, hpre, hold, -, rfl⟩ := RunStore.update_step_ok hupdate
    rw [hof, h.rows] at hget
    rw [hname] at hpre hold
    obtain ⟨rfl, -, rfl⟩ := first_row_unique hnames hpre hold (Option.some.inj hget)
    rw [hof]
    exact ⟨RunStore.get_steps_set_self w.store run_id _, h.done⟩

/-- A row that is let start is the first of its name: those behind the pass have succeeded. -/
theorem yields_running (running : StepState) (h : At run_id done (row :: rest) w)
    (hof : running.run_id = run_id) (hname : running.step = row.step)
    (hrunning : running.status = .RUNNING) :
    Yields (contract env)
      (fun _ w' => At run_id done (running :: rest) w' ∧ ∀ r ∈ done, r.step ≠ running.step)
      (await (.update_step running)) w := by
  apply Yields.perform
  intro w₁ hrely hinv
  have h₁ := h.same (.rely hrely)
  have hfree : Free (contract env) (.update_step running) :=
    update_free (Or.inl hrunning)
  obtain ⟨hneeds, hstep⟩ := hfree w₁ hinv
  refine ⟨hneeds, ?_⟩
  intro r w₂ hr
  refine ⟨(hstep r w₂ hr).1, trivial, ?_⟩
  rintro u rfl
  have hexec := hr.1.1.ok
  have hnames : ∀ r ∈ done, r.step ≠ row.step := by
    cases hupdate : w₁.store.update_step running with
    | error e =>
      simp only [exec, hupdate] at hexec
      cases hexec
    | ok s =>
      obtain ⟨pre, old, post, hget, hpre, hold, hlegal, -⟩ := RunStore.update_step_ok hupdate
      rw [hof, h₁.rows] at hget
      rw [hname] at hpre
      -- the row that was written has not succeeded, so it is not behind the pass
      rcases List.append_eq_append_iff.mp (Option.some.inj hget) with ⟨mid, rfl, -⟩ | ⟨mid, hmid, hrest⟩
      · intro r hr
        exact hpre r (List.mem_append_left _ hr)
      · cases mid with
        | nil =>
          rw [List.append_nil] at hmid
          rw [hmid]
          exact hpre
        | cons first mid =>
          cases hrest
          have hsucceeded := h₁.done old (by rw [hmid]; simp)
          rw [hsucceeded, hrunning] at hlegal
          cases hlegal
  refine ⟨h₁.written hof hname hnames hexec, ?_⟩
  rw [hname]
  exact hnames

/-- The handler of the row that is running. -/
theorem yields_invoke {handler : Handler} {ctx : StepContext} (h : At run_id done (row :: rest) w)
    (hnames : ∀ r ∈ done, r.step ≠ row.step) (hctx : ctx.run_id = run_id)
    (hrunning : row.status = .RUNNING) :
    Yields (contract env)
      (fun answer w' => At run_id done (row :: rest) w' ∧
        Answered w'.trace run_id row.step (some (answer.1.getD [])))
      (await (.invoke handler row.step ctx)) w := by
  apply Yields.perform
  intro w₁ hrely hinv
  have h₁ := h.same (.rely hrely)
  have hrow : row.status ≠ .SUCCEEDED := by
    rw [hrunning]
    decide
  have hneeds : needs (.invoke handler row.step ctx) w₁ := by
    intro rows hget r hr hname
    rw [hctx, h₁.rows] at hget
    cases hget
    -- the row is the first of its name, and nothing after it has succeeded
    rcases List.mem_append.mp hr with hr | hr
    · exact absurd hname (hnames r hr)
    · rcases List.mem_cons.mp hr with rfl | hr
      · exact hrow
      · exact (hinv.rows run_id _ h₁.rows).order.after hrow hr
  refine ⟨hneeds, ?_⟩
  intro r w₂ hr
  refine ⟨hinv.step hneeds hr, trivial, ?_⟩
  rintro ⟨returned, hooks⟩ rfl
  have hexec := hr.1.1.ok
  simp only [exec, Prod.mk.injEq] at hexec
  obtain ⟨hanswer, rfl⟩ := hexec
  have hreturned : handler w₁.trace ctx = .returned returned hooks := by
    cases hresult : handler w₁.trace ctx with
    | returned output fns =>
      rw [hresult] at hanswer
      cases hanswer
      rfl
    | raised exn =>
      rw [hresult] at hanswer
      cases hanswer
  refine ⟨⟨h₁.steps, h₁.done⟩, w₁.trace, ctx, returned, hooks, [], ?_, ?_, rfl⟩
  · show w₁.trace ++ [_] = _
    rw [hreturned, hctx]
  · intro e he
    cases he

/-- The row is marked succeeded, with the answer of its handler. -/
theorem yields_succeeded (row' : StepState) (h : At run_id done (row :: rest) w)
    (hnames : ∀ r ∈ done, r.step ≠ row.step) (hof : row'.run_id = run_id)
    (hname : row'.step = row.step) (hstatus : row'.status = .SUCCEEDED)
    (hanswered : Answered w.trace run_id row.step row'.output) :
    Yields (contract env) (fun _ w' => At run_id done (row' :: rest) w')
      (await (.update_step row')) w := by
  apply Yields.perform
  intro w₁ hrely hinv
  have h₁ := h.same (.rely hrely)
  have hneeds : needs (.update_step row') w₁ := by
    refine ⟨by rw [hstatus]; exact ⟨by decide, by decide⟩, fun _ => ⟨?_, fun _ => ?_⟩⟩
    · rw [hof, hname]
      exact h₁.arrived
    · rw [hof, hname]
      exact SameRows.answered (.rely hrely) hanswered
  refine ⟨hneeds, ?_⟩
  intro r w₂ hr
  refine ⟨hinv.step hneeds hr, trivial, ?_⟩
  rintro u rfl
  exact h₁.written hof hname hnames hr.1.1.ok

/-- The `try` block of a step whose row is running: if it ends well, the row has succeeded. -/
theorem yields_try_step (engine : Engine) (defn : WorkflowDef) (ctx : StepContext)
    (compensations : List Compensation) (h : At run_id done (row :: rest) w)
    (hnames : ∀ r ∈ done, r.step ≠ row.step) (hof : row.run_id = run_id)
    (hctx : ctx.run_id = run_id) (hrunning : row.status = .RUNNING) :
    Yields (contract env)
      (fun tried w' => ∀ output, tried.result = .ok output →
        ∃ row', At run_id done (row' :: rest) w' ∧ row'.status = .SUCCEEDED)
      (engine.try_step defn run_id row ctx compensations) w := by
  have hfailed : ∀ {r : StepState} {fns : List Compensation} {e : Exn} {w' : World},
      Yields (contract env)
        (fun (tried : Engine.Attempted) w' => ∀ output, tried.result = .ok output →
          ∃ row', At run_id done (row' :: rest) w' ∧ row'.status = .SUCCEEDED)
        (pure ⟨r, fns, .error e⟩) w' := by
    intro r fns e w'
    apply Yields.ret
    intro output houtput
    cases houtput
  unfold Engine.try_step
  cases defn.handlers row.step with
  | none => exact hfailed
  | some handler =>
    apply Yields.bind (Yields.attempt (yields_invoke h hnames hctx hrunning) fun _ _ hr => hr)
    intro answer w₁ h₁
    rcases answer with e | ⟨returned, hooks⟩
    · exact hfailed
    obtain ⟨hat₁, hanswered₁⟩ := h₁ _ rfl
    have hrecord : Issues (fun c => rowless c = true) (do
        let _ ← await (.reserve row.idem_key)
        await (.record row.idem_key (returned.getD [])) : M Unit) :=
      .bind (.perform rfl) fun _ => .perform rfl
    apply Yields.bind (Yields.attempt_keeps (keeps_rows hrecord w₁))
    intro recorded w₂ hsame₂
    rcases recorded with e | u
    · exact hfailed
    apply Yields.bind (yields_rows (.perform rfl) w₂)
    intro now w₃ hsame₃
    have hsame := hsame₂.trans hsame₃
    apply Yields.bind (P := fun done' w' => ∀ u, done' = .ok u →
      At run_id done (Engine.succeeded_row row (returned.getD []) now :: rest) w')
    · apply Yields.attempt _ fun _ _ hr => hr
      apply Yields.bind (yields_succeeded (Engine.succeeded_row row (returned.getD []) now)
        (hat₁.same hsame) hnames hof rfl rfl (hsame.answered hanswered₁))
      intro _ w₄ hat₄
      have htail : Issues (fun c => rowless c = true) (do
          engine.audit "step.succeeded" run_id [("step", .str row.step)] (returned.getD [])
          await (.set_current_step run_id row.step) : M Unit) :=
        .bind (Engine.audit_issues engine _ _ _ _ fun _ => rfl) fun _ => .perform rfl
      exact (yields_rows htail w₄).weaken fun _ _ hsame₅ => hat₄.same hsame₅
    · intro finished w₄ hat₄
      rcases finished with e | u
      · exact hfailed
      · apply Yields.ret
        intro output _
        exact ⟨_, hat₄ u rfl, rfl⟩

/-- The tokens of a gate that the pass has come to. -/
theorem yields_issue_tokens (engine : Engine) (gate_id step : String) (ttl : Int)
    (channels : List Channel) (h : Gated w.store run_id step) :
    Yields (contract env) (fun _ _ => True)
      (engine.issue_tokens gate_id run_id step ttl channels) w := by
  induction channels generalizing w with
  | nil => exact Yields.ret trivial
  | cons channel rest ih =>
    have hsame : ∀ {w₁ w₂ : World}, SameRows w₁ w₂ → Gated w₁.store run_id step →
        Gated w₂.store run_id step := by
      intro w₁ w₂ hrows hgated
      unfold Gated at hgated ⊢
      rw [hrows.steps]
      exact hgated
    unfold Engine.issue_tokens
    apply Yields.bind (yields_rows (.perform rfl) w)
    intro token_id w₁ h₁
    apply Yields.bind (yields_rows (.perform rfl) w₁)
    intro now w₂ h₂
    apply Yields.bind (P := fun _ w' => Gated w'.store run_id step)
    · apply Yields.perform
      intro w₃ hrely hinv
      have hgated : Gated w₃.store run_id step := hsame ((h₁.trans h₂).trans (.rely hrely)) h
      have hneeds : needs (.save_token (issue_token engine.crypto gate_id run_id step channel
          engine.signing_key ttl token_id now).2) w₃ := hgated
      refine ⟨hneeds, ?_⟩
      intro r w₄ hr
      refine ⟨hinv.step hneeds hr, trivial, ?_⟩
      intro _ _
      rcases hr.1.1.world with ⟨rfl, -⟩ | rfl
      · exact hgated
      · exact hgated
    · intro _ w₃ h₃
      exact ih h₃

/-- The gate that the pass has come to. -/
theorem yields_handle_gate (engine : Engine) (run : WorkflowRun) (cfg : GateConfig)
    (hid : run.id = run_id) (hgate : is_gate row.step = true) (h : At run_id done (row :: rest) w) :
    Yields (contract env) (fun _ _ => True) (engine.handle_gate run row cfg) w := by
  unfold Engine.handle_gate
  apply Yields.bind (yields_rows (.perform rfl) w)
  intro gate_id w₁ h₁
  apply Yields.bind (yields_rows (.perform rfl) w₁)
  intro now w₂ h₂
  apply Yields.bind (yields_rows (.perform rfl) w₂)
  intro _ w₃ h₃
  have hat := h.same ((h₁.trans h₂).trans h₃)
  rw [hid]
  apply Yields.bind (yields_issue_tokens engine gate_id row.step _ _
    ⟨hgate, _, hat.rows, arrived_next h.done⟩)
  intro _ w₄ _
  have htail : ∀ inputs, Issues (fun c => rowless c = true) (do
      await (.update_run_status run_id .AWAITING_APPROVAL none none)
      engine.audit "gate.requested" run_id inputs [] : M Unit) :=
    fun inputs => .bind (.perform rfl) fun _ => Engine.audit_issues engine _ _ _ _ fun _ => rfl
  exact (yields_rows (htail _) w₄).weaken fun _ _ _ => trivial

/-- No record is found. -/
theorem yields_lookup (key : String) (w : World) :
    Yields (contract env) (fun found w' => found = none ∧ SameRows w w') (await (.lookup key)) w := by
  apply Yields.perform
  intro w₁ hrely hinv
  have hfree : Free (contract env) (.lookup key) := rowless_free rfl
  obtain ⟨hneeds, hstep⟩ := hfree w₁ hinv
  refine ⟨hneeds, ?_⟩
  intro r w₂ hr
  refine ⟨(hstep r w₂ hr).1, trivial, ?_⟩
  rintro found rfl
  refine ⟨?_, (SameRows.rely hrely).trans (rowless_step rfl hr)⟩
  have hexec := hr.1.1.ok
  simp only [exec, hr.2 key rfl, Prod.mk.injEq, Except.ok.injEq] at hexec
  exact hexec.1.symm

/-- **The loop**, with the rows of `done` behind it. -/
theorem yields_execute_loop (engine : Engine) (again : M WorkflowRun) (run : WorkflowRun)
    (defn : WorkflowDef) (hid : run.id = run_id) (outputs : Dict String JsonObj)
    (compensations : List Compensation) (hof : ∀ row ∈ rest, row.run_id = run_id)
    (hplain : ∀ row ∈ rest, row.status ≠ .SKIPPED ∧ row.status ≠ .COMPENSATED)
    (h : At run_id done rest w) :
    Yields (contract env) (fun _ _ => True)
      (engine.execute_loop again run defn run_id rest outputs compensations) w := by
  induction rest generalizing done outputs compensations w with
  | nil =>
    -- all rows are behind the pass, so the run may succeed
    apply Yields.bind (P := fun _ _ => True)
    · apply Yields.perform
      intro w₁ hrely hinv
      have h₁ := h.same (.rely hrely)
      have hneeds : needs (.update_run_status run_id .SUCCEEDED none none) w₁ := by
        intro _ rows hget row hrow
        have hsteps := h₁.steps
        rw [RunStore.get_steps_eq hget, List.append_nil] at hsteps
        rw [hsteps] at hrow
        exact h₁.done row hrow
      refine ⟨hneeds, ?_⟩
      intro r w₂ hr
      exact ⟨hinv.step hneeds hr, trivial, fun _ _ => trivial⟩
    · intro _ w₁ _
      have htail : Issues (fun c => rowless c = true) (do
          engine.audit "run.succeeded" run_id [] []
          Engine.reload run_id : M WorkflowRun) :=
        .bind (Engine.audit_issues engine _ _ _ _ fun _ => rfl) fun _ =>
          Engine.reload_issues run_id rfl
      exact (yields_rows htail w₁).weaken fun _ _ _ => trivial
  | cons row rest ih =>
    have hof' : ∀ r ∈ rest, r.run_id = run_id := fun r hr => hof r (List.mem_cons_of_mem row hr)
    have hplain' : ∀ r ∈ rest, r.status ≠ .SKIPPED ∧ r.status ≠ .COMPENSATED :=
      fun r hr => hplain r (List.mem_cons_of_mem row hr)
    unfold Engine.execute_loop
    by_cases hdone : Engine.step_done row.status = true
    · rw [if_pos hdone]
      have hsucceeded : row.status = .SUCCEEDED := by
        obtain ⟨hskipped, hcompensated⟩ := hplain row List.mem_cons_self
        simpa [Engine.step_done, hskipped, hcompensated] using hdone
      exact ih _ _ hof' hplain' (h.next hsucceeded)
    rw [if_neg hdone]
    by_cases hgate : is_gate row.step = true
    · rw [if_pos hgate]
      apply Yields.bind (P := fun _ _ => True)
      · exact yields_handle_gate engine run _ hid hgate h
      · intro _ w₁ _
        exact (yields_rows (Engine.reload_issues run_id rfl) w₁).weaken fun _ _ _ => trivial
    rw [if_neg hgate]
    -- the lookup finds nothing
    apply Yields.bind (yields_lookup row.idem_key w)
    rintro found w₁ ⟨rfl, h₁⟩
    apply Yields.bind (yields_rows (.perform rfl) w₁)
    intro now w₂ h₂
    have hrow : row.run_id = run_id := hof row List.mem_cons_self
    apply Yields.bind (yields_running (Engine.running_row row now)
      (h.same (h₁.trans h₂)) hrow rfl rfl)
    rintro _ w₃ ⟨hat, hnames⟩
    apply Yields.bind (yields_try_step engine defn _ compensations hat hnames hrow rfl rfl)
    intro tried w₄ htried
    cases hresult : tried.result with
    | ok output =>
      obtain ⟨row', hat', hsucceeded⟩ := htried output hresult
      exact ih _ _ hof' hplain' (hat'.next hsucceeded)
    | error e =>
      apply walk_fail_step (lenient env) engine again run_id _ _ e w₄
      · intro err now
        exact update_free (Or.inr (Or.inl rfl))
      · intro err now
        exact update_free (Or.inr (Or.inr rfl))

/-- What a call that touches no row answers. -/
theorem yields_read {c : Call} (hc : rowless c = true) (w : World) :
    Yields (contract env) (fun a w' => SameRows w w' ∧ ∃ w₁, Whole w₁.registry w₁.trace w₁.store ∧
      exec env c w₁ = (.ok a, w')) (await c) w := by
  apply Yields.perform
  intro w₁ hrely hinv
  have hfree : Free (contract env) c := rowless_free hc
  obtain ⟨hneeds, hstep⟩ := hfree w₁ hinv
  refine ⟨hneeds, ?_⟩
  intro r w₂ hr
  refine ⟨(hstep r w₂ hr).1, trivial, ?_⟩
  rintro a rfl
  exact ⟨(SameRows.rely hrely).trans (rowless_step hc hr), w₁, hinv, hr.1.1.ok⟩

/-- The run, read from the store. -/
theorem yields_get_run (run_id : String) (w : World) :
    Yields (contract env) (fun found _ => ∀ run, found = some run → run.id = run_id)
      (await (.get_run run_id)) w := by
  refine (yields_read rfl w).weaken ?_
  rintro found w' ⟨-, w₁, hinv, hexec⟩ run rfl
  simp only [exec, Prod.mk.injEq, Except.ok.injEq] at hexec
  exact hinv.keyed run_id run hexec.1

/-- The start of a pass. -/
theorem yields_begin_run {run : WorkflowRun} (hid : run.id = run_id) (w : World) :
    Yields (contract env) (fun run' _ => run'.id = run_id) (Engine.begin_run run_id run) w := by
  unfold Engine.begin_run
  split
  · apply Yields.bind (yields_rows (.perform rfl) w)
    intro _ w₁ _
    apply Yields.bind (yields_get_run run_id w₁)
    intro found w₂ hfound
    cases found with
    | none => exact Yields.raise
    | some run' => exact Yields.ret (hfound run' rfl)
  · exact Yields.ret hid

/-- A pass over the stored rows. -/
theorem yields_execute_locked (engine : Engine) (again : M WorkflowRun) (run_id : String)
    (w : World) :
    Yields (contract env) (fun _ _ => True) (engine.execute_locked again run_id) w := by
  apply Yields.bind (yields_get_run run_id w)
  intro found w₁ hfound
  cases found with
  | none => exact Yields.raise
  | some run =>
    apply Yields.bind (yields_begin_run (hfound run rfl) w₁)
    intro run' w₂ hid
    apply Yields.bind (yields_rows (.perform rfl) w₂)
    intro defn w₃ _
    apply Yields.bind (yields_read rfl w₃)
    rintro rows w₄ ⟨-, w', hinv, hexec⟩
    simp only [exec, Prod.mk.injEq, Except.ok.injEq] at hexec
    obtain ⟨rfl, rfl⟩ := hexec
    have hwhole : RowsWhole w'.trace run_id (w'.store.get_steps run_id) := by
      cases hget : w'.store.steps.get? run_id with
      | none =>
        rw [RunStore.get_steps, hget]
        exact ⟨by simp, List.Pairwise.nil, by simp, by simp⟩
      | some rows =>
        rw [RunStore.get_steps_eq hget]
        exact hinv.rows run_id rows hget
    have hat : At run_id [] (w'.store.get_steps run_id) w' := by
      refine ⟨rfl, ?_⟩
      intro row hrow
      cases hrow
    exact yields_execute_loop engine again run' defn hid _ [] hwhole.of_run hwhole.plain hat

end pass

/-! ## Requests -/

/-- What is asked for: raw tokens that verify were issued, and nobody but the engine declares a
    run succeeded. -/
def Accepted (crypto : Crypto) (w : World) : Request → Prop
  | .resolve_gate args => Authentic crypto w args
  | .update_run_status _ status => status ≠ .SUCCEEDED
  | _ => True

section requests
variable {env : Env} {w : World}

theorem yields_start_run (args : StartArgs) (w : World) :
    Yields (contract env) (fun _ _ => True) (start_run args) w := by
  apply Yields.bind (P := fun defn w' =>
    get_workflow_latest w'.registry args.workflow_name = .ok defn)
  · refine (yields_read rfl w).weaken ?_
    rintro defn w' ⟨-, w₁, -, hexec⟩
    simp only [exec, Prod.mk.injEq] at hexec
    obtain ⟨hlatest, rfl⟩ := hexec
    exact hlatest
  intro defn w₁ hlatest
  have hkept : ∀ {w₂ : World}, SameRows w₁ w₂ →
      get_workflow_latest w₂.registry args.workflow_name = .ok defn := by
    intro w₂ hsame
    rw [hsame.registry]
    exact hlatest
  apply Yields.bind (yields_rows .ofExcept w₁)
  intro _ w₂ h₂
  apply Yields.bind (yields_rows (.perform rfl) w₂)
  intro now w₃ h₃
  have hchoose : Issues (fun c => rowless c = true) args.choose_run_id := by
    unfold StartArgs.choose_run_id
    split
    · exact .ret
    · exact .perform rfl
  apply Yields.bind (yields_rows hchoose w₃)
  intro run_id w₄ h₄
  apply Yields.perform
  intro w₅ hrely hinv
  have hneeds : needs (.create_run (args.initial_run defn run_id now)
      (initial_rows run_id 0 defn.steps)) w₅ := by
    refine ⟨RunStatus.noConfusion, ?_, defn, ?_, initial_rows_steps _ _ _⟩
    · intro row hrow
      obtain ⟨step, seq, rfl⟩ := mem_initial_rows hrow
      exact ⟨rfl, rfl⟩
    · exact hkept (((h₂.trans h₃).trans h₄).trans (.rely hrely))
  refine ⟨hneeds, ?_⟩
  intro r w₆ hr
  exact ⟨hinv.step hneeds hr, trivial, fun _ _ => trivial⟩

/-- A raw token that verifies resolves the gate it was issued for. -/
theorem yields_resolve_gate (crypto : Crypto) (args : ResolveArgs)
    (hinv : Whole w.registry w.trace w.store) (hauth : Authentic crypto w args) :
    Safe (contract env) (fun _ _ => True) (resolve_gate crypto args) w := by
  unfold resolve_gate
  split
  · trivial
  · exact Safe.weaken (walk_free (.bind (maybe_audit_issues _ _ _ _ fun _ => rowless_free rfl)
      fun _ => .raise) w) fun _ _ _ => trivial
  · next payload hverify =>
    obtain ⟨token, htoken, rfl⟩ := hauth payload hverify
    obtain ⟨id, hget⟩ := Dict.mem_values_iff.mp htoken
    have hgated : Gated w.store token.payload.rid token.payload.step := hinv.tokens id token hget
    refine Safe.weaken (Safe.of_issues (A := fun w' =>
      Gated w'.store token.payload.rid token.payload.step) ?_ ?_
      (use_token_resolves args token.payload) hgated) fun _ _ _ => trivial
    · intro w₁ w₂ hrely h
      rw [hrely.1]
      exact h
    · intro c w₁ hc hinv₁ h
      have hneeds : needs c w₁ := by
        cases c with
        | advance_gate_step run_id step =>
          obtain ⟨rfl, rfl⟩ := of_decide_eq_true hc
          exact h
        | update_run_status run_id status cur err =>
          rintro rfl
          obtain ⟨-, hstatus⟩ := of_decide_eq_true hc
          rcases hstatus with hstatus | hstatus <;> cases hstatus
        | create_run => cases hc
        | update_step => cases hc
        | save_token => cases hc
        | invoke => cases hc
        | _ => trivial
      refine ⟨hneeds, ?_⟩
      intro r w₂ hr
      refine ⟨hinv₁.step hneeds hr, trivial, ?_⟩
      rcases hr.1.1.world with ⟨rfl, -⟩ | rfl
      · exact h
      have hchange := exec_store_change env c w₁
      generalize (exec env c w₁).2.store = store at hchange
      generalize (exec env c w₁).2.clock = clock at hchange
      cases hchange with
      | advanced hsteps hpre hrow => exact h.replace hsteps rfl fun _ => rfl
      | created => cases hc
      | updated => cases hc
      | _ => exact h

theorem safe_request (engine : Engine) {q : Request} (hinv : Whole w.registry w.trace w.store)
    (hq : Accepted engine.crypto w q) :
    Safe (contract env) (fun _ _ => True) (q.program engine) w := by
  cases q with
  | start_run args => exact (yields_start_run args w).discard
  | execute depth run_id =>
    exact (walk_execute (lenient env) engine depth run_id w
      fun again w => yields_execute_locked engine again run_id w).discard
  | recovery_sweep depth enqueue =>
    exact (walk_recovery_sweep (lenient env) engine depth enqueue w
      fun run_id again w => yields_execute_locked engine again run_id w).discard
  | resolve_gate args => exact (yields_resolve_gate engine.crypto args hinv hq).discard
  | update_run_status run_id status =>
    have hrowless : rowless (.update_run_status run_id status none none) = true := by
      simp only [rowless, Bool.not_eq_true', decide_eq_false_iff_not]
      exact hq
    exact (keeps_rows (.perform hrowless) w).weaken fun _ _ _ => trivial

end requests

/-! ## Every history -/

/-- Requests are served one at a time, on any workflows, with failing calls and crashes. -/
def History (env : Env) (engine : Engine) (registry : Registry) : M Unit → World → Prop :=
  Sequential (minted env) engine registry (Accepted engine.crypto)

/-- Such a history, in which no lookup finds a record. -/
def Recordless (env : Env) (engine : Engine) (registry : Registry) : M Unit → World → Prop :=
  Sequential (recordless env) engine registry (Accepted engine.crypto)

/-- Every run has the rows of its workflow, of which those that succeeded come first; and if the run
    has succeeded, so have all its rows, and each row of a handler holds what the handler returned. -/
structure Complete (w : World) : Prop where
  in_order : ∀ id run, w.store.runs.get? id = some run → ∃ defn rows,
    get_workflow_latest w.registry run.workflow = .ok defn ∧ w.store.steps.get? id = some rows ∧
    rows.map StepState.step = defn.steps ∧
    rows.filter (fun row => decide (row.status = .SUCCEEDED)) <+: rows
  succeeded : ∀ id run rows, w.store.runs.get? id = some run → run.status = .SUCCEEDED →
    w.store.steps.get? id = some rows → ∀ row ∈ rows, row.status = .SUCCEEDED ∧
      (is_gate row.step = false → Answered w.trace id row.step row.output)

/-- **Success is complete where no record is found.** -/
theorem complete_without_records {env : Env} {engine : Engine} {registry : Registry} {p : M Unit}
    {w : World} (h : Recordless env engine registry p w) : Complete w := by
  have hwhole : Whole w.registry w.trace w.store := by
    refine (Session.safe (C := contract env) ?_ ?_ ?_ ?_ ?_ h).1
    · intro w
      exact ⟨rfl, rfl, rfl⟩
    · intro a b c hab hbc
      exact ⟨hbc.1.trans hab.1, hbc.2.1.trans hab.2.1, hbc.2.2.trans hab.2.2⟩
    · rintro w ⟨idem, lock, rfl⟩
      refine ⟨?_, ?_, ?_, ?_, ?_, ?_⟩
      all_goals
        intro id found hfound
        cases hfound
    · rintro w p hinv ⟨q, hq, rfl⟩
      exact safe_request engine hinv hq
    · rintro w w' hinv ⟨held, held', -, -, rfl⟩
      exact ⟨hinv, rfl, rfl, rfl⟩
  constructor
  · intro id run hrun
    obtain ⟨defn, rows, hlatest, hrows, hnames⟩ := hwhole.declared id run hrun
    exact ⟨defn, rows, hlatest, hrows, hnames, (hwhole.rows id rows hrows).order.filter_first⟩
  · intro id run rows hrun hstatus hrows row hrow
    have hsucceeded := hwhole.succeeded id run hrun hstatus rows hrows row hrow
    exact ⟨hsucceeded, (hwhole.rows id rows hrows).answered row hrow hsucceeded⟩

/-! ## A filing recorded, and not marked

    The worker crashes after the output of `file` was recorded and before its row
    was marked. The next pass finds the record, and the run succeeds on a row
    that is still running. -/

section filing

def filing : WorkflowDef :=
  plain_workflow ["file"] (by decide) (fun _ _ _ => .returned (some [("filed", .bool true)]) [])
    fun _ => none

def filing_start : World := World.fresh (.in_memory ∅) none (singleton_registry filing)

def filing_queued : World := (served (.start_run plain_start) filing_start).2

/-- The first twelve calls of `execute` end with the record. -/
def filing_crashed : World :=
  (after (exec reference_env) 12
    (Request.program reference_engine (.execute 1 "id-0")) filing_queued).2

def filing_recovered : M Unit × World := served (.execute 1 "id-0") filing_crashed

/-- The status of the only row. -/
def row_of (w : World) : Option StepStatus := ((w.store.get_steps "id-0").head?).map (·.status)

/-- A request makes its first `n` calls, and creates a run only under a new id. -/
theorem History.calls {registry : Registry} {p : M Unit} {w : World} (n : Nat)
    (h : History reference_env reference_engine registry p w) (q : Request)
    (hq : Accepted reference_crypto w q)
    (hmeets : afterMeets (exec reference_env) creates_fresh n (q.program reference_engine) w = true) :
    History reference_env reference_engine registry
      (after (exec reference_env) n (q.program reference_engine) w).1
      (after (exec reference_env) n (q.program reference_engine) w).2 :=
  Sequential.serve_calls (fun _ _ hc => minted_exec hc) n h hq hmeets

/-- **A run succeeds on a row that has not.** -/
theorem succeeded_on_running_row :
    ∃ p w, History reference_env reference_engine (singleton_registry filing) p w ∧
      ¬ Complete w := by
  have hboot : History reference_env reference_engine (singleton_registry filing)
      (.ret ()) filing_start := .boot ⟨_, _, rfl⟩
  have hqueued := hboot.calls 40 (.start_run plain_start) trivial (by decide +kernel)
  have hcrashed := hqueued.calls 12 (.execute 1 "id-0") trivial (by decide +kernel)
  have hrecovered := hcrashed.calls 40 (.execute 1 "id-0") trivial (by decide +kernel)
  refine ⟨_, filing_recovered.2, hrecovered, ?_⟩
  intro hcomplete
  have hstatus : status_of filing_recovered.2 = some .SUCCEEDED := by decide +kernel
  have hrow : row_of filing_recovered.2 = some .RUNNING := by decide +kernel
  obtain ⟨run, hrun, hsucceeded⟩ := Option.map_eq_some_iff.mp hstatus
  obtain ⟨row, hhead, hrunning⟩ := Option.map_eq_some_iff.mp hrow
  obtain ⟨defn, rows, -, hrows, -⟩ := hcomplete.in_order "id-0" run hrun
  rw [RunStore.get_steps_eq hrows] at hhead
  have hdone := hcomplete.succeeded "id-0" run rows hrun hsucceeded hrows row
    (List.mem_of_head? hhead)
  rw [hrunning] at hdone
  cases hdone.1

/-- The same conditions, and no lookup finds a record. -/
def finds_nothing (c : Call) (w : World) : Bool :=
  creates_fresh c w && match c with
    | .lookup key => (w.idem.lookup reference_env.json key).isNone
    | _ => true

theorem recordless_exec {c : Call} {w : World} (h : finds_nothing c w = true) :
    recordless reference_env c w (exec reference_env c w).1 (exec reference_env c w).2 := by
  obtain ⟨hfresh, hmiss⟩ := Bool.and_eq_true_iff.mp h
  refine ⟨minted_exec hfresh, ?_⟩
  rintro key rfl
  exact Option.isNone_iff_eq_none.mp hmiss

/-- Without the crash the filing is complete. -/
theorem filing_complete :
    status_of (served (.execute 1 "id-0") filing_queued).2 = some .SUCCEEDED ∧
      Complete (served (.execute 1 "id-0") filing_queued).2 := by
  have hboot : Recordless reference_env reference_engine (singleton_registry filing)
      (.ret ()) filing_start := .boot ⟨_, _, rfl⟩
  have hqueued : Recordless reference_env reference_engine (singleton_registry filing) _
      filing_queued :=
    Sequential.serve_calls (fun _ _ hc => recordless_exec hc) 40 hboot
      (q := .start_run plain_start) trivial (by decide +kernel)
  have hdone : Recordless reference_env reference_engine (singleton_registry filing) _
      (served (.execute 1 "id-0") filing_queued).2 :=
    Sequential.serve_calls (fun _ _ hc => recordless_exec hc) 40 hqueued
      (q := .execute 1 "id-0") trivial (by decide +kernel)
  exact ⟨by decide +kernel, complete_without_records hdone⟩

end filing

end CaseAutomation.Orchestrator.Completion
