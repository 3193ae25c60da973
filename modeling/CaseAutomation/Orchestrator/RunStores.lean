import CaseAutomation.Orchestrator.Effects
import CaseAutomation.Orchestrator.PostgresStore

/-! # The Two Run Stores Side by Side

    `Alike` relates the dictionaries of the store in memory to the tables of the PostgreSQL
    store through the mapping helpers, up to the instants that the stores stamp themselves. A call
    that the orchestrator can send (`Sent`) keeps it and is answered alike, with one
    exception: the column `dedupe_key` is unique and holds the empty key like any other, while
    in memory an empty key is no key.
-/

namespace CaseAutomation.Orchestrator

open Framework PostgresStore

/-! ## What is compared -/

/-- A run without the instant that the store stamps. -/
def WorkflowRun.unstamped (run : WorkflowRun) : WorkflowRun := { run with updated_at := 0 }

/-- A row without the instant that the store stamps when a gate is passed. -/
def StepState.unstamped (row : StepState) : StepState := { row with ended_at := none }

/-- Two answers to one call are the same, up to stamps and to the order in which recoverable
    runs are listed. -/
def Call.alike : (c : Call) → c.Resp → c.Resp → Prop
  | .create_run _ _, a, b => a.unstamped = b.unstamped
  | .get_run _, a, b => a.map WorkflowRun.unstamped = b.map WorkflowRun.unstamped
  | .find_recoverable_runs, a, b => a.Perm b
  | .get_steps _, a, b => a.map StepState.unstamped = b.map StepState.unstamped
  | .get_gate_request _, a, b => a = b
  | .get_token _, a, b => a = b
  | .mark_token_used _ _, a, b => a = b
  | _, _, _ => True

/-- Both return the same, or both raise an exception of the same class. -/
def AnswersAlike (c : Call) : Except Exn c.Resp → Except Exn c.Resp → Prop
  | .ok a, .ok b => c.alike a b
  | .error e, .error e' => e.class_name = e'.class_name
  | _, _ => False

/-- A run row without its stamp. -/
def run_view (orm : WorkflowRunORM) : WorkflowRunORM := { orm with updated_at := 0 }

/-- A step row without its stamp. -/
def step_view (orm : WorkflowStepStateORM) : WorkflowStepStateORM := { orm with ended_at := none }

/-- The rows of one run. -/
def steps_of (db : Database) (run_id : String) : List WorkflowStepStateORM :=
  db.steps.filter fun orm => orm.run_id = run_id

/-- **The tables hold what the dictionaries hold.** -/
structure Alike (s : RunStore) (db : Database) : Prop where
  runs : Mirrors WorkflowRunORM.id run_view (fun run => run_view (run_to_orm run)) s.runs db.runs
  steps : ∀ id, (steps_of db id).map step_view =
    (s.get_steps id).map fun row => step_view (step_to_orm row)
  gates : Mirrors GateRequestORM.id (fun orm => orm) gate_to_orm s.gates db.gates
  tokens : Mirrors ApprovalTokenORM.id (fun orm => orm) token_to_orm s.tokens db.tokens
  decisions : db.decisions = s.decisions.map decision_to_orm

/-! ## What the orchestrator sends -/

/-- The rows of a run as they are laid out: in order, under distinct names. -/
structure LaidOut (run_id : String) (rows : List StepState) : Prop where
  of_run : ∀ row ∈ rows, row.run_id = run_id
  names : (rows.map StepState.step).Nodup
  ordered : rows.Pairwise fun a b => a.seq < b.seq

/-- What identifies a row and never changes. -/
def StepState.stub (row : StepState) : String × String × Nat × String :=
  (row.run_id, row.step, row.seq, row.idem_key)

/-- What holds of a call where it is made. -/
def Sent (s : RunStore) : Call → Prop
  | .create_run run rows => s.runs.get? run.id = none ∧ LaidOut run.id rows
  | .update_step row => ∃ old ∈ s.get_steps row.run_id, old.stub = row.stub
  | .advance_gate_step run_id step => ∃ row ∈ s.get_steps run_id, row.step = step
  | .create_gate_request gate => s.gates.get? gate.id = none ∧ (s.runs.get? gate.run_id).isSome
  | .update_gate_request gate =>
    ∃ old, s.gates.get? gate.id = some old ∧ gate = { old with status := gate.status }
  | .save_token token => s.tokens.get? token.id = none ∧
      (s.gates.get? token.gate_request_id).isSome ∧ (s.runs.get? token.run_id).isSome
  | .save_approval_decision d =>
    (s.gates.get? d.gate_request_id).isSome ∧ (s.runs.get? d.run_id).isSome
  | _ => True

/-- The invariant of the store in memory. -/
structure WellKept (s : RunStore) : Prop where
  laid_out : ∀ id, LaidOut id (s.get_steps id)
  owned : ∀ id, s.get_steps id ≠ [] → (s.runs.get? id).isSome
  /-- The dedupe index leads to the run created under the key. -/
  dedupe : ∀ key id, s.dedupe.get? key = some id ↔
    key ≠ "" ∧ ∃ run, s.runs.get? id = some run ∧ run.trigger.dedupe_key = some key

/-- No run is created with an empty dedupe key beside another one. -/
def KeysDistinct (s : RunStore) : Call → Prop
  | .create_run run _ => run.trigger.dedupe_key = some "" →
      ∀ other ∈ s.runs.values, other.trigger.dedupe_key ≠ some ""
  | _ => True

/-! ## Rows and what they stand for -/

theorem run_of_view {orm : WorkflowRunORM} {run : WorkflowRun}
    (h : run_view orm = run_view (run_to_orm run)) :
    orm = run_to_orm { run with updated_at := orm.updated_at } := by
  obtain ⟨id, workflow, version, status, step, trigger, context, error, key, created, updated⟩ := orm
  simpa [run_view, run_to_orm] using h

theorem step_of_view {orm : WorkflowStepStateORM} {row : StepState}
    (h : step_view orm = step_view (step_to_orm row)) :
    orm = step_to_orm { row with ended_at := orm.ended_at } := by
  obtain ⟨run_id, step, seq, status, attempt, key, output, error, started, ended⟩ := orm
  simpa [step_view, step_to_orm] using h

/-- A run row is read back as the run it stands for. -/
theorem run_from_view {orm : WorkflowRunORM} {run : WorkflowRun}
    (h : run_view orm = run_view (run_to_orm run)) :
    ∃ found, run_from_orm orm = .ok found ∧ found.unstamped = run.unstamped := by
  rw [run_of_view h, run_from_to_orm]
  exact ⟨_, rfl, rfl⟩

theorem steps_from_views {orms : List WorkflowStepStateORM} {rows : List StepState}
    (h : orms.map step_view = rows.map fun row => step_view (step_to_orm row)) :
    ∃ found, orms.mapM step_from_orm = .ok found ∧
      found.map StepState.unstamped = rows.map StepState.unstamped := by
  induction orms generalizing rows with
  | nil =>
    cases rows with
    | nil => exact ⟨[], rfl, rfl⟩
    | cons row rows => cases h
  | cons orm orms ih =>
    cases rows with
    | nil => cases h
    | cons row rows =>
      rw [List.map_cons, List.map_cons, List.cons_eq_cons] at h
      obtain ⟨found, hfound, hrows⟩ := ih h.2
      rw [List.mapM_cons, step_of_view h.1, step_from_to_orm, hfound]
      refine ⟨_, rfl, ?_⟩
      rw [List.map_cons, List.map_cons, hrows]
      rfl

section alike
variable {s : RunStore} {db : Database}

theorem Alike.select_run (h : Alike s db) {run_id : String} {run : WorkflowRun}
    (hget : s.runs.get? run_id = some run) :
    ∃ orm, Table.select WorkflowRunORM.id run_id db.runs = some orm ∧
      run_view orm = run_view (run_to_orm run) := by
  obtain ⟨orm, hselect, -, hview⟩ := h.runs.select_some hget
  exact ⟨orm, hselect, hview⟩

theorem Alike.has_run (h : Alike s db) (run_id : String) :
    has_run db run_id = (s.runs.get? run_id).isSome := by
  have hselect := congrArg Option.isSome (h.runs.select run_id)
  simpa [PostgresStore.has_run] using hselect

theorem Alike.has_gate (h : Alike s db) (gate_id : String) :
    has_gate db gate_id = (s.gates.get? gate_id).isSome := by
  have hselect := congrArg Option.isSome (h.gates.select gate_id)
  simpa [PostgresStore.has_gate] using hselect

/-- Selecting by run and name is looking for the name among the rows of the run. -/
theorem select_step (db : Database) (run_id step : String) :
    Table.select step_key (run_id, step) db.steps =
      (steps_of db run_id).find? fun orm => orm.step = step := by
  unfold Table.select steps_of
  rw [List.find?_filter]
  congr 1
  funext orm
  simp [step_key]

theorem Alike.select_step (h : Alike s db) (run_id step : String) :
    (Table.select step_key (run_id, step) db.steps).map step_view =
      ((s.get_steps run_id).find? fun row => row.step = step).map
        fun row => step_view (step_to_orm row) := by
  have horms : ((steps_of db run_id).map step_view).find? (fun orm => orm.step = step) =
      ((s.get_steps run_id).map fun row => step_view (step_to_orm row)).find?
        fun orm => orm.step = step := by rw [h.steps run_id]
  rw [List.find?_map, List.find?_map] at horms
  rw [Orchestrator.select_step]
  exact horms

/-- An update of one step touches the rows of its run only. -/
theorem steps_of_update (db : Database) (run_id step id : String)
    (f : WorkflowStepStateORM → WorkflowStepStateORM) (hrun : ∀ orm, (f orm).run_id = orm.run_id) :
    steps_of { db with steps := Table.update step_key (run_id, step) f db.steps } id =
      if id = run_id then (steps_of db id).map fun orm => if orm.step = step then f orm else orm
      else steps_of db id := by
  unfold steps_of Table.update
  rw [List.filter_map]
  have hsame : (fun orm : WorkflowStepStateORM => decide (orm.run_id = id)) ∘
      (fun orm => if step_key orm = (run_id, step) then f orm else orm) =
      fun orm => decide (orm.run_id = id) := by
    funext orm
    simp only [Function.comp_apply]
    split
    · rw [hrun]
    · rfl
  rw [hsame]
  by_cases hid : id = run_id
  · rw [if_pos hid]
    apply List.map_congr_left
    intro orm horm
    have hof : orm.run_id = run_id := by
      rw [← hid]
      simpa using (List.mem_filter.mp horm).2
    simp [step_key, hof]
  · rw [if_neg hid]
    conv_rhs => rw [← List.map_id (List.filter _ _)]
    apply List.map_congr_left
    intro orm horm
    have hof : orm.run_id = id := by simpa using (List.mem_filter.mp horm).2
    have hne : step_key orm ≠ (run_id, step) := by
      intro hkey
      apply hid
      rw [← hof]
      exact (Prod.mk.inj hkey).1
    rw [if_neg hne]
    rfl

/-- One row is rewritten on both sides. -/
theorem Alike.update_rows (h : Alike s db) {run_id step : String} {rows : List StepState}
    (f : WorkflowStepStateORM → WorkflowStepStateORM) (g : StepState → StepState)
    (hrun : ∀ orm, (f orm).run_id = orm.run_id)
    (hrows : rows = (s.get_steps run_id).map fun row => if row.step = step then g row else row)
    (hfg : ∀ orm, ∀ row ∈ s.get_steps run_id, row.step = step →
      step_view orm = step_view (step_to_orm row) →
      step_view (f orm) = step_view (step_to_orm (g row))) :
    Alike { s with steps := s.steps.set run_id rows }
      { db with steps := Table.update step_key (run_id, step) f db.steps } := by
  refine ⟨h.runs, ?_, h.gates, h.tokens, h.decisions⟩
  intro id
  rw [steps_of_update db run_id step id f hrun]
  by_cases hid : id = run_id
  · subst hid
    rw [if_pos rfl, RunStore.get_steps_set_self, hrows]
    have hsteps := h.steps id
    generalize steps_of db id = orms at hsteps
    generalize s.get_steps id = old at hsteps hfg
    induction orms generalizing old with
    | nil =>
      cases old with
      | nil => rfl
      | cons row old => cases hsteps
    | cons orm orms ih =>
      cases old with
      | nil => cases hsteps
      | cons row old =>
        simp only [List.map_cons, List.cons_eq_cons] at hsteps ⊢
        refine ⟨?_, ih old hsteps.2 fun orm r hr => hfg orm r (List.mem_cons_of_mem row hr)⟩
        have hname : orm.step = row.step := congrArg WorkflowStepStateORM.step hsteps.1
        by_cases hrow : row.step = step
        · rw [if_pos hrow, if_pos (hname.trans hrow)]
          exact hfg orm row List.mem_cons_self hrow hsteps.1
        · rw [if_neg hrow, if_neg fun heq => hrow (hname.symm.trans heq)]
          exact hsteps.1
  · rw [if_neg hid, RunStore.get_steps_set_ne s rows hid]
    exact h.steps id

/-! ## The methods -/

/-- Both writes are done and leave the stores alike, or both are refused in the same way. -/
def BothDone : Except Exn RunStore → Except Exn Database → Prop
  | .ok s, .ok db => Alike s db
  | .error e, .error e' => e.class_name = e'.class_name
  | _, _ => False

theorem Alike.get_run (h : Alike s db) (run_id : String) :
    ∃ found, PostgresStore.get_run db run_id = .ok found ∧
      (s.get_run run_id).map WorkflowRun.unstamped = found.map WorkflowRun.unstamped := by
  unfold PostgresStore.get_run RunStore.get_run
  cases hget : s.runs.get? run_id with
  | none =>
    rw [h.runs.select_none hget]
    exact ⟨none, rfl, rfl⟩
  | some run =>
    obtain ⟨orm, hselect, hview⟩ := h.select_run hget
    obtain ⟨found, hfound, hrun⟩ := run_from_view hview
    rw [hselect]
    simp only [hfound]
    exact ⟨some found, rfl, congrArg some hrun.symm⟩

theorem Alike.update_run_status (h : Alike s db) (run_id : String) (status : RunStatus)
    (cur : Option String) (err : Option StepError) (now now' : Time) :
    BothDone (s.update_run_status run_id status cur err now)
      (PostgresStore.update_run_status db run_id status cur err now') := by
  unfold RunStore.update_run_status PostgresStore.update_run_status
  cases hget : s.runs.get? run_id with
  | none =>
    rw [h.runs.select_none hget]
    rfl
  | some run =>
    obtain ⟨orm, hselect, hview⟩ := h.select_run hget
    have hstatus : orm.status = run.status.value := congrArg WorkflowRunORM.status hview
    rw [hselect]
    simp only [hstatus, RunStatus.of_value_value]
    show BothDone _ (if is_legal_run_transition run.status status then _ else _)
    by_cases hlegal : is_legal_run_transition run.status status = true
    · rw [if_pos hlegal, if_pos hlegal]
      refine ⟨?_, h.steps, h.gates, h.tokens, h.decisions⟩
      apply h.runs.update hget
      · intro r hr
        exact hr
      · intro r _ hr
        rw [run_of_view hr]
        cases cur <;> cases err <;> rfl
    · rw [if_neg hlegal, if_neg hlegal]
      rfl

theorem Alike.set_current_step (h : Alike s db) (run_id step : String) (now now' : Time) :
    BothDone (s.set_current_step run_id step now)
      (PostgresStore.set_current_step db run_id step now') := by
  unfold RunStore.set_current_step PostgresStore.set_current_step
  cases hget : s.runs.get? run_id with
  | none =>
    rw [h.runs.select_none hget]
    rfl
  | some run =>
    obtain ⟨orm, hselect, hview⟩ := h.select_run hget
    rw [hselect]
    refine ⟨?_, h.steps, h.gates, h.tokens, h.decisions⟩
    apply h.runs.update hget
    · intro r hr
      exact hr
    · intro r _ hr
      rw [run_of_view hr]
      rfl

/-- The recoverable runs are even listed in the same order. -/
theorem Alike.find_recoverable_runs (h : Alike s db) :
    PostgresStore.find_recoverable_runs db = s.find_recoverable_runs := by
  have hfilter := h.runs.filter
    (fun orm => orm.status == RunStatus.QUEUED.value || orm.status == RunStatus.RUNNING.value)
    (fun orm => rfl) (q := fun run => decide (run.status = .QUEUED) || decide (run.status = .RUNNING))
    (p := fun orm => orm.status == RunStatus.QUEUED.value || orm.status == RunStatus.RUNNING.value)
    (by rintro ⟨id, workflow, version, status⟩; cases status <;> rfl)
  have hids := congrArg (List.map WorkflowRunORM.id) hfilter
  rw [List.map_map, List.map_map] at hids
  exact hids

theorem Alike.get_steps (h : Alike s db) (hs : WellKept s) (run_id : String) :
    ∃ found, PostgresStore.get_steps db run_id = .ok found ∧
      (s.get_steps run_id).map StepState.unstamped = found.map StepState.unstamped := by
  have hsorted : (steps_of db run_id).Pairwise fun a b => decide (a.seq ≤ b.seq) = true := by
    have hviews := h.steps run_id
    have hordered := (hs.laid_out run_id).ordered
    have hrows : ((s.get_steps run_id).map fun row => step_view (step_to_orm row)).Pairwise
        fun a b => decide (a.seq ≤ b.seq) = true := by
      apply List.Pairwise.map _ _ hordered
      intro a b hab
      exact decide_eq_true (Nat.le_of_lt hab)
    rw [← hviews, List.pairwise_map] at hrows
    exact hrows
  unfold PostgresStore.get_steps
  have hsort := List.mergeSort_of_pairwise hsorted
  unfold steps_of at hsort
  rw [hsort]
  obtain ⟨found, hfound, hrows⟩ := steps_from_views (h.steps run_id)
  exact ⟨found, hfound, hrows.symm⟩

/-! ## Rows under distinct names -/

theorem map_of_not_mem {rows : List StepState} {step : String} (f : StepState → StepState)
    (h : ∀ row ∈ rows, row.step ≠ step) :
    rows.map (fun row => if row.step = step then f row else row) = rows := by
  conv_rhs => rw [← List.map_id rows]
  apply List.map_congr_left
  intro row hrow
  rw [if_neg (h row hrow)]
  rfl

/-- With distinct names, replacing the first row of a name is rewriting all of them. -/
theorem map_split {pre post : List StepState} {row : StepState} (f : StepState → StepState)
    (h : ((pre ++ row :: post).map StepState.step).Nodup) :
    (pre ++ row :: post).map (fun r => if r.step = row.step then f r else r) =
      pre ++ f row :: post := by
  rw [List.map_append, List.map_cons, List.nodup_append, List.nodup_cons] at h
  obtain ⟨-, ⟨hpost, -⟩, hpre⟩ := h
  rw [List.map_append, List.map_cons, if_pos rfl]
  congr 1
  · apply map_of_not_mem
    intro r hr heq
    exact hpre _ (List.mem_map_of_mem hr) _ List.mem_cons_self heq
  · congr 1
    apply map_of_not_mem
    intro r hr heq
    exact hpost (heq ▸ List.mem_map_of_mem hr)

theorem get?_of_mem_get_steps {run_id : String} {row : StepState} (h : row ∈ s.get_steps run_id) :
    s.steps.get? run_id = some (s.get_steps run_id) := by
  unfold RunStore.get_steps at h ⊢
  cases hget : s.steps.get? run_id with
  | none =>
    rw [hget] at h
    cases h
  | some rows => rfl

/-- The row of a step is found on both sides. -/
theorem Alike.select_row (h : Alike s db) {run_id : String} {pre post : List StepState}
    {row : StepState} (hrows : s.get_steps run_id = pre ++ row :: post)
    (hpre : ∀ r ∈ pre, r.step ≠ row.step) :
    ∃ orm, Table.select step_key (run_id, row.step) db.steps = some orm ∧
      step_view orm = step_view (step_to_orm row) := by
  have hfind : (s.get_steps run_id).find? (fun r => r.step = row.step) = some row := by
    rw [hrows, List.find?_append, List.find?_eq_none.mpr (by simpa using hpre)]
    simp
  have hselect := h.select_step run_id row.step
  rw [hfind] at hselect
  exact Option.map_eq_some_iff.mp hselect

theorem Alike.advance_gate_step (h : Alike s db) (hs : WellKept s) {run_id step : String}
    (hsent : Sent s (.advance_gate_step run_id step)) (now now' : Time) :
    BothDone (.ok (s.advance_gate_step run_id step now))
      (PostgresStore.advance_gate_step db run_id step now') := by
  obtain ⟨found, hfound, hname⟩ := hsent
  have hget := get?_of_mem_get_steps hfound
  unfold PostgresStore.advance_gate_step RunStore.advance_gate_step
  rw [hget]
  obtain ⟨hnone, -⟩ | ⟨pre, row, post, hrows, hpre, hrow, hadvance⟩ :=
    advance_row_cases step now (s.get_steps run_id)
  · exact absurd hname (hnone found hfound)
  subst hrow
  obtain ⟨orm, hselect, -⟩ := h.select_row hrows hpre
  simp only [hselect, hadvance]
  have hnames := (hs.laid_out run_id).names
  rw [hrows] at hnames
  refine h.update_rows _ (fun r => { r with status := .SUCCEEDED, ended_at := some now })
    (fun _ => rfl) ?_ ?_
  · rw [hrows]
    exact (map_split (fun r => { r with status := .SUCCEEDED, ended_at := some now }) hnames).symm
  · intro orm r _ _ hview
    rw [step_of_view hview]
    rfl

theorem Alike.update_step (h : Alike s db) (hs : WellKept s) {step : StepState}
    (hsent : Sent s (.update_step step)) :
    BothDone (s.update_step step) (PostgresStore.update_step db step) := by
  obtain ⟨old, hold, hstub⟩ := hsent
  simp only [StepState.stub, Prod.mk.injEq] at hstub
  obtain ⟨hrun, hname, hseq, hkey⟩ := hstub
  obtain ⟨pre, post, hrows⟩ := List.append_of_mem hold
  have hnames := (hs.laid_out step.run_id).names
  rw [hrows] at hnames
  have hpre : ∀ r ∈ pre, r.step ≠ old.step := by
    rw [List.map_append, List.map_cons, List.nodup_append] at hnames
    intro r hr
    exact hnames.2.2 _ (List.mem_map_of_mem hr) _ List.mem_cons_self
  obtain ⟨orm, hselect, hview⟩ := h.select_row hrows hpre
  have hstatus : orm.status = old.status.value := congrArg WorkflowStepStateORM.status hview
  rw [hname] at hselect
  have hpre' : ∀ r ∈ pre, r.step ≠ step.step := by
    rw [← hname]
    exact hpre
  unfold RunStore.update_step PostgresStore.update_step
  rw [hrows, update_row_append hpre' hname, hselect]
  simp only [hstatus, StepStatus.of_value_value]
  show BothDone _ (if is_legal_step_transition old.status step.status then _ else _)
  by_cases hlegal : is_legal_step_transition old.status step.status = true
  · rw [if_pos hlegal, if_pos hlegal]
    refine h.update_rows _ (fun _ => step) (fun _ => rfl) ?_ ?_
    · rw [hrows, ← hname]
      exact (map_split (fun _ => step) hnames).symm
    · intro orm r hr hrstep hview
      -- under distinct names the row is the old one
      have hsame : r = old := by
        have hinj := List.inj_on_of_nodup_map (hs.laid_out step.run_id).names
        exact hinj hr hold (hrstep.trans hname.symm)
      rw [step_of_view hview, hsame]
      simp [step_view, updated_step, step_to_orm, hrun, hname, hseq, hkey]
  · rw [if_neg hlegal, if_neg hlegal]
    rfl

/-! ## Gates, tokens and decisions -/

theorem Alike.create_gate_request (h : Alike s db) {gate : GateRequest}
    (hsent : Sent s (.create_gate_request gate)) :
    BothDone (.ok (s.put_gate gate)) (PostgresStore.create_gate_request db gate) := by
  obtain ⟨hnew, hrun⟩ := hsent
  unfold PostgresStore.create_gate_request
  rw [h.has_gate, h.has_run, hnew, hrun]
  exact ⟨h.runs, h.steps, h.gates.insert (r := gate_to_orm gate) hnew rfl, h.tokens, h.decisions⟩

theorem Alike.get_gate_request (h : Alike s db) (gate_id : String) :
    PostgresStore.get_gate_request db gate_id = .ok (s.gates.get? gate_id) := by
  unfold PostgresStore.get_gate_request
  cases hget : s.gates.get? gate_id with
  | none => rw [h.gates.select_none hget]
  | some gate =>
    obtain ⟨orm, hselect, -, hview⟩ := h.gates.select_some hget
    rw [hselect, hview]
    simp only [gate_from_to_orm]
    rfl

theorem Alike.update_gate_request (h : Alike s db) {gate : GateRequest}
    (hsent : Sent s (.update_gate_request gate)) :
    BothDone (.ok (s.put_gate gate)) (PostgresStore.update_gate_request db gate) := by
  obtain ⟨old, hget, hgate⟩ := hsent
  obtain ⟨orm, hselect, -⟩ := h.gates.select_some hget
  unfold PostgresStore.update_gate_request
  rw [hselect]
  refine ⟨h.runs, h.steps, ?_, h.tokens, h.decisions⟩
  apply h.gates.update hget
  · intro r hr
    exact hr
  · intro r _ hr
    rw [hr, hgate]
    rfl

theorem Alike.save_token (h : Alike s db) {token : ApprovalToken}
    (hsent : Sent s (.save_token token)) :
    BothDone (.ok (s.save_token token)) (PostgresStore.save_token db token) := by
  obtain ⟨hnew, hgate, hrun⟩ := hsent
  unfold PostgresStore.save_token
  rw [h.tokens.select_none hnew, h.has_gate, h.has_run, hgate, hrun]
  exact ⟨h.runs, h.steps, h.gates, h.tokens.insert (r := token_to_orm token) hnew rfl,
    h.decisions⟩

theorem Alike.get_token (h : Alike s db) (token_id : String) :
    PostgresStore.get_token db token_id = .ok (s.tokens.get? token_id) := by
  unfold PostgresStore.get_token
  cases hget : s.tokens.get? token_id with
  | none => rw [h.tokens.select_none hget]
  | some token =>
    obtain ⟨orm, hselect, -, hview⟩ := h.tokens.select_some hget
    rw [hselect, hview]
    simp only [token_from_to_orm]
    rfl

theorem Alike.mark_token_used (h : Alike s db) (token_id : String) (used_at : Time) :
    (s.mark_token_used token_id used_at).1 = (PostgresStore.mark_token_used db token_id used_at).1 ∧
      Alike (s.mark_token_used token_id used_at).2
        (PostgresStore.mark_token_used db token_id used_at).2 := by
  unfold RunStore.mark_token_used PostgresStore.mark_token_used
  cases hget : s.tokens.get? token_id with
  | none =>
    rw [h.tokens.select_none hget]
    exact ⟨rfl, h⟩
  | some token =>
    obtain ⟨orm, hselect, -, hview⟩ := h.tokens.select_some hget
    have hused : orm.used_at.isSome = token.is_used := by rw [hview]; rfl
    rw [hselect]
    simp only [hused]
    by_cases hmark : token.is_used = true
    · rw [if_pos hmark, if_pos hmark]
      exact ⟨rfl, h⟩
    · rw [if_neg hmark, if_neg hmark]
      refine ⟨rfl, h.runs, h.steps, h.gates, ?_, h.decisions⟩
      apply h.tokens.update hget
      · intro r hr
        exact hr
      · intro r _ hr
        rw [hr]
        rfl

theorem Alike.save_approval_decision (h : Alike s db) {d : ApprovalDecision}
    (hsent : Sent s (.save_approval_decision d)) :
    BothDone (.ok (s.save_approval_decision d)) (PostgresStore.save_approval_decision db d) := by
  obtain ⟨hgate, hrun⟩ := hsent
  unfold PostgresStore.save_approval_decision
  rw [h.has_gate, h.has_run, hgate, hrun]
  refine ⟨h.runs, h.steps, h.gates, h.tokens, ?_⟩
  show db.decisions ++ [decision_to_orm d] = (s.decisions ++ [d]).map decision_to_orm
  rw [List.map_append, h.decisions]
  rfl

/-! ## Creating a run -/

/-- A stored run has the dedupe key. -/
def key_taken (s : RunStore) (key : Option String) : Bool :=
  s.runs.values.any fun run => run.trigger.dedupe_key.isSome && run.trigger.dedupe_key == key

theorem Alike.key_taken (h : Alike s db) (key : Option String) :
    (db.runs.any fun orm => orm.dedupe_key.isSome && orm.dedupe_key == key) =
      Orchestrator.key_taken s key := by
  have hviews := congrArg
    (List.any · fun orm : WorkflowRunORM => orm.dedupe_key.isSome && orm.dedupe_key == key)
    h.runs.views
  simp only [List.any_map] at hviews
  exact hviews

theorem key_taken_iff {key : String} :
    Orchestrator.key_taken s (some key) = true ↔
      ∃ run ∈ s.runs.values, run.trigger.dedupe_key = some key := by
  simp only [Orchestrator.key_taken, List.any_eq_true, Bool.and_eq_true, beq_iff_eq]
  constructor
  · rintro ⟨run, hrun, -, hkey⟩
    exact ⟨run, hrun, hkey⟩
  · rintro ⟨run, hrun, hkey⟩
    exact ⟨run, hrun, by rw [hkey]; rfl, hkey⟩

/-- A run under a new id, with rows laid out for it, violates no constraint but perhaps that of
    its dedupe key. -/
theorem Alike.insert_run (h : Alike s db) (hs : WellKept s) {run : WorkflowRun}
    {rows : List StepState} (hsent : Sent s (.create_run run rows)) :
    PostgresStore.insert_run db (run_to_orm run) (rows.map step_to_orm) =
      if Orchestrator.key_taken s run.trigger.dedupe_key then
        .error (integrity_error "workflow_runs_dedupe_key_key")
      else .ok { db with
        runs := db.runs ++ [run_to_orm run], steps := db.steps ++ rows.map step_to_orm } := by
  obtain ⟨hnew, hrows⟩ := hsent
  have hnone : PostgresStore.has_run db (run_to_orm run).id = false := by
    show PostgresStore.has_run db run.id = false
    rw [h.has_run, hnew]
    rfl
  have hempty : steps_of db run.id = [] := by
    have hsteps : s.get_steps run.id = [] := by
      by_contra hne
      have hrun := hs.owned run.id hne
      rw [hnew] at hrun
      cases hrun
    have hviews := h.steps run.id
    rw [hsteps] at hviews
    simpa using hviews
  have hkeys : (rows.map step_to_orm).map step_key = rows.map fun row => (run.id, row.step) := by
    rw [List.map_map]
    apply List.map_congr_left
    intro row hrow
    rw [← hrows.of_run row hrow]
    rfl
  have huq : ((rows.map step_to_orm).map step_key).any
      (fun key => (Table.select step_key key db.steps).isSome) = false := by
    rw [hkeys, List.any_eq_false]
    intro key hkey
    obtain ⟨row, -, rfl⟩ := List.mem_map.mp hkey
    rw [Orchestrator.select_step, hempty]
    simp
  have hnodup : ((rows.map step_to_orm).map step_key).Nodup := by
    rw [hkeys]
    have hnames := hrows.names
    rw [List.Nodup, List.pairwise_map] at hnames ⊢
    apply hnames.imp
    intro a b hne heq
    exact hne (Prod.mk.inj heq).2
  have hfk : (rows.map step_to_orm).any (fun step => step.run_id != (run_to_orm run).id &&
      !PostgresStore.has_run db step.run_id) = false := by
    rw [List.any_eq_false]
    intro orm horm
    obtain ⟨row, hrow, rfl⟩ := List.mem_map.mp horm
    have hof : (step_to_orm row).run_id = (run_to_orm run).id := hrows.of_run row hrow
    simp [hof]
  have htaken := h.key_taken (run_to_orm run).dedupe_key
  unfold PostgresStore.insert_run
  rw [hnone, htaken, huq, hfk, decide_eq_true hnodup]
  rfl

/-- The tables with one more run hold what the dictionaries with one more run hold. -/
theorem Alike.created (h : Alike s db) (hs : WellKept s) {run : WorkflowRun}
    {rows : List StepState} (hsent : Sent s (.create_run run rows)) (dedupe : Dict String String) :
    Alike { s with
        runs := s.runs.set run.id run, steps := s.steps.set run.id rows, dedupe := dedupe }
      { db with runs := db.runs ++ [run_to_orm run], steps := db.steps ++ rows.map step_to_orm } := by
  obtain ⟨hnew, hrows⟩ := hsent
  refine ⟨h.runs.insert (r := run_to_orm run) hnew rfl, ?_, h.gates, h.tokens, h.decisions⟩
  intro id
  have hsplit : steps_of { db with
      runs := db.runs ++ [run_to_orm run], steps := db.steps ++ rows.map step_to_orm } id =
      steps_of db id ++ (rows.map step_to_orm).filter fun orm => orm.run_id = id := by
    unfold steps_of
    rw [List.filter_append]
  rw [hsplit, List.map_append, h.steps id]
  by_cases hid : id = run.id
  · subst hid
    have hsteps : s.get_steps run.id = [] := by
      by_contra hne
      have hrun := hs.owned run.id hne
      rw [hnew] at hrun
      cases hrun
    have hall : (rows.map step_to_orm).filter (fun orm => orm.run_id = run.id) =
        rows.map step_to_orm := by
      rw [List.filter_eq_self]
      intro orm horm
      obtain ⟨row, hrow, rfl⟩ := List.mem_map.mp horm
      exact decide_eq_true (hrows.of_run row hrow)
    have hget : RunStore.get_steps { s with
        runs := s.runs.set run.id run, steps := s.steps.set run.id rows, dedupe := dedupe } run.id =
        rows := RunStore.get_steps_set_self s run.id rows
    rw [hsteps, hall, hget, List.map_map]
    rfl
  · have hnone : (rows.map step_to_orm).filter (fun orm => orm.run_id = id) = [] := by
      rw [List.filter_eq_nil_iff]
      intro orm horm
      obtain ⟨row, hrow, rfl⟩ := List.mem_map.mp horm
      have hof : (step_to_orm row).run_id = run.id := hrows.of_run row hrow
      rw [hof]
      simpa using Ne.symm hid
    have hget : RunStore.get_steps { s with
        runs := s.runs.set run.id run, steps := s.steps.set run.id rows, dedupe := dedupe } id =
        s.get_steps id := RunStore.get_steps_set_ne s rows hid
    rw [hnone, hget]
    simp

/-- The run created under a key is found by the key on both sides. -/
theorem Alike.select_key (h : Alike s db) (hs : WellKept s) {key : String} (hkey : key ≠ "") :
    match s.dedupe.get? key with
    | some id => ∃ run orm, s.runs.get? id = some run ∧
        Table.select WorkflowRunORM.dedupe_key (some key) db.runs = some orm ∧
        run_view orm = run_view (run_to_orm run)
    | none => Table.select WorkflowRunORM.dedupe_key (some key) db.runs = none ∧
        Orchestrator.key_taken s (some key) = false := by
  have hfind := h.runs.find (fun orm => decide (orm.dedupe_key = some key)) (fun _ => rfl)
    (p := fun orm => decide (orm.dedupe_key = some key))
    (q := fun run => decide (run.trigger.dedupe_key = some key)) (fun _ => rfl)
  cases hget : s.dedupe.get? key with
  | some id =>
    obtain ⟨-, run, hrun, hrunkey⟩ := (hs.dedupe key id).mp hget
    -- the run found under the key is the one the index leads to
    have hfirst : s.runs.values.find? (fun run => decide (run.trigger.dedupe_key = some key)) =
        some run := by
      have hsome : (s.runs.values.find?
          fun run => decide (run.trigger.dedupe_key = some key)).isSome := by
        rw [List.find?_isSome]
        exact ⟨run, Dict.mem_values_iff.mpr ⟨id, hrun⟩, decide_eq_true hrunkey⟩
      obtain ⟨first, hfirst⟩ := Option.isSome_iff_exists.mp hsome
      obtain ⟨id', hid'⟩ := Dict.mem_values_iff.mp (List.mem_of_find?_eq_some hfirst)
      have hfirstkey : first.trigger.dedupe_key = some key := by
        simpa using List.find?_some hfirst
      have hindex := (hs.dedupe key id').mpr ⟨hkey, first, hid', hfirstkey⟩
      rw [hget] at hindex
      obtain rfl := Option.some.inj hindex
      rw [hrun] at hid'
      rw [hfirst, Option.some.inj hid']
    rw [hfirst] at hfind
    obtain ⟨orm, horm, hview⟩ := Option.map_eq_some_iff.mp hfind
    exact ⟨run, orm, hrun, horm, hview⟩
  | none =>
    have hnone : ∀ run ∈ s.runs.values, run.trigger.dedupe_key ≠ some key := by
      intro run hrun hrunkey
      obtain ⟨id, hid⟩ := Dict.mem_values_iff.mp hrun
      have hindex := (hs.dedupe key id).mpr ⟨hkey, run, hid, hrunkey⟩
      rw [hget] at hindex
      cases hindex
    constructor
    · have hmiss : s.runs.values.find? (fun run => decide (run.trigger.dedupe_key = some key)) =
          none := List.find?_eq_none.mpr (by simpa using hnone)
      rw [hmiss] at hfind
      simpa [Table.select] using hfind
    · rw [Bool.eq_false_iff]
      intro htaken
      obtain ⟨run, hrun, hrunkey⟩ := key_taken_iff.mp htaken
      exact hnone run hrun hrunkey

/-- A run that is stored under no key but the empty one is stored on both sides, unless another
    run with the empty key is there. -/
theorem Alike.create_new (h : Alike s db) (hs : WellKept s) {run : WorkflowRun}
    {rows : List StepState} (hsent : Sent s (.create_run run rows)) (hmiss : s.dedupe_hit run = none)
    (hexisting : PostgresStore.create_run db run rows = do
      return (run, ← PostgresStore.insert_run db (run_to_orm run) (rows.map step_to_orm))) :
    if Orchestrator.key_taken s run.trigger.dedupe_key then
      PostgresStore.create_run db run rows =
        .error (integrity_error "workflow_runs_dedupe_key_key")
    else ∃ s' db', s.create_run run rows = .ok (run, s') ∧
      PostgresStore.create_run db run rows = .ok (run, db') ∧ Alike s' db' := by
  rw [hexisting, h.insert_run hs hsent]
  by_cases htaken : Orchestrator.key_taken s run.trigger.dedupe_key = true
  · rw [if_pos htaken, if_pos htaken]
    rfl
  · rw [if_neg htaken, if_neg htaken]
    unfold RunStore.create_run
    rw [hmiss]
    exact ⟨_, _, rfl, rfl, h.created hs hsent _⟩

/-- **Creating a run.** The same run is returned and the stores stay alike. Only a second run
    with an empty dedupe key is refused by the database. -/
theorem Alike.create_run (h : Alike s db) (hs : WellKept s) {run : WorkflowRun}
    {rows : List StepState} (hsent : Sent s (.create_run run rows)) :
    (KeysDistinct s (.create_run run rows) → ∃ created created' s' db',
      s.create_run run rows = .ok (created, s') ∧
      PostgresStore.create_run db run rows = .ok (created', db') ∧
      created.unstamped = created'.unstamped ∧ Alike s' db') ∧
    (¬ KeysDistinct s (.create_run run rows) → (∃ s', s.create_run run rows = .ok (run, s')) ∧
      PostgresStore.create_run db run rows =
        .error (integrity_error "workflow_runs_dedupe_key_key")) := by
  -- without a key nothing can be taken
  cases hkey : run.trigger.dedupe_key with
  | none =>
    have hmiss : s.dedupe_hit run = none := by rw [RunStore.dedupe_hit, hkey]
    have hnew := h.create_new hs hsent hmiss (by rw [PostgresStore.create_run, hkey])
    have hfree : Orchestrator.key_taken s none = false := by
      simp only [Orchestrator.key_taken, List.any_eq_false, Bool.and_eq_true, beq_iff_eq]
      rintro other - ⟨hsome, hnone⟩
      rw [hnone] at hsome
      cases hsome
    rw [hkey, hfree] at hnew
    obtain ⟨s', db', hmem, hpg, halike⟩ := hnew
    refine ⟨fun _ => ⟨run, run, s', db', hmem, hpg, rfl, halike⟩, ?_⟩
    intro hcollide
    apply absurd _ hcollide
    intro hempty
    rw [hkey] at hempty
    cases hempty
  | some key =>
    by_cases hblank : key = ""
    · subst hblank
      have hmiss : s.dedupe_hit run = none := by
        rw [RunStore.dedupe_hit, hkey]
        exact if_pos rfl
      have hnew := h.create_new hs hsent hmiss (by rw [PostgresStore.create_run, hkey]; rfl)
      rw [hkey] at hnew
      have hdistinct : KeysDistinct s (.create_run run rows) ↔
          ¬ Orchestrator.key_taken s (some "") = true := by
        rw [key_taken_iff]
        constructor
        · rintro hd ⟨other, hother, hotherkey⟩
          exact hd hkey other hother hotherkey
        · intro hfree _ other hother hotherkey
          exact hfree ⟨other, hother, hotherkey⟩
      rw [hdistinct, not_not]
      constructor
      · intro hfree
        rw [if_neg hfree] at hnew
        obtain ⟨s', db', hmem, hpg, halike⟩ := hnew
        exact ⟨run, run, s', db', hmem, hpg, rfl, halike⟩
      · intro htaken
        rw [if_pos htaken] at hnew
        refine ⟨?_, hnew⟩
        unfold RunStore.create_run
        rw [hmiss]
        exact ⟨_, rfl⟩
    · have hdistinct : KeysDistinct s (.create_run run rows) := by
        intro hempty
        rw [hkey] at hempty
        exact absurd (Option.some.inj hempty) hblank
      refine ⟨fun _ => ?_, fun hcollide => absurd hdistinct hcollide⟩
      have hhit : s.dedupe_hit run = s.dedupe.get? key := by
        rw [RunStore.dedupe_hit, hkey]
        exact if_neg hblank
      have hselect := h.select_key hs hblank
      cases hget : s.dedupe.get? key with
      | some id =>
        rw [hget] at hselect
        obtain ⟨stored, orm, hstored, horm, hview⟩ := hselect
        obtain ⟨found, hfound, hsame⟩ := run_from_view hview
        refine ⟨stored, found, s, db, ?_, ?_, hsame.symm, h⟩
        · unfold RunStore.create_run
          rw [hhit, hget]
          simp only [hstored]
        · unfold PostgresStore.create_run
          simp only [hkey, if_neg hblank, horm, hfound]
          rfl
      | none =>
        rw [hget] at hselect
        obtain ⟨hnone, hfree⟩ := hselect
        have hnew := h.create_new hs hsent (hhit.trans hget) (by
          rw [PostgresStore.create_run]
          simp only [hkey, if_neg hblank, hnone])
        rw [hkey, hfree] at hnew
        obtain ⟨s', db', hmem, hpg, halike⟩ := hnew
        exact ⟨run, run, s', db', hmem, hpg, rfl, halike⟩

end alike

/-! ## Calls -/

section calls
variable {env : Env} {w : World} {db : Database}

/-- What a write in memory answers and leaves. -/
def settle (s : RunStore) : Except Exn RunStore → Except Exn Unit × RunStore
  | .ok s' => (.ok (), s')
  | .error e => (.error e, s)

theorem World.write_settles (w : World) (r : Except Exn RunStore) :
    (w.write r).1 = (settle w.store r).1 ∧ (w.write r).2.store = (settle w.store r).2 := by
  cases r with
  | ok s' => exact ⟨rfl, rfl⟩
  | error e => exact ⟨rfl, rfl⟩

theorem exec_update_step_settles (env : Env) (w : World) (step : StepState) :
    (exec env (.update_step step) w).1 = (settle w.store (w.store.update_step step)).1 ∧
      (exec env (.update_step step) w).2.store =
        (settle w.store (w.store.update_step step)).2 := by
  simp only [exec]
  cases w.store.update_step step with
  | ok s' => exact ⟨rfl, rfl⟩
  | error e => exact ⟨rfl, rfl⟩

/-- What a write leaves on both sides. `P` says what it is for two answers to agree. -/
theorem BothDone.settled {s : RunStore} {r : Except Exn RunStore} {r' : Except Exn Database}
    {P : Except Exn Unit → Except Exn Unit → Prop} (h : Alike s db) (hdone : BothDone r r')
    (hok : P (.ok ()) (.ok ()))
    (herror : ∀ e e' : Exn, e.class_name = e'.class_name → P (.error e) (.error e')) :
    P (settle s r).1 (commit db r').1 ∧ Alike (settle s r).2 (commit db r').2 := by
  cases r with
  | ok s' =>
    cases r' with
    | ok db' => exact ⟨hok, hdone⟩
    | error e' => exact hdone.elim
  | error e =>
    cases r' with
    | ok db' => exact hdone.elim
    | error e' => exact ⟨herror e e' hdone, h⟩

/-- The call is answered alike, and the stores stay alike. -/
structure Tallies (c : Call) (memory : Except Exn c.Resp × World)
    (postgres : Option (Except Exn c.Resp) × Database) : Prop where
  answers : ∀ r, postgres.1 = some r → AnswersAlike c memory.1 r
  stores : Alike memory.2.store postgres.2

theorem Tallies.intro {c : Call} {memory : Except Exn c.Resp × World} {answer : Except Exn c.Resp}
    {db' : Database} (hanswer : AnswersAlike c memory.1 answer) (halike : Alike memory.2.store db') :
    Tallies c memory (some answer, db') := by
  refine ⟨?_, halike⟩
  intro r hr
  obtain rfl := Option.some.inj hr
  exact hanswer

/-- **Every call but the creation of a run** is answered alike and leaves the stores alike. -/
theorem Alike.tallies (env : Env) (now : Time) {c : Call} (h : Alike w.store db)
    (hs : WellKept w.store) (hsent : Sent w.store c) (hc : ∀ run rows, c ≠ .create_run run rows) :
    Tallies c (exec env c w) (PostgresStore.call now c db) := by
  cases c with
  | create_run run rows => exact absurd rfl (hc run rows)
  | get_run run_id =>
    obtain ⟨found, hfound, hsame⟩ := h.get_run run_id
    apply Tallies.intro _ h
    rw [hfound]
    exact hsame
  | get_steps run_id =>
    obtain ⟨found, hfound, hsame⟩ := h.get_steps hs run_id
    apply Tallies.intro _ h
    rw [hfound]
    exact hsame
  | find_recoverable_runs =>
    apply Tallies.intro _ h
    rw [h.find_recoverable_runs]
    exact List.Perm.refl _
  | get_gate_request gate_id =>
    apply Tallies.intro _ h
    rw [h.get_gate_request]
    exact (rfl : w.store.gates.get? gate_id = w.store.gates.get? gate_id)
  | get_token token_id =>
    apply Tallies.intro _ h
    rw [h.get_token]
    exact (rfl : w.store.tokens.get? token_id = w.store.tokens.get? token_id)
  | mark_token_used token_id used_at =>
    obtain ⟨hanswer, halike⟩ := h.mark_token_used token_id used_at
    exact Tallies.intro hanswer halike
  | update_run_status run_id status cur err =>
    have hdone := h.update_run_status run_id status cur err (env.time w.clock) now
    obtain ⟨hanswer, halike⟩ := hdone.settled
      (P := AnswersAlike (.update_run_status run_id status cur err)) h trivial fun _ _ he => he
    obtain ⟨hfirst, hstore⟩ := World.write_settles w
      (w.store.update_run_status run_id status cur err (env.time w.clock))
    rw [← hfirst] at hanswer
    rw [← hstore] at halike
    exact Tallies.intro hanswer halike
  | set_current_step run_id step =>
    have hdone := h.set_current_step run_id step (env.time w.clock) now
    obtain ⟨hanswer, halike⟩ := hdone.settled
      (P := AnswersAlike (.set_current_step run_id step)) h trivial fun _ _ he => he
    obtain ⟨hfirst, hstore⟩ := World.write_settles w
      (w.store.set_current_step run_id step (env.time w.clock))
    rw [← hfirst] at hanswer
    rw [← hstore] at halike
    exact Tallies.intro hanswer halike
  | update_step step =>
    obtain ⟨hanswer, halike⟩ := (h.update_step hs hsent).settled
      (P := AnswersAlike (.update_step step)) h trivial fun _ _ he => he
    obtain ⟨hfirst, hstore⟩ := exec_update_step_settles env w step
    rw [← hfirst] at hanswer
    rw [← hstore] at halike
    exact Tallies.intro hanswer halike
  | advance_gate_step run_id step =>
    have hdone := h.advance_gate_step hs hsent (env.time w.clock) now
    obtain ⟨hanswer, halike⟩ := hdone.settled
      (P := AnswersAlike (.advance_gate_step run_id step)) h trivial fun _ _ he => he
    exact Tallies.intro hanswer halike
  | create_gate_request gate =>
    obtain ⟨hanswer, halike⟩ := (h.create_gate_request hsent).settled
      (P := AnswersAlike (.create_gate_request gate)) h trivial fun _ _ he => he
    exact Tallies.intro hanswer halike
  | update_gate_request gate =>
    obtain ⟨hanswer, halike⟩ := (h.update_gate_request hsent).settled
      (P := AnswersAlike (.update_gate_request gate)) h trivial fun _ _ he => he
    exact Tallies.intro hanswer halike
  | save_token token =>
    obtain ⟨hanswer, halike⟩ := (h.save_token hsent).settled
      (P := AnswersAlike (.save_token token)) h trivial fun _ _ he => he
    exact Tallies.intro hanswer halike
  | save_approval_decision d =>
    obtain ⟨hanswer, halike⟩ := (h.save_approval_decision hsent).settled
      (P := AnswersAlike (.save_approval_decision d)) h trivial fun _ _ he => he
    exact Tallies.intro hanswer halike
  | _ =>
    refine ⟨?_, h⟩
    intro r hr
    cases hr

/-- Creating a run. -/
theorem Alike.tallies_create (env : Env) (now : Time) {run : WorkflowRun} {rows : List StepState}
    (h : Alike w.store db) (hs : WellKept w.store) (hsent : Sent w.store (.create_run run rows)) :
    (KeysDistinct w.store (.create_run run rows) →
      Tallies _ (exec env (.create_run run rows) w) (PostgresStore.call now (.create_run run rows) db)) ∧
    (¬ KeysDistinct w.store (.create_run run rows) → ∃ created e,
      (exec env (.create_run run rows) w).1 = .ok created ∧
      PostgresStore.call now (.create_run run rows) db = (some (.error e), db)) := by
  obtain ⟨hdistinct, hcollides⟩ := h.create_run hs hsent
  constructor
  · intro hd
    obtain ⟨created, created', s', db', hmem, hpg, hsame, halike⟩ := hdistinct hd
    simp only [exec, PostgresStore.call, hmem, hpg]
    exact Tallies.intro hsame halike
  · intro hd
    obtain ⟨⟨s', hmem⟩, hpg⟩ := hcollides hd
    refine ⟨run, integrity_error "workflow_runs_dedupe_key_key", ?_, ?_⟩
    · simp only [exec, hmem]
    · simp only [PostgresStore.call, hpg]

/-- **One call.** The stores answer alike exactly when the call does not create a second run with an
    empty dedupe key, and then they stay alike. -/
theorem Alike.call (env : Env) (now : Time) {c : Call} (h : Alike w.store db)
    (hs : WellKept w.store) (hsent : Sent w.store c) :
    (∀ r, (PostgresStore.call now c db).1 = some r →
      (AnswersAlike c (exec env c w).1 r ↔ KeysDistinct w.store c)) ∧
    (KeysDistinct w.store c → Alike (exec env c w).2.store (PostgresStore.call now c db).2) := by
  by_cases hc : ∃ run rows, c = .create_run run rows
  · obtain ⟨run, rows, rfl⟩ := hc
    obtain ⟨hdistinct, hcollides⟩ := h.tallies_create env now hs hsent
    refine ⟨?_, fun hd => (hdistinct hd).stores⟩
    intro r hr
    constructor
    · intro halike
      by_contra hd
      obtain ⟨created, e, hmem, hpg⟩ := hcollides hd
      rw [hpg] at hr
      obtain rfl := Option.some.inj hr
      rw [hmem] at halike
      exact halike
    · intro hd
      exact (hdistinct hd).answers r hr
  · have htallies : Tallies c (exec env c w) (PostgresStore.call now c db) := by
      apply h.tallies env now hs hsent
      intro run rows heq
      exact hc ⟨run, rows, heq⟩
    have hdistinct : KeysDistinct w.store c := by
      cases c with
      | create_run run rows => exact absurd ⟨run, rows, rfl⟩ hc
      | _ => trivial
    exact ⟨fun r hr => iff_of_true (htallies.answers r hr) hdistinct, fun _ => htallies.stores⟩

end calls

end CaseAutomation.Orchestrator
