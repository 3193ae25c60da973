import CaseAutomation.Orchestrator.Passes
import CaseAutomation.Orchestrator.Invariants

/-! # How Far a Pass Gets

    A pass over handlers that return goes on until the first gate that is not done, or to the
    end, unless it meets a row that is *stuck*: an application step that is not done, has
    no record, and may not be started. What the pass has done so far changes nothing about
    the rows of other names (`Advanced`), so a row that is stuck when the pass starts is still
    stuck when the pass reaches it. A row that is not stuck becomes so exactly when its own name
    was worked on earlier in the pass, with an output that the idempotency store does not give
    back (`Worked`). So the pass gets through exactly if the rows are `Passable`.
-/

namespace CaseAutomation.Orchestrator

open Framework Program

/-! ## Rows that stop a pass -/

/-- A gate that is not done. -/
def undone_gate (row : StepState) : Bool := is_gate row.step && !Engine.step_done row.status

/-- The rows that a pass works on. -/
def ahead (rows : List StepState) : List StepState := rows.takeWhile fun row => !undone_gate row

/-- The gate that stops a pass, if there is one. -/
def next_gate (rows : List StepState) : Option StepState := rows.find? undone_gate

/-- The status in which a pass leaves a run. -/
def stop_status (rows : List StepState) : RunStatus :=
  match next_gate rows with
  | some _ => .AWAITING_APPROVAL
  | none => .SUCCEEDED

/-- An application step that is not done, has no record, and may not be started. -/
def stuck (env : Env) (stored : List StepState) (w : World) (row : StepState) : Bool :=
  !Engine.step_done row.status && !is_gate row.step &&
    (w.idem.lookup env.json row.idem_key).isNone && !startable stored row.step

theorem stuck_iff {env : Env} {stored : List StepState} {w : World} {row : StepState} :
    stuck env stored w row = true ↔ Engine.step_done row.status = false ∧
      is_gate row.step = false ∧ w.idem.lookup env.json row.idem_key = none ∧
      startable stored row.step = false := by
  simp [stuck, and_assoc]

/-- Whether a row is stuck depends on the stored rows and the records. -/
theorem stuck_congr {env : Env} {stored : List StepState} {w w' : World} {row : StepState}
    (h : w'.idem = w.idem) : stuck env stored w' row = stuck env stored w row := by
  unfold stuck
  rw [h]

theorem mem_ahead {rows : List StepState} {row : StepState} (h : row ∈ ahead rows) :
    row ∈ rows ∧ undone_gate row = false := by
  refine ⟨List.takeWhile_sublist _ |>.subset h, ?_⟩
  simpa using List.mem_takeWhile_imp h

/-- Nothing is left, or a gate that is not done comes next. -/
def Halts (rest : List StepState) : Prop :=
  rest = [] ∨ ∃ gate more, rest = gate :: more ∧ undone_gate gate = true

/-- A pass works on the rows ahead, and then it halts. -/
theorem ahead_split (rows : List StepState) : ∃ rest, rows = ahead rows ++ rest ∧ Halts rest := by
  refine ⟨rows.dropWhile fun row => !undone_gate row, List.takeWhile_append_dropWhile.symm, ?_⟩
  have hhead := List.head?_dropWhile_not (fun row => !undone_gate row) rows
  cases hrest : rows.dropWhile fun row => !undone_gate row with
  | nil => exact Or.inl rfl
  | cons gate more =>
    rw [hrest] at hhead
    exact Or.inr ⟨gate, more, rfl, by simpa using hhead⟩

theorem stop_status_append {before : List StepState} (rest : List StepState)
    (h : ∀ r ∈ before, undone_gate r = false) : stop_status (before ++ rest) = stop_status rest := by
  have hnone : before.find? undone_gate = none := by
    rw [List.find?_eq_none]
    intro r hr
    simp [h r hr]
  unfold stop_status next_gate
  rw [List.find?_append, hnone, Option.none_or]

/-! ## Handlers -/

/-- The handlers of these steps always return. -/
def NeverRaise (defn : WorkflowDef) (steps : List String) : Prop :=
  ∀ step ∈ steps, ∀ handler, defn.handlers step = some handler → ∀ trace ctx,
    ∃ returned hooks, handler trace ctx = .returned returned hooks

/-- The event is an invocation of the handler of this step. -/
def Event.invokes (run_id step : String) : Event → Bool
  | .invoked id name _ _ => decide (id = run_id) && decide (name = step)
  | _ => false

/-- How often the handler of a step was invoked for a run. -/
def invoked_count (run_id step : String) (events : List Event) : Nat :=
  events.countP (Event.invokes run_id step)

@[simp] theorem invoked_count_nil (run_id step : String) : invoked_count run_id step [] = 0 := rfl

@[simp] theorem invoked_count_append (run_id step : String) (a b : List Event) :
    invoked_count run_id step (a ++ b) =
      invoked_count run_id step a + invoked_count run_id step b :=
  List.countP_append

theorem invoked_count_audited (run_id step : String) (entries : List AuditEntry) :
    invoked_count run_id step (List.map Event.audited entries) = 0 := by
  unfold invoked_count
  rw [List.countP_eq_zero]
  intro e he
  obtain ⟨entry, -, rfl⟩ := List.mem_map.mp he
  simp [Event.invokes]

/-- A step whose handler returns is invoked once, and no other is. -/
theorem invoked_count_return (P : Pass) (row : StepState) (outputs : Dict String JsonObj)
    (returned : Option JsonObj) (hooks : List Compensation) (step : String) :
    invoked_count P.run_id step (.step_updated P.run_id row.step .RUNNING ::
      P.return_events row (P.context outputs row) returned hooks) =
      if row.step = step then 1 else 0 := by
  obtain ⟨entries, hentries⟩ := Engine.audit_events_eq P.engine "step.succeeded" P.run_id
    [("step", .str row.step)] (returned.getD [])
  have haudited := invoked_count_audited P.run_id step entries
  unfold Pass.return_events
  rw [hentries]
  unfold invoked_count at haudited ⊢
  by_cases hname : row.step = step
  · simp [Event.invokes, Pass.context, haudited, hname]
  · simp [Event.invokes, Pass.context, haudited, hname]

/-! ## Outputs that the store gives back -/

/-- The rows that are not done. -/
def undone (rows : List StepState) : List StepState :=
  rows.filter fun row => !Engine.step_done row.status

/-- A lookup gives this output back: the in-memory store takes an empty one for a placeholder. -/
def recognised (redis : Bool) (returned : Option JsonObj) : Bool :=
  redis || !(returned.getD []).isEmpty

/-- What the handler of the step returned in these events is given back. -/
def Recognised (run_id : String) (redis : Bool) (step : String) (events : List Event) : Prop :=
  ∀ ctx returned hooks, .invoked run_id step ctx (.returned returned hooks) ∈ events →
    recognised redis returned = true

/-- Where rows that are not done share a name, the store gives back what their handler returned
    in these events. With distinct names there is nothing to show. -/
def RepeatsRecognised (run_id : String) (redis : Bool) (rows : List StepState)
    (events : List Event) : Prop :=
  ∀ step, 1 < ((undone rows).map StepState.step).count step → Recognised run_id redis step events

theorem repeatsRecognised_of_nodup {rows : List StepState}
    (hdistinct : (rows.map StepState.step).Nodup) (run_id : String) (redis : Bool)
    (events : List Event) : RepeatsRecognised run_id redis rows events := by
  intro step hcount
  have hsub : ((undone rows).map StepState.step).Sublist (rows.map StepState.step) :=
    List.filter_sublist.map _
  have hle := List.nodup_iff_count_le_one.mp (hsub.nodup hdistinct) step
  omega

section recognised
variable {run_id step : String} {redis : Bool} {a b : List Event}

theorem recognised_append : Recognised run_id redis step (a ++ b) ↔
    Recognised run_id redis step a ∧ Recognised run_id redis step b := by
  constructor
  · intro h
    exact ⟨fun ctx returned hooks hmem => h ctx returned hooks (List.mem_append_left _ hmem),
      fun ctx returned hooks hmem => h ctx returned hooks (List.mem_append_right _ hmem)⟩
  · rintro ⟨ha, hb⟩ ctx returned hooks hmem
    rcases List.mem_append.mp hmem with hmem | hmem
    · exact ha ctx returned hooks hmem
    · exact hb ctx returned hooks hmem

/-- Events without an invocation of the step. -/
theorem recognised_of_quiet (h : invoked_count run_id step a = 0) :
    Recognised run_id redis step a := by
  intro ctx returned hooks hmem
  have hnone := List.countP_eq_zero.mp h _ hmem
  simp [Event.invokes] at hnone

theorem repeatsRecognised_append_quiet {rows : List StepState}
    (h : ∀ step, invoked_count run_id step b = 0) :
    RepeatsRecognised run_id redis rows (a ++ b) ↔ RepeatsRecognised run_id redis rows a := by
  unfold RepeatsRecognised
  simp only [recognised_append, recognised_of_quiet (h _), and_true]

theorem repeatsRecognised_quiet_append {rows : List StepState}
    (h : ∀ step, invoked_count run_id step a = 0) :
    RepeatsRecognised run_id redis rows (a ++ b) ↔ RepeatsRecognised run_id redis rows b := by
  unfold RepeatsRecognised
  simp only [recognised_append, recognised_of_quiet (h _), true_and]

end recognised

/-- The events of a step whose handler returns. -/
theorem recognised_return (P : Pass) (row : StepState) (outputs : Dict String JsonObj)
    (returned : Option JsonObj) (hooks : List Compensation) (redis : Bool) :
    Recognised P.run_id redis row.step (.step_updated P.run_id row.step .RUNNING ::
      P.return_events row (P.context outputs row) returned hooks) ↔
      recognised redis returned = true := by
  obtain ⟨entries, hentries⟩ := Engine.audit_events_eq P.engine "step.succeeded" P.run_id
    [("step", .str row.step)] (returned.getD [])
  unfold Pass.return_events
  rw [hentries]
  constructor
  · intro h
    exact h (P.context outputs row) returned hooks (by simp [Pass.context])
  · intro h ctx returned' hooks' hmem
    simp only [List.cons_append, List.nil_append, List.mem_cons, Event.invoked.injEq,
      HandlerResult.returned.injEq, reduceCtorEq, List.mem_map, and_false, exists_false, false_or,
      or_false] at hmem
    rw [hmem.2.2.2.1]
    exact h

/-! ## What work on some names changes -/

/-- Replacing a row does not decide whether rows of other names may start. -/
theorem startable_replace {pre post : List StepState} {held row : StepState} {step : String}
    (hname : row.step = held.step) (hne : step ≠ held.step) :
    startable (pre ++ row :: post) step = startable (pre ++ held :: post) step := by
  have hheld : ¬ held.step = step := Ne.symm hne
  have hrow : ¬ row.step = step := by rwa [hname]
  unfold startable
  rw [List.find?_append, List.find?_append, List.find?_cons_of_neg (by simpa using hrow),
    List.find?_cons_of_neg (by simpa using hheld)]

/-- The table does not let a completed row start again. -/
theorem startable_completed {pre post : List StepState} {row row' : StepState} {output : JsonObj}
    (hpre : ∀ r ∈ pre, r.step ≠ row.step) (h : Pass.Completed row output row') :
    startable (pre ++ row' :: post) row.step = false := by
  have hnone : pre.find? (fun r => decide (r.step = row.step)) = none := by
    rw [List.find?_eq_none]
    intro r hr
    simpa using hpre r hr
  unfold startable
  rw [List.find?_append, hnone, Option.none_or, List.find?_cons_of_pos (by simpa using h.step)]
  simp only [h.status]
  rfl

namespace Pass

/-- The idempotency key of a step. -/
def key (P : Pass) (step : String) : String := P.run_id ++ ":" ++ step

theorem key_injective (P : Pass) {a b : String} (h : P.key a = P.key b) : a = b := by
  simpa [key] using h

end Pass

/-- Work on `names` leaves this step alone: it is not one of them, or has a record. -/
def Untouched (env : Env) (P : Pass) (names : List String) (w : World) (step : String) : Prop :=
  step ∉ names ∨ w.idem.lookup env.json (P.key step) ≠ none

/-- `w'` comes from `w` by completed work on rows with these names. -/
structure Advanced (env : Env) (P : Pass) (names : List String) (run run' : WorkflowRun)
    (stored stored' : List StepState) (new : List Event) (w w' : World) : Prop where
  handled : Handled P.run_id run run' stored' new w w'
  rows : RowsOk P.defn P.run_id stored'
  redis : w'.idem.is_redis = w.idem.is_redis
  startable : ∀ step, step ∉ names → startable stored' step = startable stored step
  lookup : ∀ step, Untouched env P names w step →
    w'.idem.lookup env.json (P.key step) = w.idem.lookup env.json (P.key step)
  quiet : ∀ step, Untouched env P names w step → invoked_count P.run_id step new = 0

section advanced
variable {env : Env} {P : Pass} {run run' run'' : WorkflowRun}
  {stored stored' stored'' : List StepState} {new new' : List Event} {w w' w'' : World}
  {names names' : List String}

theorem Advanced.refl (hstored : Stored P.run_id run stored w)
    (hrows : RowsOk P.defn P.run_id stored) (names : List String) :
    Advanced env P names run run stored stored [] w w where
  handled := ⟨hstored, .refl run, (List.append_nil _).symm, .refl _ _⟩
  rows := hrows
  redis := rfl
  startable := fun _ _ => rfl
  lookup := fun _ _ => rfl
  quiet := fun _ _ => rfl

theorem Untouched.left {step : String} (h : Untouched env P (names ++ names') w step) :
    Untouched env P names w step := by
  rcases h with hnot | hsome
  · exact Or.inl fun hmem => hnot (List.mem_append_left _ hmem)
  · exact Or.inr hsome

theorem Advanced.trans (h : Advanced env P names run run' stored stored' new w w')
    (h' : Advanced env P names' run' run'' stored' stored'' new' w' w'') :
    Advanced env P (names ++ names') run run'' stored stored'' (new ++ new') w w'' := by
  have hright : ∀ step, Untouched env P (names ++ names') w step →
      Untouched env P names' w' step := by
    intro step hstep
    have hsame := h.lookup step hstep.left
    rcases hstep with hnot | hsome
    · exact Or.inl fun hmem => hnot (List.mem_append_right _ hmem)
    · exact Or.inr (hsame ▸ hsome)
  refine ⟨h.handled.trans h'.handled, h'.rows, h'.redis.trans h.redis, ?_, ?_, ?_⟩
  · intro step hstep
    rw [List.mem_append, not_or] at hstep
    rw [h'.startable step hstep.2, h.startable step hstep.1]
  · intro step hstep
    rw [h'.lookup step (hright step hstep), h.lookup step hstep.left]
  · intro step hstep
    rw [invoked_count_append, h.quiet step hstep.left, h'.quiet step (hright step hstep)]

/-- Rows of other names are as stuck as before. -/
theorem Advanced.stuck_eq (h : Advanced env P names run run' stored stored' new w w')
    {row : StepState} (hname : row.step ∉ names) (hkey : row.idem_key = P.key row.step) :
    stuck env stored' w' row = stuck env stored w row := by
  have hlookup := h.lookup row.step (Or.inl hname)
  rw [← hkey] at hlookup
  unfold stuck
  rw [h.startable row.step hname, hlookup]

end advanced

/-! ## One row -/

section rows
variable {env : Env} {P : Pass} {row : StepState} {run : WorkflowRun} {stored : List StepState}
  {w : World}

/-- A stuck row ends the pass with an exception. -/
theorem loop_row_stuck (rest : List StepState) (outputs : Dict String JsonObj)
    (compensations : List Compensation) (hstuck : stuck env stored w row = true)
    (hdeclared : row.step ∈ P.defn.steps) (hrow : RowOk P.run_id row)
    (hstored : Stored P.run_id run stored w) (hrows : RowsOk P.defn P.run_id stored) :
    ∃ e, (P.loop (row :: rest) outputs compensations).run (exec env) w = (.error e, w.tick) := by
  obtain ⟨hdone, hgate, hmiss, hstart⟩ := stuck_iff.mp hstuck
  obtain ⟨pre, held, post, hsplit, hpre, hname, hlegal⟩ := find_named (hrows.names ▸ hdeclared)
  rw [hsplit] at hstored
  exact Pass.loop_stuck env P rest outputs compensations hdone hgate hmiss hrow.of_run hstored
    hpre hname (hlegal ▸ hstart)

/-- What the work on a row means for later rows of its name: they are passed over if the record is
    given back, and are stuck otherwise. -/
structure Worked (env : Env) (P : Pass) (row : StepState) (stored' : List StepState)
    (new : List Event) (w w' : World) : Prop where
  recorded : w'.idem.lookup env.json row.idem_key ≠ none ↔
    Recognised P.run_id w.idem.is_redis row.step new
  closed : w'.idem.lookup env.json row.idem_key = none → startable stored' row.step = false
  once : w.idem.lookup env.json row.idem_key = none → invoked_count P.run_id row.step new = 1

/-- Any other row that is not a waiting gate is completed or passed over. -/
theorem loop_row_free (rest : List StepState) (outputs : Dict String JsonObj)
    (compensations : List Compensation) (hfree : stuck env stored w row = false)
    (hgate : undone_gate row = false) (hdeclared : row.step ∈ P.defn.steps)
    (hrow : RowOk P.run_id row) (hreturns : NeverRaise P.defn [row.step])
    (hstored : Stored P.run_id run stored w) (hrows : RowsOk P.defn P.run_id stored)
    (hundone : Engine.step_done row.status = false) :
    ∃ outputs' compensations' run' stored' new w',
      (P.loop (row :: rest) outputs compensations).run (exec env) w =
        (P.loop rest outputs' compensations').run (exec env) w' ∧
      Advanced env P [row.step] run run' stored stored' new w w' ∧
      Worked env P row stored' new w w' := by
  have hplain : is_gate row.step = false := by
    simpa [undone_gate, hundone] using hgate
  have hkey : row.idem_key = P.key row.step := hrow.key
  cases hlookup : w.idem.lookup env.json row.idem_key with
  | some existing =>
    obtain ⟨w', run', hloop, hhandled, -, hidem, -⟩ := Pass.loop_hit env P rest outputs
      compensations hundone hplain hlookup hstored
    have hrecorded : w'.idem.lookup env.json row.idem_key ≠ none := by
      rw [hidem, hlookup]
      exact Option.some_ne_none existing
    refine ⟨_, _, run', stored, [], w', hloop,
      ⟨hhandled, hrows, by rw [hidem], fun _ _ => rfl, fun _ _ => by rw [hidem], fun _ _ => rfl⟩,
      ⟨?_, fun hnone => absurd hnone hrecorded, ?_⟩⟩
    · exact iff_of_true hrecorded (recognised_of_quiet rfl)
    · intro hmiss
      rw [hlookup] at hmiss
      cases hmiss
  | none =>
    have hstart : startable stored row.step = true := by
      by_contra hnot
      rw [stuck_iff.mpr ⟨hundone, hplain, hlookup, Bool.eq_false_iff.mpr hnot⟩] at hfree
      cases hfree
    obtain ⟨pre, held, post, hsplit, hpre, hname, hlegal⟩ := find_named (hrows.names ▸ hdeclared)
    rw [hsplit] at hstored hrows
    obtain ⟨handler, hhandler⟩ := Option.isSome_iff_exists.mp
      (P.defn.handlers_total row.step hdeclared hplain)
    obtain ⟨returned, hooks, hresult⟩ := hreturns row.step List.mem_cons_self handler hhandler
      (w.trace ++ [.step_updated P.run_id row.step .RUNNING]) (P.context outputs row)
    obtain ⟨w', run', row', hloop, hhandled, hcompleted, hidem⟩ := Pass.loop_success env P rest
      outputs compensations hundone hplain hlookup hrow.of_run hstored hpre hname
      (hlegal ▸ hstart) hhandler hresult
    have hrow' : RowOk P.run_id row' :=
      ⟨hcompleted.of_run.trans hrow.of_run, by rw [hcompleted.key, hcompleted.step, hrow.key]⟩
    have hname' : row'.step = held.step := hcompleted.step.trans hname.symm
    -- an untouched step has another name, since this one had no record
    have hother : ∀ step, Untouched env P [row.step] w step → step ≠ row.step := by
      rintro step (hnot | hsome) rfl
      · exact hnot List.mem_cons_self
      · rw [← hkey] at hsome
        exact hsome hlookup
    refine ⟨_, _, run', _, _, w', hloop,
      ⟨hhandled, hrows.replace hname' hrow', by rw [hidem, IdemStore.is_redis_complete], ?_, ?_, ?_⟩,
      ⟨?_, ?_, ?_⟩⟩
    · intro step hstep
      rw [hsplit]
      refine startable_replace hname' ?_
      rintro rfl
      exact hstep (hname ▸ List.mem_cons_self)
    · intro step hstep
      rw [hidem, IdemStore.lookup_complete_ne]
      rw [hkey]
      intro heq
      exact hother step hstep (P.key_injective heq)
    · intro step hstep
      rw [invoked_count_return, if_neg (Ne.symm (hother step hstep))]
    · rw [recognised_return, hidem, IdemStore.lookup_complete_self]
      unfold recognised
      by_cases hredis : w.idem.is_redis = true
      · simp [hredis]
      · by_cases hempty : (returned.getD []).isEmpty = true
        · simp [hredis, hempty]
        · simp [hredis, hempty]
    · intro _
      exact startable_completed hpre hcompleted
    · intro _
      rw [invoked_count_return, if_pos rfl]

end rows

/-! ## All rows before the next gate -/

/-- Rows that a pass of this run still has to look at. -/
structure Remaining (P : Pass) (rows : List StepState) : Prop where
  names : (rows.map StepState.step).Sublist P.defn.steps
  ok : ∀ row ∈ rows, RowOk P.run_id row

theorem Remaining.all {P : Pass} {rows : List StepState} (h : RowsOk P.defn P.run_id rows) :
    Remaining P rows :=
  ⟨h.names ▸ List.Sublist.refl _, h.ok⟩

theorem Remaining.tail {P : Pass} {row : StepState} {rest : List StepState}
    (h : Remaining P (row :: rest)) : Remaining P rest :=
  ⟨(List.sublist_cons_self _ _).trans h.names, fun r hr => h.ok r (List.mem_cons_of_mem _ hr)⟩

theorem Remaining.left {P : Pass} {a b : List StepState} (h : Remaining P (a ++ b)) :
    Remaining P a := by
  refine ⟨?_, fun r hr => h.ok r (List.mem_append_left _ hr)⟩
  have hnames := h.names
  rw [List.map_append] at hnames
  exact (List.sublist_append_left _ _).trans hnames

theorem Remaining.right {P : Pass} {a b : List StepState} (h : Remaining P (a ++ b)) :
    Remaining P b := by
  refine ⟨?_, fun r hr => h.ok r (List.mem_append_right _ hr)⟩
  have hnames := h.names
  rw [List.map_append] at hnames
  exact (List.sublist_append_right _ _).trans hnames

theorem Remaining.declared {P : Pass} {rows : List StepState} (h : Remaining P rows)
    {row : StepState} (hrow : row ∈ rows) : row.step ∈ P.defn.steps :=
  h.names.subset (List.mem_map_of_mem hrow)

/-- The rows ahead are rows of the workflow, none of them a gate that waits. -/
theorem ahead_plain (P : Pass) {rows : List StepState} (hrows : RowsOk P.defn P.run_id rows) :
    ∃ rest, rows = ahead rows ++ rest ∧ Halts rest ∧ Remaining P (ahead rows) ∧
      stop_status rest = stop_status rows ∧ ∀ r ∈ ahead rows, undone_gate r = false := by
  obtain ⟨rest, hsplit, hhalts⟩ := ahead_split rows
  have hgates : ∀ r ∈ ahead rows, undone_gate r = false := fun r hr => (mem_ahead hr).2
  have hremaining : Remaining P rows := .all hrows
  rw [hsplit] at hremaining
  refine ⟨rest, hsplit, hhalts, hremaining.left, ?_, hgates⟩
  rw [← stop_status_append rest hgates, ← hsplit]

theorem never_raise_ahead {defn : WorkflowDef} {run_id : String} {rows : List StepState}
    (hreturns : NeverRaise defn defn.steps) (hrows : RowsOk defn run_id rows) :
    NeverRaise defn ((ahead rows).map StepState.step) := by
  intro step hstep
  obtain ⟨row, hrow, rfl⟩ := List.mem_map.mp hstep
  exact hreturns row.step (hrows.names ▸ List.mem_map_of_mem (mem_ahead hrow).1)

/-! ## What stops a pass -/

/-- Nothing stops a pass over these rows in which these events happen. -/
structure Passable (env : Env) (run_id : String) (stored rows : List StepState)
    (events : List Event) (w : World) : Prop where
  free : ∀ r ∈ rows, stuck env stored w r = false
  repeats : RepeatsRecognised run_id w.idem.is_redis rows events

theorem Passable.congr {env : Env} {run_id : String} {stored rows : List StepState}
    {events : List Event} {w w' : World} (hidem : w'.idem = w.idem)
    (h : Passable env run_id stored rows events w) : Passable env run_id stored rows events w' := by
  refine ⟨fun r hr => ?_, ?_⟩
  · rw [stuck_congr hidem]
    exact h.free r hr
  · rw [hidem]
    exact h.repeats

theorem mem_undone {rows : List StepState} {row : StepState} :
    row ∈ undone rows ↔ row ∈ rows ∧ Engine.step_done row.status = false := by
  simp [undone]

theorem undone_cons_done {rows : List StepState} {row : StepState}
    (h : Engine.step_done row.status = true) : undone (row :: rows) = undone rows :=
  List.filter_cons_of_neg (by simp [h])

theorem undone_cons {rows : List StepState} {row : StepState}
    (h : Engine.step_done row.status = false) : undone (row :: rows) = row :: undone rows :=
  List.filter_cons_of_pos (by simp [h])

/-- Rows of one name that are not done are stuck together. -/
theorem stuck_together {env : Env} {stored : List StepState} {w : World} {run_id : String}
    {r row : StepState} (hr : RowOk run_id r) (hrow : RowOk run_id row) (hname : r.step = row.step)
    (hundone : Engine.step_done r.status = false) (hundone' : Engine.step_done row.status = false) :
    stuck env stored w r = stuck env stored w row := by
  unfold stuck
  rw [hr.key, hrow.key, hname, hundone, hundone']

section runs
variable {env : Env} {P : Pass} {run run' : WorkflowRun} {stored stored' before : List StepState}
  {row : StepState} {new new' : List Event} {w w' : World}

theorem Worked.stuck_iff {r : StepState} (h : Worked env P row stored' new w w')
    (hrow : RowOk P.run_id row) (hplain : is_gate row.step = false) (hr : RowOk P.run_id r)
    (hname : r.step = row.step) (hundone : Engine.step_done r.status = false) :
    stuck env stored' w' r = false ↔ Recognised P.run_id w.idem.is_redis row.step new := by
  have hkey : r.idem_key = row.idem_key := by rw [hr.key, hrow.key, hname]
  rw [← h.recorded]
  constructor
  · intro hfree hnone
    have hstuck : stuck env stored' w' r = true := by
      refine Orchestrator.stuck_iff.mpr ⟨hundone, ?_, ?_, ?_⟩
      · rw [hname]
        exact hplain
      · rw [hkey]
        exact hnone
      · rw [hname]
        exact h.closed hnone
    rw [hstuck] at hfree
    cases hfree
  · intro hsome
    by_contra hstuck
    obtain ⟨-, -, hnone, -⟩ := Orchestrator.stuck_iff.mp ((Bool.not_eq_false _).mp hstuck)
    rw [hkey] at hnone
    exact hsome hnone

/-- Without a stuck row the step is not worked on again. -/
theorem Worked.untouched (h : Worked env P row stored' new w w') (hrow : RowOk P.run_id row)
    (hplain : is_gate row.step = false) (hok : ∀ r ∈ before, RowOk P.run_id r)
    (hfree : ∀ r ∈ before, stuck env stored' w' r = false) :
    Untouched env P ((undone before).map StepState.step) w' row.step := by
  by_cases hin : row.step ∈ (undone before).map StepState.step
  · obtain ⟨r, hr, hname⟩ := List.mem_map.mp hin
    obtain ⟨hmem, hundone⟩ := mem_undone.mp hr
    have hrecorded := h.recorded.mpr
      ((h.stuck_iff hrow hplain (hok r hmem) hname hundone).mp (hfree r hmem))
    rw [hrow.key] at hrecorded
    exact Or.inr hrecorded
  · exact Or.inl hin

/-- A row that is done stops nothing. -/
theorem passable_cons_done (hdone : Engine.step_done row.status = true) :
    Passable env P.run_id stored (row :: before) new w ↔
      Passable env P.run_id stored before new w := by
  have hfree : stuck env stored w row = false := by simp [stuck, hdone]
  constructor
  · rintro ⟨hclear, hrepeats⟩
    refine ⟨fun r hr => hclear r (List.mem_cons_of_mem _ hr), fun step htwice => hrepeats step ?_⟩
    rwa [undone_cons_done hdone]
  · rintro ⟨hclear, hrepeats⟩
    refine ⟨List.forall_mem_cons.mpr ⟨hfree, hclear⟩, fun step htwice => hrepeats step ?_⟩
    rwa [undone_cons_done hdone] at htwice

/-- **One row.** What stops the rest of the pass would stop all of it. -/
theorem passable_cons (h : Worked env P row stored' new w w')
    (hadvanced : Advanced env P [row.step] run run' stored stored' new w w')
    (hok : ∀ r ∈ row :: before, RowOk P.run_id r) (hundone : Engine.step_done row.status = false)
    (hplain : is_gate row.step = false) (hfree : stuck env stored w row = false)
    (hquiet : Untouched env P ((undone before).map StepState.step) w' row.step →
      invoked_count P.run_id row.step new' = 0) :
    Passable env P.run_id stored (row :: before) (new ++ new') w ↔
      Passable env P.run_id stored' before new' w' := by
  have hrow : RowOk P.run_id row := hok row List.mem_cons_self
  have hbefore : ∀ r ∈ before, RowOk P.run_id r := fun r hr => hok r (List.mem_cons_of_mem _ hr)
  have hother : ∀ r ∈ before, r.step ≠ row.step →
      stuck env stored' w' r = stuck env stored w r := fun r hr hname =>
    hadvanced.stuck_eq (fun hmem => hname (List.mem_singleton.mp hmem)) (hbefore r hr).key
  have hcount : ∀ step, ((undone (row :: before)).map StepState.step).count step =
      ((undone before).map StepState.step).count step + if row.step == step then 1 else 0 := by
    intro step
    rw [undone_cons hundone, List.map_cons, List.count_cons]
  constructor
  · rintro ⟨hclear, hrepeats⟩
    refine ⟨?_, ?_⟩
    · intro r hr
      by_cases hname : r.step = row.step
      · cases hdone : Engine.step_done r.status with
        | true => simp [stuck, hdone]
        | false =>
          -- a second row of the name finds what this one has recorded
          have hmem : row.step ∈ (undone before).map StepState.step :=
            List.mem_map.mpr ⟨r, mem_undone.mpr ⟨hr, hdone⟩, hname⟩
          have htwice : 1 < ((undone (row :: before)).map StepState.step).count row.step := by
            have hpos := List.count_pos_iff.mpr hmem
            rw [hcount, beq_self_eq_true, if_pos rfl]
            omega
          exact (h.stuck_iff hrow hplain (hbefore r hr) hname hdone).mpr
            (recognised_append.mp (hrepeats _ htwice)).1
      · rw [hother r hr hname]
        exact hclear r (List.mem_cons_of_mem _ hr)
    · intro step htwice
      rw [hadvanced.redis]
      refine (recognised_append.mp (hrepeats step ?_)).2
      rw [hcount]
      omega
  · rintro ⟨hclear, hrepeats⟩
    refine ⟨?_, ?_⟩
    · intro r hr
      rcases List.mem_cons.mp hr with rfl | hr
      · exact hfree
      by_cases hname : r.step = row.step
      · cases hdone : Engine.step_done r.status with
        | true => simp [stuck, hdone]
        | false =>
          -- two rows of one name share their record
          rw [stuck_together (hbefore r hr) hrow hname hdone hundone]
          exact hfree
      · rw [← hother r hr hname]
        exact hclear r hr
    · intro step htwice
      rw [hcount] at htwice
      rw [recognised_append]
      by_cases hname : step = row.step
      · -- the later row of the name gets through, so the output of this one was recognised
        subst hname
        have hmem : row.step ∈ (undone before).map StepState.step := by
          rw [beq_self_eq_true, if_pos rfl] at htwice
          exact List.count_pos_iff.mp (by omega)
        obtain ⟨r, hr, hsame⟩ := List.mem_map.mp hmem
        obtain ⟨hin, hdone⟩ := mem_undone.mp hr
        refine ⟨(h.stuck_iff hrow hplain (hbefore r hin) hsame hdone).mp (hclear r hin), ?_⟩
        exact recognised_of_quiet (hquiet (h.untouched hrow hplain hbefore hclear))
      · have hnot : step ∉ [row.step] := fun hmem => hname (List.mem_singleton.mp hmem)
        refine ⟨recognised_of_quiet (hadvanced.quiet step (Or.inl hnot)), ?_⟩
        rw [← hadvanced.redis]
        refine hrepeats step ?_
        rwa [if_neg (by simpa using Ne.symm hname), Nat.add_zero] at htwice

/-- The handlers of the rows that are not done and have no record are invoked once. -/
def InvokedOnce (env : Env) (run_id : String) (rows : List StepState) (events : List Event)
    (w : World) : Prop :=
  ∀ r ∈ undone rows, w.idem.lookup env.json r.idem_key = none →
    invoked_count run_id r.step events = 1

/-- The row at the head is invoked once, together with the later rows of its name. -/
theorem InvokedOnce.cons (honce : InvokedOnce env P.run_id before new' w')
    (h : Worked env P row stored' new w w')
    (hadvanced : Advanced env P [row.step] run run' stored stored' new w w')
    (hquiet : ∀ step, Untouched env P ((undone before).map StepState.step) w' step →
      invoked_count P.run_id step new' = 0)
    (hok : ∀ r ∈ row :: before, RowOk P.run_id r) (hundone : Engine.step_done row.status = false)
    (hplain : is_gate row.step = false) (hfree : ∀ r ∈ before, stuck env stored' w' r = false) :
    InvokedOnce env P.run_id (row :: before) (new ++ new') w := by
  have hrow : RowOk P.run_id row := hok row List.mem_cons_self
  have hbefore : ∀ r ∈ before, RowOk P.run_id r := fun r hr => hok r (List.mem_cons_of_mem _ hr)
  intro r hr hmiss
  rw [undone_cons hundone] at hr
  rw [invoked_count_append]
  have hr_ok : RowOk P.run_id r := by
    rcases List.mem_cons.mp hr with rfl | hr
    · exact hrow
    · exact hbefore r (mem_undone.mp hr).1
  by_cases hname : r.step = row.step
  · -- rows of one name are invoked once together, at the first of them
    have hkey : r.idem_key = row.idem_key := by rw [hr_ok.key, hrow.key, hname]
    have huntouched := h.untouched hrow hplain hbefore hfree
    rw [hname, h.once (hkey ▸ hmiss), hquiet row.step huntouched]
  · have hnot : r.step ∉ [row.step] := fun hmem => hname (List.mem_singleton.mp hmem)
    have hlater : r ∈ undone before := by
      rcases List.mem_cons.mp hr with rfl | hr
      · exact absurd rfl hname
      · exact hr
    have hmiss' : w'.idem.lookup env.json r.idem_key = none := by
      have hlookup := hadvanced.lookup r.step (Or.inl hnot)
      rw [show P.key r.step = r.idem_key from hr_ok.key.symm] at hlookup
      exact hlookup.trans hmiss
    rw [hadvanced.quiet r.step (Or.inl hnot), honce r hlater hmiss']

/-- **The rows before the next gate**: the pass gets through if they are passable, and ends with
    an exception otherwise. -/
theorem loop_rows (env : Env) (before rest : List StepState) (outputs : Dict String JsonObj)
    (compensations : List Compensation) (hremaining : Remaining P before)
    (hgates : ∀ r ∈ before, undone_gate r = false)
    (hreturns : NeverRaise P.defn (before.map StepState.step))
    (hstored : Stored P.run_id run stored w) (hrows : RowsOk P.defn P.run_id stored) :
    ∃ run' stored' new w',
      Advanced env P ((undone before).map StepState.step) run run' stored stored' new w w' ∧
      ((¬ Passable env P.run_id stored before new w ∧
          ∃ e, (P.loop (before ++ rest) outputs compensations).run (exec env) w =
            (.error e, w'.tick)) ∨
        Passable env P.run_id stored before new w ∧ InvokedOnce env P.run_id before new w ∧
          ∃ outputs' compensations',
            (P.loop (before ++ rest) outputs compensations).run (exec env) w =
              (P.loop rest outputs' compensations').run (exec env) w') := by
  induction before generalizing outputs compensations run stored w with
  | nil =>
    refine ⟨run, stored, [], w, .refl hstored hrows _,
      Or.inr ⟨⟨?_, ?_⟩, ?_, outputs, compensations, rfl⟩⟩
    · exact fun r hr => absurd hr List.not_mem_nil
    · exact fun step _ => recognised_of_quiet rfl
    · exact fun r hr => absurd hr List.not_mem_nil
  | cons row before ih =>
    have hgates' := fun r hr => hgates r (List.mem_cons_of_mem _ hr)
    have hreturns' : NeverRaise P.defn (before.map StepState.step) :=
      fun step hstep => hreturns step (List.mem_cons_of_mem _ hstep)
    have hmem : row ∈ row :: before := List.mem_cons_self
    by_cases hdone : Engine.step_done row.status = true
    · -- skipped: nothing changes
      unfold InvokedOnce
      rw [List.cons_append, Pass.loop_skip P _ outputs compensations hdone, undone_cons_done hdone]
      simp only [passable_cons_done hdone]
      exact ih _ compensations hremaining.tail hgates' hreturns' hstored hrows
    have hundone := Bool.eq_false_iff.mpr hdone
    by_cases hstuck : stuck env stored w row = true
    · -- the pass ends here, and the rows are not passable
      obtain ⟨e, hloop⟩ := loop_row_stuck (before ++ rest) outputs compensations hstuck
        (hremaining.declared hmem) (hremaining.ok row hmem) hstored hrows
      refine ⟨run, stored, [], w, .refl hstored hrows _, Or.inl ⟨fun hpass => ?_, e, hloop⟩⟩
      rw [hpass.free row hmem] at hstuck
      cases hstuck
    have hfree := Bool.eq_false_iff.mpr hstuck
    have hplain : is_gate row.step = false := by
      simpa [undone_gate, hundone] using hgates row hmem
    have hrow : RowOk P.run_id row := hremaining.ok row hmem
    obtain ⟨outputs₁, compensations₁, run₁, stored₁, new₁, w₁, hloop₁, hadvanced₁, hworked⟩ :=
      loop_row_free (before ++ rest) outputs compensations hfree (hgates row hmem)
        (hremaining.declared hmem) hrow
        (fun step hstep => hreturns step (List.mem_singleton.mp hstep ▸ List.mem_cons_self))
        hstored hrows hundone
    obtain ⟨run', stored', new, w', hadvanced, hend⟩ := ih outputs₁ compensations₁
      hremaining.tail hgates' hreturns' hadvanced₁.handled.stored hadvanced₁.rows
    have hpassable := passable_cons hworked hadvanced₁ hremaining.ok hundone hplain hfree
      (hadvanced.quiet row.step)
    rw [undone_cons hundone]
    refine ⟨run', stored', new₁ ++ new, w', hadvanced₁.trans hadvanced, ?_⟩
    rcases hend with ⟨hblocked, e, hloop⟩ | ⟨hpass, honce, outputs', compensations', hloop⟩
    · exact Or.inl ⟨fun hpass => hblocked (hpassable.mp hpass), e, hloop₁.trans hloop⟩
    refine Or.inr ⟨hpassable.mpr hpass, ?_, outputs', compensations', hloop₁.trans hloop⟩
    exact honce.cons hworked hadvanced₁ hadvanced.quiet hremaining.ok hundone hplain hpass.free

/-! ## The end of a pass -/

/-- A running run stops at the gate, or succeeds. -/
theorem loop_halts (env : Env) {rest : List StepState} (outputs : Dict String JsonObj)
    (compensations : List Compensation) (hhalts : Halts rest) (hid : P.run.id = P.run_id)
    (hstored : Stored P.run_id run stored w) (hrunning : run.status = .RUNNING) :
    ∃ run' w' entries, (P.loop rest outputs compensations).run (exec env) w = (.ok run', w') ∧
      Stored P.run_id run' stored w' ∧ Restatused run (stop_status rest) run' ∧
      w'.trace = w.trace ++ List.map Event.audited entries ∧ Elsewhere P.run_id w w' ∧
      w'.idem = w.idem := by
  rcases hhalts with rfl | ⟨gate, more, rfl, hgate⟩
  · obtain ⟨w', run', hloop, hstored', hstatus, htrace, hrest⟩ := Pass.loop_end env P outputs
      compensations hstored hrunning
    obtain ⟨entries, hentries⟩ := Engine.audit_events_eq P.engine "run.succeeded" P.run_id [] []
    exact ⟨run', w', entries, hloop, hstored', hstatus, hentries ▸ htrace, hrest⟩
  · have hstop : stop_status (gate :: more) = .AWAITING_APPROVAL := by
      simp [stop_status, next_gate, hgate]
    obtain ⟨hisgate, hundone⟩ := Bool.and_eq_true_iff.mp hgate
    obtain ⟨w', run', entries, hloop, hstored', hstatus, htrace, hrest⟩ := Pass.loop_gate env P
      more outputs compensations (by simpa using hundone) hisgate hid hstored hrunning
    rw [hstop]
    exact ⟨run', w', entries, hloop, hstored', hstatus, htrace, hrest⟩

/-- Any other run is refused, and stays as it is. -/
theorem loop_halts_refused (env : Env) {rest : List StepState} (outputs : Dict String JsonObj)
    (compensations : List Compensation) (hhalts : Halts rest) (hid : P.run.id = P.run_id)
    (hstored : Stored P.run_id run stored w) (hrunning : run.status ≠ .RUNNING) :
    ∃ e w', (P.loop rest outputs compensations).run (exec env) w = (.error e, w') ∧
      Stored P.run_id run stored w' ∧ Elsewhere P.run_id w w' := by
  rcases hhalts with rfl | ⟨gate, more, rfl, hgate⟩
  · obtain ⟨e, hloop⟩ := Pass.loop_end_refused env P outputs compensations hstored hrunning
    exact ⟨e, w, hloop, hstored, .refl _ _⟩
  · obtain ⟨hisgate, hundone⟩ := Bool.and_eq_true_iff.mp hgate
    obtain ⟨e, w', hloop, hopened⟩ := Pass.loop_gate_refused env P more outputs compensations
      (by simpa using hundone) hisgate hid hstored hrunning
    exact ⟨e, w', hloop, hopened.keeps hstored, hopened.elsewhere P.run_id⟩

/-- **A pass over a running run** stops it where it should if the rows are passable, and ends
    with an exception otherwise. -/
theorem pass_ends {rest : List StepState} (env : Env) (outputs : Dict String JsonObj)
    (compensations : List Compensation) (hremaining : Remaining P before)
    (hgates : ∀ r ∈ before, undone_gate r = false) (hhalts : Halts rest)
    (hreturns : NeverRaise P.defn (before.map StepState.step)) (hid : P.run.id = P.run_id)
    (hstored : Stored P.run_id run stored w) (hrows : RowsOk P.defn P.run_id stored)
    (hrunning : run.status = .RUNNING) :
    ∃ new w', w'.trace = w.trace ++ new ∧
      ((¬ Passable env P.run_id stored before new w ∧
          ∃ e, (P.loop (before ++ rest) outputs compensations).run (exec env) w = (.error e, w')) ∨
        Passable env P.run_id stored before new w ∧ InvokedOnce env P.run_id before new w ∧
          ∃ run', (P.loop (before ++ rest) outputs compensations).run (exec env) w =
              (.ok run', w') ∧
            w'.store.runs.get? P.run_id = some run' ∧ run'.status = stop_status rest) := by
  obtain ⟨run₁, stored₁, new, w₁, hadvanced, ⟨hblocked, e, hloop⟩ |
    ⟨hpass, honce, outputs', compensations', hloop⟩⟩ := loop_rows env before rest outputs
      compensations hremaining hgates hreturns hstored hrows
  · exact ⟨new, w₁.tick, hadvanced.handled.trace, Or.inl ⟨hblocked, e, hloop⟩⟩
  obtain ⟨run', w', entries, hend, hstored', hstatus, htrace, -⟩ := loop_halts env outputs'
    compensations' hhalts hid hadvanced.handled.stored
    (hadvanced.handled.same.status.trans hrunning)
  refine ⟨new ++ List.map Event.audited entries, w', ?_, Or.inr ⟨⟨hpass.free, ?_⟩, ?_, run',
    hloop.trans hend, hstored'.run, hstatus.status⟩⟩
  · rw [htrace, hadvanced.handled.trace, List.append_assoc]
  · exact (repeatsRecognised_append_quiet fun step => invoked_count_audited _ step entries).mpr
      hpass.repeats
  · intro r hr hmiss
    rw [invoked_count_append, invoked_count_audited, honce r hr hmiss]

/-- A pass that returns has stopped the run where it should. -/
theorem pass_returns {rest : List StepState} {outputs : Dict String JsonObj}
    {compensations : List Compensation} {stopped : WorkflowRun}
    (hremaining : Remaining P before) (hgates : ∀ r ∈ before, undone_gate r = false)
    (hhalts : Halts rest) (hreturns : NeverRaise P.defn (before.map StepState.step))
    (hid : P.run.id = P.run_id) (hstored : Stored P.run_id run stored w)
    (hrows : RowsOk P.defn P.run_id stored)
    (hloop : (P.loop (before ++ rest) outputs compensations).run (exec env) w = (.ok stopped, w')) :
    stopped.status = stop_status rest := by
  obtain ⟨run₁, stored₁, new, w₁, hadvanced, ⟨-, e, herror⟩ |
    ⟨-, -, outputs', compensations', hmore⟩⟩ := loop_rows env before rest outputs
      compensations hremaining hgates hreturns hstored hrows
  · rw [herror] at hloop
    cases hloop
  rw [hmore] at hloop
  by_cases hrunning : run₁.status = .RUNNING
  · obtain ⟨run', w₂, entries, hhalt, -, hstatus, -⟩ := loop_halts env outputs' compensations'
      hhalts hid hadvanced.handled.stored hrunning
    rw [hhalt] at hloop
    cases hloop
    exact hstatus.status
  · obtain ⟨e, w₂, hhalt, -⟩ := loop_halts_refused env outputs' compensations' hhalts hid
      hadvanced.handled.stored hrunning
    rw [hhalt] at hloop
    cases hloop

end runs

/-- **A call of `execute`** for a queued or running run, with handlers that never raise. -/
theorem execute_stops {env : Env} {defn : WorkflowDef} {run_id : String} {run : WorkflowRun}
    {rows : List StepState} {w : World} (engine : Engine) (depth : Nat)
    (hfree : (acquire_lock run_id w.lock).1 = true) (hstored : Stored run_id run rows w)
    (hrows : RowsOk defn run_id rows) (hid : run.id = run_id)
    (hlatest : get_workflow_latest w.registry run.workflow = .ok defn)
    (hreturns : NeverRaise defn defn.steps)
    (hactive : run.status = .QUEUED ∨ run.status = .RUNNING) :
    ∃ new w', w'.trace = w.trace ++ new ∧
      ((¬ Passable env run_id rows (ahead rows) new w ∧
          ∃ e, (engine.execute (depth + 1) run_id).run (exec env) w = (.error e, w')) ∨
        Passable env run_id rows (ahead rows) new w ∧
          InvokedOnce env run_id (ahead rows) new w ∧
          ∃ run', (engine.execute (depth + 1) run_id).run (exec env) w = (.ok run', w') ∧
            w'.store.runs.get? run_id = some run' ∧ run'.status = stop_status rows) := by
  obtain ⟨w₁, run₁, hbegun, hexecute⟩ := Engine.execute_run env engine depth hfree hstored hlatest
  have hidem : w₁.idem = w.idem := hbegun.idem
  have htrace : w₁.trace = w.trace := hbegun.trace
  let P : Pass := ⟨engine, engine.execute depth run_id, run₁, defn, run_id⟩
  obtain ⟨rest, hsplit, hhalts, hremaining, hsame, hgates⟩ := ahead_plain P hrows
  have hrunning : run₁.status = .RUNNING := by
    rw [hbegun.status]
    rcases hactive with hqueued | hrunning
    · rw [if_pos hqueued]
    · rw [if_neg (by rw [hrunning]; decide), hrunning]
  obtain ⟨new, w₂, hnew, hend⟩ := pass_ends env (Engine.stored_outputs rows) [] hremaining hgates
    hhalts (never_raise_ahead hreturns hrows) (hbegun.id.trans hid) hbegun.stored hrows hrunning
  rw [← hsplit] at hend
  refine ⟨new, Engine.unlocked run_id w₂, hnew.trans (congrArg (· ++ new) htrace), ?_⟩
  rcases hend with ⟨hblocked, e, hloop⟩ | ⟨hpass, honce, last, hloop, hlast, hstop⟩
  · exact Or.inl ⟨fun hpass => hblocked (hpass.congr hidem), e, hexecute _ _ hloop⟩
  · refine Or.inr ⟨hpass.congr hidem.symm, ?_, last, hexecute _ _ hloop, hlast, hstop.trans hsame⟩
    intro r hr hmiss
    exact honce r hr (hidem ▸ hmiss)

end CaseAutomation.Orchestrator
