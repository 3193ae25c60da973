import CaseAutomation.Orchestrator.GateSafety
import CaseAutomation.Orchestrator.Walk

/-! # Nothing Behind an Open Gate Runs Again

    A gate is opened when the pass has come past every step before it, and each of those steps has its
    output on record then. Records are never lost, and a step with a record is not
    invoked. So once a gate request exists for a run, no step before that gate is invoked
    for the run, whatever fails, crashes or is re-driven.

    The histories are sequential, and the handlers of the workflow return non-empty outputs,
    which every idempotency store can tell from a reservation.
-/

namespace CaseAutomation.Orchestrator.OpenGates

open Framework Program

/-! ## The invariant -/

/-- An output is on record under the key. -/
def Found (env : Env) (key : String) (w : World) : Prop := ∃ v, w.idem.lookup env.json key = some v

/-- Every step before the gate is on record. -/
def Passed (env : Env) (defn : WorkflowDef) (run_id gate : String) (w : World) : Prop :=
  ∀ (i j : Nat) (step : String), i < j → defn.steps[j]? = some gate → defn.steps[i]? = some step →
    is_gate step = false → Found env (run_id ++ ":" ++ step) w

/-- Steps that are done are on record, and so are the steps before an open gate. -/
structure Settled (env : Env) (defn : WorkflowDef) (w : World) : Prop where
  rows : ∀ id rows, w.store.steps.get? id = some rows → ∀ row ∈ rows, is_gate row.step = false →
    Engine.step_done row.status = true → Found env row.idem_key w
  gates : ∀ id gate, w.store.gates.get? id = some gate →
    is_gate gate.step = true ∧ Passed env defn gate.run_id gate.step w

/-- What must hold where a call is made. -/
def needs (env : Env) (defn : WorkflowDef) : Call → World → Prop
  | .invoke handler step ctx, w => defn.handlers step = some handler ∧ ¬ Found env ctx.idem_key w
  | .record _ output, _ => output ≠ []
  | .update_step row, w =>
    is_gate row.step = false → Engine.step_done row.status = true → Found env row.idem_key w
  | .create_gate_request gate, w =>
    is_gate gate.step = true ∧ Passed env defn gate.run_id gate.step w
  | _, _ => True

/-- Handlers that never return an empty output. -/
def Productive (defn : WorkflowDef) : Prop :=
  ∀ step handler trace ctx output hooks, defn.handlers step = some handler →
    handler trace ctx = .returned output hooks → output.getD [] ≠ []

section calls
variable {env : Env} {registry : Registry} {name : String} {defn : WorkflowDef} {c : Call}
  {w w' : World} {r : Except Exn c.Resp}

/-! ## One call -/

/-- No record is lost. -/
theorem Found.exec {key : String} (h : Found env key w) (hneeds : needs env defn c w) :
    Found env key (exec env c w).2 := by
  obtain ⟨v, hv⟩ := h
  unfold Found
  rw [exec_idem]
  cases c with
  | reserve key' =>
    simp only [IdemStore.lookup_reserve]
    exact ⟨v, hv⟩
  | record key' output =>
    by_cases hkey : key = key'
    · subst hkey
      have hne : output.isEmpty = false := by
        cases output with
        | nil => exact absurd rfl hneeds
        | cons f fs => rfl
      refine ⟨output, ?_⟩
      simp only [IdemStore.lookup_record_self, hne]
      split
      · rfl
      · rfl
    · simp only [IdemStore.lookup_record_ne _ _ _ hkey]
      exact ⟨v, hv⟩
  | _ => exact ⟨v, hv⟩

theorem Passed.exec {run_id gate : String} (h : Passed env defn run_id gate w)
    (hneeds : needs env defn c w) : Passed env defn run_id gate (exec env c w).2 :=
  fun i j step hij hj hi hgate => (h i j step hij hj hi hgate).exec hneeds

/-- What a call that is guarded does to the rows. -/
theorem rows_exec {F : String → Prop} {i : Nat} {owners : List Nat} {s' : RunStore} {clock' : Nat}
    (hrows : ∀ id rows, w.store.steps.get? id = some rows → ∀ row ∈ rows,
      is_gate row.step = false → Engine.step_done row.status = true → F row.idem_key)
    (hgates : ∀ id gate, w.store.gates.get? id = some gate → is_gate gate.step = true)
    (hguard : Guard env name defn i c (w, owners))
    (hupdate : ∀ row, c = .update_step row → is_gate row.step = false →
      Engine.step_done row.status = true → F row.idem_key)
    (hchange : StoreChange env w c s' clock') :
    ∀ id rows, s'.steps.get? id = some rows → ∀ row ∈ rows,
      is_gate row.step = false → Engine.step_done row.status = true → F row.idem_key := by
  cases hchange with
  | created run rows dedupe _ =>
    intro id rs hget row hrow hgate hdone
    obtain ⟨rfl, rfl⟩ | ⟨-, hold⟩ := Dict.get?_set_cases hget
    · -- a new row is pending, so it is not done
      rw [hguard.2.2 row hrow] at hdone
      cases hdone
    · exact hrows id rs hold row hrow hgate hdone
  | @advanced run_id step row pre post hold _ hname =>
    intro id rs hget r hr hgate hdone
    obtain ⟨rfl, rfl⟩ | ⟨-, hother⟩ := Dict.get?_set_cases hget
    · obtain rfl | hr := mem_replace hr
      · -- only the row of a gate is advanced
        obtain ⟨d, hd⟩ := hguard
        obtain ⟨gate, hget_gate, -, hstep, -⟩ := hd.by_required_role
        have hopen := hgates _ gate hget_gate
        rw [hstep, ← hname] at hopen
        rw [hopen] at hgate
        cases hgate
      · exact hrows id _ hold r hr hgate hdone
    · exact hrows id rs hother r hr hgate hdone
  | @updated step row pre post hold _ hname _ =>
    intro id rs hget r hr hgate hdone
    obtain ⟨rfl, rfl⟩ | ⟨-, hother⟩ := Dict.get?_set_cases hget
    · obtain rfl | hr := mem_replace hr
      · exact hupdate r rfl hgate hdone
      · exact hrows _ _ hold r hr hgate hdone
    · exact hrows id rs hother r hr hgate hdone
  | _ => exact hrows

/-- What it does to the gates. -/
theorem gates_exec {P : GateRequest → Prop} {i : Nat} {owners : List Nat} {s' : RunStore}
    {clock' : Nat} (hgates : ∀ id gate, w.store.gates.get? id = some gate → P gate)
    (hsame : ∀ gate gate', SameGate gate gate' → P gate → P gate')
    (hguard : Guard env name defn i c (w, owners))
    (hcreate : ∀ gate, c = .create_gate_request gate → P gate)
    (hchange : StoreChange env w c s' clock') :
    ∀ id gate, s'.gates.get? id = some gate → P gate := by
  cases hchange with
  | gate_created gate =>
    intro id g hget
    obtain ⟨rfl, rfl⟩ | ⟨-, hold⟩ := Dict.get?_set_cases hget
    · exact hcreate g rfl
    · exact hgates id g hold
  | gate_updated gate =>
    intro id g hget
    obtain ⟨rfl, rfl⟩ | ⟨-, hold⟩ := Dict.get?_set_cases hget
    · obtain ⟨before, hbefore, hasks⟩ := hguard
      exact hsame before g hasks (hgates _ before hbefore)
    · exact hgates id g hold
  | _ => exact hgates

/-- **One call.** What a call needs and what its thread knows keep the invariant. -/
theorem Settled.exec {i : Nat} {owners : List Nat} (h : Settled env defn w)
    (hguard : Guard env name defn i c (w, owners)) (hneeds : needs env defn c w) :
    Settled env defn (exec env c w).2 := by
  have hchange := exec_store_change env c w
  have hopen : ∀ id gate, w.store.gates.get? id = some gate → is_gate gate.step = true :=
    fun id gate hget => (h.gates id gate hget).1
  have hold : ∀ id rows, w.store.steps.get? id = some rows → ∀ row ∈ rows,
      is_gate row.step = false → Engine.step_done row.status = true →
      Found env row.idem_key (Orchestrator.exec env c w).2 :=
    fun id rows hget row hrow hgate hdone => (h.rows id rows hget row hrow hgate hdone).exec hneeds
  have hgates : ∀ id gate, w.store.gates.get? id = some gate → is_gate gate.step = true ∧
      Passed env defn gate.run_id gate.step (Orchestrator.exec env c w).2 :=
    fun id gate hget => ⟨(h.gates id gate hget).1, (h.gates id gate hget).2.exec hneeds⟩
  constructor
  · refine rows_exec (F := fun key => Found env key (Orchestrator.exec env c w).2) hold hopen hguard
      ?_ hchange
    intro row hc hgate hdone
    subst hc
    exact Found.exec (hneeds hgate hdone) hneeds
  · refine gates_exec (P := fun gate => is_gate gate.step = true ∧
      Passed env defn gate.run_id gate.step (Orchestrator.exec env c w).2) hgates ?_ hguard ?_ hchange
    · intro gate gate' hsame hold
      rw [hsame.step, hsame.run_id]
      exact hold
    · intro gate hc
      subst hc
      exact ⟨hneeds.1, Passed.exec hneeds.2 hneeds⟩

end calls

/-! ## The contract -/

section walk
variable {env : Env} {registry : Registry} {name : String} {defn : WorkflowDef}

/-- A call, answered or failing, with what holds wherever a call of the orchestrator is made. -/
def grounded (env : Env) (registry : Registry) (name : String) (defn : WorkflowDef) :
    Relation Call Call.Resp Exn World := fun c w r w' =>
  faulty env c w r w' ∧ Sound env registry name defn w ∧
    ∃ i owners, Guard env name defn i c (w, owners)

/-- One program at a time; only locks expire in between. -/
def contract (env : Env) (registry : Registry) (name : String) (defn : WorkflowDef) :
    Contract Call Call.Resp Exn World where
  step := grounded env registry name defn
  inv := Settled env defn
  rely := fun w w' => w'.store = w.store ∧ w'.idem = w.idem
  guar := fun _ _ => True
  guard := needs env defn

/-- An assertion that no record can make false. -/
def Lasting (env : Env) (A : World → Prop) : Prop :=
  ∀ w w', (∀ key, Found env key w → Found env key w') → A w → A w'

theorem found_of_idem {key : String} {w w' : World} (hidem : w'.idem = w.idem) :
    Found env key w' ↔ Found env key w := by
  unfold Found
  rw [hidem]

/-- One call of the program. -/
theorem yields_call {c : Call} {R : c.Resp → World → Prop} {w : World}
    (hneeds : ∀ w', w'.idem = w.idem → needs env defn c w')
    (hR : ∀ w' a w'', w'.idem = w.idem → Settled env defn w' → Sound env registry name defn w' →
      exec env c w' = (.ok a, w'') → (∀ key, Found env key w → Found env key w'') → R a w'') :
    Yields (contract env registry name defn) R (await c) w := by
  apply Yields.perform
  intro w' hrely hinv
  have hcall := hneeds w' hrely.2
  refine ⟨hcall, ?_⟩
  intro r w'' hstep
  obtain ⟨hfaulty, hsound, i, owners, hguard⟩ := hstep
  have hkeeps : ∀ key, Found env key w → Found env key w'' := by
    intro key hkey
    have hkey' : Found env key w' := (found_of_idem hrely.2).mpr hkey
    obtain ⟨rfl, -⟩ | rfl := hfaulty.world
    · exact hkey'
    · exact hkey'.exec hcall
  have hinv' : Settled env defn w'' := by
    obtain ⟨rfl, -⟩ | rfl := hfaulty.world
    · exact hinv
    · exact hinv.exec hguard hcall
  refine ⟨hinv', trivial, ?_⟩
  intro a ha
  subst ha
  exact hR w' a w'' hrely.2 hinv hsound hfaulty.ok hkeeps

/-- A call that keeps an assertion. -/
theorem yields_keeping {c : Call} {A : World → Prop} {w : World}
    (hneeds : ∀ w', w'.idem = w.idem → needs env defn c w') (hA : Lasting env A) (h : A w) :
    Yields (contract env registry name defn) (fun _ w' => A w') (await c) w :=
  yields_call hneeds fun _ _ w'' _ _ _ _ hkeeps => hA w w'' hkeeps h

/-- Calls that need nothing. -/
def easy : Call → Bool
  | .invoke _ _ _ => false
  | .record _ _ => false
  | .update_step _ => false
  | .create_gate_request _ => false
  | _ => true

theorem easy_needs {c : Call} (hc : easy c = true) (w : World) : needs env defn c w := by
  cases c <;> trivial

theorem yields_easy {c : Call} {A : World → Prop} {w : World} (hc : easy c = true)
    (hA : Lasting env A) (h : A w) :
    Yields (contract env registry name defn) (fun _ w' => A w') (await c) w :=
  yields_keeping (fun w' _ => easy_needs hc w') hA h

theorem easy_free {c : Call} (hc : easy c = true) : Free (contract env registry name defn) c := by
  intro w hinv
  refine ⟨easy_needs hc w, ?_⟩
  rintro r w' ⟨hfaulty, -, i, owners, hguard⟩
  obtain ⟨rfl, -⟩ | rfl := hfaulty.world
  · exact ⟨hinv, trivial⟩
  · exact ⟨hinv.exec hguard (easy_needs hc w), trivial⟩

/-- A row that is not done may be written. -/
theorem update_free {row : StepState} (hrow : Engine.step_done row.status = false) :
    Free (contract env registry name defn) (.update_step row) := by
  intro w hinv
  have hneeds : needs env defn (.update_step row) w := by
    intro _ hdone
    rw [hrow] at hdone
    cases hdone
  refine ⟨hneeds, ?_⟩
  rintro r w' ⟨hfaulty, -, i, owners, hguard⟩
  obtain ⟨rfl, -⟩ | rfl := hfaulty.world
  · exact ⟨hinv, trivial⟩
  · exact ⟨hinv.exec hguard hneeds, trivial⟩

theorem lenient (env : Env) (registry : Registry) (name : String) (defn : WorkflowDef) :
    Lenient (contract env registry name defn) where
  plain := by
    intro c hc
    apply easy_free
    cases c <;> first | rfl | cases hc
  parked := fun _ _ => easy_free rfl
  no_reset := by
    intro row w a w' hrow hstep
    exact exec_pending hrow hstep.1.ok

/-- A program of such calls keeps an assertion. -/
theorem keeps_easy {α : Type} {p : M α} {A : World → Prop} {w : World}
    (hp : Issues (fun c => easy c = true) p) (hA : Lasting env A) (h : A w) :
    Safe (contract env registry name defn) (fun _ w' => A w') p w := by
  apply Safe.of_issues (P := fun c => easy c = true) (A := A)
  · intro w w' hrely hw
    exact hA w w' (fun key hkey => (found_of_idem hrely.2).mpr hkey) hw
  · intro c w hc hinv hw
    have hneeds : needs env defn c w := easy_needs hc w
    refine ⟨hneeds, ?_⟩
    rintro r w' ⟨hfaulty, -, i, owners, hguard⟩
    obtain ⟨rfl, -⟩ | rfl := hfaulty.world
    · exact ⟨hinv, trivial, hw⟩
    · refine ⟨hinv.exec hguard hneeds, trivial, ?_⟩
      exact hA w _ (fun key hkey => hkey.exec hneeds) hw
  · exact hp
  · exact h

/-! ## One step -/

/-- A call that touches no record, while a key is free. -/
theorem yields_free_key {c : Call} {A : World → Prop} {key : String} {w : World}
    (hneeds : ∀ w', w'.idem = w.idem → needs env defn c w')
    (hquiet : ∀ w', (exec env c w').2.idem = w'.idem) (hA : Lasting env A)
    (h : A w ∧ ¬ Found env key w) :
    Yields (contract env registry name defn) (fun _ w' => A w' ∧ ¬ Found env key w') (await c) w := by
  apply yields_call hneeds
  intro w' a w'' hidem _ _ hexec hkeeps
  have hsame : w''.idem = w.idem := by
    rw [← hidem, ← hquiet w', hexec]
  exact ⟨hA w w'' hkeeps h.1, fun hfound => h.2 ((found_of_idem hsame).mp hfound)⟩

/-- The `try` block of a step whose key is free. When it succeeds, the output is on record. -/
theorem yields_try_step (engine : Engine) (run_id : String) {row : StepState} {ctx : StepContext}
    (compensations : List Compensation) {A : World → Prop} {w : World} (hprod : Productive defn)
    (hctx : ctx.idem_key = row.idem_key) (hA : Lasting env A)
    (h : A w ∧ ¬ Found env row.idem_key w) :
    Yields (contract env registry name defn)
      (fun done w' => ∀ output, done.result = .ok output → A w' ∧ Found env row.idem_key w')
      (engine.try_step defn run_id row ctx compensations) w := by
  have hrefused : ∀ (e : Exn) (w' : World) (hooks : List Compensation) (output : JsonObj),
      (⟨row, hooks, .error e⟩ : Engine.Attempted).result = .ok output →
        A w' ∧ Found env row.idem_key w' := by
    intro e w' hooks output hok
    cases hok
  unfold Engine.try_step
  cases hhandler : defn.handlers row.step with
  | none => exact Yields.ret (hrefused _ w _)
  | some handler =>
    -- the handler runs under a free key, and what it returns is not empty
    have hinvoke : Yields (contract env registry name defn)
        (fun answer w' => A w' ∧ answer.1.getD [] ≠ []) (await (.invoke handler row.step ctx)) w := by
      apply yields_call
      · intro w' hidem
        refine ⟨hhandler, ?_⟩
        rw [hctx, found_of_idem hidem]
        exact h.2
      · intro w' answer w'' _ _ _ hexec hkeeps
        refine ⟨hA w w'' hkeeps h.1, ?_⟩
        have houtcome : (handler w'.trace ctx).outcome = .ok answer := congrArg Prod.fst hexec
        cases hreturned : handler w'.trace ctx with
        | returned output hooks =>
          rw [hreturned] at houtcome
          cases houtcome
          exact hprod _ _ _ _ _ _ hhandler hreturned
        | raised e =>
          rw [hreturned] at houtcome
          cases houtcome
    apply Yields.bind (Yields.attempt hinvoke fun r w' hr => hr)
    intro returned w₁ h₁
    rcases returned with e | ⟨output, hooks⟩
    · exact Yields.ret (hrefused e w₁ _)
    obtain ⟨hA₁, hne⟩ := h₁ _ rfl
    -- then it is recorded
    have hrecord : Yields (contract env registry name defn)
        (fun _ w' => A w' ∧ Found env row.idem_key w')
        (do let _ ← await (.reserve row.idem_key)
            await (.record row.idem_key (output.getD [])) : M Unit) w₁ := by
      apply Yields.bind (yields_easy rfl hA hA₁)
      intro _ w' hA'
      have hneeds : ∀ w'', w''.idem = w'.idem →
          needs env defn (.record row.idem_key (output.getD [])) w'' := fun _ _ => hne
      apply yields_call hneeds
      intro w₂ a w₃ _ _ _ hexec hkeeps
      refine ⟨hA w' w₃ hkeeps hA', ?_⟩
      have hidem := exec_idem env (.record row.idem_key (output.getD [])) w₂
      rw [hexec] at hidem
      have hnonempty : (output.getD []).isEmpty = false := by
        rw [List.isEmpty_eq_false_iff]
        exact hne
      refine ⟨output.getD [], ?_⟩
      rw [hidem]
      simp only [IdemStore.lookup_record_self, hnonempty]
      split
      · rfl
      · rfl
    apply Yields.bind (Yields.attempt hrecord fun r w' hr => hr)
    intro recorded w₂ h₂
    rcases recorded with e | u
    · exact Yields.ret (hrefused e w₂ _)
    have hfound : Lasting env fun w => A w ∧ Found env row.idem_key w :=
      fun w w' hkeeps hw => ⟨hA w w' hkeeps hw.1, hkeeps _ hw.2⟩
    apply Yields.bind (yields_easy rfl hfound (h₂ u rfl))
    intro now w₃ h₃
    -- and the row is completed
    have hcomplete : Yields (contract env registry name defn)
        (fun _ w' => A w' ∧ Found env row.idem_key w')
        (do await (.update_step (Engine.succeeded_row row (output.getD []) now))
            engine.audit "step.succeeded" run_id [("step", .str row.step)] (output.getD [])
            await (.set_current_step run_id row.step) : M Unit) w₃ := by
      have hupdate : ∀ w', w'.idem = w₃.idem →
          needs env defn (.update_step (Engine.succeeded_row row (output.getD []) now)) w' :=
        fun w' hidem _ _ => (found_of_idem hidem).mpr h₃.2
      apply Yields.bind (yields_keeping hupdate hfound h₃)
      intro _ w₄ h₄
      apply Yields.of_keeps
      apply keeps_easy _ hfound h₄
      exact .bind (Engine.audit_issues engine _ _ _ _ fun _ => rfl) fun _ => .perform rfl
    apply Yields.bind (Yields.attempt hcomplete fun r w' hr => hr)
    intro completed w₄ h₄
    rcases completed with e | u
    · apply Yields.ret
      intro output hok
      cases hok
    · exact Yields.ret fun _ _ => h₄ u rfl

/-! ## One pass -/

/-- Every row is on record. -/
def AllFound (env : Env) (rows : List StepState) (w : World) : Prop :=
  ∀ row ∈ rows, is_gate row.step = false → Found env row.idem_key w

/-- The rows that are done are on record. -/
def DoneFound (env : Env) (rows : List StepState) (w : World) : Prop :=
  ∀ row ∈ rows, is_gate row.step = false → Engine.step_done row.status = true →
    Found env row.idem_key w

theorem lasting_rows (env : Env) (pre rest : List StepState) :
    Lasting env fun w => AllFound env pre w ∧ DoneFound env rest w := by
  intro w w' hkeeps h
  constructor
  · intro row hrow hgate
    exact hkeeps _ (h.1 row hrow hgate)
  · intro row hrow hgate hdone
    exact hkeeps _ (h.2 row hrow hgate hdone)

/-- When every row before a gate is on record, so is every step before it. -/
theorem passed_of_rows {run_id : String} {pre post : List StepState} {row : StepState} {w : World}
    (hrows : RowsOk defn run_id (pre ++ row :: post)) (hnodup : defn.steps.Nodup)
    (h : AllFound env pre w) : Passed env defn run_id row.step w := by
  intro i j step hij hj hi hgate
  obtain ⟨r, hr, rfl⟩ := hrows.before hnodup hij hj hi
  have hok := hrows.ok r (List.mem_append_left _ hr)
  rw [← hok.key]
  exact h r hr hgate

/-- The loop of `_execute`, after the rows `pre`. -/
theorem yields_execute_loop (engine : Engine) (again : M WorkflowRun) {run : WorkflowRun}
    {run_id : String} (hprod : Productive defn) (hnodup : defn.steps.Nodup)
    (hkeyed : run.id = run_id) (rest : List StepState) :
    ∀ (pre : List StepState) (outputs : Dict String JsonObj) (compensations : List Compensation)
      (w : World), RowsOk defn run_id (pre ++ rest) → AllFound env pre w ∧ DoneFound env rest w →
      Yields (contract env registry name defn) (fun _ _ => True)
        (engine.execute_loop again run defn run_id rest outputs compensations) w := by
  induction rest with
  | nil =>
    intro pre outputs compensations w _ _
    apply walk_free
    exact .bind (.perform (easy_free rfl)) fun _ =>
      .bind (Engine.audit_issues engine _ _ _ _ fun _ => easy_free rfl) fun _ =>
        Engine.reload_issues run_id (easy_free rfl)
  | cons row rest ih =>
    intro pre outputs compensations w hrows h
    have hlasting := lasting_rows env pre (row :: rest)
    -- once `row` is behind the loop
    have hnext : ∀ (outputs : Dict String JsonObj) (compensations : List Compensation) (w : World),
        AllFound env pre w ∧ DoneFound env (row :: rest) w →
        (is_gate row.step = false → Found env row.idem_key w) →
        Yields (contract env registry name defn) (fun _ _ => True)
          (engine.execute_loop again run defn run_id rest outputs compensations) w := by
      intro outputs compensations w hw hrow
      have happ : pre ++ row :: rest = (pre ++ [row]) ++ rest := by simp
      apply ih (pre ++ [row]) outputs compensations w (happ ▸ hrows)
      constructor
      · intro r hr hgate
        obtain hr | hr := List.mem_append.mp hr
        · exact hw.1 r hr hgate
        · obtain rfl := List.mem_singleton.mp hr
          exact hrow hgate
      · intro r hr
        exact hw.2 r (List.mem_cons_of_mem _ hr)
    unfold Engine.execute_loop
    by_cases hdone : Engine.step_done row.status = true
    · rw [if_pos hdone]
      exact hnext _ _ w h fun hgate => h.2 row List.mem_cons_self hgate hdone
    rw [if_neg hdone]
    by_cases hgate : is_gate row.step = true
    · rw [if_pos hgate]
      -- the gate is opened: every row before it is on record
      apply Yields.bind (P := fun _ _ => True)
      · apply Yields.bind (yields_easy rfl hlasting h)
        intro gate_id w₁ h₁
        apply Yields.bind (yields_easy rfl hlasting h₁)
        intro now w₂ h₂
        apply Yields.bind (P := fun _ _ => True)
        · apply Yields.weaken (yields_keeping ?_ hlasting h₂) fun _ _ _ => trivial
          intro w' hidem
          refine ⟨hgate, ?_⟩
          show Passed env defn run.id row.step w'
          rw [hkeyed]
          apply passed_of_rows hrows hnodup
          intro r hr hr_gate
          exact (found_of_idem hidem).mpr (h₂.1 r hr hr_gate)
        intro _ w₃ _
        apply walk_free
        exact .bind (Engine.issue_tokens_issues engine _ _ _ _ _ (easy_free rfl) (easy_free rfl)
          fun _ => easy_free rfl) fun _ => .bind (.perform (easy_free rfl)) fun _ =>
            Engine.audit_issues engine _ _ _ _ fun _ => easy_free rfl
      · intro _ w₄ _
        exact walk_free (Engine.reload_issues run_id (easy_free rfl)) w₄
    rw [if_neg hgate]
    -- the lookup says whether the key is free
    have hlookup : Yields (contract env registry name defn)
        (fun found w' => (AllFound env pre w' ∧ DoneFound env (row :: rest) w') ∧
          (found = none ↔ ¬ Found env row.idem_key w')) (await (.lookup row.idem_key)) w := by
      apply yields_call fun w' _ => easy_needs rfl w'
      intro w' found w'' _ _ _ hexec hkeeps
      refine ⟨hlasting w w'' hkeeps h, ?_⟩
      obtain ⟨hfound, rfl⟩ := Prod.mk.inj hexec
      rw [← Except.ok.inj hfound, Found, Option.eq_none_iff_forall_ne_some, not_exists]
    apply Yields.bind hlookup
    intro found w₁ h₁
    cases found with
    | some existing =>
      have hfound : Found env row.idem_key w₁ := by
        by_contra hnot
        cases h₁.2.mpr hnot
      have hlasting' : Lasting env fun w =>
          (AllFound env pre w ∧ DoneFound env (row :: rest) w) ∧ Found env row.idem_key w :=
        fun w w' hkeeps hw => ⟨hlasting w w' hkeeps hw.1, hkeeps _ hw.2⟩
      apply Yields.bind (yields_easy rfl hlasting' ⟨h₁.1, hfound⟩)
      intro _ w₂ h₂
      exact hnext _ _ w₂ h₂.1 fun _ => h₂.2
    | none =>
      have hfree : ¬ Found env row.idem_key w₁ := h₁.2.mp rfl
      apply Yields.bind (yields_free_key (fun w' _ => easy_needs rfl w')
        (fun w' => exec_idem env _ w') hlasting ⟨h₁.1, hfree⟩)
      intro now w₂ h₂
      have hwrite : ∀ w', w'.idem = w₂.idem →
          needs env defn (.update_step (Engine.running_row row now)) w' := by
        intro w' _ _ hrunning
        cases hrunning
      apply Yields.bind (yields_free_key hwrite (fun w' => exec_idem env _ w') hlasting h₂)
      intro _ w₃ h₃
      have h₃' : (AllFound env pre w₃ ∧ DoneFound env (row :: rest) w₃) ∧
          ¬ Found env (Engine.running_row row now).idem_key w₃ := h₃
      apply Yields.bind (yields_try_step engine run_id compensations hprod rfl hlasting h₃')
      intro done w₄ h₄
      cases hresult : done.result with
      | ok output =>
        obtain ⟨hrows₄, hfound⟩ := h₄ output hresult
        exact hnext _ _ w₄ hrows₄ fun _ => hfound
      | error e =>
        exact walk_fail_step (lenient env registry name defn) engine again run_id _ _ e w₄
          (fun _ _ => update_free rfl) fun _ _ => update_free rfl

/-- `_execute`. -/
theorem yields_execute_locked (engine : Engine) (again : M WorkflowRun) (run_id : String)
    (hprod : Productive defn) (hnodup : defn.steps.Nodup)
    (hlatest : get_workflow_latest registry name = .ok defn) (w : World) :
    Yields (contract env registry name defn) (fun _ _ => True)
      (engine.execute_locked again run_id) w := by
  unfold Engine.execute_locked
  -- every stored run is a run of this workflow, under its own id
  have hread : ∀ {w : World}, Yields (contract env registry name defn)
      (fun found _ => ∀ run, found = some run → run.id = run_id ∧ run.workflow = name)
      (await (.get_run run_id)) w := by
    intro w
    apply yields_call fun w' _ => easy_needs rfl w'
    intro w' found w'' _ _ hsound hexec _ run hrun
    have hget : w'.store.runs.get? run_id = some run := by
      rw [hrun] at hexec
      exact Except.ok.inj (congrArg Prod.fst hexec)
    have hok := hsound.store.runs _ _ hget
    exact ⟨hok.keyed, hok.workflow⟩
  apply Yields.bind hread
  intro found w₁ h₁
  cases found with
  | none => exact Yields.raise
  | some run =>
    apply Yields.bind (P := fun run' _ => run'.id = run_id ∧ run'.workflow = name)
    · unfold Engine.begin_run
      split
      · apply Yields.bind (walk_free (.perform (easy_free rfl)) w₁)
        intro _ w₂ _
        apply Yields.bind hread
        intro found w₃ h₃
        cases found with
        | none => exact Yields.raise
        | some run' => exact Yields.ret (h₃ run' rfl)
      · exact Yields.ret (h₁ run rfl)
    intro run' w₂ h₂
    have hdefn : Yields (contract env registry name defn) (fun d _ => d = defn)
        (await (.get_workflow_latest run'.workflow)) w₂ := by
      apply yields_call fun w' _ => easy_needs rfl w'
      intro w' d w'' _ _ hsound hexec _
      have hget : get_workflow_latest w'.registry run'.workflow = .ok d := congrArg Prod.fst hexec
      rw [hsound.registry, h₂.2, hlatest] at hget
      exact (Except.ok.inj hget).symm
    apply Yields.bind hdefn
    intro d w₃ h₃
    subst h₃
    have hrows : Yields (contract env registry name d)
        (fun rows w' => (rows = [] ∨ RowsOk d run_id rows) ∧ DoneFound env rows w')
        (await (.get_steps run_id)) w₃ := by
      apply yields_call fun w' _ => easy_needs rfl w'
      intro w' rows w'' _ hsettled hsound hexec _
      obtain ⟨hget, rfl⟩ := Prod.mk.inj hexec
      obtain rfl := Except.ok.inj hget
      unfold RunStore.get_steps
      cases hsteps : w'.store.steps.get? run_id with
      | none =>
        refine ⟨Or.inl rfl, ?_⟩
        intro row hrow
        cases hrow
      | some rows => exact ⟨Or.inr (hsound.store.rows _ _ hsteps), hsettled.rows _ _ hsteps⟩
    apply Yields.bind hrows
    intro rows w₄ h₄
    have hnone : AllFound env [] w₄ := by
      intro row hrow
      cases hrow
    obtain ⟨rfl | hrows₄, hdone⟩ := h₄
    · -- a run without rows: the loop ends at once
      apply walk_free
      exact .bind (.perform (easy_free rfl)) fun _ =>
        .bind (Engine.audit_issues engine _ _ _ _ fun _ => easy_free rfl) fun _ =>
          Engine.reload_issues run_id (easy_free rfl)
    · exact yields_execute_loop engine again hprod hnodup h₂.1 rows [] _ _ w₄ hrows₄ ⟨hnone, hdone⟩

/-! ## Every history -/

theorem resolve_gate_easy (crypto : Crypto) (args : ResolveArgs) :
    Issues (fun c => easy c = true) (resolve_gate crypto args) := by
  apply (resolve_gate_of_resolution crypto args).mono
  intro c hc
  cases c <;> first | rfl | exact hc

/-- Every request is safe where it starts. -/
theorem safe_request (engine : Engine) (hprod : Productive defn) (hnodup : defn.steps.Nodup)
    (hlatest : get_workflow_latest registry name = .ok defn) (q : Request) (w : World) :
    Safe (contract env registry name defn) (fun _ _ => True) (q.program engine) w := by
  have hfree : ∀ {α : Type} {p : M α}, Issues (fun c => easy c = true) p →
      Yields (contract env registry name defn) (fun _ _ => True) p w :=
    fun hp => walk_free (hp.mono fun _ hc => easy_free hc) w
  have hlocked : ∀ (run_id : String) (again : M WorkflowRun) (w : World),
      Yields (contract env registry name defn) (fun _ _ => True)
        (engine.execute_locked again run_id) w :=
    fun run_id again w => yields_execute_locked engine again run_id hprod hnodup hlatest w
  cases q with
  | start_run args =>
    exact (hfree (start_run_issues args (fun _ => rfl) rfl rfl fun _ _ _ => rfl)).discard
  | execute depth run_id =>
    exact (walk_execute (lenient env registry name defn) engine depth run_id w
      (hlocked run_id)).discard
  | recovery_sweep depth enqueue =>
    exact (walk_recovery_sweep (lenient env registry name defn) engine depth enqueue w
      hlocked).discard
  | resolve_gate args => exact (hfree (resolve_gate_easy _ args)).discard
  | update_run_status run_id status =>
    exact Safe.weaken (hfree (.perform rfl)) fun _ _ _ => trivial

theorem settled_fresh (env : Env) (defn : WorkflowDef) (idem : IdemStore)
    (lock : Option (List String)) (registry : Registry) :
    Settled env defn (World.fresh idem lock registry) := by
  constructor
  · intro _ _ hget
    cases hget
  · intro _ _ hget
    cases hget

/-- What is known wherever a call of the orchestrator is made. -/
structure CallFacts (env : Env) (registry : Registry) (name : String) (defn : WorkflowDef) (c : Call)
    (w : World) : Prop where
  sound : Sound env registry name defn w
  guard : ∃ i owners, Guard env name defn i c (w, owners)
  settled : Settled env defn w
  needs : needs env defn c w

end walk

section histories
variable {env : Env} {engine : Engine} {registry : Registry} {name : String} {defn : WorkflowDef}
  {accept : World → Request → Prop}

/-- The call that is next in a sequential history is guarded. -/
theorem guarded_call (hlatest : get_workflow_latest registry name = .ok defn)
    (haccept : ∀ w q, accept w q → Admitted engine.crypto name w q) {c : Call}
    {k : Except Exn c.Resp → M Unit} {w : World}
    (h : Sequential (faulty env) engine registry accept (.call c k) w) :
    Sound env registry name defn w ∧ ∃ i owners, Guard env name defn i c (w, owners) := by
  obtain ⟨ts, hts, hlast⟩ := h.interleaved (fun _ _ _ _ hstep => hstep) haccept
  obtain hret | ⟨us, rfl⟩ := hlast
  · cases hret
  obtain ⟨owners, hthreads⟩ := hts.threads hlatest
  have hnext : (us ++ [Program.call c k])[us.length]? = some (.call c k) := by simp
  have hguard := Pool.guard_holds (G := Guard env name defn) (Rely.refl env) hthreads hnext
  exact ⟨hthreads.1.1, us.length, owners, hguard⟩

/-- **Every history.** What is known of the next call. -/
theorem call_facts (hlatest : get_workflow_latest registry name = .ok defn)
    (hnodup : defn.steps.Nodup) (hprod : Productive defn)
    (haccept : ∀ w q, accept w q → Admitted engine.crypto name w q) {c : Call}
    {k : Except Exn c.Resp → M Unit} {w : World}
    (h : Sequential (faulty env) engine registry accept (.call c k) w) :
    CallFacts env registry name defn c w := by
  have hgrounded := Session.strengthen
    (P := fun c w => Sound env registry name defn w ∧ ∃ i owners, Guard env name defn i c (w, owners))
    (S := fun _ => True) (fun c k w hcall => guarded_call hlatest haccept hcall)
    (fun _ _ _ => trivial) h
  have hsafe := Session.safe (C := contract env registry name defn) (fun _ => ⟨rfl, rfl⟩)
    (fun hab hbc => ⟨hbc.1.trans hab.1, hbc.2.trans hab.2⟩) ?_ ?_ ?_ hgrounded
  · obtain ⟨hsettled, hcall⟩ := hsafe
    obtain ⟨hneeds, -⟩ := hcall w ⟨rfl, rfl⟩ hsettled
    obtain ⟨hsound, hguard⟩ := guarded_call hlatest haccept h
    exact ⟨hsound, hguard, hsettled, hneeds⟩
  · rintro w ⟨idem, lock, rfl⟩
    exact settled_fresh env defn idem lock registry
  · rintro w p _ ⟨⟨q, -, rfl⟩, -⟩
    exact safe_request engine hprod hnodup hlatest q w
  · rintro w w' hsettled ⟨held, held', -, -, rfl⟩
    exact ⟨⟨hsettled.rows, hsettled.gates⟩, rfl, rfl⟩

/-- **Nothing behind an open gate runs again.** When a handler is about to be invoked, no gate
    request is stored for the run and a gate behind the step. -/
theorem CallFacts.no_open_gate {handler : Handler} {step : String} {ctx : StepContext} {w : World}
    (h : CallFacts env registry name defn (.invoke handler step ctx) w) {i j : Nat} {gate : String}
    (hij : i < j) (hj : defn.steps[j]? = some gate) (hi : defn.steps[i]? = some step)
    (hstep : is_gate step = false) {id : String} {request : GateRequest}
    (hstored : w.store.gates.get? id = some request) (hrun : request.run_id = ctx.run_id) :
    request.step ≠ gate := by
  intro hgate
  have hpassed := (h.settled.gates id request hstored).2
  rw [hrun, hgate] at hpassed
  have hfound := hpassed i j step hij hj hi hstep
  obtain ⟨_, _, hkey, -⟩ := h.guard
  rw [← hkey] at hfound
  exact h.needs.2 hfound

end histories

end CaseAutomation.Orchestrator.OpenGates
