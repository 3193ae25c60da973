import CaseAutomation.Orchestrator.Effects
import CaseAutomation.Orchestrator.System

/-! # Invariants of the Store

    `Sound` collects what every reachable world satisfies, whatever is
    interleaved, lost or crashed. `Guard` is what a thread must know when it
    issues a call, and `Rely` what it may assume about the others. The one
    lemma per call is `Sound.step`: a guarded call keeps the invariant and gives
    every other thread what it relies on.
-/

namespace CaseAutomation.Orchestrator

open Framework Program Security

/-! ## Approval of a gate step -/

/-- Decision `d` approves gate step `step` of run `run_id`: it is stored, it was made by the
    role that the gate request it refers to asks for, and that role may approve gates. -/
structure Endorses (s : RunStore) (run_id step : String) (d : ApprovalDecision) : Prop where
  stored : d ∈ s.decisions
  approves : d.decision = .approve
  of_run : d.run_id = run_id
  of_step : d.step = step
  by_required_role : ∃ gate, s.gates.get? d.gate_request_id = some gate ∧
    gate.run_id = run_id ∧ gate.step = step ∧ d.actor = gate.required_role
  may_approve : ∃ role, Role.parse d.actor = some role ∧ Permission.GATE_APPROVE ∈ grants role

/-- The gate step has an approval. -/
def Approved (s : RunStore) (run_id step : String) : Prop := ∃ d, Endorses s run_id step d

/-- Two gate requests ask for the same approval. -/
structure SameGate (g g' : GateRequest) : Prop where
  run_id : g'.run_id = g.run_id
  step : g'.step = g.step
  required_role : g'.required_role = g.required_role

theorem SameGate.refl (g : GateRequest) : SameGate g g := ⟨rfl, rfl, rfl⟩

theorem SameGate.trans {a b c : GateRequest} (h : SameGate a b) (h' : SameGate b c) :
    SameGate a c :=
  ⟨h'.run_id.trans h.run_id, h'.step.trans h.step, h'.required_role.trans h.required_role⟩

/-- Decisions are never withdrawn and gate requests never change what they ask for. -/
structure Grows (s s' : RunStore) : Prop where
  decisions : ∀ d ∈ s.decisions, d ∈ s'.decisions
  gates : ∀ id gate, s.gates.get? id = some gate →
    ∃ gate', s'.gates.get? id = some gate' ∧ SameGate gate gate'

theorem Grows.refl (s : RunStore) : Grows s s :=
  ⟨fun _ h => h, fun _ gate h => ⟨gate, h, .refl gate⟩⟩

theorem Grows.trans {a b c : RunStore} (h : Grows a b) (h' : Grows b c) : Grows a c := by
  refine ⟨fun d hd => h'.decisions d (h.decisions d hd), fun id gate hgate => ?_⟩
  obtain ⟨gate', hgate', hsame⟩ := h.gates id gate hgate
  obtain ⟨gate'', hgate'', hsame'⟩ := h'.gates id gate' hgate'
  exact ⟨gate'', hgate'', hsame.trans hsame'⟩

/-- An approval is never lost. -/
theorem Approved.mono {s s' : RunStore} {run_id step : String} (h : Approved s run_id step)
    (hgrows : Grows s s') : Approved s' run_id step := by
  obtain ⟨d, hd⟩ := h
  obtain ⟨gate, hgate, hrun, hstep, hactor⟩ := hd.by_required_role
  obtain ⟨gate', hgate', hsame⟩ := hgrows.gates _ _ hgate
  exact ⟨d, hgrows.decisions d hd.stored, hd.approves, hd.of_run, hd.of_step,
    ⟨gate', hgate', hsame.run_id.trans hrun, hsame.step.trans hstep,
      hactor.trans hsame.required_role.symm⟩, hd.may_approve⟩

/-! ## The invariant -/

/-- A row belongs to its run and carries the idempotency key of its step. -/
structure RowOk (run_id : String) (row : StepState) : Prop where
  of_run : row.run_id = run_id
  key : row.idem_key = run_id ++ ":" ++ row.step

/-- The rows of a run: one per declared step, in order. -/
structure RowsOk (defn : WorkflowDef) (run_id : String) (rows : List StepState) : Prop where
  names : rows.map StepState.step = defn.steps
  ok : ∀ row ∈ rows, RowOk run_id row

/-- A run of the workflow, stamped by an earlier reading of the clock. -/
structure RunOk (env : Env) (name : String) (clock : Nat) (id : String) (run : WorkflowRun) :
    Prop where
  keyed : run.id = id
  workflow : run.workflow = name
  stamped : ∃ k < clock, run.updated_at = env.time k

/-- A gate request is stored under an id that was drawn. -/
structure GateOk (env : Env) (uuids : Nat) (id : String) (gate : GateRequest) : Prop where
  keyed : gate.id = id
  drawn : ∃ k < uuids, id = env.uuid k

/-- The gate request of a token is stored and is for the same run and step. -/
def TokenOk (s : RunStore) (token : ApprovalToken) : Prop :=
  ∃ gate, s.gates.get? token.gate_request_id = some gate ∧ gate.run_id = token.run_id ∧
    gate.step = token.step

/-- The invariant of the store, for a clock read `clock` times and `uuids` ids drawn. -/
structure StoreSound (env : Env) (name : String) (defn : WorkflowDef) (clock uuids : Nat)
    (s : RunStore) : Prop where
  runs : ∀ id run, s.runs.get? id = some run → RunOk env name clock id run
  run_rows : ∀ id run, s.runs.get? id = some run → ∃ rows, s.steps.get? id = some rows
  rows : ∀ id rows, s.steps.get? id = some rows → RowsOk defn id rows
  /-- A gate step counts as done only after an approval. -/
  gate_rows : ∀ id rows, s.steps.get? id = some rows → ∀ row ∈ rows,
    is_gate row.step = true → Engine.step_done row.status = true → Approved s id row.step
  gates : ∀ id gate, s.gates.get? id = some gate → GateOk env uuids id gate
  tokens : ∀ id token, s.tokens.get? id = some token → TokenOk s token

/-- The invariant of every reachable world of workflow `name`. -/
structure Sound (env : Env) (registry : Registry) (name : String) (defn : WorkflowDef)
    (w : World) : Prop where
  registry : w.registry = registry
  store : StoreSound env name defn w.clock w.uuids w.store

theorem RunOk.mono {env : Env} {name id : String} {clock clock' : Nat} {run : WorkflowRun}
    (h : RunOk env name clock id run) (hle : clock ≤ clock') : RunOk env name clock' id run := by
  obtain ⟨k, hk, hstamp⟩ := h.stamped
  exact ⟨h.keyed, h.workflow, k, Nat.lt_of_lt_of_le hk hle, hstamp⟩

theorem GateOk.mono {env : Env} {id : String} {uuids uuids' : Nat} {gate : GateRequest}
    (h : GateOk env uuids id gate) (hle : uuids ≤ uuids') : GateOk env uuids' id gate := by
  obtain ⟨k, hk, hid⟩ := h.drawn
  exact ⟨h.keyed, k, Nat.lt_of_lt_of_le hk hle, hid⟩

theorem TokenOk.mono {s s' : RunStore} {token : ApprovalToken} (h : TokenOk s token)
    (hgrows : Grows s s') : TokenOk s' token := by
  obtain ⟨gate, hgate, hrun, hstep⟩ := h
  obtain ⟨gate', hgate', hsame⟩ := hgrows.gates _ _ hgate
  exact ⟨gate', hgate', hsame.run_id.trans hrun, hsame.step.trans hstep⟩

/-- Replacing one row by a row of the same name keeps the shape of the run. -/
theorem RowsOk.replace {defn : WorkflowDef} {run_id : String} {pre post : List StepState}
    {row row' : StepState} (h : RowsOk defn run_id (pre ++ row :: post))
    (hname : row'.step = row.step) (hok : RowOk run_id row') :
    RowsOk defn run_id (pre ++ row' :: post) := by
  refine ⟨?_, fun r hr => ?_⟩
  · rw [← h.names]
    simp [hname]
  · rcases mem_replace hr with rfl | hr
    · exact hok
    · exact h.ok r hr

/-- Where names are distinct, a step declared before that of a row is the step of an earlier row. -/
theorem RowsOk.before {defn : WorkflowDef} {run_id step : String} {pre post : List StepState}
    {row : StepState} {i j : Nat} (h : RowsOk defn run_id (pre ++ row :: post))
    (hnodup : defn.steps.Nodup) (hij : i < j) (hj : defn.steps[j]? = some row.step)
    (hi : defn.steps[i]? = some step) : ∃ r ∈ pre, r.step = step := by
  rw [← h.names] at hj hi hnodup
  have hrow : ((pre ++ row :: post).map StepState.step)[pre.length]? = some row.step := by simp
  have hlt : j < ((pre ++ row :: post).map StepState.step).length :=
    (List.getElem?_eq_some_iff.mp hj).1
  -- names are distinct, so `j` is the index of `row`
  have hjlen : j = pre.length := (List.getElem?_inj hlt hnodup).mp (hj.trans hrow.symm)
  subst hjlen
  rw [List.map_append, List.getElem?_append_left (by simpa using hij), List.getElem?_map,
    Option.map_eq_some_iff] at hi
  obtain ⟨r, hr, hname⟩ := hi
  exact ⟨r, List.mem_of_getElem? hr, hname⟩

/-! ## Guards and interference

    The ghost component is the list of the threads that drew the ids so far: the
    `k`-th id belongs to the `k`-th thread of the list. -/

/-- Who drew which id. -/
def note_owner (i : Nat) (c : Call) (owners : List Nat) : List Nat :=
  match c with
  | .uuid4 => owners ++ [i]
  | _ => owners

/-- Every id drawn has an owner. -/
theorem note_owner_length (env : Env) (i : Nat) (c : Call) {w : World} {owners : List Nat}
    (hlen : owners.length = w.uuids) : (note_owner i c owners).length = (exec env c w).2.uuids := by
  rw [exec_uuids]
  cases c <;> simp [note_owner, hlen]

/-- Owners are never forgotten. -/
theorem note_owner_keeps (i : Nat) (c : Call) {owners : List Nat} {k j : Nat}
    (h : owners[k]? = some j) : (note_owner i c owners)[k]? = some j := by
  cases c with
  | uuid4 => exact (List.getElem?_append_left (List.getElem?_eq_some_iff.mp h).1).trans h
  | _ => exact h

/-- What thread `i` may assume about the others. -/
structure Rely (env : Env) (i : Nat) (s s' : World × List Nat) : Prop where
  grows : Grows s.1.store s'.1.store
  clock : s.1.clock ≤ s'.1.clock
  owners : ∀ k j : Nat, s.2[k]? = some j → s'.2[k]? = some j
  /-- Nobody else uses an id that `i` drew. -/
  mine : ∀ k : Nat, s.2[k]? = some i → s.1.store.gates.get? (env.uuid k) = none →
    s'.1.store.gates.get? (env.uuid k) = none

theorem Rely.refl (env : Env) (i : Nat) (s : World × List Nat) : Rely env i s s :=
  ⟨.refl _, Nat.le_refl _, fun _ _ h => h, fun _ _ h => h⟩

theorem Rely.trans {env : Env} {i : Nat} {a b c : World × List Nat} (h : Rely env i a b)
    (h' : Rely env i b c) : Rely env i a c :=
  ⟨h.grows.trans h'.grows, Nat.le_trans h.clock h'.clock,
    fun k j hk => h'.owners k j (h.owners k j hk),
    fun k hk hnone => h'.mine k (h.owners k i hk) (h.mine k hk hnone)⟩

/-- What thread `i` must know when it issues a call. -/
def Guard (env : Env) (name : String) (defn : WorkflowDef) (i : Nat) :
    Call → World × List Nat → Prop
  | .create_run run rows, s =>
    RunOk env name s.1.clock run.id run ∧ RowsOk defn run.id rows ∧
      ∀ row ∈ rows, row.status = .PENDING
  | .update_step row, _ => RowOk row.run_id row ∧ is_gate row.step = false
  | .create_gate_request gate, s =>
    ∃ k : Nat, s.2[k]? = some i ∧ gate.id = env.uuid k ∧ s.1.store.gates.get? gate.id = none
  | .update_gate_request gate, s =>
    ∃ gate', s.1.store.gates.get? gate.id = some gate' ∧ SameGate gate' gate
  | .save_token token, s => TokenOk s.1.store token
  | .advance_gate_step run_id step, s => Approved s.1.store run_id step
  -- the handler of step `j` runs under the key of its step, and only when every gate
  -- before `j` is approved
  | .invoke _ step ctx, s => ctx.idem_key = ctx.run_id ++ ":" ++ step ∧
      (defn.steps.Nodup → ∀ (i j : Nat) (gate : String), i < j → defn.steps[j]? = some step →
        defn.steps[i]? = some gate → is_gate gate = true → Approved s.1.store ctx.run_id gate)
  | _, _ => True

/-! ## One call -/

section calls
variable {env : Env} {registry : Registry} {name : String} {defn : WorkflowDef} {i : Nat}
  {c : Call} {w : World} {owners : List Nat}

/-- Guarded calls withdraw no decision and keep what every gate request asks for. -/
theorem Guard.grows (h : Guard env name defn i c (w, owners)) :
    Grows w.store (exec env c w).2.store := by
  have hchange := exec_store_change env c w
  generalize (exec env c w).2.store = s', (exec env c w).2.clock = clock' at hchange
  have hframe : ∀ {s : RunStore}, s.decisions = w.store.decisions → s.gates = w.store.gates →
      Grows w.store s := by
    intro s hd hg
    exact ⟨fun d hmem => hd ▸ hmem, fun id gate hgate => ⟨gate, hg ▸ hgate, .refl gate⟩⟩
  cases hchange with
  | gate_created gate =>
    obtain ⟨k, -, -, hnone⟩ := h
    refine ⟨fun _ h => h, fun id g hg => ⟨g, ?_, .refl g⟩⟩
    -- the id is fresh, so no stored request is overwritten
    have hne : id ≠ gate.id := by
      rintro rfl
      rw [hnone] at hg
      cases hg
    exact (Dict.get?_set_ne _ _ hne).trans hg
  | gate_updated gate =>
    obtain ⟨gate', hgate', hsame⟩ := h
    refine ⟨fun _ h => h, fun id g hg => ?_⟩
    by_cases hid : id = gate.id
    · subst hid
      have hg' : gate' = g := Option.some.inj (hgate'.symm.trans hg)
      exact ⟨gate, Dict.get?_set_self _ _ _, hg' ▸ hsame⟩
    · exact ⟨g, (Dict.get?_set_ne _ _ hid).trans hg, .refl g⟩
  | decided d => exact ⟨fun _ h => List.mem_append_left _ h, fun _ g h => ⟨g, h, .refl g⟩⟩
  | _ => exact hframe rfl rfl

/-- **One call.** A guarded call keeps the invariant of the store. -/
theorem StoreSound.step (h : StoreSound env name defn w.clock w.uuids w.store)
    (hlen : owners.length = w.uuids) (hg : Guard env name defn i c (w, owners)) :
    StoreSound env name defn (exec env c w).2.clock (exec env c w).2.uuids
      (exec env c w).2.store := by
  have hclock := exec_clock_le env c w
  have huuids := exec_uuids_le env c w
  have hgrows := hg.grows
  have hchange := exec_store_change env c w
  generalize (exec env c w).2.store = s', (exec env c w).2.clock = clock',
    (exec env c w).2.uuids = uuids' at hchange hgrows hclock huuids ⊢
  -- what every case inherits from the store before the call
  have hgate_rows : ∀ id rows, w.store.steps.get? id = some rows → ∀ row ∈ rows,
      is_gate row.step = true → Engine.step_done row.status = true → Approved s' id row.step :=
    fun id rows hrows row hrow hgate hdone =>
      (h.gate_rows id rows hrows row hrow hgate hdone).mono hgrows
  have hruns := fun id run hrun => (h.runs id run hrun).mono hclock
  have hgates := fun id gate hgate => (h.gates id gate hgate).mono huuids
  have htokens := fun id token htoken => (h.tokens id token htoken).mono hgrows
  cases hchange with
  | same => exact ⟨hruns, h.run_rows, h.rows, hgate_rows, hgates, htokens⟩
  | created run rows dedupe _ =>
    obtain ⟨hrun, hrows, hpending⟩ := hg
    refine ⟨fun id r hr => ?_, fun id r hr => ?_, fun id rs hrs => ?_, fun id rs hrs => ?_,
      hgates, htokens⟩
    · rcases Dict.get?_set_cases hr with ⟨rfl, rfl⟩ | ⟨-, hr⟩
      · exact hrun.mono hclock
      · exact hruns id r hr
    · rcases Dict.get?_set_cases hr with ⟨rfl, rfl⟩ | ⟨hne, hr⟩
      · exact ⟨rows, Dict.get?_set_self _ _ _⟩
      · obtain ⟨rs, hrs⟩ := h.run_rows id r hr
        exact ⟨rs, (Dict.get?_set_ne _ _ hne).trans hrs⟩
    · rcases Dict.get?_set_cases hrs with ⟨rfl, rfl⟩ | ⟨-, hrs⟩
      · exact hrows
      · exact h.rows id rs hrs
    · rcases Dict.get?_set_cases hrs with ⟨rfl, rfl⟩ | ⟨-, hrs⟩
      · -- a new row is pending, so it is not done
        intro row hrow _ hdone
        rw [hpending row hrow] at hdone
        cases hdone
      · exact hgate_rows id rs hrs
  | @status run_id status cur err run hrun _ =>
    refine ⟨fun id r hr => ?_, fun id r hr => ?_, h.rows, hgate_rows, hgates, htokens⟩
    · rcases Dict.get?_set_cases hr with ⟨rfl, rfl⟩ | ⟨-, hr⟩
      · exact ⟨(h.runs id run hrun).keyed, (h.runs id run hrun).workflow, w.clock,
          Nat.lt_succ_self _, rfl⟩
      · exact hruns id r hr
    · rcases Dict.get?_set_cases hr with ⟨rfl, -⟩ | ⟨-, hr⟩
      · exact h.run_rows id run hrun
      · exact h.run_rows id r hr
  | @current run_id step run hrun =>
    refine ⟨fun id r hr => ?_, fun id r hr => ?_, h.rows, hgate_rows, hgates, htokens⟩
    · rcases Dict.get?_set_cases hr with ⟨rfl, rfl⟩ | ⟨-, hr⟩
      · exact ⟨(h.runs id run hrun).keyed, (h.runs id run hrun).workflow, w.clock,
          Nat.lt_succ_self _, rfl⟩
      · exact hruns id r hr
    · rcases Dict.get?_set_cases hr with ⟨rfl, -⟩ | ⟨-, hr⟩
      · exact h.run_rows id run hrun
      · exact h.run_rows id r hr
  | @advanced run_id step row pre post hrows _ hname =>
    refine ⟨hruns, fun id r hr => ?_, fun id rs hrs => ?_, fun id rs hrs => ?_, hgates, htokens⟩
    · by_cases hid : id = run_id
      · subst hid
        exact ⟨_, Dict.get?_set_self _ _ _⟩
      · obtain ⟨rs, hrs⟩ := h.run_rows id r hr
        exact ⟨rs, (Dict.get?_set_ne _ _ hid).trans hrs⟩
    · rcases Dict.get?_set_cases hrs with ⟨rfl, rfl⟩ | ⟨-, hrs⟩
      · have hold := h.rows id _ hrows
        have hrow := hold.ok row (List.mem_append_right _ List.mem_cons_self)
        exact hold.replace rfl ⟨hrow.of_run, hrow.key⟩
      · exact h.rows id rs hrs
    · rcases Dict.get?_set_cases hrs with ⟨rfl, rfl⟩ | ⟨-, hrs⟩
      · intro r hr hgate hdone
        rcases mem_replace hr with rfl | hr
        · subst hname
          exact Approved.mono hg hgrows
        · exact hgate_rows id _ hrows r hr hgate hdone
      · exact hgate_rows id rs hrs
  | @updated step row pre post hrows _ hname _ =>
    obtain ⟨hok, hnotgate⟩ := hg
    refine ⟨hruns, fun id r hr => ?_, fun id rs hrs => ?_, fun id rs hrs => ?_, hgates, htokens⟩
    · by_cases hid : id = step.run_id
      · subst hid
        exact ⟨_, Dict.get?_set_self _ _ _⟩
      · obtain ⟨rs, hrs⟩ := h.run_rows id r hr
        exact ⟨rs, (Dict.get?_set_ne _ _ hid).trans hrs⟩
    · rcases Dict.get?_set_cases hrs with ⟨rfl, rfl⟩ | ⟨-, hrs⟩
      · exact (h.rows _ _ hrows).replace hname.symm hok
      · exact h.rows id rs hrs
    · rcases Dict.get?_set_cases hrs with ⟨rfl, rfl⟩ | ⟨-, hrs⟩
      · intro r hr hgate hdone
        rcases mem_replace hr with rfl | hr
        · rw [hnotgate] at hgate
          cases hgate
        · exact hgate_rows _ _ hrows r hr hgate hdone
      · exact hgate_rows id rs hrs
  | gate_created gate =>
    obtain ⟨k, hk, hid, -⟩ := hg
    refine ⟨hruns, h.run_rows, h.rows, hgate_rows, fun id g hget => ?_, htokens⟩
    rcases Dict.get?_set_cases hget with ⟨rfl, rfl⟩ | ⟨-, hget⟩
    · have hlt : k < owners.length := (List.getElem?_eq_some_iff.mp hk).1
      exact ⟨rfl, k, by omega, hid⟩
    · exact hgates id g hget
  | gate_updated gate =>
    obtain ⟨gate', hgate', -⟩ := hg
    refine ⟨hruns, h.run_rows, h.rows, hgate_rows, fun id g hget => ?_, htokens⟩
    rcases Dict.get?_set_cases hget with ⟨rfl, rfl⟩ | ⟨-, hget⟩
    · exact ⟨rfl, (hgates _ gate' hgate').drawn⟩
    · exact hgates id g hget
  | token_saved token =>
    refine ⟨hruns, h.run_rows, h.rows, hgate_rows, hgates, fun id t ht => ?_⟩
    rcases Dict.get?_set_cases ht with ⟨rfl, rfl⟩ | ⟨-, ht⟩
    · exact TokenOk.mono hg hgrows
    · exact htokens id t ht
  | @token_used token_id used_at token htoken _ =>
    refine ⟨hruns, h.run_rows, h.rows, hgate_rows, hgates, fun id t ht => ?_⟩
    rcases Dict.get?_set_cases ht with ⟨rfl, rfl⟩ | ⟨-, ht⟩
    · exact htokens id token htoken
    · exact htokens id t ht
  | decided d => exact ⟨hruns, h.run_rows, h.rows, hgate_rows, hgates, htokens⟩

/-- A guarded call keeps the invariant, and gives every other thread what it relies on.
    Only the creation of a gate request uses up an id of the calling thread. -/
theorem Sound.step (h : Sound env registry name defn w) (hlen : owners.length = w.uuids)
    (hg : Guard env name defn i c (w, owners)) :
    Sound env registry name defn (exec env c w).2 ∧
    (note_owner i c owners).length = (exec env c w).2.uuids ∧
    ∀ j, (j = i → ∀ gate, c ≠ .create_gate_request gate) →
      Rely env j (w, owners) ((exec env c w).2, note_owner i c owners) := by
  refine ⟨⟨by rw [exec_registry, h.registry], h.store.step hlen hg⟩,
    note_owner_length env i c hlen, fun j hj => ?_⟩
  · refine ⟨hg.grows, exec_clock_le env c w, fun k m hk => note_owner_keeps i c hk,
      fun k hk hnone => ?_⟩
    · have hchange := exec_store_change env c w
      show (exec env c w).2.store.gates.get? (env.uuid k) = none
      generalize (exec env c w).2.store = s',
        (exec env c w).2.clock = clock' at hchange
      cases hchange with
      | gate_created gate =>
        -- the id of the new request was drawn by `i`, and by nobody else
        obtain ⟨k', hk', hid, -⟩ := hg
        have hne : env.uuid k ≠ gate.id := by
          intro heq
          have hkk : k = k' := env.uuid_injective (heq.trans hid)
          have hji : j = i := Option.some.inj (hk.symm.trans (hkk ▸ hk'))
          exact hj hji gate rfl
        exact (Dict.get?_set_ne _ _ hne).trans hnone
      | gate_updated gate =>
        obtain ⟨gate', hgate', -⟩ := hg
        have hne : env.uuid k ≠ gate.id := by
          intro heq
          rw [← heq] at hgate'
          cases hnone.symm.trans hgate'
        exact (Dict.get?_set_ne _ _ hne).trans hnone
      | _ => exact hnone

end calls

end CaseAutomation.Orchestrator
