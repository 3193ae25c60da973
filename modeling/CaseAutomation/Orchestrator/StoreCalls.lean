import CaseAutomation.Orchestrator.Invariants
import CaseAutomation.Orchestrator.RunStores
import CaseAutomation.Orchestrator.Walk

/-! # Calls to the Run Store

    What a call that the orchestrator can send does to the outline of the store, and the
    contract under which every thread sends only such calls: rows are written back
    under the names they were read under, gate requests and tokens get new ids, and what a
    row refers to is there.

    A store call is one committed transaction, so it is answered; the other services may
    fail. The ghost component remembers who drew which id.
-/

namespace CaseAutomation.Orchestrator.StoreCalls

open Framework Program

/-! ## The outline of a store -/

/-- What identifies a run and never changes. -/
def card (run : WorkflowRun) : String × TriggerRef := (run.id, run.trigger)

/-- What identifies the rows of a run. -/
def stubs (s : RunStore) (id : String) : List (String × String × Nat × String) :=
  (s.get_steps id).map StepState.stub

/-- The two stores hold the same runs and rows, up to what changes in the course of a run. -/
structure SameOutline (s s' : RunStore) : Prop where
  cards : ∀ id, (s'.runs.get? id).map card = (s.runs.get? id).map card
  stubs : ∀ id, stubs s' id = stubs s id
  dedupe : s'.dedupe = s.dedupe

theorem mem_stubs {s : RunStore} {id : String} {row : StepState} (h : row ∈ s.get_steps id) :
    row.stub ∈ stubs s id :=
  List.mem_map_of_mem h

theorem of_mem_stubs {s : RunStore} {id : String} {row : StepState} (h : row.stub ∈ stubs s id) :
    ∃ stored ∈ s.get_steps id, stored.stub = row.stub :=
  List.mem_map.mp h

theorem run_id_of_stub {a b : StepState} (h : a.stub = b.stub) : a.run_id = b.run_id :=
  congrArg Prod.fst h

theorem step_of_stub {a b : StepState} (h : a.stub = b.stub) : a.step = b.step :=
  congrArg (fun stub => stub.2.1) h

/-- Rows are laid out by their stubs alone. -/
theorem LaidOut.of_stubs {run_id : String} {rows rows' : List StepState} (h : LaidOut run_id rows)
    (heq : rows'.map StepState.stub = rows.map StepState.stub) : LaidOut run_id rows' := by
  refine ⟨?_, ?_, ?_⟩
  · intro row hrow
    have hmem : row.stub ∈ rows.map StepState.stub := by
      rw [← heq]
      exact List.mem_map_of_mem hrow
    obtain ⟨old, hold, hstub⟩ := List.mem_map.mp hmem
    rw [← run_id_of_stub hstub]
    exact h.of_run old hold
  · have hnames : ∀ l : List StepState,
        l.map StepState.step = (l.map StepState.stub).map fun stub => stub.2.1 := by
      intro l
      rw [List.map_map]
      rfl
    rw [hnames, heq, ← hnames]
    exact h.names
  · have hordered : (rows.map StepState.stub).Pairwise fun a b => a.2.2.1 < b.2.2.1 :=
      List.pairwise_map.mpr h.ordered
    rw [← heq, List.pairwise_map] at hordered
    exact hordered

theorem SameOutline.isSome {s s' : RunStore} (h : SameOutline s s') (id : String) :
    (s'.runs.get? id).isSome = (s.runs.get? id).isSome := by
  have hcard := congrArg Option.isSome (h.cards id)
  rwa [Option.isSome_map, Option.isSome_map] at hcard

/-- A run of the one store is a run of the other. -/
theorem SameOutline.run {s s' : RunStore} (h : SameOutline s s') {id : String} {run : WorkflowRun}
    (hrun : s'.runs.get? id = some run) : ∃ old, s.runs.get? id = some old ∧ card old = card run := by
  have hcard := h.cards id
  rw [hrun] at hcard
  exact Option.map_eq_some_iff.mp hcard.symm

theorem SameOutline.symm {s s' : RunStore} (h : SameOutline s s') : SameOutline s' s :=
  ⟨fun id => (h.cards id).symm, fun id => (h.stubs id).symm, h.dedupe.symm⟩

/-- The invariant of the store is about its outline. -/
theorem WellKept.of_outline {s s' : RunStore} (h : WellKept s) (hsame : SameOutline s s') :
    WellKept s' := by
  refine ⟨?_, ?_, ?_⟩
  · intro id
    exact LaidOut.of_stubs (h.laid_out id) (hsame.stubs id)
  · intro id hrows
    rw [hsame.isSome]
    apply h.owned id
    intro hnone
    apply hrows
    have hstubs := hsame.stubs id
    unfold StoreCalls.stubs at hstubs
    rw [hnone] at hstubs
    exact List.map_eq_nil_iff.mp hstubs
  · intro key id
    rw [hsame.dedupe, h.dedupe key id]
    constructor
    · rintro ⟨hkey, run, hrun, hrunkey⟩
      obtain ⟨run', hrun', hcard⟩ := hsame.symm.run hrun
      refine ⟨hkey, run', hrun', ?_⟩
      have htrigger : run'.trigger = run.trigger := congrArg Prod.snd hcard
      rw [htrigger]
      exact hrunkey
    · rintro ⟨hkey, run, hrun, hrunkey⟩
      obtain ⟨run', hrun', hcard⟩ := hsame.run hrun
      refine ⟨hkey, run', hrun', ?_⟩
      have htrigger : run'.trigger = run.trigger := congrArg Prod.snd hcard
      rw [htrigger]
      exact hrunkey

/-! ## What a call does to the outline -/

/-- The call creates a run. -/
def creates_run : Call → Bool
  | .create_run _ _ => true
  | _ => false

theorem SameOutline.set_run {s : RunStore} {run_id : String} {run run' : WorkflowRun}
    (hget : s.runs.get? run_id = some run) (hcard : card run' = card run) :
    SameOutline s { s with runs := s.runs.set run_id run' } := by
  refine ⟨?_, fun _ => rfl, rfl⟩
  intro id
  by_cases hid : id = run_id
  · subst hid
    show ((s.runs.set id run').get? id).map card = _
    rw [Dict.get?_set_self, hget]
    exact congrArg some hcard
  · show ((s.runs.set run_id run').get? id).map card = _
    rw [Dict.get?_set_ne _ _ hid]

theorem SameOutline.set_row {s : RunStore} {run_id : String} {pre post : List StepState}
    {row row' : StepState} (hget : s.steps.get? run_id = some (pre ++ row :: post))
    (hstub : row'.stub = row.stub) :
    SameOutline s { s with steps := s.steps.set run_id (pre ++ row' :: post) } := by
  refine ⟨fun _ => rfl, ?_, rfl⟩
  intro id
  unfold StoreCalls.stubs
  by_cases hid : id = run_id
  · subst hid
    rw [RunStore.get_steps_set_self, RunStore.get_steps_eq hget]
    simp [hstub]
  · rw [RunStore.get_steps_set_ne s _ hid]

/-- A call that creates no run leaves the outline alone. -/
theorem exec_outline (env : Env) {c : Call} {w : World} (hs : WellKept w.store)
    (hsent : Sent w.store c) (hc : creates_run c = false) :
    SameOutline w.store (exec env c w).2.store := by
  have hchange := exec_store_change env c w
  generalize (exec env c w).2.store = s', (exec env c w).2.clock = clock' at hchange
  cases hchange with
  | created => cases hc
  | status status cur err hrun => exact SameOutline.set_run hrun rfl
  | current step hrun => exact SameOutline.set_run hrun rfl
  | advanced hrows => exact SameOutline.set_row hrows rfl
  | @updated step row pre post hrows _ hname _ =>
    apply SameOutline.set_row hrows
    obtain ⟨old, hold, hstub⟩ := hsent
    -- names are distinct, so the row replaced is the one that was read
    have hrow : row ∈ w.store.get_steps step.run_id := by
      rw [RunStore.get_steps_eq hrows]
      exact List.mem_append_right _ List.mem_cons_self
    have hsame : row = old := by
      have hinj := List.inj_on_of_nodup_map (hs.laid_out step.run_id).names
      exact hinj hrow hold (hname.trans (step_of_stub hstub).symm)
    rw [hsame, hstub]
  | _ => exact ⟨fun _ => rfl, fun _ => rfl, rfl⟩

/-- The dedupe index after a run is created. -/
def indexed (s : RunStore) (run : WorkflowRun) : Dict String String :=
  match run.trigger.dedupe_key with
  | none => s.dedupe
  | some key => if key = "" then s.dedupe else s.dedupe.set key run.id

theorem get?_indexed (s : RunStore) (run : WorkflowRun) (key : String) :
    (indexed s run).get? key =
      if run.trigger.dedupe_key = some key ∧ key ≠ "" then some run.id else s.dedupe.get? key := by
  unfold indexed
  cases hkey : run.trigger.dedupe_key with
  | none => simp
  | some own =>
    by_cases hblank : own = ""
    · simp only [if_pos hblank]
      rw [if_neg]
      rintro ⟨hown, hne⟩
      exact hne ((Option.some.inj hown).symm.trans hblank)
    · simp only [if_neg hblank]
      by_cases hsame : key = own
      · subst hsame
        rw [Dict.get?_set_self, if_pos ⟨rfl, hblank⟩]
      · rw [Dict.get?_set_ne _ _ hsame, if_neg]
        rintro ⟨hown, -⟩
        exact hsame (Option.some.inj hown).symm

/-- The index leads to the new run under its key, and to the old ones as before. -/
theorem indexed_iff {s : RunStore} {run : WorkflowRun} (h : WellKept s)
    (hnew : s.runs.get? run.id = none) (hmiss : s.dedupe_hit run = none) (key id : String) :
    (indexed s run).get? key = some id ↔ key ≠ "" ∧
      ∃ r, (s.runs.set run.id run).get? id = some r ∧ r.trigger.dedupe_key = some key := by
  rw [get?_indexed]
  by_cases hown : run.trigger.dedupe_key = some key ∧ key ≠ ""
  · rw [if_pos hown]
    have hfree : s.dedupe.get? key = none := by
      rw [RunStore.dedupe_hit, hown.1] at hmiss
      simpa [hown.2] using hmiss
    constructor
    · intro hid
      obtain rfl := Option.some.inj hid
      exact ⟨hown.2, run, Dict.get?_set_self _ _ _, hown.1⟩
    · rintro ⟨hkey, r, hr, hrkey⟩
      rcases Dict.get?_set_cases hr with ⟨rfl, -⟩ | ⟨-, hr⟩
      · rfl
      · -- no stored run can have the key
        have hindex := (h.dedupe key id).mpr ⟨hkey, r, hr, hrkey⟩
        rw [hfree] at hindex
        cases hindex
  · rw [if_neg hown, h.dedupe key id]
    constructor
    · rintro ⟨hkey, r, hr, hrkey⟩
      refine ⟨hkey, r, ?_, hrkey⟩
      have hne : id ≠ run.id := by
        rintro rfl
        rw [hnew] at hr
        cases hr
      rw [Dict.get?_set_ne _ _ hne]
      exact hr
    · rintro ⟨hkey, r, hr, hrkey⟩
      rcases Dict.get?_set_cases hr with ⟨rfl, rfl⟩ | ⟨-, hr⟩
      · exact absurd ⟨hrkey, hkey⟩ hown
      · exact ⟨hkey, r, hr, hrkey⟩

/-- A new run under a new id. -/
theorem WellKept.create_run {s s' : RunStore} {run created : WorkflowRun} {rows : List StepState}
    (h : WellKept s) (hsent : Sent s (.create_run run rows))
    (hcreate : s.create_run run rows = .ok (created, s')) : WellKept s' := by
  obtain ⟨hnew, hrows⟩ := hsent
  unfold RunStore.create_run at hcreate
  cases hhit : s.dedupe_hit run with
  | some id =>
    rw [hhit] at hcreate
    simp only at hcreate
    cases hget : s.runs.get? id with
    | none => rw [hget] at hcreate; cases hcreate
    | some stored =>
      rw [hget] at hcreate
      cases hcreate
      exact h
  | none =>
    rw [hhit] at hcreate
    cases hcreate
    refine ⟨?_, ?_, ?_⟩
    · intro id
      by_cases hid : id = run.id
      · subst hid
        show LaidOut run.id ((((s.steps.set run.id rows).get? run.id)).getD [])
        rw [Dict.get?_set_self]
        exact hrows
      · show LaidOut id ((((s.steps.set run.id rows).get? id)).getD [])
        rw [Dict.get?_set_ne _ _ hid]
        exact h.laid_out id
    · intro id hne
      by_cases hid : id = run.id
      · subst hid
        show ((s.runs.set run.id run).get? run.id).isSome = true
        rw [Dict.get?_set_self]
        rfl
      · show ((s.runs.set run.id run).get? id).isSome = true
        rw [Dict.get?_set_ne _ _ hid]
        apply h.owned id
        intro hnone
        apply hne
        show (((s.steps.set run.id rows).get? id)).getD [] = []
        rw [Dict.get?_set_ne _ _ hid]
        exact hnone
    · intro key id
      exact indexed_iff h hnew hhit key id

/-! ## What stays -/

/-- Runs stay, their rows keep what identifies them, and a gate request changes its status only. -/
structure Persists (s s' : RunStore) : Prop where
  runs : ∀ id, (s.runs.get? id).isSome → (s'.runs.get? id).isSome
  stubs : ∀ id, (s.runs.get? id).isSome → stubs s' id = stubs s id
  gates : ∀ id gate, s.gates.get? id = some gate →
    ∃ gate', s'.gates.get? id = some gate' ∧ gate' = { gate with status := gate'.status }

theorem Persists.refl (s : RunStore) : Persists s s :=
  ⟨fun _ h => h, fun _ _ => rfl, fun _ gate h => ⟨gate, h, rfl⟩⟩

theorem Persists.trans {a b c : RunStore} (h : Persists a b) (h' : Persists b c) :
    Persists a c := by
  refine ⟨?_, ?_, ?_⟩
  · intro id hid
    exact h'.runs id (h.runs id hid)
  · intro id hid
    rw [h'.stubs id (h.runs id hid), h.stubs id hid]
  · intro id gate hgate
    obtain ⟨gate', hgate', hsame⟩ := h.gates id gate hgate
    obtain ⟨gate'', hgate'', hsame'⟩ := h'.gates id gate' hgate'
    refine ⟨gate'', hgate'', ?_⟩
    rw [hsame', hsame]

/-- A gate request that is rewritten with another status, or added under a new id. -/
theorem gates_put {s : RunStore} {gate : GateRequest}
    (h : s.gates.get? gate.id = none ∨
      ∃ old, s.gates.get? gate.id = some old ∧ gate = { old with status := gate.status })
    (id : String) (g : GateRequest) (hg : s.gates.get? id = some g) :
    ∃ g', (s.gates.set gate.id gate).get? id = some g' ∧ g' = { g with status := g'.status } := by
  by_cases hid : id = gate.id
  · subst hid
    refine ⟨gate, Dict.get?_set_self _ _ _, ?_⟩
    rcases h with hnone | ⟨old, hold, hsame⟩
    · rw [hnone] at hg
      cases hg
    · rw [hold] at hg
      rw [← Option.some.inj hg]
      exact hsame
  · exact ⟨g, (Dict.get?_set_ne _ _ hid).trans hg, rfl⟩

/-- Sent calls make nothing disappear. -/
theorem exec_persists (env : Env) {c : Call} {w : World} (hs : WellKept w.store)
    (hsent : Sent w.store c) : Persists w.store (exec env c w).2.store := by
  have hgates : ∀ id gate, w.store.gates.get? id = some gate → ∃ gate',
      (exec env c w).2.store.gates.get? id = some gate' ∧
        gate' = { gate with status := gate'.status } := by
    have hchange := exec_store_change env c w
    generalize (exec env c w).2.store = s', (exec env c w).2.clock = clock' at hchange
    cases hchange with
    | gate_created gate => exact gates_put (Or.inl hsent.1)
    | gate_updated gate => exact gates_put (Or.inr hsent)
    | _ => exact fun _ gate h => ⟨gate, h, rfl⟩
  by_cases hc : creates_run c = true
  · refine ⟨?_, ?_, hgates⟩
    · intro id hid
      have hchange := exec_store_change env c w
      generalize (exec env c w).2.store = s', (exec env c w).2.clock = clock' at hchange
      cases hchange with
      | same => exact hid
      | created run rows dedupe _ =>
        have hne : id ≠ run.id := by
          rintro rfl
          rw [hsent.1] at hid
          cases hid
        show ((w.store.runs.set run.id run).get? id).isSome = true
        rw [Dict.get?_set_ne _ _ hne]
        exact hid
      | _ => cases hc
    · intro id hid
      have hchange := exec_store_change env c w
      generalize (exec env c w).2.store = s', (exec env c w).2.clock = clock' at hchange
      cases hchange with
      | same => rfl
      | created run rows dedupe _ =>
        have hne : id ≠ run.id := by
          rintro rfl
          rw [hsent.1] at hid
          cases hid
        show (((w.store.steps.set run.id rows).get? id).getD []).map StepState.stub = _
        rw [Dict.get?_set_ne _ _ hne]
        rfl
      | _ => cases hc
  · have hsame := exec_outline env hs hsent (Bool.eq_false_iff.mpr hc)
    refine ⟨?_, fun id _ => hsame.stubs id, hgates⟩
    intro id hid
    rw [hsame.isSome]
    exact hid

/-- The gate request, the run and the row that a token or a decision refers to. -/
structure Placed (s : RunStore) (gate_id run_id step : String) : Prop where
  gate : (s.gates.get? gate_id).isSome
  run : (s.runs.get? run_id).isSome
  row : ∃ row ∈ s.get_steps run_id, row.step = step

theorem Persists.gate {s s' : RunStore} (h : Persists s s') {id : String}
    (hid : (s.gates.get? id).isSome) : (s'.gates.get? id).isSome := by
  obtain ⟨gate, hgate⟩ := Option.isSome_iff_exists.mp hid
  obtain ⟨gate', hgate', -⟩ := h.gates id gate hgate
  rw [hgate']
  rfl

theorem Persists.row {s s' : RunStore} (h : Persists s s') {run_id : String} {row : StepState}
    (hrun : (s.runs.get? run_id).isSome) (hrow : row ∈ s.get_steps run_id) :
    ∃ row' ∈ s'.get_steps run_id, row'.stub = row.stub := by
  apply of_mem_stubs
  rw [h.stubs run_id hrun]
  exact mem_stubs hrow

theorem Placed.persists {s s' : RunStore} {gate_id run_id step : String}
    (h : Placed s gate_id run_id step) (hp : Persists s s') : Placed s' gate_id run_id step := by
  refine ⟨hp.gate h.gate, hp.runs _ h.run, ?_⟩
  obtain ⟨row, hrow, hstep⟩ := h.row
  obtain ⟨row', hrow', hstub⟩ := hp.row h.run hrow
  exact ⟨row', hrow', (step_of_stub hstub).trans hstep⟩

/-! ## The contract -/

/-- The invariant, with its ghost component: who drew which id. -/
structure Inv (env : Env) (registry : Registry) (s : World × List Nat) : Prop where
  registry : s.1.registry = registry
  owners : s.2.length = s.1.uuids
  kept : WellKept s.1.store
  keyed : ∀ id run, s.1.store.runs.get? id = some run → run.id = id
  gates : ∀ id gate, s.1.store.gates.get? id = some gate → GateOk env s.1.uuids id gate
  tokens : ∀ id token, s.1.store.tokens.get? id = some token →
    (∃ k < s.1.uuids, id = env.uuid k) ∧
      Placed s.1.store token.gate_request_id token.run_id token.step

/-- What thread `i` may assume about the others. -/
structure Rely (env : Env) (i : Nat) (s s' : World × List Nat) : Prop where
  persists : Persists s.1.store s'.1.store
  owners : ∀ k j : Nat, s.2[k]? = some j → s'.2[k]? = some j
  /-- Nobody else uses an id that `i` drew. -/
  gates : ∀ k : Nat, s.2[k]? = some i → s.1.store.gates.get? (env.uuid k) = none →
    s'.1.store.gates.get? (env.uuid k) = none
  tokens : ∀ k : Nat, s.2[k]? = some i → s.1.store.tokens.get? (env.uuid k) = none →
    s'.1.store.tokens.get? (env.uuid k) = none

theorem Rely.refl (env : Env) (i : Nat) (s : World × List Nat) : Rely env i s s :=
  ⟨.refl _, fun _ _ h => h, fun _ _ h => h, fun _ _ h => h⟩

theorem Rely.trans {env : Env} {i : Nat} {a b c : World × List Nat} (h : Rely env i a b)
    (h' : Rely env i b c) : Rely env i a c := by
  refine ⟨h.persists.trans h'.persists, ?_, ?_, ?_⟩
  · intro k j hk
    exact h'.owners k j (h.owners k j hk)
  · intro k hk hnone
    exact h'.gates k (h.owners k i hk) (h.gates k hk hnone)
  · intro k hk hnone
    exact h'.tokens k (h.owners k i hk) (h.tokens k hk hnone)

/-- The id was drawn by thread `i`. -/
def Own (env : Env) (i : Nat) (id : String) (s : World × List Nat) : Prop :=
  ∃ k : Nat, s.2[k]? = some i ∧ id = env.uuid k

/-- What thread `i` must know when it issues a call. That a run id is new is up to the caller of
    `start_run`. -/
def Guard (env : Env) (i : Nat) : Call → World × List Nat → Prop
  | .create_run run rows, _ => LaidOut run.id rows
  | .create_gate_request gate, s =>
    Sent s.1.store (.create_gate_request gate) ∧ Own env i gate.id s
  | .save_token token, s => s.1.store.tokens.get? token.id = none ∧ Own env i token.id s ∧
      Placed s.1.store token.gate_request_id token.run_id token.step
  | c, s => Sent s.1.store c

/-- A run is created under an id that no run has. -/
def FreshRun (w : World) (c : Call) : Prop :=
  ∀ run rows, c = .create_run run rows → w.store.runs.get? run.id = none

theorem Guard.sent {env : Env} {i : Nat} {c : Call} {s : World × List Nat} (h : Guard env i c s)
    (hfresh : FreshRun s.1 c) : Sent s.1.store c := by
  cases c with
  | create_run run rows => exact ⟨hfresh run rows rfl, h⟩
  | create_gate_request gate => exact h.1
  | save_token token => exact ⟨h.1, h.2.2.gate, h.2.2.run⟩
  | _ => exact h

/-- Calls that go to the run store. -/
def to_store : Call → Bool
  | .create_run _ _ => true
  | .get_run _ => true
  | .update_run_status _ _ _ _ => true
  | .set_current_step _ _ => true
  | .advance_gate_step _ _ => true
  | .find_recoverable_runs => true
  | .get_steps _ => true
  | .update_step _ => true
  | .create_gate_request _ => true
  | .get_gate_request _ => true
  | .update_gate_request _ => true
  | .save_token _ => true
  | .get_token _ => true
  | .mark_token_used _ _ => true
  | .save_approval_decision _ => true
  | _ => false

/-- Store calls are answered, one transaction each; the other services may fail. Run ids are
    fresh. -/
structure steady (env : Env) (c : Call) (w : World) (r : Except Exn c.Resp) (w' : World) : Prop where
  faulty : faulty env c w r w'
  committed : to_store c = true → exec env c w = (r, w')
  fresh : FreshRun w c

section calls
variable {env : Env} {registry : Registry} {i : Nat} {c : Call} {w : World} {owners : List Nat}

theorem Own.lt {id : String} (h : Own env i id (w, owners)) (hlen : owners.length = w.uuids) :
    ∃ k < w.uuids, id = env.uuid k := by
  obtain ⟨k, hk, hid⟩ := h
  refine ⟨k, ?_, hid⟩
  rw [← hlen]
  exact (List.getElem?_eq_some_iff.mp hk).1

/-- **One call.** It keeps the invariant. -/
theorem Inv.step (h : Inv env registry (w, owners)) (hg : Guard env i c (w, owners))
    (hfresh : FreshRun w c) :
    Inv env registry ((exec env c w).2, note_owner i c owners) := by
  have hsent : Sent w.store c := Guard.sent hg hfresh
  have hpersists := exec_persists env h.kept hsent
  have huuids := exec_uuids_le env c w
  have hgates := fun id gate hgate => (h.gates id gate hgate).mono huuids
  have htokens : ∀ id token, w.store.tokens.get? id = some token →
      (∃ k < (exec env c w).2.uuids, id = env.uuid k) ∧
        Placed (exec env c w).2.store token.gate_request_id token.run_id token.step := by
    intro id token htoken
    obtain ⟨⟨k, hk, hid⟩, hplaced⟩ := h.tokens id token htoken
    exact ⟨⟨k, Nat.lt_of_lt_of_le hk huuids, hid⟩, hplaced.persists hpersists⟩
  refine ⟨?_, note_owner_length env i c h.owners, ?_, ?_, ?_, ?_⟩
  · show (exec env c w).2.registry = registry
    rw [exec_registry]
    exact h.registry
  · by_cases hc : creates_run c = true
    · cases c with
      | create_run run rows =>
        simp only [exec]
        split
        · next created s' hcreate => exact WellKept.create_run h.kept hsent hcreate
        · exact h.kept
      | _ => cases hc
    · exact WellKept.of_outline h.kept (exec_outline env h.kept hsent (Bool.eq_false_iff.mpr hc))
  · intro id run hrun
    by_cases hc : creates_run c = true
    · have hchange := exec_store_change env c w
      simp only at hrun
      generalize (exec env c w).2.store = s', (exec env c w).2.clock = clock' at hchange hrun
      cases hchange with
      | same => exact h.keyed id run hrun
      | created run' rows dedupe _ =>
        rcases Dict.get?_set_cases hrun with ⟨rfl, rfl⟩ | ⟨-, hrun⟩
        · rfl
        · exact h.keyed id run hrun
      | _ => cases hc
    · obtain ⟨old, hold, hcard⟩ :=
        (exec_outline env h.kept hsent (Bool.eq_false_iff.mpr hc)).run hrun
      have hid : old.id = run.id := congrArg Prod.fst hcard
      rw [← hid]
      exact h.keyed id old hold
  · have hchange := exec_store_change env c w
    show ∀ id gate, (exec env c w).2.store.gates.get? id = some gate →
      GateOk env (exec env c w).2.uuids id gate
    generalize (exec env c w).2.store = s', (exec env c w).2.clock = clock' at hchange
    cases hchange with
    | gate_created gate =>
      intro id g hget
      rcases Dict.get?_set_cases hget with ⟨rfl, rfl⟩ | ⟨-, hget⟩
      · exact ⟨rfl, hg.2.lt h.owners⟩
      · exact hgates id g hget
    | gate_updated gate =>
      intro id g hget
      rcases Dict.get?_set_cases hget with ⟨rfl, rfl⟩ | ⟨-, hget⟩
      · obtain ⟨old, hold, -⟩ := hsent
        exact ⟨rfl, (hgates _ old hold).drawn⟩
      · exact hgates id g hget
    | _ => exact hgates
  · have hchange := exec_store_change env c w
    show ∀ id token, (exec env c w).2.store.tokens.get? id = some token → _ ∧
      Placed (exec env c w).2.store token.gate_request_id token.run_id token.step
    generalize (exec env c w).2.store = s', (exec env c w).2.clock = clock'
      at hchange hpersists htokens ⊢
    cases hchange with
    | token_saved token =>
      intro id t hget
      rcases Dict.get?_set_cases hget with ⟨rfl, rfl⟩ | ⟨-, hget⟩
      · exact ⟨hg.2.1.lt h.owners, hg.2.2.persists hpersists⟩
      · exact htokens id t hget
    | @token_used token_id used_at token htoken _ =>
      intro id t hget
      rcases Dict.get?_set_cases hget with ⟨rfl, rfl⟩ | ⟨-, hget⟩
      · exact htokens id token htoken
      · exact htokens id t hget
    | _ => exact htokens

/-- The call uses up an id of the calling thread. -/
def uses_id : Call → Bool
  | .create_gate_request _ => true
  | .save_token _ => true
  | _ => false

/-- It gives every other thread what it relies on, and the calling thread unless an id is used
    up. -/
theorem Inv.rely (h : Inv env registry (w, owners)) (hg : Guard env i c (w, owners))
    (hfresh : FreshRun w c) (j : Nat) (hj : j = i → uses_id c = false) :
    Rely env j (w, owners) ((exec env c w).2, note_owner i c owners) := by
  have hsent : Sent w.store c := Guard.sent hg hfresh
  refine ⟨exec_persists env h.kept hsent, fun k m hk => note_owner_keeps i c hk, ?_, ?_⟩
  · intro k hk hnone
    have hchange := exec_store_change env c w
    show (exec env c w).2.store.gates.get? (env.uuid k) = none
    generalize (exec env c w).2.store = s', (exec env c w).2.clock = clock' at hchange
    cases hchange with
    | gate_created gate =>
      -- the id of the new request was drawn by `i`, and by nobody else
      obtain ⟨k', hk', hid⟩ := hg.2
      have hne : env.uuid k ≠ gate.id := by
        intro heq
        have hkk : k = k' := env.uuid_injective (heq.trans hid)
        have hji : j = i := Option.some.inj (hk.symm.trans (hkk ▸ hk'))
        cases hj hji
      exact (Dict.get?_set_ne _ _ hne).trans hnone
    | gate_updated gate =>
      obtain ⟨old, hold, -⟩ := hsent
      have hne : env.uuid k ≠ gate.id := by
        intro heq
        rw [← heq] at hold
        cases hnone.symm.trans hold
      exact (Dict.get?_set_ne _ _ hne).trans hnone
    | _ => exact hnone
  · intro k hk hnone
    have hchange := exec_store_change env c w
    show (exec env c w).2.store.tokens.get? (env.uuid k) = none
    generalize (exec env c w).2.store = s', (exec env c w).2.clock = clock' at hchange
    cases hchange with
    | token_saved token =>
      obtain ⟨k', hk', hid⟩ := hg.2.1
      have hne : env.uuid k ≠ token.id := by
        intro heq
        have hkk : k = k' := env.uuid_injective (heq.trans hid)
        have hji : j = i := Option.some.inj (hk.symm.trans (hkk ▸ hk'))
        cases hj hji
      exact (Dict.get?_set_ne _ _ hne).trans hnone
    | @token_used token_id used_at token htoken _ =>
      have hne : env.uuid k ≠ token_id := by
        intro heq
        rw [← heq] at htoken
        cases hnone.symm.trans htoken
      exact (Dict.get?_set_ne _ _ hne).trans hnone
    | _ => exact hnone

/-- One call of thread `i`, answered or failing. -/
theorem guarded_step {r : Except Exn c.Resp} {s s' : World × List Nat}
    (hinv : Inv env registry s) (hg : Guard env i c s)
    (hstep : ghosted (fun _ => steady env) note_owner i c s r s') :
    Inv env registry s' ∧ (∀ j, j ≠ i → Rely env j s s') ∧
      Persists s.1.store s'.1.store ∧ (uses_id c = false → Rely env i s s') := by
  obtain ⟨w, owners⟩ := s
  obtain ⟨w', owners'⟩ := s'
  obtain ⟨hsteady, hnote⟩ := hstep
  simp only at hsteady hnote
  subst hnote
  rcases hsteady.faulty.world with ⟨rfl, hfallible⟩ | rfl
  · -- the call was lost: an id cannot have been drawn
    have hsame : note_owner i c owners = owners := by
      cases c <;> first | rfl | cases hfallible
    rw [hsame]
    exact ⟨hinv, fun j _ => .refl _ _ _, .refl _, fun _ => .refl _ _ _⟩
  · have hrely := hinv.rely hg hsteady.fresh
    exact ⟨hinv.step hg hsteady.fresh, fun j hj => hrely j fun h => absurd h hj,
      exec_persists env hinv.kept (Guard.sent hg hsteady.fresh), fun hc => hrely i fun _ => hc⟩

end calls

/-- The contract of thread `i`. -/
def contract (env : Env) (registry : Registry) (i : Nat) :
    Contract Call Call.Resp Exn (World × List Nat) :=
  threadContract (ghosted (fun _ => steady env) note_owner) (Inv env registry) (Rely env)
    (Guard env) i

/-! ## Rules -/

section rules
variable {env : Env} {registry : Registry} {i : Nat} {s : World × List Nat}

/-- The rule for one call. -/
theorem yields_await {c : Call} {R : c.Resp → World × List Nat → Prop}
    (hguard : ∀ s', Rely env i s s' → Inv env registry s' → Guard env i c s')
    (hR : ∀ s' a s'', Rely env i s s' → Inv env registry s' →
      exec env c s'.1 = (.ok a, s''.1) → s''.2 = note_owner i c s'.2 →
      Persists s'.1.store s''.1.store → (uses_id c = false → Rely env i s' s'') → R a s'') :
    Yields (contract env registry i) R (await c) s := by
  apply Yields.perform
  intro s' hrely hinv
  have hg := hguard s' hrely hinv
  refine ⟨hg, ?_⟩
  intro r s'' hstep
  obtain ⟨hinv', hothers, hpersists, hself⟩ := guarded_step hinv hg hstep
  refine ⟨hinv', hothers, ?_⟩
  intro a ha
  subst ha
  exact hR s' a s'' hrely hinv hstep.1.faulty.ok hstep.2 hpersists hself

/-- Assertions about what stays. -/
def Lasting (A : RunStore → Prop) : Prop := ∀ s s', Persists s s' → A s → A s'

/-- Calls that may be issued where the assertion holds. -/
def Allowed (env : Env) (registry : Registry) (i : Nat) (A : RunStore → Prop) (c : Call) : Prop :=
  ∀ s, Inv env registry s → A s.1.store → Guard env i c s

/-- Calls that need no guard. -/
def unguarded : Call → Bool
  | .create_run _ _ => false
  | .update_step _ => false
  | .advance_gate_step _ _ => false
  | .create_gate_request _ => false
  | .update_gate_request _ => false
  | .save_token _ => false
  | .save_approval_decision _ => false
  | _ => true

theorem unguarded_guard {c : Call} (hc : unguarded c = true) (s : World × List Nat) :
    Guard env i c s := by
  cases c <;> first | exact True.intro | cases hc

theorem allowed_unguarded {A : RunStore → Prop} {c : Call} (hc : unguarded c = true) :
    Allowed env registry i A c :=
  fun s _ _ => unguarded_guard hc s

/-- A program of allowed calls keeps what stays. -/
theorem keeps_allowed {α : Type} {p : M α} {A : RunStore → Prop} (hA : Lasting A)
    (hp : Issues (Allowed env registry i A) p) (h : A s.1.store) :
    Safe (contract env registry i) (fun _ s' => A s'.1.store) p s := by
  have hkeep : Safe (contract env registry i) (fun _ s' => (fun s => A s.1.store) s') p s := by
    apply Safe.of_issues (P := Allowed env registry i A)
    · intro s s' hrely hs
      exact hA _ _ hrely.persists hs
    · intro c s hc hinv hs
      have hg := hc s hinv hs
      refine ⟨hg, ?_⟩
      intro r s' hstep
      obtain ⟨hinv', hothers, hpersists, -⟩ := guarded_step hinv hg hstep
      exact ⟨hinv', hothers, hA _ _ hpersists hs⟩
    · exact hp
    · exact h
  exact hkeep

theorem yields_allowed {α : Type} {p : M α} {A : RunStore → Prop} (hA : Lasting A)
    (hp : Issues (Allowed env registry i A) p) (h : A s.1.store) :
    Yields (contract env registry i) (fun _ s' => A s'.1.store) p s :=
  Yields.of_keeps (keeps_allowed hA hp h)

/-- The store refuses to reset a row. -/
theorem steady_no_reset {row : StepState} {w w' : World} {a : Unit} (hrow : row.status = .PENDING) :
    ¬ steady env (.update_step row) w (.ok a) w' := by
  intro hstep
  exact exec_pending hrow (hstep.committed rfl)

theorem lenient (env : Env) (registry : Registry) (i : Nat) : Lenient (contract env registry i) := by
  have hfree : ∀ c, unguarded c = true → Free (contract env registry i) c := by
    intro c hc s hinv
    refine ⟨unguarded_guard hc s, ?_⟩
    intro r s' hstep
    obtain ⟨hinv', hothers, -⟩ := guarded_step hinv (unguarded_guard hc s) hstep
    exact ⟨hinv', hothers⟩
  refine ⟨?_, ?_, ?_⟩
  · intro c hc
    apply hfree
    cases c <;> first | rfl | cases hc
  · intro run_id err
    exact hfree _ rfl
  · intro row s a s' hrow hstep
    exact steady_no_reset hrow hstep.1

/-- An id drawn by thread `i` and used nowhere. -/
structure Unused (env : Env) (i : Nat) (id : String) (s : World × List Nat) : Prop where
  own : Own env i id s
  gates : s.1.store.gates.get? id = none
  tokens : s.1.store.tokens.get? id = none

theorem Unused.rely {id : String} {s s' : World × List Nat} (h : Unused env i id s)
    (hrely : Rely env i s s') : Unused env i id s' := by
  obtain ⟨⟨k, hk, rfl⟩, hgates, htokens⟩ := h
  exact ⟨⟨k, hrely.owners k i hk, rfl⟩, hrely.gates k hk hgates, hrely.tokens k hk htokens⟩

/-- A freshly drawn id. -/
theorem yields_uuid4 {A : RunStore → Prop} (hA : Lasting A) (h : A s.1.store) :
    Yields (contract env registry i) (fun id s' => Unused env i id s' ∧ A s'.1.store)
      (await .uuid4) s := by
  apply yields_await
  · intro s' _ _
    exact unguarded_guard rfl s'
  intro s' id s'' hrely hinv hexec hnote hpersists _
  refine ⟨?_, hA _ _ hpersists (hA _ _ hrely.persists h)⟩
  obtain ⟨w', owners'⟩ := s'
  obtain ⟨w'', owners''⟩ := s''
  simp only [exec, Prod.mk.injEq, Except.ok.injEq] at hexec
  obtain ⟨rfl, rfl⟩ := hexec
  have hlen : owners'.length = w'.uuids := hinv.owners
  -- every id in use was drawn earlier
  have hlater : ∀ k < w'.uuids, env.uuid w'.uuids ≠ env.uuid k := by
    intro k hk heq
    have hkk := env.uuid_injective heq
    omega
  refine ⟨⟨w'.uuids, ?_, rfl⟩, ?_, ?_⟩
  · rw [hnote]
    show (owners' ++ [i])[w'.uuids]? = some i
    rw [← hlen]
    simp
  · show w'.store.gates.get? (env.uuid w'.uuids) = none
    cases hget : w'.store.gates.get? (env.uuid w'.uuids) with
    | none => rfl
    | some gate =>
      obtain ⟨k, hk, hid⟩ := (hinv.gates _ _ hget).drawn
      exact absurd hid (hlater k hk)
  · show w'.store.tokens.get? (env.uuid w'.uuids) = none
    cases hget : w'.store.tokens.get? (env.uuid w'.uuids) with
    | none => rfl
    | some token =>
      obtain ⟨⟨k, hk, hid⟩, -⟩ := hinv.tokens _ _ hget
      exact absurd hid (hlater k hk)

/-- The clock is read while an id waits to be used. -/
theorem yields_now {A : RunStore → Prop} {id : String} (hA : Lasting A)
    (h : Unused env i id s ∧ A s.1.store) :
    Yields (contract env registry i) (fun _ s' => Unused env i id s' ∧ A s'.1.store)
      (await .now) s := by
  apply yields_await
  · intro s' _ _
    exact unguarded_guard rfl s'
  intro s' _ s'' hrely _ _ _ hpersists hself
  exact ⟨(h.1.rely hrely).rely (hself rfl), hA _ _ hpersists (hA _ _ hrely.persists h.2)⟩

end rules

end CaseAutomation.Orchestrator.StoreCalls
