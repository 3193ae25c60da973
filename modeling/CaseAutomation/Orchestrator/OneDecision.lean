import CaseAutomation.Framework.Threads
import CaseAutomation.Orchestrator.Calls
import CaseAutomation.Orchestrator.Reference

/-! # One Decision per Gate

    Several `resolve_gate` calls present tokens of the same gate request. Each token
    is single-use, but there is one per channel, and the resolver reads the status of the
    gate and writes it in two separate calls. So the gate gets one decision when
    no two calls find it pending, and two calls that both find it pending both decide.

    The ghost component lists the threads that found the gate pending.
-/

namespace CaseAutomation.Orchestrator

open Framework Program

/-! ## What a resolution is about -/

/-- The gate request, its decisions, the status of its run and of its step. -/
structure GateView where
  gate : Option GateRequest
  decisions : List ApprovalDecision
  run : Option RunStatus
  step : Option StepStatus

def gate_view (gate : GateRequest) (w : World) : GateView where
  gate := w.store.gates.get? gate.id
  decisions := w.store.decisions.filter fun d => decide (d.gate_request_id = gate.id)
  run := (w.store.runs.get? gate.run_id).map WorkflowRun.status
  step := ((w.store.get_steps gate.run_id).find? fun row => decide (row.step = gate.step)).map
    StepState.status

/-- The run waits at the gate, and nobody has decided yet. -/
def waiting_view (gate : GateRequest) : GateView :=
  ⟨some gate, [], some .AWAITING_APPROVAL, some .PENDING⟩

structure Waiting (gate : GateRequest) (w : World) : Prop where
  view : gate_view gate w = waiting_view gate
  pending : gate.status = .pending

/-- The status of the gate step after a decision: a rejected step stays where it was. -/
def Decision.step_status : Decision → StepStatus
  | .approve => .SUCCEEDED
  | .reject => .PENDING

/-- `d` is the only decision, and the gate, the run and the step agree with it. -/
def Settled (gate : GateRequest) (d : ApprovalDecision) (w : World) : Prop :=
  gate_view gate w = ⟨some { gate with status := d.decision.gate_status }, [d],
    some d.decision.run_status, some d.decision.step_status⟩

/-- The call presents a valid token of the gate, by an actor who may decide. -/
structure Presents (crypto : Crypto) (gate : GateRequest) (args : ResolveArgs) : Prop where
  token : ∃ payload, verify_token crypto args.raw_token args.signing_key = .ok (.ok payload) ∧
    payload.gid = gate.id ∧ payload.rid = gate.run_id ∧ payload.step = gate.step
  actor : authorise_actor args.actor gate.required_role = .ok true

/-! ## Exclusive loads -/

/-- The call loads the gate request and finds it pending. -/
def finds_pending (gate_id : String) : Call → World → Bool
  | .get_gate_request id, w => decide (id = gate_id) &&
      match w.store.gates.get? gate_id with
      | some gate => decide (gate.status = .pending)
      | none => false
  | _, _ => false

/-- The services, as long as nobody finds the gate pending after somebody else did. -/
def exclusive_exec (env : Env) (gate_id : String) (i : Nat) (c : Call) (s : World × List Nat) :
    Option (Except Exn c.Resp × World × List Nat) :=
  if finds_pending gate_id c s.1 then
    if s.2 = [] then some ((exec env c s.1).1, (exec env c s.1).2, [i]) else none
  else some ((exec env c s.1).1, (exec env c s.1).2, s.2)

def exclusive (env : Env) (gate_id : String) (i : Nat) :
    Relation Call Call.Resp Exn (World × List Nat) :=
  fun c s r s' => exclusive_exec env gate_id i c s = some (r, s')

theorem exclusive_cases {env : Env} {gate_id : String} {i : Nat} {c : Call} {s s' : World × List Nat}
    {r : Except Exn c.Resp} (h : exclusive env gate_id i c s r s') :
    exec env c s.1 = (r, s'.1) ∧ (finds_pending gate_id c s.1 = true ∧ s.2 = [] ∧ s'.2 = [i] ∨
      finds_pending gate_id c s.1 = false ∧ s'.2 = s.2) := by
  unfold exclusive exclusive_exec at h
  by_cases hfinds : finds_pending gate_id c s.1 = true
  · rw [if_pos hfinds] at h
    by_cases hnone : s.2 = []
    · rw [if_pos hnone] at h
      obtain ⟨rfl, rfl⟩ := Prod.mk.inj (Option.some.inj h)
      exact ⟨rfl, Or.inl ⟨hfinds, hnone, rfl⟩⟩
    · rw [if_neg hnone] at h
      cases h
  · rw [if_neg hfinds] at h
    obtain ⟨rfl, rfl⟩ := Prod.mk.inj (Option.some.inj h)
    exact ⟨rfl, Or.inr ⟨Bool.eq_false_iff.mpr hfinds, rfl⟩⟩

/-! ## The contract -/

section contract
variable {env : Env} {gate : GateRequest} {n i : Nat}

/-- At most one of the `n` threads has found the gate pending; before that nothing has
    happened to it. -/
structure OneOwner (gate : GateRequest) (n : Nat) (s : World × List Nat) : Prop where
  threads : ∀ j ∈ s.2, j < n
  single : s.2.length ≤ 1
  untouched : s.2 = [] → Waiting gate s.1
  decided : (gate_view gate s.1).decisions.length ≤ 1

/-- Nobody else takes or touches a gate that thread `j` has found pending. -/
structure Respects (gate : GateRequest) (j : Nat) (s s' : World × List Nat) : Prop where
  owner : j ∈ s'.2 ↔ j ∈ s.2
  view : j ∈ s.2 → gate_view gate s'.1 = gate_view gate s.1

/-- The contract of thread `i`. -/
def resolver_contract (env : Env) (gate : GateRequest) (n i : Nat) :
    Contract Call Call.Resp Exn (World × List Nat) :=
  threadContract (exclusive env gate.id) (OneOwner gate n) (Respects gate) (fun _ _ _ => True) i

theorem Respects.refl (gate : GateRequest) (j : Nat) (s : World × List Nat) :
    Respects gate j s s := ⟨Iff.rfl, fun _ => rfl⟩

theorem Respects.trans {j : Nat} {a b c : World × List Nat} (h : Respects gate j a b)
    (h' : Respects gate j b c) : Respects gate j a c := by
  refine ⟨h'.owner.trans h.owner, ?_⟩
  intro hj
  rw [h'.view (h.owner.mpr hj), h.view hj]

/-- The owner is alone. -/
theorem OneOwner.eq_singleton {s : World × List Nat} (h : OneOwner gate n s) (hi : i ∈ s.2) :
    s.2 = [i] := by
  have hlen := h.single
  match hs : s.2 with
  | [] => rw [hs] at hi; cases hi
  | [j] => rw [hs, List.mem_singleton] at hi; rw [hi]
  | _ :: _ :: _ => rw [hs] at hlen; simp at hlen

/-- Calls of the resolver that do not concern the gate. -/
def Call.aside : Call → Bool
  | .now => true
  | .get_token _ => true
  | .mark_token_used _ _ => true
  | .audit _ => true
  | _ => false

theorem gate_view_aside {c : Call} (hc : c.aside = true) (w : World) :
    gate_view gate (exec env c w).2 = gate_view gate w := by
  cases c with
  | now => rfl
  | get_token => rfl
  | audit => rfl
  | mark_token_used token_id used_at =>
    simp only [exec]
    rcases RunStore.mark_token_used_cases w.store token_id used_at with hsame | ⟨token, -, -, hused⟩
    · rw [hsame]
      rfl
    · rw [hused]
      rfl
  | _ => cases hc

theorem finds_pending_aside {c : Call} (hc : c.aside = true) (w : World) :
    finds_pending gate.id c w = false := by
  cases c <;> first | rfl | cases hc

/-- A call that leaves the gate alone, by any thread. -/
theorem OneOwner.aside {s s' : World × List Nat}
    (hinv : OneOwner gate n s) (hview : gate_view gate s'.1 = gate_view gate s.1)
    (hloads : s'.2 = s.2) : OneOwner gate n s' ∧ ∀ j, Respects gate j s s' := by
  constructor
  · refine ⟨?_, ?_, ?_, ?_⟩
    · rw [hloads]; exact hinv.threads
    · rw [hloads]; exact hinv.single
    · rw [hloads]
      intro hnone
      have hwaiting := hinv.untouched hnone
      exact ⟨hview.trans hwaiting.view, hwaiting.pending⟩
    · rw [hview]; exact hinv.decided
  · intro j
    exact ⟨by rw [hloads], fun _ => hview⟩

/-- The thread has not found the gate pending. -/
def Outside (i : Nat) (s : World × List Nat) : Prop := i ∉ s.2

/-- The thread has found the gate pending, and this is what it knows about it. -/
def Owned (gate : GateRequest) (i : Nat) (v : GateView) (s : World × List Nat) : Prop :=
  i ∈ s.2 ∧ gate_view gate s.1 = v

theorem outside_stable (s s' : World × List Nat) (h : Respects gate i s s') (hs : Outside i s) :
    Outside i s' :=
  fun hi => hs (h.owner.mp hi)

theorem owned_stable {v : GateView} (s s' : World × List Nat) (h : Respects gate i s s')
    (hs : Owned gate i v s) : Owned gate i v s' :=
  ⟨h.owner.mpr hs.1, (h.view hs.1).trans hs.2⟩

/-- Calls aside keep whatever survives the other threads. -/
theorem safe_aside {α : Type} {p : M α} {A : World × List Nat → Prop} {s : World × List Nat}
    (hp : Issues (fun c => c.aside = true) p)
    (hA : ∀ s s', Respects gate i s s' → A s → A s') (hs : A s) :
    Safe (resolver_contract env gate n i) (fun _ s => A s) p s := by
  apply Safe.of_issues (P := fun c => c.aside = true) (A := A)
  · exact hA
  · intro c s hc hinv hs
    refine ⟨trivial, ?_⟩
    intro r s' hstep
    obtain ⟨hexec, hloads⟩ := exclusive_cases hstep
    have hview : gate_view gate s'.1 = gate_view gate s.1 := by
      rw [← gate_view_aside hc s.1, hexec]
    have hsame : s'.2 = s.2 := by
      rcases hloads with ⟨hfinds, -⟩ | ⟨-, hsame⟩
      · rw [finds_pending_aside hc] at hfinds
        cases hfinds
      · exact hsame
    obtain ⟨hinv', hrely⟩ := hinv.aside hview hsame
    exact ⟨hinv', fun j _ => hrely j, hA s s' (hrely i) hs⟩
  · exact hp
  · exact hs

/-- One call of the owner that takes the view from `v` to `v'`. -/
theorem owned_call {c : Call} {v v' : GateView} {s : World × List Nat}
    (hfinds : ∀ w, finds_pending gate.id c w = false)
    (hview : ∀ w, gate_view gate w = v →
      (∃ a, (exec env c w).1 = .ok a) ∧ gate_view gate (exec env c w).2 = v')
    (hlen : v'.decisions.length ≤ 1) (hs : Owned gate i v s) :
    Safe (resolver_contract env gate n i)
      (fun r s' => (∃ a, r = .ok a) ∧ Owned gate i v' s') (await c) s := by
  apply Safe.perform
  intro s₁ hrely hinv
  refine ⟨trivial, ?_⟩
  intro r s₂ hstep
  obtain ⟨hexec, hloads⟩ := exclusive_cases hstep
  have hsame : s₂.2 = s₁.2 := by
    rcases hloads with ⟨h, -⟩ | ⟨-, hsame⟩
    · rw [hfinds] at h
      cases h
    · exact hsame
  have hs₁ : Owned gate i v s₁ := owned_stable s s₁ hrely hs
  obtain ⟨hok, hnew⟩ := hview s₁.1 hs₁.2
  rw [hexec] at hok hnew
  have halone : s₁.2 = [i] := hinv.eq_singleton hs₁.1
  refine ⟨⟨?_, ?_, ?_, ?_⟩, ?_, hok, ?_, hnew⟩
  · rw [hsame]; exact hinv.threads
  · rw [hsame]; exact hinv.single
  · intro hnone
    rw [hsame, halone] at hnone
    cases hnone
  · rw [hnew]; exact hlen
  · -- the other threads own nothing
    intro j hj
    refine ⟨by rw [hsame], ?_⟩
    intro hmem
    rw [halone, List.mem_singleton] at hmem
    exact absurd hmem hj
  · rw [hsame]; exact hs₁.1

/-- The same, followed by the rest of the program. -/
theorem owned_bind {β : Type} {c : Call} {f : c.Resp → M β} {v v' : GateView}
    {Q : Except Exn β → World × List Nat → Prop} {s : World × List Nat}
    (hfinds : ∀ w, finds_pending gate.id c w = false)
    (hview : ∀ w, gate_view gate w = v →
      (∃ a, (exec env c w).1 = .ok a) ∧ gate_view gate (exec env c w).2 = v')
    (hlen : v'.decisions.length ≤ 1) (hs : Owned gate i v s)
    (hf : ∀ a s', Owned gate i v' s' → Safe (resolver_contract env gate n i) Q (f a) s') :
    Safe (resolver_contract env gate n i) Q ((await c).bind f) s := by
  apply Safe.bind (owned_call hfinds hview hlen hs)
  · intro a s' h
    exact hf a s' h.2
  · intro e s' h
    obtain ⟨⟨a, ha⟩, -⟩ := h
    cases ha

/-! ## What the writes of the resolver do to the view -/

theorem gate_view_now {v : GateView} (w : World) (h : gate_view gate w = v) :
    (∃ a, (exec env .now w).1 = .ok a) ∧ gate_view gate (exec env .now w).2 = v :=
  ⟨⟨_, rfl⟩, h⟩

theorem gate_view_audit {v : GateView} (entry : AuditEntry) (w : World)
    (h : gate_view gate w = v) :
    (∃ a, (exec env (.audit entry) w).1 = .ok a) ∧
      gate_view gate (exec env (.audit entry) w).2 = v :=
  ⟨⟨(), rfl⟩, h⟩

theorem gate_view_save {v : GateView} {d : ApprovalDecision} (hd : d.gate_request_id = gate.id)
    (w : World) (h : gate_view gate w = v) :
    (∃ a, (exec env (.save_approval_decision d) w).1 = .ok a) ∧
      gate_view gate (exec env (.save_approval_decision d) w).2 =
        { v with decisions := v.decisions ++ [d] } := by
  subst h
  refine ⟨⟨(), rfl⟩, ?_⟩
  have hfilter : (w.store.decisions ++ [d]).filter (fun d => decide (d.gate_request_id = gate.id)) =
      w.store.decisions.filter (fun d => decide (d.gate_request_id = gate.id)) ++ [d] := by
    simp [hd]
  show GateView.mk _ ((w.store.decisions ++ [d]).filter _) _ _ = _
  rw [hfilter]
  rfl

theorem gate_view_update {v : GateView} {g : GateRequest} (hg : g.id = gate.id) (w : World)
    (h : gate_view gate w = v) :
    (∃ a, (exec env (.update_gate_request g) w).1 = .ok a) ∧
      gate_view gate (exec env (.update_gate_request g) w).2 = { v with gate := some g } := by
  subst h
  refine ⟨⟨(), rfl⟩, ?_⟩
  have hget : (w.store.gates.set g.id g).get? gate.id = some g := by
    rw [← hg]
    exact Dict.get?_set_self _ _ _
  show GateView.mk ((w.store.gates.set g.id g).get? gate.id) _ _ _ = _
  rw [hget]
  rfl

theorem gate_view_status {v : GateView} {status : RunStatus} (hrun : v.run = some .AWAITING_APPROVAL)
    (hlegal : is_legal_run_transition .AWAITING_APPROVAL status = true) (w : World)
    (h : gate_view gate w = v) :
    (∃ a, (exec env (.update_run_status gate.run_id status none none) w).1 = .ok a) ∧
      gate_view gate (exec env (.update_run_status gate.run_id status none none) w).2 =
        { v with run := some status } := by
  subst h
  obtain ⟨run, hget, hstatus⟩ := Option.map_eq_some_iff.mp hrun
  have hok : w.store.update_run_status gate.run_id status none none (env.time w.clock) =
      .ok { w.store with
        runs := w.store.runs.set gate.run_id
          (RunStore.updated_run run status none none (env.time w.clock)) } := by
    unfold RunStore.update_run_status
    rw [hget]
    simp only [hstatus, hlegal, if_true]
  simp only [exec, hok]
  refine ⟨⟨(), rfl⟩, ?_⟩
  show GateView.mk _ _ (((w.store.runs.set gate.run_id _).get? gate.run_id).map _) _ = _
  rw [Dict.get?_set_self]
  rfl

/-- The first row of that name is the one that is advanced. -/
theorem find_advance_row (name : String) (now : Time) (rows : List StepState) {status : StepStatus}
    (h : (rows.find? fun row => decide (row.step = name)).map StepState.status = some status) :
    ((RunStore.advance_row name now rows).find? fun row => decide (row.step = name)).map
      StepState.status = some .SUCCEEDED := by
  induction rows with
  | nil => cases h
  | cons row rest ih =>
    unfold RunStore.advance_row
    by_cases hname : row.step = name
    · rw [if_pos hname, List.find?_cons_of_pos (by simpa using hname)]
      rfl
    · rw [List.find?_cons_of_neg (by simpa using hname)] at h
      rw [if_neg hname, List.find?_cons_of_neg (by simpa using hname)]
      exact ih h

theorem gate_view_advance {v : GateView} {status : StepStatus} (hstep : v.step = some status)
    (w : World) (h : gate_view gate w = v) :
    (∃ a, (exec env (.advance_gate_step gate.run_id gate.step) w).1 = .ok a) ∧
      gate_view gate (exec env (.advance_gate_step gate.run_id gate.step) w).2 =
        { v with step := some .SUCCEEDED } := by
  subst h
  refine ⟨⟨(), rfl⟩, ?_⟩
  have hrows : (w.store.advance_gate_step gate.run_id gate.step (env.time w.clock)).get_steps
      gate.run_id = RunStore.advance_row gate.step (env.time w.clock)
        (w.store.get_steps gate.run_id) := by
    unfold RunStore.advance_gate_step RunStore.get_steps
    cases hget : w.store.steps.get? gate.run_id with
    | none => simp only [hget]; rfl
    | some rows => simp only [Dict.get?_set_self, Option.getD_some]
  have hadvanced := find_advance_row gate.step (env.time w.clock) _ hstep
  have hframe : ∀ s', s' = w.store.advance_gate_step gate.run_id gate.step (env.time w.clock) →
      s'.gates = w.store.gates ∧ s'.decisions = w.store.decisions ∧ s'.runs = w.store.runs := by
    intro s' hs'
    rcases RunStore.advance_gate_step_cases w.store gate.run_id gate.step (env.time w.clock) with
      hsame | ⟨rows, -, hset⟩
    · rw [hs', hsame]
      exact ⟨rfl, rfl, rfl⟩
    · rw [hs', hset]
      exact ⟨rfl, rfl, rfl⟩
  obtain ⟨hgates, hdecisions, hruns⟩ := hframe _ rfl
  simp only [exec, gate_view, World.with_store, hgates, hdecisions, hruns, hrows, hadvanced]

/-! ## The walk through the resolver -/

/-- Whoever found the gate pending has settled it when it ends. -/
def Decided (gate : GateRequest) (i : Nat) (s : World × List Nat) : Prop :=
  i ∈ s.2 → ∃ d, Settled gate d s.1

theorem decided_stable (s s' : World × List Nat) (h : Respects gate i s s')
    (hs : Decided gate i s) : Decided gate i s' := by
  intro hi
  obtain ⟨d, hd⟩ := hs (h.owner.mp hi)
  exact ⟨d, (h.view (h.owner.mp hi)).trans hd⟩

theorem Outside.decided {s : World × List Nat} (h : Outside i s) : Decided gate i s :=
  fun hi => absurd hi h

/-- The audit service leaves the owner's view alone and its exceptions are swallowed. -/
theorem owned_audit {v : GateView} {s : World × List Nat} (audited : Bool) (actor action : String)
    (inputs : JsonObj) (hlen : v.decisions.length ≤ 1) (hs : Owned gate i v s) :
    Safe (resolver_contract env gate n i) (fun r s' => (∃ a, r = .ok a) ∧ Owned gate i v s')
      (maybe_audit audited actor action inputs) s := by
  unfold maybe_audit
  split
  · apply Safe.bind (P := fun r s' => (∃ a, r = .ok a) ∧ Owned gate i v s')
    · apply Safe.attempt (owned_call (fun _ => rfl) (gate_view_audit _) hlen hs)
      intro r s' h
      exact ⟨⟨r, rfl⟩, h.2⟩
    · intro _ s' h
      exact ⟨⟨(), rfl⟩, h.2⟩
    · intro e s' h
      obtain ⟨⟨a, ha⟩, -⟩ := h
      cases ha
  · exact ⟨⟨(), rfl⟩, hs⟩

/-- Steps 7 to 9, by the owner of the gate. -/
theorem safe_record_resolution (args : ResolveArgs) {payload : TokenPayload}
    {s : World × List Nat} (hgid : payload.gid = gate.id) (hrid : payload.rid = gate.run_id)
    (hstep : payload.step = gate.step) (hs : Owned gate i (waiting_view gate) s) :
    Safe (resolver_contract env gate n i) (fun _ s => Decided gate i s)
      (record_resolution args payload gate) s := by
  unfold record_resolution
  apply owned_bind (fun _ => rfl) gate_view_now (Nat.zero_le _) hs
  intro decided_at s₁ h₁
  have hd : (args.approval_decision payload decided_at).gate_request_id = gate.id := hgid
  apply owned_bind (fun _ => rfl) (gate_view_save hd) (Nat.le_refl _) h₁
  intro _ s₂ h₂
  have hsame : ({ gate with status := args.decision.gate_status } : GateRequest).id = gate.id := rfl
  apply owned_bind (fun _ => rfl) (gate_view_update hsame) (Nat.le_refl _) h₂
  intro _ s₃ h₃
  apply Safe.bind (owned_audit _ _ _ _ (Nat.le_refl _) h₃)
  · intro _ s₄ h₄
    have hlegal : is_legal_run_transition .AWAITING_APPROVAL args.decision.run_status = true := by
      cases args.decision <;> rfl
    rw [hrid]
    apply owned_bind (fun _ => rfl) (gate_view_status rfl hlegal) (Nat.le_refl _) h₄.2
    intro _ s₅ h₅
    unfold resume_step
    cases hdecision : args.decision with
    | approve =>
      rw [hrid, hstep]
      apply owned_bind (fun _ => rfl) (gate_view_advance rfl) (Nat.le_refl _) h₅
      intro _ s₆ h₆
      apply Safe.ret
      intro _
      refine ⟨args.approval_decision payload decided_at, h₆.2.trans ?_⟩
      simp only [ResolveArgs.approval_decision, hdecision]
      rfl
    | reject =>
      apply Safe.ret
      intro _
      refine ⟨args.approval_decision payload decided_at, h₅.2.trans ?_⟩
      simp only [ResolveArgs.approval_decision, hdecision]
      rfl
  · intro e s₄ h₄
    obtain ⟨⟨a, ha⟩, -⟩ := h₄
    cases ha

/-- Loading the gate: found pending, it is the thread's own and untouched. -/
theorem safe_load (hi : i < n) {s : World × List Nat} (hs : Outside i s) :
    Safe (resolver_contract env gate n i)
      (fun r s' => Outside i s' ∧ (∀ g, r = .ok (some g) → g.status ≠ .pending) ∨
        r = .ok (some gate) ∧ gate.status = .pending ∧ Owned gate i (waiting_view gate) s')
      (await (.get_gate_request gate.id)) s := by
  apply Safe.perform
  intro s₁ hrely hinv
  refine ⟨trivial, ?_⟩
  intro r s₂ hstep
  obtain ⟨hexec, hloads⟩ := exclusive_cases hstep
  have hsame : s₂.1 = s₁.1 := (congrArg Prod.snd hexec).symm
  have hr : r = .ok (s₁.1.store.gates.get? gate.id) := (congrArg Prod.fst hexec).symm
  have hs₁ : Outside i s₁ := outside_stable s s₁ hrely hs
  rcases hloads with ⟨-, hnone, howner⟩ | ⟨hfinds, hloads⟩
  · -- nobody had found it pending before
    have hwaiting := hinv.untouched hnone
    have hgate : s₁.1.store.gates.get? gate.id = some gate := congrArg GateView.gate hwaiting.view
    refine ⟨⟨?_, ?_, ?_, ?_⟩, ?_, Or.inr ⟨by rw [hr, hgate], hwaiting.pending, ?_, ?_⟩⟩
    · rw [howner]
      intro j hj
      rw [List.mem_singleton.mp hj]
      exact hi
    · rw [howner]; exact Nat.le_refl _
    · intro h
      rw [howner] at h
      cases h
    · rw [hsame]; exact hinv.decided
    · intro j hj
      refine ⟨?_, fun _ => by rw [hsame]⟩
      rw [howner, hnone]
      simp [hj]
    · rw [howner]; exact List.mem_cons_self
    · rw [hsame]; exact hwaiting.view
  · obtain ⟨hinv', hothers⟩ := hinv.aside (by rw [hsame]) hloads
    refine ⟨hinv', fun j _ => hothers j, Or.inl ⟨outside_stable s₁ s₂ (hothers i) hs₁, ?_⟩⟩
    intro g hg hpending
    rw [hr] at hg
    have hget : s₁.1.store.gates.get? gate.id = some g := Except.ok.inj hg
    simp [finds_pending, hget, hpending] at hfinds

/-- A call that presents a token of the gate. -/
theorem safe_resolve_gate {crypto : Crypto} {args : ResolveArgs} (hi : i < n)
    (hargs : Presents crypto gate args) {s : World × List Nat} (hs : Outside i s) :
    Safe (resolver_contract env gate n i) (fun _ s => Decided gate i s)
      (resolve_gate crypto args) s := by
  obtain ⟨payload, hverify, hgid, hrid, hstep⟩ := hargs.token
  -- a call that ends without having found the gate pending
  have hraise : ∀ (actor action : String) (inputs : JsonObj) (e : Exn) (s : World × List Nat),
      Outside i s → Safe (resolver_contract env gate n i) (fun _ s => Decided gate i s)
        ((maybe_audit args.audited actor action inputs).bind fun _ =>
          (.raise e : M ApprovalDecision)) s := by
    intro actor action inputs e s hs
    have haside : Issues (fun c => c.aside = true)
        ((maybe_audit args.audited actor action inputs).bind fun _ =>
          (.raise e : M ApprovalDecision)) :=
      .bind (maybe_audit_issues _ _ _ _ fun _ => rfl) fun _ => .raise
    exact (safe_aside haside outside_stable hs).weaken fun _ _ h => h.decided
  have hcall : ∀ {c : Call} {s : World × List Nat}, c.aside = true → Outside i s →
      Safe (resolver_contract env gate n i) (fun _ s => Outside i s) (await c) s := by
    intro c s hc hs
    exact safe_aside (.perform hc) outside_stable hs
  unfold resolve_gate
  rw [hverify]
  simp only
  unfold use_token
  apply Safe.bind (hcall rfl hs) _ fun _ _ h => h.decided
  intro now s₁ h₁
  split
  · exact hraise _ _ _ _ s₁ h₁
  apply Safe.bind (hcall rfl h₁) _ fun _ _ h => h.decided
  intro found s₂ h₂
  cases found with
  | none => exact Safe.raise h₂.decided
  | some token =>
    apply Safe.bind (hcall rfl h₂) _ fun _ _ h => h.decided
    intro used_at s₃ h₃
    apply Safe.bind (hcall rfl h₃) _ fun _ _ h => h.decided
    intro first_use s₄ h₄
    split
    · unfold check_gate
      rw [hgid]
      apply Safe.bind (safe_load hi h₄)
      · intro found s₅ h₅
        rcases h₅ with ⟨houtside, hnot⟩ | ⟨hfound, hpending, howned⟩
        · cases found with
          | none => exact Safe.raise houtside.decided
          | some g =>
            simp only
            rw [if_pos (hnot g rfl)]
            exact Safe.raise houtside.decided
        · obtain rfl := Except.ok.inj hfound
          simp only
          rw [if_neg (by simp [hpending]), hargs.actor]
          exact safe_record_resolution args hgid hrid hstep howned
      · intro e s₅ h₅
        rcases h₅ with ⟨houtside, -⟩ | ⟨hfound, -⟩
        · exact houtside.decided
        · cases hfound
    · exact hraise _ _ _ _ s₄ h₄

end contract

/-! ## Every interleaving -/

/-- **One decision, when no two calls find the gate pending.** Any number of resolvers
    present valid tokens of one gate request, with any decisions, interleaved call by
    call, and at most one of them finds the gate pending: at most one decision is stored
    at any time, and when all have ended the gate, the run and the gate step agree with it. -/
theorem one_decision_when_exclusive {env : Env} {crypto : Crypto} {gate : GateRequest}
    {calls : List ResolveArgs} {w₀ w : World} {loads : List Nat} {ts : List (M Unit)}
    (hwaiting : Waiting gate w₀) (hcalls : ∀ args ∈ calls, Presents crypto gate args)
    (h : Interleaving (exclusive env gate.id) (w₀, [])
      (calls.map fun args => (resolve_gate crypto args).discard) (w, loads) ts) :
    (gate_view gate w).decisions.length ≤ 1 ∧
      ((∀ p ∈ ts, p.ended = true) → ∀ d ∈ (gate_view gate w).decisions, Settled gate d w) := by
  have hinit : OneOwner gate ts.length (w₀, []) := by
    refine ⟨?_, Nat.zero_le _, fun _ => hwaiting, ?_⟩
    · intro j hj
      cases hj
    · rw [hwaiting.view]
      exact Nat.zero_le _
  have hlength : ts.length = calls.length := by rw [h.length_eq, List.length_map]
  have hstart : ∀ i p, (calls.map fun args => (resolve_gate crypto args).discard)[i]? = some p →
      Safe (threadContract (exclusive env gate.id) (OneOwner gate ts.length) (Respects gate)
        (fun _ _ _ => True) i) (fun _ s => Decided gate i s) p (w₀, []) := by
    intro i p hp
    rw [List.getElem?_map, Option.map_eq_some_iff] at hp
    obtain ⟨args, hargs, rfl⟩ := hp
    have hi : i < ts.length := by
      rw [hlength]
      exact (List.getElem?_eq_some_iff.mp hargs).1
    have hsafe : Safe (resolver_contract env gate ts.length i) (fun _ s => Decided gate i s)
        (resolve_gate crypto args) (w₀, []) :=
      safe_resolve_gate hi (hcalls args (List.mem_of_getElem? hargs)) (by intro h; cases h)
    exact Safe.bind hsafe (fun _ _ hd => hd) (fun _ _ hd => hd)
  obtain ⟨hinv, hsafe⟩ := Interleaving.safe (Respects.refl gate) (fun _ => Respects.trans)
    (fun i _ => decided_stable) hinit hstart h
  refine ⟨hinv.decided, ?_⟩
  intro hended d hd
  -- a decision has an owner, and the owner has ended
  match loads with
  | [] =>
    rw [(hinv.untouched rfl).view] at hd
    cases hd
  | i :: rest =>
    have hi : i < ts.length := hinv.threads i List.mem_cons_self
    have hp := hsafe i ts[i] (List.getElem?_eq_getElem hi)
    have hend := hended ts[i] (List.getElem_mem hi)
    have hdecided : Decided gate i (w, i :: rest) := by
      generalize ts[i] = p at hp hend
      cases p with
      | ret a => exact hp
      | raise e => exact hp
      | call op k => cases hend
    obtain ⟨d', hd'⟩ := hdecided List.mem_cons_self
    have hview : (gate_view gate w).decisions = [d'] := congrArg GateView.decisions hd'
    rw [hview, List.mem_singleton] at hd
    rw [hd]
    exact hd'

/-! ## Two channels

    The run waiting for a signature, whose first token (of the MCP channel) is used to
    approve and whose second token (of the web channel) to reject. -/

section channels

def channel_token (k : Nat) : ApprovalToken :=
  ((signature_waiting 1).store.tokens.values.drop k).headD ⟨"", "", "", "", "", "", .mcp, 0, none⟩

def channel_gate : GateRequest :=
  ((signature_waiting 1).store.gates.get? "id-1").getD
    (Engine.gate_request "" "" "" default_gate_config 0)

def channel_calls : List ResolveArgs :=
  [resolve_with (channel_token 0) .approve "attorney",
    resolve_with (channel_token 1) .reject "attorney"]

/-- The two programs; the signature checks are replaced by their outcomes. -/
def channel_threads : List (M Unit) :=
  [(use_token (resolve_with (channel_token 0) .approve "attorney")
      (channel_token 0).payload).discard,
    (use_token (resolve_with (channel_token 1) .reject "attorney")
      (channel_token 1).payload).discard]

theorem channel_threads_eq :
    (channel_calls.map fun args => (resolve_gate reference_crypto args).discard) =
      channel_threads := by
  unfold channel_calls channel_threads
  simp only [List.map_cons, List.map_nil, resolve_gate_with]

theorem channel_presents : ∀ args ∈ channel_calls, Presents reference_crypto channel_gate args := by
  have htoken : ∀ k ∈ [0, 1], ∀ decision, Presents reference_crypto channel_gate
      (resolve_with (channel_token k) decision "attorney") := by
    intro k hk decision
    have hactor : authorise_actor "attorney" channel_gate.required_role = .ok true := by
      decide +kernel
    refine ⟨⟨(channel_token k).payload, verify_resolve_with _ _ _, ?_⟩, hactor⟩
    have hall : ∀ k ∈ [0, 1], (channel_token k).payload.gid = channel_gate.id ∧
        (channel_token k).payload.rid = channel_gate.run_id ∧
        (channel_token k).payload.step = channel_gate.step := by decide +kernel
    exact hall k hk
  intro args hargs
  unfold channel_calls at hargs
  rcases List.mem_cons.mp hargs with rfl | hargs
  · exact htoken 0 (by decide) .approve
  · rw [List.mem_singleton] at hargs
    subst hargs
    exact htoken 1 (by decide) .reject

theorem channel_waiting : Waiting channel_gate (signature_waiting 1) := by
  refine ⟨?_, by decide +kernel⟩
  unfold gate_view waiting_view
  have hgate : (signature_waiting 1).store.gates.get? channel_gate.id = some channel_gate := by
    decide +kernel
  have hdecisions : ((signature_waiting 1).store.decisions.filter fun d =>
      decide (d.gate_request_id = channel_gate.id)) = [] := by decide +kernel
  have hrun : ((signature_waiting 1).store.runs.get? channel_gate.run_id).map WorkflowRun.status =
      some .AWAITING_APPROVAL := by decide +kernel
  have hstep : (((signature_waiting 1).store.get_steps channel_gate.run_id).find? fun row =>
      decide (row.step = channel_gate.step)).map StepState.status = some .PENDING := by
    decide +kernel
  rw [hgate, hdecisions, hrun, hstep]

/-- Both calls find the gate pending, then both go on. -/
def channel_race : Option (World × List (M Unit)) :=
  play (fun _ c w => some (exec reference_env c w))
    (List.replicate 5 0 ++ List.replicate 5 1 ++ List.replicate 5 0 ++ List.replicate 5 1)
    (signature_waiting 1) channel_threads

/-- Both threads have ended, and there is a decision of either kind. -/
def contested (s : World × List (M Unit)) : Bool :=
  s.2.all Program.ended &&
    ((gate_view channel_gate s.1).decisions.any fun d => decide (d.decision = .approve)) &&
    (gate_view channel_gate s.1).decisions.any fun d => decide (d.decision = .reject)

/-- **Two channels, two decisions**: one interleaving of an approval and a rejection, with
    different tokens of the same gate request, stores both. -/
theorem two_channels_both_decide :
    Waiting channel_gate (signature_waiting 1) ∧
    (∀ args ∈ channel_calls, Presents reference_crypto channel_gate args) ∧
    (channel_token 0).id ≠ (channel_token 1).id ∧
    ∃ w ts, Interleaving (fun _ => Service.rel (exec reference_env)) (signature_waiting 1)
      (channel_calls.map fun args => (resolve_gate reference_crypto args).discard) w ts ∧
      (∀ p ∈ ts, p.ended = true) ∧
      (∃ d ∈ (gate_view channel_gate w).decisions, d.decision = .approve) ∧
      ∃ d ∈ (gate_view channel_gate w).decisions, d.decision = .reject := by
  refine ⟨channel_waiting, channel_presents, by decide +kernel, ?_⟩
  have hplayed : channel_race.isSome = true := by decide +kernel
  obtain ⟨⟨w, ts⟩, hrace⟩ := Option.isSome_iff_exists.mp hplayed
  have hcontested : ∀ s ∈ channel_race, contested s = true := by decide +kernel
  have hc := hcontested _ hrace
  simp only [contested, Bool.and_eq_true, List.all_eq_true, List.any_eq_true,
    decide_eq_true_eq] at hc
  obtain ⟨⟨hended, happrove⟩, hreject⟩ := hc
  rw [channel_threads_eq]
  refine ⟨w, ts, ?_, hended, happrove, hreject⟩
  exact Interleaving.of_play_exec hrace

/-- The second call starts when the first one has ended. -/
def channel_turns : Option ((World × List Nat) × List (M Unit)) :=
  play (exclusive_exec reference_env channel_gate.id)
    (List.replicate 10 0 ++ List.replicate 10 1) (signature_waiting 1, []) channel_threads

/-- Both threads have ended, and there is a decision. -/
def decided_once (s : (World × List Nat) × List (M Unit)) : Bool :=
  s.2.all Program.ended && !(gate_view channel_gate s.1.1).decisions.isEmpty

/-- The guarantee at work: the second call finds the gate decided. -/
theorem channel_turns_settle :
    ∃ w d, d ∈ (gate_view channel_gate w).decisions ∧
      (gate_view channel_gate w).decisions.length ≤ 1 ∧ Settled channel_gate d w := by
  have hplayed : channel_turns.isSome = true := by decide +kernel
  obtain ⟨⟨⟨w, loads⟩, ts⟩, hturns⟩ := Option.isSome_iff_exists.mp hplayed
  have honce : ∀ s ∈ channel_turns, decided_once s = true := by decide +kernel
  have hd := honce _ hturns
  simp only [decided_once, Bool.and_eq_true, List.all_eq_true, Bool.not_eq_true'] at hd
  obtain ⟨hended, hsome⟩ := hd
  obtain ⟨d, hmem⟩ := List.exists_mem_of_ne_nil _ (List.isEmpty_eq_false_iff.mp hsome)
  have hreach : Interleaving (exclusive reference_env channel_gate.id) (signature_waiting 1, [])
      (channel_calls.map fun args => (resolve_gate reference_crypto args).discard) (w, loads) ts := by
    rw [channel_threads_eq]
    apply Interleaving.of_play _ hturns
    intro i c s r s' hexec
    exact hexec
  have hone := one_decision_when_exclusive channel_waiting channel_presents hreach
  exact ⟨w, d, hmem, hone.1, hone.2 hended d hmem⟩

end channels

end CaseAutomation.Orchestrator
