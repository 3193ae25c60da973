import CaseAutomation.Framework.Ghost
import CaseAutomation.Framework.Issues
import CaseAutomation.Orchestrator.Effects
import CaseAutomation.Orchestrator.Gates
import CaseAutomation.Orchestrator.Triggers

/-! # The Orchestrator as a System

    The requests the orchestrator serves, the faults of the services it calls,
    and the two kinds of history the results quantify over:

    * `Interleaved`: any number of requests at once, interleaved call by call, with
      crashes, failing calls and expiring locks;
    * `Session` histories (one request at a time), instantiated where they are used.
-/

namespace CaseAutomation.Orchestrator

open Framework Program

/-! ## Requests -/

/-- What the orchestrator can be asked to do. -/
inductive Request where
  | start_run (args : StartArgs)
  | execute (depth : Nat) (run_id : String)
  | recovery_sweep (depth : Nat) (enqueue : Bool)
  | resolve_gate (args : ResolveArgs)
  /-- An operator's own status change: re-drive a parked run, or cancel one. -/
  | update_run_status (run_id : String) (status : RunStatus)

/-- The program of a request; what it returns or raises goes to the caller. -/
def Request.program (engine : Engine) : Request → M Unit
  | .start_run args => (Orchestrator.start_run args).discard
  | .execute depth run_id => (engine.execute depth run_id).discard
  | .recovery_sweep depth enqueue => (Orchestrator.recovery_sweep engine depth enqueue).discard
  | .resolve_gate args => (Orchestrator.resolve_gate engine.crypto args).discard
  | .update_run_status run_id status => await (.update_run_status run_id status none none)

/-- Whatever verifies under the caller's key was issued: its record is in the store. -/
def Authentic (crypto : Crypto) (w : World) (args : ResolveArgs) : Prop :=
  ∀ payload, verify_token crypto args.raw_token args.signing_key = .ok (.ok payload) →
    ∃ token ∈ w.store.tokens.values, token.payload = payload

/-- The run and the step whose handler a program is about to invoke, if any. -/
def invoking {α : Type} : M α → Option (String × String)
  | .call (.invoke _ step ctx) _ => some (ctx.run_id, step)
  | _ => none

theorem invoking_eq_some {α : Type} {p : M α} {run_id step : String}
    (h : invoking p = some (run_id, step)) :
    ∃ handler ctx k, p = .call (.invoke handler step ctx) k ∧ ctx.run_id = run_id := by
  unfold invoking at h
  split at h
  · next handler step' ctx k =>
    obtain ⟨hrun, hstep⟩ := Prod.mk.inj (Option.some.inj h)
    subst hstep
    exact ⟨handler, ctx, k, rfl, hrun⟩
  · cases h

/-! ## Faults -/

/-- Calls that leave the process and may fail: the run store, the idempotency store, the
    lock server, the audit service and the job queue. -/
def Call.fallible : Call → Bool
  | .now => false
  | .uuid4 => false
  | .get_workflow_latest _ => false
  | .invoke _ _ _ => false
  | .compensate _ _ => false
  | .log_error _ _ _ => false
  | _ => true

/-- A call is answered, or it fails before or after it has taken effect. -/
inductive faulty (env : Env) (c : Call) (w : World) : Except Exn c.Resp → World → Prop where
  | answered : faulty env c w (exec env c w).1 (exec env c w).2
  | lost (e : Exn) : c.fallible = true → faulty env c w (.error e) w
  | unacknowledged (e : Exn) : c.fallible = true → faulty env c w (.error e) (exec env c w).2

/-- A faulty call leaves the world as it was or does what the call does. -/
theorem faulty.world {env : Env} {c : Call} {w w' : World} {r : Except Exn c.Resp}
    (h : faulty env c w r w') : w' = w ∧ c.fallible = true ∨ w' = (exec env c w).2 := by
  cases h with
  | answered => exact Or.inr rfl
  | lost e hf => exact Or.inl ⟨rfl, hf⟩
  | unacknowledged e => exact Or.inr rfl

/-- A call that returns normally did what it does. -/
theorem faulty.ok {env : Env} {c : Call} {w w' : World} {a : c.Resp}
    (h : faulty env c w (.ok a) w') : exec env c w = (.ok a, w') := by
  generalize hr : (Except.ok a : Except Exn c.Resp) = r at h
  cases h with
  | answered => rfl
  | lost e _ => cases hr
  | unacknowledged e _ => cases hr

/-- Locks held in Redis expire. -/
def expiry (w w' : World) : Prop :=
  ∃ held held', w.lock = some held ∧ held' ⊆ held ∧ w' = { w with lock := some held' }

/-! ## Interleaved histories of one workflow -/

/-- The requests concerning the runs of one workflow. -/
inductive Admitted (crypto : Crypto) (name : String) (w : World) : Request → Prop where
  | start_run {args : StartArgs} : args.workflow_name = name → Admitted crypto name w (.start_run args)
  | execute (depth : Nat) (run_id : String) : Admitted crypto name w (.execute depth run_id)
  | recovery_sweep (depth : Nat) (enqueue : Bool) :
      Admitted crypto name w (.recovery_sweep depth enqueue)
  | resolve_gate {args : ResolveArgs} : Authentic crypto w args →
      Admitted crypto name w (.resolve_gate args)
  | update_run_status (run_id : String) (status : RunStatus) :
      Admitted crypto name w (.update_run_status run_id status)

/-- `Interleaved env engine registry name w ts`: starting from empty stores, some
    interleaving of requests on the runs of workflow `name` reaches `w`, with `ts` still
    to run. -/
def Interleaved (env : Env) (engine : Engine) (registry : Registry) (name : String) :
    World → List (M Unit) → Prop :=
  Pool (fun _ => faulty env) expiry
    (fun w => ∃ idem lock, w = World.fresh idem lock registry)
    (fun w p => ∃ q, Admitted engine.crypto name w q ∧ p = q.program engine)

/-! ## Sequential histories -/

/-- `Sequential step engine registry accept p w`: starting from empty stores, requests are
    served one at a time, each perhaps stopped by a crash after any of its calls; `p` is
    what remains of the request in flight. -/
def Sequential (step : Relation Call Call.Resp Exn World) (engine : Engine) (registry : Registry)
    (accept : World → Request → Prop) : M Unit → World → Prop :=
  Session step expiry (fun w => ∃ idem lock, w = World.fresh idem lock registry)
    (fun w p => ∃ q, accept w q ∧ p = q.program engine)

/-- A sequential history is an interleaved one. -/
theorem Sequential.interleaved {step : Relation Call Call.Resp Exn World} {env : Env}
    {engine : Engine} {registry : Registry} {name : String} {accept : World → Request → Prop}
    {p : M Unit} {w : World} (hstep : ∀ c w r w', step c w r w' → faulty env c w r w')
    (haccept : ∀ w q, accept w q → Admitted engine.crypto name w q)
    (h : Sequential step engine registry accept p w) :
    ∃ ts, Interleaved env engine registry name w ts ∧ (p = .ret () ∨ ∃ us, ts = us ++ [p]) := by
  refine Session.pool (fun _ => hstep) ?_ h
  rintro w p ⟨q, hq, rfl⟩
  exact ⟨q, haccept w q hq, rfl⟩

/-! ## Scripted histories -/

/-- The next call, if it may fail, fails without effect. -/
def lose {α : Type} (e : Exn) : M α → M α
  | .call c k => if c.fallible then k (.error e) else .call c k
  | p => p

theorem steps_lose {α : Type} (env : Env) (e : Exn) (p : M α) (w : World) :
    Steps (faulty env) p w (lose e p) w := by
  cases p with
  | ret a => exact .here _ _
  | raise e' => exact .here _ _
  | call c k =>
    show Steps (faulty env) _ w (if c.fallible then k (.error e) else .call c k) w
    by_cases hc : c.fallible = true
    · rw [if_pos hc]
      exact .next (.lost e hc) (.here _ _)
    · rw [if_neg hc]
      exact .here _ _

/-- The first `n` calls, all answered. -/
theorem steps_answered {α : Type} (env : Env) (n : Nat) (p : M α) (w : World) :
    Steps (faulty env) p w (Program.after (exec env) n p w).1 (Program.after (exec env) n p w).2 := by
  apply (Program.steps_after (exec env) n p w).mono
  intro c w r w' hop
  have hanswered : faulty env c w (exec env c w).1 (exec env c w).2 := .answered
  rw [hop] at hanswered
  exact hanswered

/-! ## Serving a request alone -/

/-- The world after a request is served alone, without faults. -/
def World.serve (env : Env) (engine : Engine) (w : World) (q : Request) : World :=
  ((q.program engine).run (exec env) w).2

/-- Serving an admitted request alone is one of the interleavings. -/
theorem Interleaved.serve {env : Env} {engine : Engine} {registry : Registry} {name : String}
    {w : World} {ts : List (M Unit)} {q : Request} (h : Interleaved env engine registry name w ts)
    (hq : Admitted engine.crypto name w q) :
    ∃ ts', Interleaved env engine registry name (w.serve env engine q) ts' :=
  Pool.served (fun _ _ _ => .answered) h ⟨q, hq, rfl⟩

/-- The same for sequential histories. -/
theorem Sequential.serve {step : Relation Call Call.Resp Exn World} {env : Env} {engine : Engine}
    {registry : Registry} {accept : World → Request → Prop} {p : M Unit} {w : World} {q : Request}
    (hstep : ∀ c w, step c w (exec env c w).1 (exec env c w).2)
    (h : Sequential step engine registry accept p w) (hq : accept w q) :
    ∃ p', Sequential step engine registry accept p' (w.serve env engine q) := by
  obtain ⟨p', hsteps⟩ := steps_run (exec env) (q.program engine) w
  refine ⟨p', (Session.start h ⟨q, hq, rfl⟩).proceed (hsteps.mono ?_)⟩
  intro c w r w' hop
  have hanswered := hstep c w
  rw [hop] at hanswered
  exact hanswered

/-- Serving the first `n` calls of a request, where each of them meets a condition. -/
theorem Sequential.serve_calls {step : Relation Call Call.Resp Exn World} {env : Env}
    {engine : Engine} {registry : Registry} {accept : World → Request → Prop} {p : M Unit}
    {w : World} {q : Request} {check : Call → World → Bool}
    (hstep : ∀ c w, check c w = true → step c w (exec env c w).1 (exec env c w).2) (n : Nat)
    (h : Sequential step engine registry accept p w) (hq : accept w q)
    (hmeets : afterMeets (exec env) check n (q.program engine) w = true) :
    Sequential step engine registry accept (Program.after (exec env) n (q.program engine) w).1
      (Program.after (exec env) n (q.program engine) w).2 :=
  (Session.start h ⟨q, hq, rfl⟩).proceed (steps_after_meets hstep n _ w hmeets)

/-- Serving the first `n` calls of an admitted request. -/
theorem Interleaved.serve_calls {env : Env} {engine : Engine} {registry : Registry} {name : String}
    {w : World} {ts : List (M Unit)} {q : Request} (n : Nat)
    (h : Interleaved env engine registry name w ts) (hq : Admitted engine.crypto name w q) :
    Interleaved env engine registry name (Program.after (exec env) n (q.program engine) w).2
      (ts ++ [(Program.after (exec env) n (q.program engine) w).1]) := by
  have hspawn := Pool.spawn h ⟨q, hq, rfl⟩
  have hcalls := Pool.alone (i := ts.length) (R := faulty env) ?_ hspawn
    List.getElem?_concat_length (steps_answered env n _ _)
  · rw [List.set_append_right _ _ (Nat.le_refl _), Nat.sub_self] at hcalls
    exact hcalls
  · intro op w r w' hop
    exact hop

end CaseAutomation.Orchestrator
