import Mathlib.Logic.Basic

/-! # Programs of Atomic Calls

    A program that talks to shared services is a finite tree of *calls*: at
    each node it issues one call, receives its result or an exception, and
    continues. The tree fixes no meaning for the calls.

    * `run` executes a program to its end against a deterministic service.
    * `Steps` executes it one call at a time against a service given as a
      relation, so that it can be stopped (a crash) between any two calls or
      interleaved with other programs.
    * `bind`, `attempt` and `tryFinally` are sequencing, `try/except` and
      `try/finally`.
-/

namespace CaseAutomation.Framework

/-- Programs over calls `Op` with results `Resp`, exceptions `ε` and
    return value `α`. Every call answers with a result or an exception. -/
inductive Program (Op : Type) (Resp : Op → Type) (ε α : Type) where
  | ret (a : α)
  | raise (e : ε)
  | call (op : Op) (k : Except ε (Resp op) → Program Op Resp ε α)

namespace Program

variable {Op : Type} {Resp : Op → Type} {ε α β γ σ : Type}

/-! ## Sequencing and exceptions -/

/-- Sequencing: an exception ends the whole program. -/
def bind : Program Op Resp ε α → (α → Program Op Resp ε β) → Program Op Resp ε β
  | .ret a, f => f a
  | .raise e, _ => .raise e
  | .call op k, f => .call op fun r => (k r).bind f

instance : Monad (Program Op Resp ε) where
  pure := .ret
  bind := bind

/-- Issue one call; its exception is raised. -/
def perform (op : Op) : Program Op Resp ε (Resp op) :=
  .call op fun
    | .ok a => .ret a
    | .error e => .raise e

/-- Return or raise what is already known. -/
def ofExcept : Except ε α → Program Op Resp ε α
  | .ok a => .ret a
  | .error e => .raise e

/-- `try: p except e`: run `p` and hand over its result or exception. -/
def attempt : Program Op Resp ε α → Program Op Resp ε (Except ε α)
  | .ret a => .ret (.ok a)
  | .raise e => .ret (.error e)
  | .call op k => .call op fun r => (k r).attempt

/-- `try: return p finally: fin`. An exception of `fin` replaces the outcome of `p`. -/
def tryFinally (p : Program Op Resp ε α) (fin : Program Op Resp ε Unit) :
    Program Op Resp ε α :=
  p.attempt.bind fun r => fin.bind fun _ => ofExcept r

/-- The same program with its return value thrown away. -/
def discard (p : Program Op Resp ε α) : Program Op Resp ε Unit :=
  p.bind fun _ => .ret ()

@[simp] theorem ret_bind (a : α) (f : α → Program Op Resp ε β) :
    (Program.ret a).bind f = f a := rfl

@[simp] theorem raise_bind (e : ε) (f : α → Program Op Resp ε β) :
    (Program.raise e : Program Op Resp ε α).bind f = .raise e := rfl

@[simp] theorem call_bind (op : Op) (k : Except ε (Resp op) → Program Op Resp ε α)
    (f : α → Program Op Resp ε β) :
    (Program.call op k).bind f = .call op fun r => (k r).bind f := rfl

@[simp] theorem monad_bind (p : Program Op Resp ε α) (f : α → Program Op Resp ε β) :
    p >>= f = p.bind f := rfl

@[simp] theorem monad_pure (a : α) : (pure a : Program Op Resp ε α) = .ret a := rfl

@[simp] theorem attempt_ret (a : α) :
    (Program.ret a : Program Op Resp ε α).attempt = .ret (.ok a) := rfl

@[simp] theorem attempt_raise (e : ε) :
    (Program.raise e : Program Op Resp ε α).attempt = .ret (.error e) := rfl

/-! ## Execution against a deterministic service -/

/-- A deterministic service on states `σ`. -/
abbrev Service (Op : Type) (Resp : Op → Type) (ε σ : Type) : Type :=
  (op : Op) → σ → Except ε (Resp op) × σ

/-- Run a program to its end. -/
def run (exec : Service Op Resp ε σ) : Program Op Resp ε α → σ → Except ε α × σ
  | .ret a, w => (.ok a, w)
  | .raise e, w => (.error e, w)
  | .call op k, w => (k (exec op w).1).run exec (exec op w).2

section run
variable {exec : Service Op Resp ε σ}

@[simp] theorem run_ret (a : α) (w : σ) :
    (Program.ret a : Program Op Resp ε α).run exec w = (.ok a, w) := rfl

@[simp] theorem run_raise (e : ε) (w : σ) :
    (Program.raise e : Program Op Resp ε α).run exec w = (.error e, w) := rfl

@[simp] theorem run_perform (op : Op) (w : σ) :
    (perform op : Program Op Resp ε _).run exec w = exec op w := by
  show Program.run exec (match (exec op w).1 with
    | .ok a => .ret a
    | .error e => .raise e) (exec op w).2 = exec op w
  rcases h : exec op w with ⟨r, w'⟩
  cases r <;> rfl

@[simp] theorem run_ofExcept (r : Except ε α) (w : σ) :
    (ofExcept r : Program Op Resp ε α).run exec w = (r, w) := by
  cases r with
  | ok a => rfl
  | error e => rfl

/-- Sequencing runs the first program and then the continuation. -/
theorem run_bind (p : Program Op Resp ε α) (f : α → Program Op Resp ε β) (w : σ) :
    (p.bind f).run exec w =
      match p.run exec w with
      | (.ok a, w') => (f a).run exec w'
      | (.error e, w') => (.error e, w') := by
  induction p generalizing w with
  | ret a => rfl
  | raise e => rfl
  | call op k ih => exact ih (exec op w).1 (exec op w).2

theorem run_bind_ok {p : Program Op Resp ε α} {f : α → Program Op Resp ε β} {w w' : σ} {a : α}
    (h : p.run exec w = (.ok a, w')) : (p.bind f).run exec w = (f a).run exec w' := by
  rw [run_bind, h]

theorem run_bind_error {p : Program Op Resp ε α} {f : α → Program Op Resp ε β} {w w' : σ} {e : ε}
    (h : p.run exec w = (.error e, w')) : (p.bind f).run exec w = (.error e, w') := by
  rw [run_bind, h]

/-- A sequence that returns ran its first program to an answer. -/
theorem run_bind_returns {p : Program Op Resp ε α} {f : α → Program Op Resp ε β} {w w' : σ}
    {b : β} (h : (p.bind f).run exec w = (.ok b, w')) :
    ∃ a w₁, p.run exec w = (.ok a, w₁) ∧ (f a).run exec w₁ = (.ok b, w') := by
  rw [run_bind] at h
  cases hp : p.run exec w with
  | mk r w₁ =>
  rw [hp] at h
  cases r with
  | ok a => exact ⟨a, w₁, rfl, h⟩
  | error e => cases h

/-- `attempt` never raises and leaves the same state. -/
@[simp] theorem run_attempt (p : Program Op Resp ε α) (w : σ) :
    p.attempt.run exec w = (.ok (p.run exec w).1, (p.run exec w).2) := by
  induction p generalizing w with
  | ret a => rfl
  | raise e => rfl
  | call op k ih => exact ih (exec op w).1 (exec op w).2

/-- The cleanup runs after either outcome; its own exception wins. -/
theorem run_tryFinally {p : Program Op Resp ε α} {fin : Program Op Resp ε Unit} {w w' w'' : σ}
    {r : Except ε α} (hp : p.run exec w = (r, w')) (hfin : fin.run exec w' = (.ok (), w'')) :
    (p.tryFinally fin).run exec w = (r, w'') := by
  unfold tryFinally
  rw [run_bind, run_attempt, hp]
  simp only
  rw [run_bind_ok hfin]
  cases r with
  | ok a => rfl
  | error e => rfl

end run

/-! ## Execution one call at a time -/

/-- A service given as a relation: `step op w r w'` says that call `op` in state `w`
    may answer `r` and leave `w'`. -/
abbrev Relation (Op : Type) (Resp : Op → Type) (ε σ : Type) : Type :=
  (op : Op) → σ → Except ε (Resp op) → σ → Prop

/-- The relation of a deterministic service. -/
def Service.rel (exec : Service Op Resp ε σ) : Relation Op Resp ε σ :=
  fun op w r w' => exec op w = (r, w')

/-- `Steps step p w p' w'`: after some number of calls of `p` from `w`, the
    program `p'` remains to be run and the state is `w'`. A crash at that
    point leaves `w'` and drops `p'`. -/
inductive Steps (step : Relation Op Resp ε σ) :
    Program Op Resp ε α → σ → Program Op Resp ε α → σ → Prop where
  | here (p : Program Op Resp ε α) (w : σ) : Steps step p w p w
  | next {op : Op} {k : Except ε (Resp op) → Program Op Resp ε α} {w w' w'' : σ}
      {r : Except ε (Resp op)} {q : Program Op Resp ε α} :
      step op w r w' → Steps step (k r) w' q w'' → Steps step (.call op k) w q w''

/-- A service that allows more steps reaches whatever it reached before. -/
theorem Steps.mono {R S : Relation Op Resp ε σ} {p q : Program Op Resp ε α} {w w' : σ}
    (hsub : ∀ op w r w', R op w r w' → S op w r w') (h : Steps R p w q w') : Steps S p w q w' := by
  induction h with
  | here p w => exact .here p w
  | next hop _ ih => exact .next (hsub _ _ _ _ hop) ih

/-- What remains of a program, and the state, after `n` calls. -/
def after (exec : Service Op Resp ε σ) : Nat → Program Op Resp ε α → σ → Program Op Resp ε α × σ
  | 0, p, w => (p, w)
  | n + 1, .call op k, w => after exec n (k (exec op w).1) (exec op w).2
  | _ + 1, .ret a, w => (.ret a, w)
  | _ + 1, .raise e, w => (.raise e, w)

theorem steps_after (exec : Service Op Resp ε σ) (n : Nat) (p : Program Op Resp ε α) (w : σ) :
    Steps exec.rel p w (after exec n p w).1 (after exec n p w).2 := by
  induction n generalizing p w with
  | zero => exact .here p w
  | succ n ih =>
    cases p with
    | ret a => exact .here _ _
    | raise e => exact .here _ _
    | call op k => exact .next rfl (ih _ _)

/-- The same in a service that takes these steps in the states that satisfy `J`. -/
theorem steps_after_in {exec : Service Op Resp ε σ} {S : Relation Op Resp ε σ} {J : σ → Prop}
    (hstep : ∀ op w, J w → S op w (exec op w).1 (exec op w).2 ∧ J (exec op w).2) (n : Nat)
    (p : Program Op Resp ε α) {w : σ} (hJ : J w) :
    Steps S p w (after exec n p w).1 (after exec n p w).2 := by
  induction n generalizing p w with
  | zero => exact .here p w
  | succ n ih =>
    cases p with
    | ret a => exact .here _ _
    | raise e => exact .here _ _
    | call op k =>
      obtain ⟨hs, hJ'⟩ := hstep op w hJ
      exact .next hs (ih _ hJ')

/-- Each of the first `n` calls meets a condition where it is made. -/
def afterMeets (exec : Service Op Resp ε σ) (check : Op → σ → Bool) :
    Nat → Program Op Resp ε α → σ → Bool
  | 0, _, _ => true
  | n + 1, .call op k, w => check op w && afterMeets exec check n (k (exec op w).1) (exec op w).2
  | _ + 1, .ret _, _ => true
  | _ + 1, .raise _, _ => true

/-- The same in a service that takes these steps where the condition holds. -/
theorem steps_after_meets {exec : Service Op Resp ε σ} {S : Relation Op Resp ε σ}
    {check : Op → σ → Bool}
    (hstep : ∀ op w, check op w = true → S op w (exec op w).1 (exec op w).2) (n : Nat)
    (p : Program Op Resp ε α) (w : σ) (h : afterMeets exec check n p w = true) :
    Steps S p w (after exec n p w).1 (after exec n p w).2 := by
  induction n generalizing p w with
  | zero => exact .here p w
  | succ n ih =>
    cases p with
    | ret a => exact .here _ _
    | raise e => exact .here _ _
    | call op k =>
      rw [afterMeets, Bool.and_eq_true] at h
      exact .next (hstep op w h.1) (ih _ _ h.2)

/-- A run to the end is a sequence of steps. -/
theorem steps_run (exec : Service Op Resp ε σ) (p : Program Op Resp ε α) (w : σ) :
    ∃ q, Steps exec.rel p w q (p.run exec w).2 := by
  induction p generalizing w with
  | ret a => exact ⟨_, .here _ _⟩
  | raise e => exact ⟨_, .here _ _⟩
  | call op k ih =>
    obtain ⟨q, hq⟩ := ih (exec op w).1 (exec op w).2
    exact ⟨q, .next rfl hq⟩

end Program

end CaseAutomation.Framework
