import CaseAutomation.Framework.Program

/-! # Safety of Programs under Interference

    A `Contract` says what one thread may rely on and what it must keep:

    * `inv`   : the invariant of the shared state, kept by every call;
    * `rely`  : what the environment (other threads, expiry of locks) may do
      between two calls of this thread;
    * `guar`  : what every call of this thread does to the state;
    * `guard` : what must hold in the state in which a call is issued.

    `Safe C Q p w` is the judgement for one program. The two run rules lift
    it to whole systems:

    * `Session`: one program at a time, each stopped after any of its calls
      (a crash) or run to its end;
    * `Pool`   : any number of programs interleaved call by call.
-/

namespace CaseAutomation.Framework

open Program

variable {Op : Type} {Resp : Op → Type} {ε α β σ : Type}

/-- Rely, guarantee, invariant and call guards of one thread. -/
structure Contract (Op : Type) (Resp : Op → Type) (ε σ : Type) where
  /-- How the service answers this thread's calls. -/
  step : Relation Op Resp ε σ
  /-- The shared invariant. -/
  inv : σ → Prop
  /-- What may happen between two calls. -/
  rely : σ → σ → Prop
  /-- What each call of the thread does. -/
  guar : σ → σ → Prop
  /-- What must hold where a call is issued. -/
  guard : Op → σ → Prop

/-- `Safe C Q p w`: from `w`, whatever the environment does between its calls,
    `p` meets every call guard, keeps the invariant and the guarantee, and ends
    with an outcome satisfying `Q`. -/
def Safe (C : Contract Op Resp ε σ) (Q : Except ε α → σ → Prop) :
    Program Op Resp ε α → σ → Prop
  | .ret a, w => Q (.ok a) w
  | .raise e, w => Q (.error e) w
  | .call op k, w => ∀ w', C.rely w w' → C.inv w' → C.guard op w' ∧
      ∀ r w'', C.step op w' r w'' → C.inv w'' ∧ C.guar w' w'' ∧ Safe C Q (k r) w''

namespace Safe

variable {C : Contract Op Resp ε σ}

/-! ## Structural rules -/

theorem ret {Q : Except ε α → σ → Prop} {a : α} {w : σ} (h : Q (.ok a) w) :
    Safe C Q (.ret a) w := h

theorem raise {Q : Except ε α → σ → Prop} {e : ε} {w : σ} (h : Q (.error e) w) :
    Safe C Q (.raise e) w := h

/-- Weakening of the postcondition. -/
theorem weaken {Q R : Except ε α → σ → Prop} {p : Program Op Resp ε α} {w : σ}
    (h : Safe C Q p w) (hQ : ∀ r w, Q r w → R r w) : Safe C R p w := by
  induction p generalizing w with
  | ret a => exact hQ _ _ h
  | raise e => exact hQ _ _ h
  | call op k ih =>
    intro w' hrely hinv
    obtain ⟨hguard, hk⟩ := h w' hrely hinv
    refine ⟨hguard, fun r w'' hstep => ?_⟩
    obtain ⟨hinv', hguar, hsafe⟩ := hk r w'' hstep
    exact ⟨hinv', hguar, ih r hsafe⟩

/-- Safety only looks forward: it survives anything the environment may do, if its
    postcondition does. -/
theorem mono {Q : Except ε α → σ → Prop} {p : Program Op Resp ε α} {w w' : σ}
    (htrans : ∀ {a b c}, C.rely a b → C.rely b c → C.rely a c)
    (hQ : ∀ r w w', C.rely w w' → Q r w → Q r w')
    (h : Safe C Q p w) (hrely : C.rely w w') : Safe C Q p w' := by
  cases p with
  | ret a => exact hQ _ _ _ hrely h
  | raise e => exact hQ _ _ _ hrely h
  | call op k => exact fun w'' hr hinv => h w'' (htrans hrely hr) hinv

/-- Sequencing rule. -/
theorem bind {P : Except ε α → σ → Prop} {Q : Except ε β → σ → Prop}
    {p : Program Op Resp ε α} {f : α → Program Op Resp ε β} {w : σ}
    (h : Safe C P p w)
    (hok : ∀ a w', P (.ok a) w' → Safe C Q (f a) w')
    (herr : ∀ e w', P (.error e) w' → Q (.error e) w') :
    Safe C Q (p.bind f) w := by
  induction p generalizing w with
  | ret a => exact hok a w h
  | raise e => exact herr e w h
  | call op k ih =>
    intro w' hrely hinv
    obtain ⟨hguard, hk⟩ := h w' hrely hinv
    refine ⟨hguard, fun r w'' hstep => ?_⟩
    obtain ⟨hinv', hguar, hsafe⟩ := hk r w'' hstep
    exact ⟨hinv', hguar, ih r hsafe⟩

/-- `try/except` rule: the exception becomes an ordinary value. -/
theorem attempt {P : Except ε α → σ → Prop} {Q : Except ε (Except ε α) → σ → Prop}
    {p : Program Op Resp ε α} {w : σ} (h : Safe C P p w)
    (hQ : ∀ r w', P r w' → Q (.ok r) w') : Safe C Q p.attempt w := by
  induction p generalizing w with
  | ret a => exact hQ _ w h
  | raise e => exact hQ _ w h
  | call op k ih =>
    intro w' hrely hinv
    obtain ⟨hguard, hk⟩ := h w' hrely hinv
    refine ⟨hguard, fun r w'' hstep => ?_⟩
    obtain ⟨hinv', hguar, hsafe⟩ := hk r w'' hstep
    exact ⟨hinv', hguar, ih r hsafe⟩

/-- `try/finally` rule: the cleanup runs after either outcome. -/
theorem tryFinally {P Q : Except ε α → σ → Prop}
    {p : Program Op Resp ε α} {fin : Program Op Resp ε Unit} {w : σ}
    (h : Safe C P p w)
    (hfin : ∀ r w', P r w' → Safe C (fun f w'' =>
      match f with
      | .ok _ => Q r w''
      | .error e => Q (.error e) w'') fin w') :
    Safe C Q (p.tryFinally fin) w := by
  -- `attempt` turns every outcome of `p` into a value, so its own error case is void
  refine bind (P := fun r w' => match r with
    | .ok r => P r w'
    | .error _ => False) (attempt h fun r w' hr => hr) (fun r w' hr => ?_) (fun e w' hr => hr.elim)
  refine bind (hfin r w' hr) (fun _ w'' hQ => ?_) (fun e w'' hQ => hQ)
  cases r with
  | ok a => exact hQ
  | error e => exact hQ

/-- Rule for a single call. -/
theorem perform {op : Op} {Q : Except ε (Resp op) → σ → Prop} {w : σ}
    (h : ∀ w', C.rely w w' → C.inv w' → C.guard op w' ∧
      ∀ r w'', C.step op w' r w'' → C.inv w'' ∧ C.guar w' w'' ∧ Q r w'') :
    Safe C Q (Program.perform op) w := by
  intro w' hrely hinv
  obtain ⟨hguard, hk⟩ := h w' hrely hinv
  refine ⟨hguard, fun r w'' hstep => ?_⟩
  obtain ⟨hinv', hguar, hQ⟩ := hk r w'' hstep
  refine ⟨hinv', hguar, ?_⟩
  cases r with
  | ok a => exact hQ
  | error e => exact hQ

/-- A program whose outcome nobody looks at. -/
theorem discard {Q : Except ε α → σ → Prop} {p : Program Op Resp ε α} {w : σ}
    (h : Safe C Q p w) : Safe C (fun _ _ => True) p.discard w :=
  bind h (fun _ _ _ => trivial) (fun _ _ _ => trivial)

end Safe

/-! ## Partial correctness

    `Yields C R p w`: `p` is safe, and what it returns normally satisfies `R`. Most
    programs promise nothing about the state in which they raise. -/

/-- Safe, with a postcondition for normal returns only. -/
def Yields (C : Contract Op Resp ε σ) (R : α → σ → Prop) (p : Program Op Resp ε α) (w : σ) :
    Prop :=
  Safe C (fun r w => ∀ a, r = .ok a → R a w) p w

namespace Yields

variable {C : Contract Op Resp ε σ}

theorem ret {R : α → σ → Prop} {a : α} {w : σ} (h : R a w) : Yields C R (.ret a) w := by
  intro b hb
  cases hb
  exact h

theorem raise {R : α → σ → Prop} {e : ε} {w : σ} : Yields C R (.raise e) w := by
  intro b hb
  cases hb

theorem ofExcept {R : α → σ → Prop} {r : Except ε α} {w : σ} (h : ∀ a, r = .ok a → R a w) :
    Yields C R (Program.ofExcept r) w := by
  cases r with
  | ok a => exact ret (h a rfl)
  | error e => exact raise

theorem weaken {R R' : α → σ → Prop} {p : Program Op Resp ε α} {w : σ} (h : Yields C R p w)
    (hR : ∀ a w, R a w → R' a w) : Yields C R' p w :=
  Safe.weaken h fun _ w hr a ha => hR a w (hr a ha)

/-- Sequencing rule. -/
theorem bind {P : α → σ → Prop} {R : β → σ → Prop} {p : Program Op Resp ε α}
    {f : α → Program Op Resp ε β} {w : σ} (h : Yields C P p w)
    (hf : ∀ a w', P a w' → Yields C R (f a) w') : Yields C R (p.bind f) w := by
  refine Safe.bind h (fun a w' ha => hf a w' (ha a rfl)) (fun e w' _ b hb => ?_)
  cases hb

/-- `try/except` rule. -/
theorem attempt {P : α → σ → Prop} {R : Except ε α → σ → Prop} {p : Program Op Resp ε α} {w : σ}
    (h : Yields C P p w) (hR : ∀ r w', (∀ a, r = .ok a → P a w') → R r w') :
    Yields C R p.attempt w := by
  refine Safe.attempt h fun r w' hr s hs => ?_
  cases hs
  exact hR r w' hr

/-- `try/finally` rule, for a cleanup that needs nothing and keeps nothing. -/
theorem tryFinally {P R : α → σ → Prop} {p : Program Op Resp ε α} {fin : Program Op Resp ε Unit}
    {w : σ} (h : Yields C P p w)
    (hfin : ∀ (r : Except ε α) w', (∀ a, r = .ok a → P a w') →
      Yields C (fun _ w'' => ∀ a, r = .ok a → R a w'') fin w') :
    Yields C R (p.tryFinally fin) w := by
  refine Safe.tryFinally h fun r w' hr => Safe.weaken (hfin r w' hr) fun f w'' hf => ?_
  cases f with
  | ok u => exact hf u rfl
  | error e => intro b hb; cases hb

/-- Rule for a single call. -/
theorem perform {op : Op} {R : Resp op → σ → Prop} {w : σ}
    (h : ∀ w', C.rely w w' → C.inv w' → C.guard op w' ∧
      ∀ r w'', C.step op w' r w'' → C.inv w'' ∧ C.guar w' w'' ∧ ∀ a, r = .ok a → R a w'') :
    Yields C R (Program.perform op) w :=
  Safe.perform h

theorem discard {R : α → σ → Prop} {p : Program Op Resp ε α} {w : σ} (h : Yields C R p w) :
    Safe C (fun _ _ => True) p.discard w :=
  Safe.discard h

/-- What a program keeps on both ways out, it keeps on the normal one. -/
theorem of_keeps {A : σ → Prop} {p : Program Op Resp ε α} {w : σ}
    (h : Safe C (fun _ w' => A w') p w) : Yields C (fun _ w' => A w') p w :=
  Safe.weaken h fun _ _ hA _ _ => hA

/-- `try/except` around a program that keeps an assertion on both ways out. -/
theorem attempt_keeps {A : σ → Prop} {p : Program Op Resp ε α} {w : σ}
    (h : Safe C (fun _ w' => A w') p w) : Yields C (fun _ w' => A w') p.attempt w :=
  Safe.attempt h fun _ _ hA _ _ => hA

end Yields

/-! ## Sessions: one program at a time, with crashes -/

/-- `Session step drift init start p w`: in some history, `p` is what remains of the
    program in flight and `w` is the state. A new program may be started at any
    point; what remained of the old one is dropped, so a crash may fall between
    any two calls. `drift` is what the environment does on its own. -/
inductive Session (step : Relation Op Resp ε σ) (drift : σ → σ → Prop) (init : σ → Prop)
    (start : σ → Program Op Resp ε Unit → Prop) : Program Op Resp ε Unit → σ → Prop where
  | boot {w : σ} : init w → Session step drift init start (.ret ()) w
  | start {p q : Program Op Resp ε Unit} {w : σ} :
      Session step drift init start p w → start w q → Session step drift init start q w
  | tick {op : Op} {k : Except ε (Resp op) → Program Op Resp ε Unit} {w w' : σ}
      {r : Except ε (Resp op)} :
      Session step drift init start (.call op k) w → step op w r w' →
      Session step drift init start (k r) w'
  | drift {p : Program Op Resp ε Unit} {w w' : σ} :
      Session step drift init start p w → drift w w' → Session step drift init start p w'

/-- **Run rule for sessions.** If every program that may start is safe where it
    starts, the invariant holds in every state of every history and what remains
    of the program in flight is safe. -/
theorem Session.safe {C : Contract Op Resp ε σ} {drift : σ → σ → Prop} {init : σ → Prop}
    {start : σ → Program Op Resp ε Unit → Prop} {p : Program Op Resp ε Unit} {w : σ}
    (hrefl : ∀ w, C.rely w w)
    (htrans : ∀ {a b c}, C.rely a b → C.rely b c → C.rely a c)
    (hinit : ∀ w, init w → C.inv w)
    (hstart : ∀ w q, C.inv w → start w q → Safe C (fun _ _ => True) q w)
    (hdrift : ∀ w w', C.inv w → drift w w' → C.inv w' ∧ C.rely w w')
    (h : Session C.step drift init start p w) :
    C.inv w ∧ Safe C (fun _ _ => True) p w := by
  induction h with
  | boot hi => exact ⟨hinit _ hi, trivial⟩
  | start _ hs ih => exact ⟨ih.1, hstart _ _ ih.1 hs⟩
  | tick _ hstep ih =>
    obtain ⟨hinv, hsafe⟩ := ih
    obtain ⟨-, hk⟩ := hsafe _ (hrefl _) hinv
    obtain ⟨hinv', -, hsafe'⟩ := hk _ _ hstep
    exact ⟨hinv', hsafe'⟩
  | drift _ hd ih =>
    obtain ⟨hinv, hrely⟩ := hdrift _ _ ih.1 hd
    exact ⟨hinv, ih.2.mono htrans (fun _ _ _ _ h => h) hrely⟩

/-- What holds where the calls of every history are made, and where its programs start, may be
    added to the two relations. -/
theorem Session.strengthen {step : Relation Op Resp ε σ} {drift : σ → σ → Prop} {init : σ → Prop}
    {start : σ → Program Op Resp ε Unit → Prop} {P : Op → σ → Prop} {S : σ → Prop}
    {p : Program Op Resp ε Unit} {w : σ}
    (hP : ∀ op k w, Session step drift init start (.call op k) w → P op w)
    (hS : ∀ p w, Session step drift init start p w → S w)
    (h : Session step drift init start p w) :
    Session (fun op w r w' => step op w r w' ∧ P op w) drift init (fun w q => start w q ∧ S w) p w := by
  induction h with
  | boot hi => exact .boot hi
  | start hbefore hs ih => exact .start ih ⟨hs, hS _ _ hbefore⟩
  | tick hbefore hstep ih => exact .tick ih ⟨hstep, hP _ _ _ hbefore⟩
  | drift _ hd ih => exact .drift ih hd

/-! ## Pools: interleaved programs -/

/-- `Pool step drift init spawn w ts`: some interleaving reaches state `w` with the
    programs `ts` still to run. Thread `i` is the `i`-th program ever started;
    a crashed thread stays in the list with nothing left to do. -/
inductive Pool (step : Nat → Relation Op Resp ε σ) (drift : σ → σ → Prop) (init : σ → Prop)
    (spawn : σ → Program Op Resp ε Unit → Prop) :
    σ → List (Program Op Resp ε Unit) → Prop where
  | boot {w : σ} : init w → Pool step drift init spawn w []
  | spawn {w : σ} {ts : List (Program Op Resp ε Unit)} {p : Program Op Resp ε Unit} :
      Pool step drift init spawn w ts → spawn w p → Pool step drift init spawn w (ts ++ [p])
  | advance {w w' : σ} {ts : List (Program Op Resp ε Unit)} (i : Nat) {op : Op}
      {k : Except ε (Resp op) → Program Op Resp ε Unit} {r : Except ε (Resp op)} :
      Pool step drift init spawn w ts → ts[i]? = some (.call op k) → step i op w r w' →
      Pool step drift init spawn w' (ts.set i (k r))
  | crash {w : σ} {ts : List (Program Op Resp ε Unit)} (i : Nat) :
      Pool step drift init spawn w ts → Pool step drift init spawn w (ts.set i (.ret ()))
  | drift {w w' : σ} {ts : List (Program Op Resp ε Unit)} :
      Pool step drift init spawn w ts → drift w w' → Pool step drift init spawn w' ts

/-- The contract of thread `i` in a pool: it guarantees to every other thread what
    that thread relies on. -/
def threadContract (step : Nat → Relation Op Resp ε σ) (inv : σ → Prop)
    (rely : Nat → σ → σ → Prop) (guard : Nat → Op → σ → Prop) (i : Nat) :
    Contract Op Resp ε σ where
  step := step i
  inv := inv
  rely := rely i
  guar := fun w w' => ∀ j, j ≠ i → rely j w w'
  guard := guard i

/-- **Run rule for pools.** The invariant holds in every reachable state, and every
    thread is safe there. -/
theorem Pool.safe {step : Nat → Relation Op Resp ε σ} {drift : σ → σ → Prop}
    {init : σ → Prop} {spawn : σ → Program Op Resp ε Unit → Prop}
    {inv : σ → Prop} {rely : Nat → σ → σ → Prop} {G : Nat → Op → σ → Prop}
    {w : σ} {ts : List (Program Op Resp ε Unit)}
    (hrefl : ∀ i w, rely i w w)
    (htrans : ∀ i {a b c}, rely i a b → rely i b c → rely i a c)
    (hinit : ∀ w, init w → inv w)
    (hspawn : ∀ w p, inv w → spawn w p → ∀ i,
      Safe (threadContract step inv rely G i) (fun _ _ => True) p w)
    (hdrift : ∀ w w', inv w → drift w w' → inv w' ∧ ∀ i, rely i w w')
    (h : Pool step drift init spawn w ts) :
    inv w ∧ ∀ i p, ts[i]? = some p →
      Safe (threadContract step inv rely G i) (fun _ _ => True) p w := by
  induction h with
  | boot hi => exact ⟨hinit _ hi, fun i p hp => by simp at hp⟩
  | @spawn w ts p _ hs ih =>
    refine ⟨ih.1, fun i q hq => ?_⟩
    rw [List.getElem?_append] at hq
    split at hq
    · exact ih.2 i q hq
    · -- the only new index is the one of the spawned program
      have hqp : q = p := by
        rcases hn : i - ts.length with _ | n
        · rw [hn] at hq; simpa using hq.symm
        · rw [hn] at hq; simp at hq
      subst hqp
      exact hspawn _ _ ih.1 hs i
  | @advance w w' ts i op k r _ hi hstep ih =>
    obtain ⟨hinv, hall⟩ := ih
    obtain ⟨-, hk⟩ := hall i _ hi w (hrefl i w) hinv
    obtain ⟨hinv', hguar, hsafe⟩ := hk r w' hstep
    refine ⟨hinv', fun j p hp => ?_⟩
    by_cases hji : j = i
    · subst hji
      have hlt : j < ts.length := (List.getElem?_eq_some_iff.mp hi).1
      rw [List.getElem?_set_self hlt] at hp
      obtain rfl := Option.some.inj hp
      exact hsafe
    · rw [List.getElem?_set_ne (Ne.symm hji)] at hp
      exact (hall j p hp).mono (htrans j) (fun _ _ _ _ h => h) (hguar j hji)
  | @crash w ts i _ ih =>
    refine ⟨ih.1, fun j p hp => ?_⟩
    by_cases hji : j = i
    · subst hji
      rw [List.getElem?_set] at hp
      split at hp
      · split at hp
        · obtain rfl := Option.some.inj hp
          trivial
        · cases hp
      · exact ih.2 j p hp
    · rw [List.getElem?_set_ne (Ne.symm hji)] at hp
      exact ih.2 j p hp
  | drift _ hd ih =>
    obtain ⟨hinv, hrely⟩ := hdrift _ _ ih.1 hd
    exact ⟨hinv, fun i p hp => (ih.2 i p hp).mono (htrans i) (fun _ _ _ _ h => h) (hrely i)⟩

/-- The guard of the next call of a thread holds in every reachable state. -/
theorem Pool.guard_holds {step : Nat → Relation Op Resp ε σ} {inv : σ → Prop}
    {rely : Nat → σ → σ → Prop} {G : Nat → Op → σ → Prop} {w : σ}
    {ts : List (Program Op Resp ε Unit)} {i : Nat} {op : Op}
    {k : Except ε (Resp op) → Program Op Resp ε Unit}
    (hrefl : ∀ i w, rely i w w)
    (h : inv w ∧ ∀ i p, ts[i]? = some p →
      Safe (threadContract step inv rely G i) (fun _ _ => True) p w)
    (hi : ts[i]? = some (.call op k)) : G i op w :=
  (h.2 i _ hi w (hrefl i w) h.1).1

end CaseAutomation.Framework
