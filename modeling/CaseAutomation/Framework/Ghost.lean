import CaseAutomation.Framework.Safety

/-! # Ghost State and Sessions as Pools

    * `ghosted`: a pool whose state also remembers which thread made which call.
      Every pool has such a history (`Pool.with_ghost`), so an invariant may speak
      about it although the modelled program keeps no such record.
    * `Pool.map`: a pool seen through a function of its state.
    * `Session.pool`: a session is a pool in which every program is crashed before
      the next one starts, so what holds in every pool holds in every session.
-/

namespace CaseAutomation.Framework

open Program

variable {Op : Type} {Resp : Op → Type} {ε σ γ : Type}

/-- The step relation with a ghost component updated by `note`. -/
def ghosted (step : Nat → Relation Op Resp ε σ) (note : Nat → Op → γ → γ) (i : Nat) :
    Relation Op Resp ε (σ × γ) :=
  fun op s r s' => step i op s.1 r s'.1 ∧ s'.2 = note i op s.2

/-- What the environment does leaves the ghost component alone. -/
def ghostDrift (drift : σ → σ → Prop) (s s' : σ × γ) : Prop :=
  drift s.1 s'.1 ∧ s'.2 = s.2

/-- Every pool can be decorated with a ghost component. -/
theorem Pool.with_ghost {step : Nat → Relation Op Resp ε σ} {drift : σ → σ → Prop}
    {init : σ → Prop} {spawn : σ → Program Op Resp ε Unit → Prop} {w : σ}
    {ts : List (Program Op Resp ε Unit)}
    (note : Nat → Op → γ → γ) (g₀ : γ) (h : Pool step drift init spawn w ts) :
    ∃ g, Pool (ghosted step note) (ghostDrift drift) (fun s => init s.1 ∧ s.2 = g₀)
      (fun s p => spawn s.1 p) (w, g) ts := by
  induction h with
  | boot hi => exact ⟨g₀, .boot ⟨hi, rfl⟩⟩
  | spawn _ hs ih =>
    obtain ⟨g, hg⟩ := ih
    exact ⟨g, .spawn hg hs⟩
  | advance i _ hi hstep ih =>
    obtain ⟨g, hg⟩ := ih
    exact ⟨_, .advance i hg hi ⟨hstep, rfl⟩⟩
  | crash i _ ih =>
    obtain ⟨g, hg⟩ := ih
    exact ⟨g, .crash i hg⟩
  | drift _ hd ih =>
    obtain ⟨g, hg⟩ := ih
    exact ⟨g, .drift hg ⟨hd, rfl⟩⟩

/-- A pool seen through a function of its state. -/
theorem Pool.map {τ : Type} {step : Nat → Relation Op Resp ε σ} {drift : σ → σ → Prop}
    {init : σ → Prop} {spawn : σ → Program Op Resp ε Unit → Prop} {w : σ}
    {ts : List (Program Op Resp ε Unit)} {step' : Nat → Relation Op Resp ε τ}
    {drift' : τ → τ → Prop} {init' : τ → Prop} {spawn' : τ → Program Op Resp ε Unit → Prop}
    (f : σ → τ) (hinit : ∀ w, init w → init' (f w)) (hspawn : ∀ w p, spawn w p → spawn' (f w) p)
    (hstep : ∀ i op w r w', step i op w r w' → step' i op (f w) r (f w'))
    (hdrift : ∀ w w', drift w w' → drift' (f w) (f w'))
    (h : Pool step drift init spawn w ts) : Pool step' drift' init' spawn' (f w) ts := by
  induction h with
  | boot hi => exact .boot (hinit _ hi)
  | spawn _ hs ih => exact .spawn ih (hspawn _ _ hs)
  | advance i _ hi hop ih => exact .advance i ih hi (hstep i _ _ _ _ hop)
  | crash i _ ih => exact .crash i ih
  | drift _ hd ih => exact .drift ih (hdrift _ _ hd)

/-- One thread of a pool may run alone for a while. -/
theorem Pool.alone {step : Nat → Relation Op Resp ε σ} {drift : σ → σ → Prop}
    {init : σ → Prop} {spawn : σ → Program Op Resp ε Unit → Prop} {w w' : σ}
    {ts : List (Program Op Resp ε Unit)} {i : Nat} {p q : Program Op Resp ε Unit}
    {R : Relation Op Resp ε σ} (hsub : ∀ op w r w', R op w r w' → step i op w r w')
    (h : Pool step drift init spawn w ts) (hi : ts[i]? = some p) (hs : Steps R p w q w') :
    Pool step drift init spawn w' (ts.set i q) := by
  induction hs generalizing ts with
  | here p w =>
    obtain ⟨hlt, hp⟩ := List.getElem?_eq_some_iff.mp hi
    rw [← hp, List.set_getElem_self]
    exact h
  | @next op k w w' w'' r q hop hsteps ih =>
    have hlt : i < ts.length := (List.getElem?_eq_some_iff.mp hi).1
    have hnext := Pool.advance i h hi (hsub op w r w' hop)
    have hrest := ih hnext (List.getElem?_set_self hlt)
    rw [List.set_set] at hrest
    exact hrest

/-- A program that may start is run to its end. -/
theorem Pool.served {step : Nat → Relation Op Resp ε σ} {drift : σ → σ → Prop}
    {init : σ → Prop} {spawn : σ → Program Op Resp ε Unit → Prop} {w : σ}
    {ts : List (Program Op Resp ε Unit)} {p : Program Op Resp ε Unit} {exec : Service Op Resp ε σ}
    (hexec : ∀ i op w, step i op w (exec op w).1 (exec op w).2)
    (h : Pool step drift init spawn w ts) (hp : spawn w p) :
    ∃ ts', Pool step drift init spawn (p.run exec w).2 ts' := by
  obtain ⟨q, hq⟩ := steps_run exec p w
  refine ⟨_, Pool.alone (i := ts.length) (R := exec.rel) ?_ (.spawn h hp) (by simp) hq⟩
  intro op w r w' hop
  have hstep := hexec ts.length op w
  rw [hop] at hstep
  exact hstep

/-- A session is a pool whose last thread, if any, is the program in flight. The pool may
    allow more steps and more programs. -/
theorem Session.pool {step : Relation Op Resp ε σ} {drift : σ → σ → Prop} {init : σ → Prop}
    {start : σ → Program Op Resp ε Unit → Prop} {p : Program Op Resp ε Unit} {w : σ}
    {step' : Nat → Relation Op Resp ε σ} {spawn : σ → Program Op Resp ε Unit → Prop}
    (hstep : ∀ i op w r w', step op w r w' → step' i op w r w')
    (hstart : ∀ w q, start w q → spawn w q)
    (h : Session step drift init start p w) :
    ∃ ts, Pool step' drift init spawn w ts ∧ (p = .ret () ∨ ∃ us, ts = us ++ [p]) := by
  induction h with
  | boot hi => exact ⟨[], .boot hi, Or.inl rfl⟩
  | start _ hs ih =>
    obtain ⟨ts, hpool, -⟩ := ih
    exact ⟨_, .spawn hpool (hstart _ _ hs), Or.inr ⟨ts, rfl⟩⟩
  | @tick op k w w' r _ hop ih =>
    obtain ⟨ts, hpool, hlast⟩ := ih
    rcases hlast with hret | ⟨us, rfl⟩
    · cases hret
    · have hpool' := Pool.advance us.length (k := k) hpool (by simp) (hstep _ _ _ _ _ hop)
      rw [List.set_append_right _ _ (Nat.le_refl _)] at hpool'
      exact ⟨_, hpool', Or.inr ⟨us, by simp⟩⟩
  | drift _ hd ih =>
    obtain ⟨ts, hpool, hlast⟩ := ih
    exact ⟨ts, .drift hpool hd, hlast⟩

/-- The program in flight makes some of its calls. -/
theorem Session.proceed {step : Relation Op Resp ε σ} {drift : σ → σ → Prop} {init : σ → Prop}
    {start : σ → Program Op Resp ε Unit → Prop} {p q : Program Op Resp ε Unit} {w w' : σ}
    (h : Session step drift init start p w) (hs : Steps step p w q w') :
    Session step drift init start q w' := by
  induction hs with
  | here p w => exact h
  | next hop _ ih => exact ih (.tick h hop)

end CaseAutomation.Framework
