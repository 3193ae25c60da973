import CaseAutomation.Framework.Issues

/-! # Programs That Another Program Can Mimic

    A front end calls a core program and does some reading of its own before or after it.
    `Mimics idle p q` says that `q` can make every call of `p`, in the same order, except
    those that `idle` names: these `p` makes alone.

    * `Mimics.of_issues`: a program of idle calls is mimicked by every program;
    * `Mimics.finish`   : what is done with the outcome of a program, by idle calls only,
      does not matter;
    * `Pool.mimicked`   : where idle calls leave the state as it is, a pool of front ends
      reaches no state that a pool of core programs does not reach (a stuttering simulation,
      thread by thread).
-/

namespace CaseAutomation.Framework

open Program

variable {Op : Type} {Resp : Op → Type} {ε α β γ σ : Type} {idle : Op → Prop}

/-- `q` can make the calls of `p`, but for the idle ones. -/
inductive Mimics (idle : Op → Prop) : Program Op Resp ε α → Program Op Resp ε β → Prop where
  /-- What has ended makes no more calls; the other one need not have ended. -/
  | ret (a : α) (q : Program Op Resp ε β) : Mimics idle (.ret a) q
  | raise (e : ε) (q : Program Op Resp ε β) : Mimics idle (.raise e) q
  | call (op : Op) {k : Except ε (Resp op) → Program Op Resp ε α}
      {k' : Except ε (Resp op) → Program Op Resp ε β} :
      (∀ r, Mimics idle (k r) (k' r)) → Mimics idle (.call op k) (.call op k')
  | alone (op : Op) {k : Except ε (Resp op) → Program Op Resp ε α} {q : Program Op Resp ε β} :
      idle op → (∀ r, Mimics idle (k r) q) → Mimics idle (.call op k) q

namespace Mimics

theorem refl (p : Program Op Resp ε α) : Mimics idle p p := by
  induction p with
  | ret a => exact .ret a _
  | raise e => exact .raise e _
  | call op k ih => exact .call op ih

/-- A program of idle calls is mimicked by every program. -/
theorem of_issues {p : Program Op Resp ε α} (h : Issues idle p) (q : Program Op Resp ε β) :
    Mimics idle p q := by
  induction p with
  | ret a => exact .ret a q
  | raise e => exact .raise e q
  | call op k ih => exact .alone op h.1 fun r => ih r (h.2 r)

/-- Idle calls after a program, whatever it returned or raised. -/
theorem finish {p : Program Op Resp ε α} {f : Except ε α → Program Op Resp ε β}
    {g : α → Program Op Resp ε γ} (hf : ∀ r, Issues idle (f r)) :
    Mimics idle (p.attempt.bind f) (p.bind g) := by
  induction p with
  | ret a => exact of_issues (hf (.ok a)) (g a)
  | raise e => exact of_issues (hf (.error e)) (.raise e)
  | call op k ih => exact .call op ih

/-- Idle calls after a program that has returned. -/
theorem finish_ok {p : Program Op Resp ε α} {f : α → Program Op Resp ε β}
    {g : α → Program Op Resp ε γ} (hf : ∀ a, Issues idle (f a)) :
    Mimics idle (p.bind f) (p.bind g) := by
  induction p with
  | ret a => exact of_issues (hf a) (g a)
  | raise e => exact .raise e _
  | call op k ih => exact .call op ih

/-- The return value of the mimicking program is free, and so is that of the mimicked one. -/
theorem discard_left {p : Program Op Resp ε α} {q : Program Op Resp ε β} (h : Mimics idle p q) :
    Mimics idle p.discard q := by
  induction h with
  | ret a q => exact .ret () q
  | raise e q => exact .raise e q
  | call op _ ih => exact .call op ih
  | alone op hidle _ ih => exact .alone op hidle ih

/-- A call that is not idle is the next call of both. -/
theorem next {op : Op} {k : Except ε (Resp op) → Program Op Resp ε α} {q : Program Op Resp ε β}
    (h : Mimics idle (.call op k) q) (hop : ¬ idle op) : ∃ k', q = .call op k' := by
  cases h with
  | call op hk => exact ⟨_, rfl⟩
  | alone op hidle _ => exact absurd hidle hop

end Mimics

/-- Every thread is mimicked by the thread at its place. -/
structure Follows (idle : Op → Prop) (ts ts' : List (Program Op Resp ε Unit)) : Prop where
  length : ts'.length = ts.length
  threads : ∀ (i : Nat) (p q : Program Op Resp ε Unit), ts[i]? = some p → ts'[i]? = some q → Mimics idle p q

namespace Follows
variable {ts ts' : List (Program Op Resp ε Unit)} {p q : Program Op Resp ε Unit}

theorem nil : Follows idle ([] : List (Program Op Resp ε Unit)) [] := by
  refine ⟨rfl, ?_⟩
  intro i p q hp
  simp at hp

/-- The thread that mimics a given one. -/
theorem at_place (h : Follows idle ts ts') {i : Nat} (hp : ts[i]? = some p) :
    ∃ q, ts'[i]? = some q ∧ Mimics idle p q := by
  have hlt : i < ts'.length := by
    rw [h.length]
    exact (List.getElem?_eq_some_iff.mp hp).1
  exact ⟨ts'[i], List.getElem?_eq_getElem hlt, h.threads i p _ hp (List.getElem?_eq_getElem hlt)⟩

theorem append (h : Follows idle ts ts') (hpq : Mimics idle p q) :
    Follows idle (ts ++ [p]) (ts' ++ [q]) := by
  refine ⟨by simp [h.length], ?_⟩
  intro i p' q' hp' hq'
  by_cases hi : i < ts.length
  · rw [List.getElem?_append_left hi] at hp'
    rw [List.getElem?_append_left (by rw [h.length]; exact hi)] at hq'
    exact h.threads i p' q' hp' hq'
  · -- the only other place is that of the new thread
    have hlt := (List.getElem?_eq_some_iff.mp hp').1
    have hlast : i = ts.length := by
      simp at hlt
      omega
    subst hlast
    rw [List.getElem?_concat_length] at hp'
    rw [← h.length, List.getElem?_concat_length] at hq'
    obtain rfl := Option.some.inj hp'
    obtain rfl := Option.some.inj hq'
    exact hpq

theorem set (h : Follows idle ts ts') (i : Nat) (hpq : Mimics idle p q) :
    Follows idle (ts.set i p) (ts'.set i q) := by
  refine ⟨by simp [h.length], ?_⟩
  intro j p' q' hp' hq'
  by_cases hj : i = j
  · subst hj
    have hlt := (List.getElem?_eq_some_iff.mp hp').1
    have hlt' := (List.getElem?_eq_some_iff.mp hq').1
    rw [List.length_set] at hlt hlt'
    rw [List.getElem?_set_self hlt] at hp'
    rw [List.getElem?_set_self hlt'] at hq'
    obtain rfl := Option.some.inj hp'
    obtain rfl := Option.some.inj hq'
    exact hpq
  · rw [List.getElem?_set_ne hj] at hp' hq'
    exact h.threads j p' q' hp' hq'

/-- Only the mimicked thread moves. -/
theorem set_left (h : Follows idle ts ts') {i : Nat} (hq : ts'[i]? = some q)
    (hpq : Mimics idle p q) : Follows idle (ts.set i p) ts' := by
  obtain ⟨hlt, hget⟩ := List.getElem?_eq_some_iff.mp hq
  have hset := h.set i hpq
  rw [← hget, List.set_getElem_self] at hset
  exact hset

end Follows

/-- **Front ends add nothing.** Where idle calls leave the state as it is and every front end is
    mimicked by a core program that may start in the same state, every state that a pool of
    front ends reaches is reached by a pool of core programs, thread by thread. -/
theorem Pool.mimicked {step : Nat → Relation Op Resp ε σ} {drift : σ → σ → Prop} {init : σ → Prop}
    {spawn spawn' : σ → Program Op Resp ε Unit → Prop} {w : σ}
    {ts : List (Program Op Resp ε Unit)}
    (hidle : ∀ i op w r w', idle op → step i op w r w' → w' = w)
    (hspawn : ∀ w p, spawn w p → ∃ q, spawn' w q ∧ Mimics idle p q)
    (h : Pool step drift init spawn w ts) :
    ∃ ts', Pool step drift init spawn' w ts' ∧ Follows idle ts ts' := by
  induction h with
  | boot hi => exact ⟨[], .boot hi, .nil⟩
  | spawn _ hs ih =>
    obtain ⟨ts', hpool, hfollows⟩ := ih
    obtain ⟨q, hq, hpq⟩ := hspawn _ _ hs
    exact ⟨ts' ++ [q], .spawn hpool hq, hfollows.append hpq⟩
  | @advance w w' ts i op k r _ hi hstep ih =>
    obtain ⟨ts', hpool, hfollows⟩ := ih
    obtain ⟨q, hq, hpq⟩ := hfollows.at_place hi
    cases hpq with
    | call op hk => exact ⟨_, .advance i hpool hq hstep, hfollows.set i (hk r)⟩
    | alone op hop hk =>
      -- the idle call is a stuttering step of the core
      obtain rfl := hidle i op w r w' hop hstep
      exact ⟨ts', hpool, hfollows.set_left hq (hk r)⟩
  | @crash w ts i _ ih =>
    obtain ⟨ts', hpool, hfollows⟩ := ih
    exact ⟨ts'.set i (.ret ()), .crash i hpool, hfollows.set i (.ret () _)⟩
  | drift _ hd ih =>
    obtain ⟨ts', hpool, hfollows⟩ := ih
    exact ⟨ts', .drift hpool hd, hfollows⟩

end CaseAutomation.Framework
