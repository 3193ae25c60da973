import CaseAutomation.Framework.Safety

/-! # A Fixed Set of Threads

    `Interleaving step w ts w' ts'`: the programs `ts`, all started in `w` and none of them
    crashing, are interleaved call by call and reach `w'` with `ts'` left to run. As nobody
    crashes, a thread that has ended has met its postcondition (`Interleaving.safe`).

    `with_ghost` lets an invariant remember who made which call with which answer;
    `play` computes the interleaving that a schedule (a list of thread numbers) describes.
-/

namespace CaseAutomation.Framework

open Program

variable {Op : Type} {Resp : Op → Type} {ε σ α : Type}

/-- The program has returned or raised. -/
def Program.ended : Program Op Resp ε α → Bool
  | .call _ _ => false
  | _ => true

/-- Any number of calls of any of the threads. -/
inductive Interleaving (step : Nat → Relation Op Resp ε σ) :
    σ → List (Program Op Resp ε α) → σ → List (Program Op Resp ε α) → Prop where
  | here (w : σ) (ts : List (Program Op Resp ε α)) : Interleaving step w ts w ts
  | next {w w' w'' : σ} {ts ts'' : List (Program Op Resp ε α)} (i : Nat) {op : Op}
      {k : Except ε (Resp op) → Program Op Resp ε α} {r : Except ε (Resp op)} :
      ts[i]? = some (.call op k) → step i op w r w' →
      Interleaving step w' (ts.set i (k r)) w'' ts'' → Interleaving step w ts w'' ts''

section rules
variable {step : Nat → Relation Op Resp ε σ} {inv : σ → Prop} {rely : Nat → σ → σ → Prop}
  {G : Nat → Op → σ → Prop} {Q : Nat → Except ε α → σ → Prop} {w w' : σ}
  {ts ts' : List (Program Op Resp ε α)}

/-- One call of one thread: its guard holds, and afterwards all threads are safe again. -/
theorem threads_step {i : Nat} {op : Op} {k : Except ε (Resp op) → Program Op Resp ε α}
    {r : Except ε (Resp op)} (hrefl : ∀ i w, rely i w w)
    (htrans : ∀ i {a b c}, rely i a b → rely i b c → rely i a c)
    (hQ : ∀ i r w w', rely i w w' → Q i r w → Q i r w')
    (hinv : inv w)
    (hsafe : ∀ i p, ts[i]? = some p → Safe (threadContract step inv rely G i) (Q i) p w)
    (hi : ts[i]? = some (.call op k)) (hstep : step i op w r w') :
    G i op w ∧ inv w' ∧ ∀ j p, (ts.set i (k r))[j]? = some p →
      Safe (threadContract step inv rely G j) (Q j) p w' := by
  obtain ⟨hguard, hk⟩ := hsafe i _ hi w (hrefl i w) hinv
  obtain ⟨hinv', hguar, hrest⟩ := hk r w' hstep
  refine ⟨hguard, hinv', ?_⟩
  intro j p hp
  by_cases hji : j = i
  · -- the thread that made the call
    subst hji
    have hlt : j < ts.length := (List.getElem?_eq_some_iff.mp hi).1
    rw [List.getElem?_set_self hlt] at hp
    obtain rfl := Option.some.inj hp
    exact hrest
  · rw [List.getElem?_set_ne (Ne.symm hji)] at hp
    exact (hsafe j p hp).mono (htrans j) (hQ j) (hguar j hji)

/-- **Run rule for a fixed set of threads.** The invariant holds in every state reached, and
    what remains of every thread is safe with the thread's own postcondition. -/
theorem Interleaving.safe (hrefl : ∀ i w, rely i w w)
    (htrans : ∀ i {a b c}, rely i a b → rely i b c → rely i a c)
    (hQ : ∀ i r w w', rely i w w' → Q i r w → Q i r w')
    (hinv : inv w)
    (hsafe : ∀ i p, ts[i]? = some p → Safe (threadContract step inv rely G i) (Q i) p w)
    (h : Interleaving step w ts w' ts') :
    inv w' ∧ ∀ i p, ts'[i]? = some p → Safe (threadContract step inv rely G i) (Q i) p w' := by
  induction h with
  | here w ts => exact ⟨hinv, hsafe⟩
  | next i hi hstep _ ih =>
    obtain ⟨-, hinv', hrest⟩ := threads_step hrefl htrans hQ hinv hsafe hi hstep
    exact ih hinv' hrest

/-- A relation kept by every call that meets its guard relates the two ends. -/
theorem Interleaving.related {R : σ → σ → Prop} (hR : ∀ w, R w w)
    (hRtrans : ∀ {a b c}, R a b → R b c → R a c)
    (hcall : ∀ i op w r w', inv w → G i op w → step i op w r w' → R w w')
    (hrefl : ∀ i w, rely i w w)
    (htrans : ∀ i {a b c}, rely i a b → rely i b c → rely i a c)
    (hQ : ∀ i r w w', rely i w w' → Q i r w → Q i r w')
    (hinv : inv w)
    (hsafe : ∀ i p, ts[i]? = some p → Safe (threadContract step inv rely G i) (Q i) p w)
    (h : Interleaving step w ts w' ts') : R w w' := by
  induction h with
  | here w ts => exact hR w
  | next i hi hstep _ ih =>
    obtain ⟨hguard, hinv', hrest⟩ := threads_step hrefl htrans hQ hinv hsafe hi hstep
    exact hRtrans (hcall _ _ _ _ _ hinv hguard hstep) (ih hinv' hrest)

end rules

/-- No thread is added or removed. -/
theorem Interleaving.length_eq {step : Nat → Relation Op Resp ε σ} {w w' : σ}
    {ts ts' : List (Program Op Resp ε α)} (h : Interleaving step w ts w' ts') :
    ts'.length = ts.length := by
  induction h with
  | here => rfl
  | next i _ _ _ ih => rw [ih, List.length_set]

/-- Every interleaving can be decorated with a ghost component that notes the calls and
    their answers. -/
theorem Interleaving.with_ghost {γ : Type} {step : Nat → Relation Op Resp ε σ} {w w' : σ}
    {ts ts' : List (Program Op Resp ε α)}
    (note : Nat → (op : Op) → Except ε (Resp op) → γ → γ) (g : γ)
    (h : Interleaving step w ts w' ts') :
    ∃ g', Interleaving (fun i op s r s' => step i op s.1 r s'.1 ∧ s'.2 = note i op r s.2)
      (w, g) ts (w', g') ts' := by
  induction h generalizing g with
  | here w ts => exact ⟨g, .here _ _⟩
  | next i hi hstep _ ih =>
    obtain ⟨g', hg'⟩ := ih (note i _ _ g)
    exact ⟨g', .next i hi ⟨hstep, rfl⟩ hg'⟩

/-- An interleaving seen through a function of its state. -/
theorem Interleaving.map {τ : Type} {step : Nat → Relation Op Resp ε σ}
    {step' : Nat → Relation Op Resp ε τ} {w w' : σ} {ts ts' : List (Program Op Resp ε α)} (f : σ → τ)
    (hstep : ∀ i op w r w', step i op w r w' → step' i op (f w) r (f w'))
    (h : Interleaving step w ts w' ts') : Interleaving step' (f w) ts (f w') ts' := by
  induction h with
  | here w ts => exact .here (f w) ts
  | next i hi hop _ ih => exact .next i hi (hstep i _ _ _ _ hop) ih

/-- The interleaving that a schedule describes; a thread that has ended is passed over. The
    service may refuse a call, and then there is no such interleaving. -/
def play (exec : Nat → (op : Op) → σ → Option (Except ε (Resp op) × σ)) :
    List Nat → σ → List (Program Op Resp ε α) → Option (σ × List (Program Op Resp ε α))
  | [], w, ts => some (w, ts)
  | i :: rest, w, ts =>
    match ts[i]? with
    | some (.call op k) =>
      match exec i op w with
      | some (r, w') => play exec rest w' (ts.set i (k r))
      | none => none
    | _ => play exec rest w ts

theorem Interleaving.of_play {step : Nat → Relation Op Resp ε σ}
    {exec : Nat → (op : Op) → σ → Option (Except ε (Resp op) × σ)}
    (hexec : ∀ i op w r w', exec i op w = some (r, w') → step i op w r w')
    {schedule : List Nat} {w w' : σ} {ts ts' : List (Program Op Resp ε α)}
    (h : play exec schedule w ts = some (w', ts')) : Interleaving step w ts w' ts' := by
  induction schedule generalizing w ts with
  | nil =>
    obtain ⟨rfl, rfl⟩ := Prod.mk.inj (Option.some.inj h)
    exact .here _ _
  | cons i rest ih =>
    unfold play at h
    split at h
    · next op k hi =>
      split at h
      · next r w₁ hop => exact .next i hi (hexec i op w r w₁ hop) (ih h)
      · cases h
    · exact ih h

/-- A service that refuses nothing. -/
theorem Interleaving.of_play_exec {exec : Program.Service Op Resp ε σ} {schedule : List Nat} {w w' : σ}
    {ts ts' : List (Program Op Resp ε α)}
    (h : play (fun _ op w => some (exec op w)) schedule w ts = some (w', ts')) :
    Interleaving (fun _ => Service.rel exec) w ts w' ts' := by
  apply Interleaving.of_play _ h
  intro i op w r w' hexec
  exact Option.some.inj hexec

end CaseAutomation.Framework
