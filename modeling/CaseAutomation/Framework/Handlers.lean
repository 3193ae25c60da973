import CaseAutomation.Framework.Issues

/-! # Programs with a State of Their Own

    A `Handler` answers some of the calls of a program from a private state; the others go to the
    shared service. `p.handled h s` is the program as its environment sees it:

    * `run_handled`      : it runs as `p` does against both states together;
    * `Issues.handled`   : it issues the calls of `p` that the handler passes on, and no others.
-/

namespace CaseAutomation.Framework

open Program

variable {Op : Type} {Resp : Op → Type} {ε α τ σ : Type}

/-- `none` passes the call on. -/
abbrev Handler (Op : Type) (Resp : Op → Type) (ε τ : Type) : Type :=
  (op : Op) → τ → Option (Except ε (Resp op) × τ)

/-- The program, with the calls that the handler answers done inside. -/
def Program.handled (h : Handler Op Resp ε τ) :
    Program Op Resp ε α → τ → Program Op Resp ε α
  | .ret a, _ => .ret a
  | .raise e, _ => .raise e
  | .call op k, s =>
    match h op s with
    | some (r, s') => (k r).handled h s'
    | none => .call op fun r => (k r).handled h s

/-- Both states together. -/
def Handler.over (h : Handler Op Resp ε τ) (exec : Service Op Resp ε σ) :
    Service Op Resp ε (τ × σ) := fun op s =>
  match h op s.1 with
  | some (r, s') => (r, s', s.2)
  | none => ((exec op s.2).1, s.1, (exec op s.2).2)

section handled
variable {h : Handler Op Resp ε τ}

theorem handled_answered {op : Op} {k : Except ε (Resp op) → Program Op Resp ε α} {s s' : τ}
    {r : Except ε (Resp op)} (hop : h op s = some (r, s')) :
    (Program.call op k).handled h s = (k r).handled h s' := by
  rw [Program.handled, hop]

theorem handled_passed {op : Op} {k : Except ε (Resp op) → Program Op Resp ε α} {s : τ}
    (hop : h op s = none) :
    (Program.call op k).handled h s = .call op fun r => (k r).handled h s := by
  rw [Program.handled, hop]

/-- The shared state ends where it would with both states in view. -/
theorem run_handled (exec : Service Op Resp ε σ) (p : Program Op Resp ε α) (s : τ) (w : σ) :
    (p.handled h s).run exec w =
      ((p.run (h.over exec) (s, w)).1, (p.run (h.over exec) (s, w)).2.2) := by
  induction p generalizing s w with
  | ret a => rfl
  | raise e => rfl
  | call op k ih =>
    cases hop : h op s with
    | none =>
      have hover : h.over exec op (s, w) = ((exec op w).1, s, (exec op w).2) := by
        rw [Handler.over, hop]
      rw [handled_passed hop, Program.run, Program.run, hover]
      exact ih (exec op w).1 s (exec op w).2
    | some answer =>
      obtain ⟨r, s'⟩ := answer
      have hover : h.over exec op (s, w) = (r, s', w) := by
        rw [Handler.over, hop]
      rw [handled_answered hop, Program.run, hover]
      exact ih r s' w

/-- Only calls that the handler passes on are issued. -/
theorem Issues.handled {P : Op → Prop} {p : Program Op Resp ε α} (hp : Issues P p) (s : τ) :
    Issues (fun op => P op ∧ ∃ s, h op s = none) (p.handled h s) := by
  induction p generalizing s with
  | ret a => trivial
  | raise e => trivial
  | call op k ih =>
    cases hop : h op s with
    | none =>
      rw [handled_passed hop]
      exact ⟨⟨hp.1, s, hop⟩, fun r => ih r (hp.2 r) s⟩
    | some answer =>
      obtain ⟨r, s'⟩ := answer
      rw [handled_answered hop]
      exact ih r (hp.2 r) s'

/-- What the program returns, whoever answers. -/
theorem Returns.handled {R : α → Prop} {p : Program Op Resp ε α} (hp : Returns R p) (s : τ) :
    Returns R (p.handled h s) := by
  induction p generalizing s with
  | ret a => exact hp
  | raise e => trivial
  | call op k ih =>
    cases hop : h op s with
    | none =>
      rw [handled_passed hop]
      exact fun r => ih r (hp r) s
    | some answer =>
      obtain ⟨r, s'⟩ := answer
      rw [handled_answered hop]
      exact ih r (hp r) s'

end handled

/-- The continuation, knowing what the first program returns. -/
theorem Issues.bind_returns {β : Type} {P : Op → Prop} {R : α → Prop} {p : Program Op Resp ε α}
    {f : α → Program Op Resp ε β} (h : Issues P p) (hR : Returns R p)
    (hf : ∀ a, R a → Issues P (f a)) : Issues P (p.bind f) := by
  induction p with
  | ret a => exact hf a hR
  | raise e => trivial
  | call op k ih => exact ⟨h.1, fun r => ih r (h.2 r) (hR r)⟩

end CaseAutomation.Framework
