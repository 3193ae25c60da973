import Mathlib.Data.List.Basic

/-! # Two Implementations of One Interface

    An implementation answers calls and changes its state. Two implementations are
    compared by what they answer to one sequence of calls, each from its own initial
    state.

    * `answers_eq_iff`: the answers agree if and only if they agree at every call, in
      the states that the calls before it left.
    * `Simulation`: a relation between the two states that every call keeps.
-/

namespace CaseAutomation.Framework

variable {Op Ans σ τ : Type}

/-- The state after a sequence of calls. -/
def after_calls (call : Op → σ → Ans × σ) : List Op → σ → σ
  | [], s => s
  | op :: ops, s => after_calls call ops (call op s).2

/-- The answers to a sequence of calls. -/
def answers (call : Op → σ → Ans × σ) : List Op → σ → List Ans
  | [], _ => []
  | op :: ops, s => (call op s).1 :: answers call ops (call op s).2

/-- The answers of two implementations agree iff they agree call by call. -/
theorem answers_eq_iff (call₁ : Op → σ → Ans × σ) (call₂ : Op → τ → Ans × τ) (ops : List Op)
    (s : σ) (t : τ) :
    answers call₁ ops s = answers call₂ ops t ↔
      ∀ pre op post, ops = pre ++ op :: post →
        (call₁ op (after_calls call₁ pre s)).1 = (call₂ op (after_calls call₂ pre t)).1 := by
  induction ops generalizing s t with
  | nil =>
    refine ⟨fun _ pre op post h => ?_, fun _ => rfl⟩
    simp at h
  | cons op ops ih =>
    rw [answers, answers, List.cons_eq_cons, ih]
    constructor
    · rintro ⟨hop, hops⟩ pre op' post h
      cases pre with
      | nil =>
        cases h
        exact hop
      | cons op'' pre =>
        rw [List.cons_append, List.cons_eq_cons] at h
        obtain ⟨rfl, h⟩ := h
        exact hops pre op' post h
    · intro h
      have hhead := h [] op ops rfl
      refine ⟨hhead, fun pre op' post hops => ?_⟩
      exact h (op :: pre) op' post (by rw [hops, List.cons_append])

/-- A relation between the states of two implementations that every call keeps. -/
structure Simulation (call₁ : Op → σ → Ans × σ) (call₂ : Op → τ → Ans × τ) (R : σ → τ → Prop) :
    Prop where
  step : ∀ {s t}, R s t → ∀ op, R (call₁ op s).2 (call₂ op t).2

theorem Simulation.after {call₁ : Op → σ → Ans × σ} {call₂ : Op → τ → Ans × τ} {R : σ → τ → Prop}
    (sim : Simulation call₁ call₂ R) {s : σ} {t : τ} (h : R s t) (ops : List Op) :
    R (after_calls call₁ ops s) (after_calls call₂ ops t) := by
  induction ops generalizing s t with
  | nil => exact h
  | cons op ops ih => exact ih (sim.step h op)

end CaseAutomation.Framework
