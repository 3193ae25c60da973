import CaseAutomation.Framework.Program

/-! # Loops That End

    A `while True` of a program runs its body until the body hands over a result. It is run with
    fuel, and stops for lack of it with `none`.

    * `run_loop`: a loop whose every round keeps an invariant and makes a number smaller ends, and it ends
      alike with any fuel above that number.
-/

namespace CaseAutomation.Framework.Program

variable {Op : Type} {Resp : Op → Type} {ε α β σ : Type}

/-- Run the body until it hands over a result, for at most `fuel` rounds. -/
def loop (body : β → Program Op Resp ε (β ⊕ α)) : Nat → β → Program Op Resp ε (Option α)
  | 0, _ => .ret none
  | fuel + 1, s => (body s).bind fun
    | .inl s => loop body fuel s
    | .inr a => .ret (some a)

section run
variable {exec : Service Op Resp ε σ} {body : β → Program Op Resp ε (β ⊕ α)} {s s' : β} {w w' : σ}

theorem run_loop_again (fuel : Nat) (h : (body s).run exec w = (.ok (.inl s'), w')) :
    (loop body (fuel + 1) s).run exec w = (loop body fuel s').run exec w' := by
  rw [loop, run_bind_ok h]

theorem run_loop_done {a : α} (fuel : Nat) (h : (body s).run exec w = (.ok (.inr a), w')) :
    (loop body (fuel + 1) s).run exec w = (.ok (some a), w') := by
  rw [loop, run_bind_ok h]
  rfl

theorem run_loop_raised {e : ε} (fuel : Nat) (h : (body s).run exec w = (.error e, w')) :
    (loop body (fuel + 1) s).run exec w = (.error e, w') := by
  rw [loop, run_bind_error h]

/-- What one round may come to. -/
inductive Round (again : β → σ → Prop) (ends : Except ε α → σ → Prop) :
    Except ε (β ⊕ α) × σ → Prop where
  | again {s : β} {w : σ} : again s w → Round again ends (.ok (.inl s), w)
  | done {a : α} {w : σ} : ends (.ok a) w → Round again ends (.ok (.inr a), w)
  | raised {e : ε} {w : σ} : ends (.error e) w → Round again ends (.error e, w)

/-- **A loop with a variant ends.** -/
theorem run_loop {inv : β → σ → Prop} {rounds : β → Nat} {ends : Except ε α → σ → Prop}
    (hround : ∀ s w, inv s w →
      Round (fun s' w' => inv s' w' ∧ rounds s' < rounds s) ends ((body s).run exec w))
    (h : inv s w) :
    ∃ r w', ends r w' ∧ ∀ fuel, rounds s < fuel → (loop body fuel s).run exec w = (r.map some, w') := by
  induction hn : rounds s using Nat.strongRecOn generalizing s w with
  | ind n ih =>
    subst hn
    have hstep := hround s w h
    generalize hrun : (body s).run exec w = out at hstep
    cases hstep with
    | @again s' w' hagain =>
      -- what is left takes fewer rounds
      obtain ⟨r, w'', hends, hrest⟩ := ih (rounds s') hagain.2 hagain.1 rfl
      refine ⟨r, w'', hends, ?_⟩
      intro fuel hfuel
      cases fuel with
      | zero => omega
      | succ fuel => rw [run_loop_again fuel hrun, hrest fuel (by omega)]
    | done hends =>
      refine ⟨_, _, hends, ?_⟩
      intro fuel hfuel
      cases fuel with
      | zero => omega
      | succ fuel => exact run_loop_done fuel hrun
    | raised hends =>
      refine ⟨_, _, hends, ?_⟩
      intro fuel hfuel
      cases fuel with
      | zero => omega
      | succ fuel => exact run_loop_raised fuel hrun

end run

end CaseAutomation.Framework.Program
