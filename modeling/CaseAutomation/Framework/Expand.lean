import CaseAutomation.Framework.Issues

/-! # Calls Made of Smaller Calls

    `p.expand f` is the program `p` with every call `op` replaced by the program `f op`
    over a lower interface. What `f op` raises is what the call raises.

    * `Safe.expand`: if every small program keeps an assertion, so does the whole.
-/

namespace CaseAutomation.Framework

variable {Op Op' : Type} {Resp : Op → Type} {Resp' : Op' → Type} {ε α β σ : Type}

/-- Replace every call by a program. -/
def Program.expand (f : (op : Op) → Program Op' Resp' ε (Resp op)) :
    Program Op Resp ε α → Program Op' Resp' ε α
  | .ret a => .ret a
  | .raise e => .raise e
  | .call op k => (f op).attempt.bind fun r => (k r).expand f

variable {f : (op : Op) → Program Op' Resp' ε (Resp op)}

theorem Program.attempt_bind {γ : Type} (q : Program Op' Resp' ε α)
    (g : Except ε α → Program Op' Resp' ε β) (h : β → Program Op' Resp' ε γ) :
    (q.attempt.bind g).bind h = q.attempt.bind fun r => (g r).bind h := by
  induction q with
  | ret a => rfl
  | raise e => rfl
  | call op k ih =>
    show Program.call op _ = Program.call op _
    congr
    funext r
    exact ih r

theorem Program.expand_bind (p : Program Op Resp ε α) (g : α → Program Op Resp ε β) :
    (p.bind g).expand f = (p.expand f).bind fun a => (g a).expand f := by
  induction p with
  | ret a => rfl
  | raise e => rfl
  | call op k ih =>
    show (f op).attempt.bind (fun r => ((k r).bind g).expand f) = _
    simp only [ih]
    exact (Program.attempt_bind _ _ _).symm

/-- One call is its program. -/
theorem Program.expand_perform (op : Op) :
    (Program.perform op : Program Op Resp ε (Resp op)).expand f = f op := by
  show (f op).attempt.bind _ = f op
  generalize f op = q
  induction q with
  | ret a => rfl
  | raise e => rfl
  | call op' k ih =>
    show Program.call op' _ = Program.call op' _
    congr
    funext r
    exact ih r

/-- **Expansion rule.** An assertion that the small program of every issued call keeps is
    kept by the expanded program. -/
theorem Safe.expand {C : Contract Op' Resp' ε σ} {P : Op → Prop} {A : σ → Prop}
    {p : Program Op Resp ε α} {w : σ} (hp : Issues P p)
    (hf : ∀ op w, P op → A w → Safe C (fun _ w' => A w') (f op) w) (hA : A w) :
    Safe C (fun _ w' => A w') (p.expand f) w := by
  induction p generalizing w with
  | ret a => exact hA
  | raise e => exact hA
  | call op k ih =>
    have hop : Safe C (fun r w' => (∃ r', r = .ok r') ∧ A w') (f op).attempt w :=
      Safe.attempt (hf op w hp.1 hA) fun r w' hr => ⟨⟨r, rfl⟩, hr⟩
    apply Safe.bind hop
    · intro r w' hr
      exact ih r (hp.2 r) hr.2
    · intro e w' hr
      obtain ⟨⟨r', hr'⟩, -⟩ := hr
      cases hr'

end CaseAutomation.Framework
