import CaseAutomation.Framework.Safety

/-! # What a Program Can Ask For

    `Issues P p` says that every call the program `p` can ever make satisfies
    `P`, whatever it is answered. It is the coarsest description of a program,
    and often all that is needed:

    * `Safe.of_issues`: if the calls in `P` keep an assertion, so does `p`
      (`Safe.of_leads` for a program that ends in another one);
    * `run_related`: the same for a run to the end.

    `Returns` and `Raises` say which values a program can return and which exceptions it can
    raise. `Safe.run` goes from the safety judgement to a run to the end,
    `Safe.after_related` to each state on the way.
-/

namespace CaseAutomation.Framework

open Program

variable {Op : Type} {Resp : Op → Type} {ε α β σ : Type}

/-- Every call of the program satisfies `P`. -/
def Issues (P : Op → Prop) : Program Op Resp ε α → Prop
  | .ret _ => True
  | .raise _ => True
  | .call op k => P op ∧ ∀ r, Issues P (k r)

namespace Issues

variable {P Q : Op → Prop}

theorem ret {a : α} : Issues P (.ret a : Program Op Resp ε α) := trivial

theorem raise {e : ε} : Issues P (.raise e : Program Op Resp ε α) := trivial

theorem mono {p : Program Op Resp ε α} (h : Issues P p) (hPQ : ∀ op, P op → Q op) :
    Issues Q p := by
  induction p with
  | ret a => trivial
  | raise e => trivial
  | call op k ih => exact ⟨hPQ op h.1, fun r => ih r (h.2 r)⟩

theorem bind {p : Program Op Resp ε α} {f : α → Program Op Resp ε β}
    (h : Issues P p) (hf : ∀ a, Issues P (f a)) : Issues P (p.bind f) := by
  induction p with
  | ret a => exact hf a
  | raise e => trivial
  | call op k ih => exact ⟨h.1, fun r => ih r (h.2 r)⟩

theorem attempt {p : Program Op Resp ε α} (h : Issues P p) : Issues P p.attempt := by
  induction p with
  | ret a => trivial
  | raise e => trivial
  | call op k ih => exact ⟨h.1, fun r => ih r (h.2 r)⟩

theorem perform {op : Op} (h : P op) :
    Issues P (Program.perform op : Program Op Resp ε (Resp op)) := by
  refine ⟨h, fun r => ?_⟩
  cases r <;> trivial

theorem ofExcept {r : Except ε α} :
    Issues P (Program.ofExcept r : Program Op Resp ε α) := by
  cases r <;> trivial

theorem tryFinally {p : Program Op Resp ε α} {fin : Program Op Resp ε Unit}
    (h : Issues P p) (hfin : Issues P fin) : Issues P (p.tryFinally fin) :=
  bind (attempt h) fun _ => bind hfin fun _ => ofExcept

theorem discard {p : Program Op Resp ε α} (h : Issues P p) : Issues P p.discard :=
  bind h fun _ => ret

end Issues

/-! ## What a program can return -/

/-- Every value the program can return satisfies `R`. -/
def Returns (R : α → Prop) : Program Op Resp ε α → Prop
  | .ret a => R a
  | .raise _ => True
  | .call _ k => ∀ r, Returns R (k r)

/-- Only the continuation returns. -/
theorem Returns.bind {R : β → Prop} {p : Program Op Resp ε α} {f : α → Program Op Resp ε β}
    (hf : ∀ a, Returns R (f a)) : Returns R (p.bind f) := by
  induction p with
  | ret a => exact hf a
  | raise e => exact True.intro
  | call op k ih => exact ih

theorem Returns.mono {R R' : α → Prop} {p : Program Op Resp ε α} (h : Returns R p)
    (hR : ∀ a, R a → R' a) : Returns R' p := by
  induction p with
  | ret a => exact hR a h
  | raise e => exact True.intro
  | call op k ih => exact fun r => ih r (h r)

/-- The continuation, knowing what the first program can return. -/
theorem Returns.bind_of {S : α → Prop} {R : β → Prop} {p : Program Op Resp ε α}
    {f : α → Program Op Resp ε β} (h : Returns S p) (hf : ∀ a, S a → Returns R (f a)) :
    Returns R (p.bind f) := by
  induction p with
  | ret a => exact hf a h
  | raise e => exact True.intro
  | call op k ih => exact fun r => ih r (h r)

/-- The continuation of a computed value. -/
theorem Returns.bind_ofExcept {R : β → Prop} {r : Except ε α} {f : α → Program Op Resp ε β}
    (hf : ∀ a, r = .ok a → Returns R (f a)) : Returns R ((Program.ofExcept r).bind f) := by
  cases r with
  | ok a => exact hf a rfl
  | error e => exact True.intro

/-- A run that ends normally ends with such a value. -/
theorem Returns.run {R : α → Prop} {p : Program Op Resp ε α} {exec : Service Op Resp ε σ} {w : σ}
    {a : α} (h : Returns R p) (hrun : (p.run exec w).1 = .ok a) : R a := by
  induction p generalizing w with
  | ret b =>
    cases hrun
    exact h
  | raise e => cases hrun
  | call op k ih => exact ih _ (h _) hrun

/-- What a program can return, besides what its contract promises. -/
theorem Yields.with_returns {C : Contract Op Resp ε σ} {P : α → σ → Prop} {R : α → Prop}
    {p : Program Op Resp ε α} {w : σ} (h : Yields C P p w) (hR : Returns R p) :
    Yields C (fun a w' => R a ∧ P a w') p w := by
  induction p generalizing w with
  | ret a =>
    intro b hb
    obtain rfl := Except.ok.inj hb
    exact ⟨hR, h a rfl⟩
  | raise e => exact Yields.raise
  | call op k ih =>
    intro w' hrely hinv
    obtain ⟨hguard, hk⟩ := h w' hrely hinv
    refine ⟨hguard, fun r w'' hstep => ?_⟩
    obtain ⟨hinv', hguar, hrest⟩ := hk r w'' hstep
    exact ⟨hinv', hguar, ih r hrest (hR r)⟩

/-! ## What a program can raise -/

/-- Every exception the program can raise satisfies `P`, if those of its calls do. -/
def Raises (P : ε → Prop) : Program Op Resp ε α → Prop
  | .ret _ => True
  | .raise e => P e
  | .call _ k => ∀ r, (∀ e, r = .error e → P e) → Raises P (k r)

namespace Raises

variable {P : ε → Prop}

theorem ret {a : α} : Raises P (.ret a : Program Op Resp ε α) := trivial

theorem raise {e : ε} (h : P e) : Raises P (.raise e : Program Op Resp ε α) := h

theorem bind {p : Program Op Resp ε α} {f : α → Program Op Resp ε β}
    (h : Raises P p) (hf : ∀ a, Raises P (f a)) : Raises P (p.bind f) := by
  induction p with
  | ret a => exact hf a
  | raise e => exact h
  | call op k ih => exact fun r hr => ih r (h r hr)

theorem perform {op : Op} : Raises P (Program.perform op : Program Op Resp ε (Resp op)) := by
  intro r hr
  cases r with
  | ok a => exact True.intro
  | error e => exact hr e rfl

theorem ofExcept {r : Except ε α} (h : ∀ e, r = .error e → P e) :
    Raises P (Program.ofExcept r : Program Op Resp ε α) := by
  cases r with
  | ok a => exact True.intro
  | error e => exact h e rfl

/-- `try/except` raises nothing. -/
theorem attempt {p : Program Op Resp ε α} : Raises P p.attempt := by
  induction p with
  | ret a => exact True.intro
  | raise e => exact True.intro
  | call op k ih => exact fun r _ => ih r

/-- `try/except`, with what the handler is given. -/
theorem attempt_bind {p : Program Op Resp ε α} {f : Except ε α → Program Op Resp ε β}
    (h : Raises P p) (hf : ∀ r, (∀ e, r = .error e → P e) → Raises P (f r)) :
    Raises P (p.attempt.bind f) := by
  induction p with
  | ret a => exact hf (.ok a) fun e he => by cases he
  | raise e =>
    refine hf (.error e) fun e' he => ?_
    cases he
    exact h
  | call op k ih => exact fun r hr => ih r (h r hr)

/-- From what a program can raise to a run to the end. -/
theorem run {exec : Service Op Resp ε σ} {p : Program Op Resp ε α} {w : σ} {e : ε}
    (hexec : ∀ op w e, (exec op w).1 = .error e → P e) (h : Raises P p)
    (he : (p.run exec w).1 = .error e) : P e := by
  induction p generalizing w with
  | ret a => cases he
  | raise e' =>
    cases he
    exact h
  | call op k ih => exact ih _ (h _ (hexec op w)) he

end Raises

/-! ## Programs that end in a given program

    `Leads P T p`: the calls of `p` satisfy `P`, up to a point from which what remains
    satisfies `T`. It describes a program with a recursive call in tail position. -/

def Leads (P : Op → Prop) (T : Program Op Resp ε α → Prop) : Program Op Resp ε α → Prop
  | .ret _ => True
  | .raise _ => True
  | .call op k => T (.call op k) ∨ P op ∧ ∀ r, Leads P T (k r)

namespace Leads

variable {P Q : Op → Prop} {T : Program Op Resp ε β → Prop}

theorem tail {p : Program Op Resp ε β} (h : T p) : Leads P T p := by
  cases p with
  | ret a => exact True.intro
  | raise e => exact True.intro
  | call op k => exact Or.inl h

theorem of_issues {p : Program Op Resp ε β} (h : Issues P p) : Leads P T p := by
  induction p with
  | ret a => exact True.intro
  | raise e => exact True.intro
  | call op k ih => exact Or.inr ⟨h.1, fun r => ih r (h.2 r)⟩

theorem bind {p : Program Op Resp ε α} {f : α → Program Op Resp ε β} (h : Issues P p)
    (hf : ∀ a, Leads P T (f a)) : Leads P T (p.bind f) := by
  induction p with
  | ret a => exact hf a
  | raise e => exact True.intro
  | call op k ih => exact Or.inr ⟨h.1, fun r => ih r (h.2 r)⟩

theorem bind_returns {R : α → Prop} {p : Program Op Resp ε α} {f : α → Program Op Resp ε β}
    (h : Issues P p) (hR : Returns R p) (hf : ∀ a, R a → Leads P T (f a)) :
    Leads P T (p.bind f) := by
  induction p with
  | ret a => exact hf a hR
  | raise e => exact True.intro
  | call op k ih => exact Or.inr ⟨h.1, fun r => ih r (h.2 r) (hR r)⟩

/-- If the last part issues the same kind of calls, so does the whole. -/
theorem issues {p : Program Op Resp ε β} (h : Leads P T p) (hP : ∀ op, P op → Q op)
    (hT : ∀ q, T q → Issues Q q) : Issues Q p := by
  induction p with
  | ret a => exact True.intro
  | raise e => exact True.intro
  | call op k ih =>
    obtain h | ⟨hop, hk⟩ := h
    · exact hT _ h
    · exact ⟨hP op hop, fun r => ih r (hk r)⟩

end Leads

/-! ## Rules for runs -/

/-- A program made of calls that keep `A` is safe and keeps `A`. -/
theorem Safe.of_issues {C : Contract Op Resp ε σ} {P : Op → Prop} {A : σ → Prop}
    {p : Program Op Resp ε α} {w : σ}
    (hrely : ∀ w w', C.rely w w' → A w → A w')
    (hstep : ∀ op w, P op → C.inv w → A w → C.guard op w ∧
      ∀ r w', C.step op w r w' → C.inv w' ∧ C.guar w w' ∧ A w')
    (hp : Issues P p) (hA : A w) : Safe C (fun _ w => A w) p w := by
  induction p generalizing w with
  | ret a => exact hA
  | raise e => exact hA
  | call op k ih =>
    intro w' hr hinv
    obtain ⟨hguard, hk⟩ := hstep op w' hp.1 hinv (hrely w w' hr hA)
    refine ⟨hguard, fun r w'' hs => ?_⟩
    obtain ⟨hinv', hguar, hA'⟩ := hk r w'' hs
    exact ⟨hinv', hguar, ih r (hp.2 r) hA'⟩

/-- The same for a program that ends in a safe program. -/
theorem Safe.of_leads {C : Contract Op Resp ε σ} {P : Op → Prop} {A : σ → Prop}
    {T : Program Op Resp ε α → Prop} {p : Program Op Resp ε α} {w : σ}
    (hrely : ∀ w w', C.rely w w' → A w → A w')
    (hstep : ∀ op w, P op → C.inv w → A w → C.guard op w ∧
      ∀ r w', C.step op w r w' → C.inv w' ∧ C.guar w w' ∧ A w')
    (htail : ∀ q w, T q → A w → Safe C (fun _ w => A w) q w)
    (hp : Leads P T p) (hA : A w) : Safe C (fun _ w => A w) p w := by
  induction p generalizing w with
  | ret a => exact hA
  | raise e => exact hA
  | call op k ih =>
    obtain ht | ⟨hop, hk⟩ := hp
    · exact htail _ w ht hA
    intro w' hr hinv
    obtain ⟨hguard, hs⟩ := hstep op w' hop hinv (hrely w w' hr hA)
    refine ⟨hguard, fun r w'' hw => ?_⟩
    obtain ⟨hinv', hguar, hA'⟩ := hs r w'' hw
    exact ⟨hinv', hguar, ih r (hk r) hA'⟩

/-- A relation kept by every call relates the two ends of a run. -/
theorem run_related {exec : Service Op Resp ε σ} {P : Op → Prop} {R : σ → σ → Prop}
    {p : Program Op Resp ε α} (hrefl : ∀ w, R w w)
    (htrans : ∀ {a b c}, R a b → R b c → R a c)
    (hstep : ∀ op w, P op → R w (exec op w).2)
    (hp : Issues P p) (w : σ) : R w (p.run exec w).2 := by
  induction p generalizing w with
  | ret a => exact hrefl w
  | raise e => exact hrefl w
  | call op k ih => exact htrans (hstep op w hp.1) (ih _ (hp.2 _) _)

/-- Every program is made of calls. -/
theorem Issues.trivial (p : Program Op Resp ε α) : Issues (fun _ => True) p := by
  induction p with
  | ret a => exact True.intro
  | raise e => exact True.intro
  | call op k ih => exact ⟨True.intro, ih⟩

/-- From the safety judgement to a run to the end. -/
theorem Safe.run {C : Contract Op Resp ε σ} {exec : Service Op Resp ε σ}
    {Q : Except ε α → σ → Prop} {p : Program Op Resp ε α} {w : σ}
    (hstep : ∀ op w, C.step op w (exec op w).1 (exec op w).2)
    (hrefl : ∀ w, C.rely w w) (hinv : C.inv w) (h : Safe C Q p w) :
    C.inv (p.run exec w).2 ∧ Q (p.run exec w).1 (p.run exec w).2 := by
  induction p generalizing w with
  | ret a => exact ⟨hinv, h⟩
  | raise e => exact ⟨hinv, h⟩
  | call op k ih =>
    obtain ⟨-, hk⟩ := h w (hrefl w) hinv
    obtain ⟨hinv', -, hsafe⟩ := hk _ _ (hstep op w)
    exact ih _ hinv' hsafe

/-- A relation kept by every call that meets its guard relates the two ends of a run. -/
theorem Safe.run_related {C : Contract Op Resp ε σ} {exec : Service Op Resp ε σ} {R : σ → σ → Prop}
    {Q : Except ε α → σ → Prop} {p : Program Op Resp ε α} {w : σ}
    (hstep : ∀ op w, C.step op w (exec op w).1 (exec op w).2)
    (hrefl : ∀ w, C.rely w w) (hR : ∀ w, R w w) (htrans : ∀ {a b c}, R a b → R b c → R a c)
    (hguard : ∀ op w, C.inv w → C.guard op w → R w (exec op w).2)
    (hinv : C.inv w) (h : Safe C Q p w) : R w (p.run exec w).2 := by
  induction p generalizing w with
  | ret a => exact hR w
  | raise e => exact hR w
  | call op k ih =>
    obtain ⟨hop, hk⟩ := h w (hrefl w) hinv
    obtain ⟨hinv', -, hsafe⟩ := hk _ _ (hstep op w)
    exact htrans (hguard op w hinv hop) (ih _ hinv' hsafe)

/-- The same for each state that the run passes through, where the invariant holds too. -/
theorem Safe.after_related {C : Contract Op Resp ε σ} {exec : Service Op Resp ε σ}
    {R : σ → σ → Prop} {Q : Except ε α → σ → Prop} {p : Program Op Resp ε α} {w : σ}
    (hstep : ∀ op w, C.step op w (exec op w).1 (exec op w).2)
    (hrefl : ∀ w, C.rely w w) (hR : ∀ w, R w w) (htrans : ∀ {a b c}, R a b → R b c → R a c)
    (hguard : ∀ op w, C.inv w → C.guard op w → R w (exec op w).2)
    (hinv : C.inv w) (h : Safe C Q p w) (n : Nat) :
    C.inv (after exec n p w).2 ∧ R w (after exec n p w).2 := by
  induction n generalizing p w with
  | zero => exact ⟨hinv, hR w⟩
  | succ n ih =>
    cases p with
    | ret a => exact ⟨hinv, hR w⟩
    | raise e => exact ⟨hinv, hR w⟩
    | call op k =>
      obtain ⟨hop, hk⟩ := h w (hrefl w) hinv
      obtain ⟨hinv', -, hsafe⟩ := hk _ _ (hstep op w)
      obtain ⟨hend, hrest⟩ := ih hinv' hsafe
      exact ⟨hend, htrans (hguard op w hinv hop) hrest⟩

end CaseAutomation.Framework
