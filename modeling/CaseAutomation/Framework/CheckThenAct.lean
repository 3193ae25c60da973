import CaseAutomation.Framework.Threads

/-! # Check, then Act

    Several threads look something up and act on what they did not find. A thread is *inside* from
    the call in which its check passes until the call after which nobody's check passes any more,
    or with which it gives up. Nothing keeps two threads from being inside at the same time.

    * `Region`  : which calls enter and leave, what holds whenever nobody is inside, and what a
      thread inside finds unchanged.
    * `solitary`: the runs in which nobody enters while another thread is inside. In these a
      thread that enters gets what holds at rest, and owns it until it leaves
      (`Region.outside_call`, `Region.inside_call`).
-/

namespace CaseAutomation.Framework

open Program

variable {Op : Type} {Resp : Op → Type} {ε σ α : Type}

/-- A stretch between a check and the act it allows. -/
structure Region (Op : Type) (Resp : Op → Type) (ε σ : Type) where
  /-- The call passes the check. -/
  enters : (op : Op) → Except ε (Resp op) → Bool
  /-- The call ends the stretch. -/
  leaves : (op : Op) → Except ε (Resp op) → Bool
  /-- What always holds. -/
  inv : σ → Prop
  /-- What holds whenever nobody is inside. -/
  rest : σ → Prop
  /-- What only a thread inside changes. -/
  same : σ → σ → Prop
  /-- What nobody ever undoes. -/
  kept : σ → σ → Prop
  same_refl : ∀ w, same w w
  same_trans : ∀ {a b c}, same a b → same b c → same a c
  kept_trans : ∀ {a b c}, kept a b → kept b c → kept a c
  kept_of_same : ∀ {w w'}, same w w' → kept w w'
  inv_of_same : ∀ {w w'}, same w w' → inv w → inv w'
  rest_of_same : ∀ {w w'}, same w w' → rest w → rest w'

namespace Region

variable (R : Region Op Resp ε σ)

/-- The threads inside, after a call of thread `i`. -/
def note (i : Nat) (op : Op) (r : Except ε (Resp op)) (inside : List Nat) : List Nat :=
  if R.enters op r then i :: inside
  else if R.leaves op r then inside.erase i
  else inside

/-- The calls of thread `i`, in the runs where it enters only when nobody is inside. -/
def solitary (step : Nat → Relation Op Resp ε σ) (i : Nat) : Relation Op Resp ε (σ × List Nat) :=
  fun op s r s' => step i op s.1 r s'.1 ∧ s'.2 = R.note i op r s.2 ∧
    (R.enters op r = true → s.2 = [])

/-- The invariant of these runs. -/
structure Solo (s : σ × List Nat) : Prop where
  one : s.2.length ≤ 1
  inv : R.inv s.1
  rest : s.2 = [] → R.rest s.1

/-- Nobody else enters or leaves for thread `i`. -/
structure Others (i : Nat) (s s' : σ × List Nat) : Prop where
  inside : i ∈ s'.2 ↔ i ∈ s.2
  same : i ∈ s.2 → R.same s.1 s'.1
  kept : R.kept s.1 s'.1

/-- What a thread may assume and must keep. -/
def contract (step : Nat → Relation Op Resp ε σ) (i : Nat) : Contract Op Resp ε (σ × List Nat) :=
  threadContract (R.solitary step) R.Solo R.Others (fun _ _ _ => True) i

/-- Thread `i` is outside and knows `K`. -/
def Outside (i : Nat) (K : σ → Prop) (s : σ × List Nat) : Prop := i ∉ s.2 ∧ K s.1

/-- Thread `i` is inside and knows `P`. -/
def Inside (i : Nat) (P : σ → Prop) (s : σ × List Nat) : Prop := i ∈ s.2 ∧ P s.1

variable {R} {step : Nat → Relation Op Resp ε σ} {i : Nat} {s s' : σ × List Nat}
  {K P : σ → Prop}

theorem Others.refl (i : Nat) (s : σ × List Nat) : R.Others i s s :=
  ⟨Iff.rfl, fun _ => R.same_refl _, R.kept_of_same (R.same_refl _)⟩

theorem Others.trans {a b c : σ × List Nat} (h : R.Others i a b) (h' : R.Others i b c) :
    R.Others i a c := by
  refine ⟨h'.inside.trans h.inside, ?_, R.kept_trans h.kept h'.kept⟩
  intro hi
  exact R.same_trans (h.same hi) (h'.same (h.inside.mpr hi))

theorem Outside.stable (hK : ∀ {w w'}, R.kept w w' → K w → K w') (h : Outside i K s)
    (hrely : R.Others i s s') : Outside i K s' :=
  ⟨mt hrely.inside.mp h.1, hK hrely.kept h.2⟩

theorem Inside.stable (hP : ∀ {w w'}, R.same w w' → P w → P w') (h : Inside i P s)
    (hrely : R.Others i s s') : Inside i P s' :=
  ⟨hrely.inside.mpr h.1, hP (hrely.same h.1) h.2⟩

/-- A thread inside is the only one. -/
theorem Solo.only (h : R.Solo s) (hi : i ∈ s.2) : s.2 = [i] := by
  have hone := h.one
  match hs : s.2 with
  | [] =>
    rw [hs] at hi
    cases hi
  | [j] =>
    rw [hs, List.mem_singleton] at hi
    rw [hi]
  | j :: k :: rest =>
    rw [hs] at hone
    simp at hone

/-- Another thread, which was outside and still is, sees what is always kept. -/
theorem Others.of_outside {j : Nat} (hj : j ∉ s.2) (hj' : j ∉ s'.2) (hkept : R.kept s.1 s'.1) :
    R.Others j s s' := by
  refine ⟨?_, fun h => absurd h hj, hkept⟩
  constructor
  · intro h
    exact absurd h hj'
  · intro h
    exact absurd h hj

/-- **A call from outside** changes nothing that a thread inside relies on. If it passes the check,
    nobody was inside, and the thread gets what holds at rest. -/
theorem outside_call {op : Op} {L Q : Except ε (Resp op) → σ → Prop} (h : Outside i K s)
    (hK : ∀ {w w'}, R.kept w w' → K w → K w')
    (hcall : ∀ w r w', R.inv w → K w → step i op w r w' → R.same w w' ∧
      (R.enters op r = true → R.rest w → Q r w') ∧ (R.enters op r = false → L r w')) :
    Safe (R.contract step i) (fun r s' => (R.enters op r = true → Inside i (Q r) s') ∧
      (R.enters op r = false → Outside i (L r) s')) (perform op) s := by
  apply Safe.perform
  intro s₁ hrely hinv
  refine ⟨trivial, ?_⟩
  intro r s₂ hstep
  obtain ⟨hs, hnote, halone⟩ := hstep
  have hout := h.stable hK hrely
  obtain ⟨hsame, hin, hstay⟩ := hcall _ _ _ hinv.inv hout.2 hs
  have hinv' := R.inv_of_same hsame hinv.inv
  have hkept := R.kept_of_same hsame
  cases henters : R.enters op r with
  | true =>
    have hnone : s₁.2 = [] := halone henters
    have hself : s₂.2 = [i] := by rw [hnote, note, henters, hnone]; rfl
    refine ⟨⟨?_, hinv', ?_⟩, ?_, ?_, ?_⟩
    · rw [hself]
      exact Nat.le_refl 1
    · intro hempty
      rw [hself] at hempty
      cases hempty
    · intro j hj
      refine .of_outside ?_ ?_ hkept
      · rw [hnone]
        exact List.not_mem_nil
      · rw [hself, List.mem_singleton]
        exact hj
    · intro _
      refine ⟨?_, hin henters (hinv.rest hnone)⟩
      rw [hself]
      exact List.mem_singleton_self i
    · intro hfalse
      cases hfalse
  | false =>
    -- a thread that is not inside has nothing to leave
    have hinside : s₂.2 = s₁.2 := by
      rw [hnote, note, henters]
      simp only [Bool.false_eq_true, if_false]
      split
      · exact List.erase_of_not_mem hout.1
      · rfl
    refine ⟨⟨?_, hinv', ?_⟩, ?_, ?_, ?_⟩
    · rw [hinside]
      exact hinv.one
    · intro hempty
      rw [hinside] at hempty
      exact R.rest_of_same hsame (hinv.rest hempty)
    · intro j _
      refine ⟨?_, fun _ => hsame, hkept⟩
      rw [hinside]
    · intro htrue
      cases htrue
    · intro _
      refine ⟨?_, hstay henters⟩
      rw [hinside]
      exact hout.1

/-- A call from outside that cannot pass the check. -/
theorem idle_call {op : Op} {L : Except ε (Resp op) → σ → Prop} (h : Outside i K s)
    (hK : ∀ {w w'}, R.kept w w' → K w → K w') (hno : ∀ r, R.enters op r = false)
    (hcall : ∀ w r w', R.inv w → K w → step i op w r w' → R.same w w' ∧ L r w') :
    Safe (R.contract step i) (fun r s' => Outside i (L r) s') (perform op) s := by
  have hout := outside_call (Q := fun _ _ => True) (L := L) h hK fun w r w' hinv hw hs =>
    have hidle := hcall w r w' hinv hw hs
    ⟨hidle.1, fun _ _ => trivial, fun _ => hidle.2⟩
  exact Safe.weaken hout fun r _ hr => hr.2 (hno r)

/-- **A call from inside.** Nobody else is inside, so the thread changes what it likes; when it
    leaves, what holds at rest is there again. -/
theorem inside_call {op : Op} {L Q : Except ε (Resp op) → σ → Prop} (h : Inside i P s)
    (hP : ∀ {w w'}, R.same w w' → P w → P w') (hno : ∀ r, R.enters op r = false)
    (hcall : ∀ w r w', R.inv w → P w → step i op w r w' → R.inv w' ∧ R.kept w w' ∧
      (R.leaves op r = true → R.rest w' ∧ L r w') ∧ (R.leaves op r = false → Q r w')) :
    Safe (R.contract step i) (fun r s' => (R.leaves op r = true → Outside i (L r) s') ∧
      (R.leaves op r = false → Inside i (Q r) s')) (perform op) s := by
  apply Safe.perform
  intro s₁ hrely hinv
  refine ⟨trivial, ?_⟩
  intro r s₂ hstep
  obtain ⟨hs, hnote, -⟩ := hstep
  have hin := h.stable hP hrely
  have honly := hinv.only hin.1
  obtain ⟨hinv', hkept, hleave, hstay⟩ := hcall _ _ _ hinv.inv hin.2 hs
  cases hleaves : R.leaves op r with
  | true =>
    have hnone : s₂.2 = [] := by
      rw [hnote, note, hno, hleaves, honly]
      simp
    have hout : ∀ j, j ∉ s₂.2 := by
      intro j
      rw [hnone]
      exact List.not_mem_nil
    obtain ⟨hrest, hL⟩ := hleave hleaves
    refine ⟨⟨?_, hinv', fun _ => hrest⟩, ?_, ?_, ?_⟩
    · rw [hnone]
      exact Nat.zero_le 1
    · intro j hj
      refine .of_outside ?_ (hout j) hkept
      rw [honly, List.mem_singleton]
      exact hj
    · intro _
      exact ⟨hout i, hL⟩
    · intro hfalse
      cases hfalse
  | false =>
    have hself : s₂.2 = [i] := by
      rw [hnote, note, hno, hleaves, honly]
      rfl
    refine ⟨⟨?_, hinv', ?_⟩, ?_, ?_, ?_⟩
    · rw [hself]
      exact Nat.le_refl 1
    · intro hempty
      rw [hself] at hempty
      cases hempty
    · intro j hj
      refine .of_outside ?_ ?_ hkept
      · rw [honly, List.mem_singleton]
        exact hj
      · rw [hself, List.mem_singleton]
        exact hj
    · intro htrue
      cases htrue
    · intro _
      refine ⟨?_, hstay hleaves⟩
      rw [hself]
      exact List.mem_singleton_self i

/-- **Run rule.** Where every thread is safe, the invariant holds in every state reached, and what
    remains of every thread is safe. -/
theorem solitary_safe {Q : Nat → Except ε α → σ × List Nat → Prop} {w : σ}
    {ts ts' : List (Program Op Resp ε α)}
    (hQ : ∀ i r s s', R.Others i s s' → Q i r s → Q i r s')
    (hinv : R.inv w) (hrest : R.rest w)
    (hsafe : ∀ i p, ts[i]? = some p → Safe (R.contract step i) (Q i) p (w, []))
    (h : Interleaving (R.solitary step) (w, []) ts s' ts') :
    R.Solo s' ∧ ∀ i p, ts'[i]? = some p → Safe (R.contract step i) (Q i) p s' := by
  have hinit : R.Solo (w, []) := ⟨Nat.zero_le 1, hinv, fun _ => hrest⟩
  exact Interleaving.safe Others.refl (fun _ => Others.trans) hQ hinit hsafe h

/-- The calls of thread `i` where they meet the condition. -/
def solitary_exec (exec : Nat → (op : Op) → σ → Option (Except ε (Resp op) × σ)) (i : Nat) (op : Op)
    (s : σ × List Nat) : Option (Except ε (Resp op) × (σ × List Nat)) :=
  match exec i op s.1 with
  | some (r, w') => if R.enters op r = true → s.2 = [] then some (r, w', R.note i op r s.2) else none
  | none => none

theorem solitary_exec_sound {exec : Nat → (op : Op) → σ → Option (Except ε (Resp op) × σ)}
    (hexec : ∀ i op w r w', exec i op w = some (r, w') → step i op w r w') {op : Op}
    {r : Except ε (Resp op)} (h : R.solitary_exec exec i op s = some (r, s')) :
    R.solitary step i op s r s' := by
  unfold solitary_exec at h
  split at h
  · next r₁ w' hop =>
    split at h
    · next halone =>
      obtain ⟨rfl, rfl⟩ := Prod.mk.inj (Option.some.inj h)
      exact ⟨hexec _ _ _ _ _ hop, rfl, halone⟩
    · cases h
  · cases h

end Region

end CaseAutomation.Framework
