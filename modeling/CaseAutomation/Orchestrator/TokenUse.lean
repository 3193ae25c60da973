import Mathlib.Data.List.Perm.Subperm
import CaseAutomation.Framework.Expand
import CaseAutomation.Framework.Threads
import CaseAutomation.Orchestrator.Calls
import CaseAutomation.Orchestrator.Reference

/-! # Single Use of a Token in the Database

    `PostgresRunStore.mark_token_used` is a transaction of its own: it SELECTs the row of the
    token, UPDATEs `used_at` and COMMITs. Under read-committed isolation a SELECT
    sees the committed row and does not lock it, and an UPDATE waits for the row lock that
    another uncommitted UPDATE holds, then overwrites. So two calls that both read
    the token as unused both return `True`.

    `Stmt` are the statements; every other call of the resolver stays atomic. A
    statement may also fail, which rolls its transaction back.
-/

namespace CaseAutomation.Orchestrator.Postgres

open Framework Program

/-! ## Statements -/

/-- One statement, or an atomic call that does not concern the token row. -/
inductive Stmt where
  | call (c : Call)
  | select_token (token_id : String)
  | update_token (token_id : String) (used_at : Time)
  | commit (token_id : String)
  /-- No statement: the point at which `mark_token_used` returns. -/
  | returned (first_use : Bool)

abbrev Stmt.Resp : Stmt → Type
  | .call c => c.Resp
  | .select_token _ => Option ApprovalToken
  | .update_token _ _ => Unit
  | .commit _ => Unit
  | .returned _ => Unit

/-- Programs over statements. -/
abbrev S (α : Type) : Type := Program Stmt Stmt.Resp Exn α

abbrev issue (q : Stmt) : S q.Resp := Program.perform q

/-- `PostgresRunStore.mark_token_used`. The change of `used_at` is flushed by the commit. -/
def mark_token_used (token_id : String) (used_at : Time) : S Bool := do
  match ← issue (.select_token token_id) with
  | none => pure false
  | some orm =>
    if orm.is_used then pure false
    else do
      issue (.update_token token_id used_at)
      issue (.commit token_id)
      pure true

/-- The call with its return marked. -/
def mark_and_return (token_id : String) (used_at : Time) : S Bool := do
  let first_use ← mark_token_used token_id used_at
  issue (.returned first_use)
  pure first_use

/-- How a call is made of statements. -/
def statements : (c : Call) → S c.Resp
  | .mark_token_used token_id used_at => mark_and_return token_id used_at
  | c => issue (.call c)

/-! ## What a statement does -/

/-- The database, the other services, and a record of what the calls have done. -/
structure TokenDb where
  world : World
  /-- The uncommitted UPDATE of each token row: who made it, and the new `used_at`. -/
  lock : String → Option (Nat × Time)
  /-- Who has read the token as unused in a transaction that is still open. -/
  reading : List Nat
  /-- Whose UPDATE has been committed. -/
  committed : List Nat
  /-- Whose `mark_token_used` has returned `True`. -/
  returned : List Nat
  /-- Who has gone on to load the gate request. -/
  passed : List Nat

namespace TokenDb

/-- Nothing has been done yet. -/
def start (w : World) : TokenDb := ⟨w, fun _ => none, [], [], [], []⟩

/-- The row can be marked used. -/
def unused (token_id : String) (s : TokenDb) : Bool :=
  match s.world.store.tokens.get? token_id with
  | none => false
  | some token => !token.is_used

/-- The transaction of `i` ends: its row locks are released. -/
def close (i : Nat) (s : TokenDb) : TokenDb :=
  { s with
    lock := fun id => (s.lock id).filter fun held => held.1 ≠ i
    reading := s.reading.filter (· ≠ i) }

/-- The committed row. -/
def write_used (token_id : String) (used_at : Time) (w : World) : World :=
  match w.store.tokens.get? token_id with
  | none => w
  | some token => w.with_store { w.store with
      tokens := w.store.tokens.set token_id { token with used_at := some used_at } }

end TokenDb

/-- The call by which a resolution goes on after the single-use check. -/
def loads_gate : Call → Bool
  | .get_gate_request _ => true
  | _ => false

open TokenDb in
/-- What statement `q` of thread `i` does; `none` while it waits for a row lock. -/
def exec_stmt (env : Env) (i : Nat) : (q : Stmt) → TokenDb → Option (Except Exn q.Resp × TokenDb)
  | .call c, s => some ((exec env c s.world).1,
      { s with
        world := (exec env c s.world).2
        passed := if loads_gate c then i :: s.passed else s.passed })
  | .select_token id, s => some (.ok (s.world.store.tokens.get? id),
      if s.unused id then { s with reading := i :: s.reading } else s)
  | .update_token id used_at, s =>
    match s.lock id with
    | some held =>
      if held.1 = i then some (.ok (), s) else none
    | none => some (.ok (), { s with
        lock := fun k => if k = id then some (i, used_at) else s.lock k })
  | .commit id, s =>
    match s.lock id with
    | some held =>
      if held.1 = i then some (.ok (), { s.close i with
        world := write_used id held.2 s.world
        committed := i :: s.committed })
      else some (.ok (), s.close i)
    | none => some (.ok (), s.close i)
  | .returned first_use, s => some (.ok (),
      if first_use then { s with returned := i :: s.returned } else s)

/-- A statement is answered, or it fails and its transaction is rolled back, or it takes
    effect and its answer is lost. -/
inductive statement (env : Env) (i : Nat) (q : Stmt) (s : TokenDb) :
    Except Exn q.Resp → TokenDb → Prop where
  | answered {r : Except Exn q.Resp} {s' : TokenDb} : exec_stmt env i q s = some (r, s') →
      statement env i q s r s'
  | failed (e : Exn) : statement env i q s (.error e) (s.close i)
  | unacknowledged (e : Exn) {r : Except Exn q.Resp} {s' : TokenDb} :
      exec_stmt env i q s = some (r, s') → statement env i q s (.error e) s'

/-- The statement reads the token as unused. -/
def reads_unused : Stmt → TokenDb → Bool
  | .select_token id, s => s.unused id
  | _, _ => false

/-- The statements, as long as nobody reads the token as unused while the transaction of
    another call that did so is open. -/
def serial (env : Env) (i : Nat) : Relation Stmt Stmt.Resp Exn TokenDb :=
  fun q s r s' => statement env i q s r s' ∧ (reads_unused q s = true → s.reading = [])

/-! ## The invariant -/

section proof
variable {env : Env} {token_id : String} {i j : Nat} {s s' : TokenDb}

/-- At most one call has read the token as unused and not been rolled back; what has been
    returned was committed before, and what has passed was returned before. -/
structure OneUse (token_id : String) (s : TokenDb) : Prop where
  single : (s.reading ++ s.committed).length ≤ 1
  used : s.committed ≠ [] → s.unused token_id = false
  locked : ∀ held, s.lock token_id = some held →
    ∃ token, s.world.store.tokens.get? token_id = some token
  returned_sub : ∀ i ∈ s.returned, i ∈ s.committed
  returned_nodup : s.returned.Nodup
  passed_sub : ∀ i ∈ s.passed, i ∈ s.returned
  passed_nodup : s.passed.Nodup

/-- What the other calls leave alone of call `j`. -/
structure Aside (token_id : String) (j : Nat) (s s' : TokenDb) : Prop where
  token : ∀ token, s.world.store.tokens.get? token_id = some token →
    ∃ token', s'.world.store.tokens.get? token_id = some token'
  reading : j ∈ s'.reading ↔ j ∈ s.reading
  committed : j ∈ s'.committed ↔ j ∈ s.committed
  returned : j ∈ s'.returned ↔ j ∈ s.returned
  passed : j ∈ s'.passed ↔ j ∈ s.passed
  lock : ∀ used_at, s.lock token_id = some (j, used_at) → s'.lock token_id = some (j, used_at)

theorem Aside.refl (token_id : String) (j : Nat) (s : TokenDb) : Aside token_id j s s :=
  ⟨fun token h => ⟨token, h⟩, Iff.rfl, Iff.rfl, Iff.rfl, Iff.rfl, fun _ h => h⟩

theorem Aside.trans {a b c : TokenDb} (h : Aside token_id j a b) (h' : Aside token_id j b c) :
    Aside token_id j a c := by
  refine ⟨?_, h'.reading.trans h.reading, h'.committed.trans h.committed,
    h'.returned.trans h.returned, h'.passed.trans h.passed, fun t ht => h'.lock t (h.lock t ht)⟩
  intro token htoken
  obtain ⟨token', htoken'⟩ := h.token token htoken
  exact h'.token token' htoken'

/-- The contract of thread `i`. -/
def contract (env : Env) (token_id : String) (i : Nat) : Contract Stmt Stmt.Resp Exn TokenDb :=
  threadContract (serial env) (OneUse token_id) (Aside token_id) (fun _ _ _ => True) i

/-- At most one call has returned `True`, and at most one has passed the check. -/
theorem OneUse.at_most_one (h : OneUse token_id s) :
    s.returned.length ≤ 1 ∧ s.passed.length ≤ 1 := by
  have hcommitted : s.committed.length ≤ 1 := by
    have hsingle := h.single
    rw [List.length_append] at hsingle
    omega
  have hreturned : s.returned.length ≤ s.committed.length :=
    (List.subperm_of_subset h.returned_nodup h.returned_sub).length_le
  have hpassed : s.passed.length ≤ s.returned.length :=
    (List.subperm_of_subset h.passed_nodup h.passed_sub).length_le
  omega

/-! ## What each statement keeps -/

theorem close_keeps (i : Nat) (h : OneUse token_id s) :
    OneUse token_id (s.close i) ∧ ∀ j, j ≠ i → Aside token_id j s (s.close i) := by
  constructor
  · refine ⟨?_, h.used, ?_, h.returned_sub, h.returned_nodup, h.passed_sub, h.passed_nodup⟩
    · have hfilter := List.length_filter_le (fun j => decide (j ≠ i)) s.reading
      have hsingle := h.single
      simp only [TokenDb.close, List.length_append] at hsingle ⊢
      omega
    · intro held hheld
      have hlock := Option.eq_some_of_filter_eq_some hheld
      exact h.locked held hlock
  · intro j hji
    refine ⟨fun token h => ⟨token, h⟩, ?_, Iff.rfl, Iff.rfl, Iff.rfl, ?_⟩
    · simp [TokenDb.close, hji]
    · intro used_at hlock
      simp [TokenDb.close, hlock, hji]

/-- Calls of the resolver other than the use of the token. -/
def outside : Call → Bool
  | .now => true
  | .get_token _ => true
  | .get_gate_request _ => true
  | .save_approval_decision _ => true
  | .update_gate_request _ => true
  | .audit _ => true
  | .update_run_status _ _ _ _ => true
  | .advance_gate_step _ _ => true
  | _ => false

theorem outside_tokens {c : Call} (hc : outside c = true) (w : World) :
    (exec env c w).2.store.tokens = w.store.tokens := by
  have hchange : StoreChange env w c (exec env c w).2.store (exec env c w).2.clock :=
    exec_store_change env c w
  generalize (exec env c w).2.store = store at hchange
  generalize (exec env c w).2.clock = clock at hchange
  cases hchange with
  | token_saved token => cases hc
  | token_used used_at hget hused => cases hc
  | _ => rfl

theorem outside_not_mark {c : Call} (hc : outside c = true) : statements c = issue (.call c) := by
  cases c <;> first | rfl | cases hc

/-- A statement of a serial history that is answered, fails, or has its answer lost. -/
theorem serial_keeps {q : Stmt} {P : q.Resp → TokenDb → Prop} (h : OneUse token_id s)
    (hexec : ∀ r s', exec_stmt env i q s = some (r, s') →
      (reads_unused q s = true → s.reading = []) →
      OneUse token_id s' ∧ (∀ j, j ≠ i → Aside token_id j s s') ∧ ∀ a, r = .ok a → P a s')
    (r : Except Exn q.Resp) (hstep : serial env i q s r s') :
    OneUse token_id s' ∧ (∀ j, j ≠ i → Aside token_id j s s') ∧ ∀ a, r = .ok a → P a s' := by
  obtain ⟨hstatement, hserial⟩ := hstep
  cases hstatement with
  | answered hq => exact hexec r s' hq hserial
  | failed e =>
    obtain ⟨hinv, haside⟩ := close_keeps i h
    exact ⟨hinv, haside, fun a ha => by cases ha⟩
  | unacknowledged e hq =>
    obtain ⟨hinv, haside, -⟩ := hexec _ s' hq hserial
    exact ⟨hinv, haside, fun a ha => by cases ha⟩

/-- Rule for one statement of thread `i`, from an assertion that the others leave alone. -/
theorem yields_issue {q : Stmt} {A : TokenDb → Prop} {P : q.Resp → TokenDb → Prop}
    (hA : ∀ s s', Aside token_id i s s' → A s → A s')
    (hexec : ∀ s r s', OneUse token_id s → A s → exec_stmt env i q s = some (r, s') →
      (reads_unused q s = true → s.reading = []) →
      OneUse token_id s' ∧ (∀ j, j ≠ i → Aside token_id j s s') ∧ ∀ a, r = .ok a → P a s')
    (h : A s) : Yields (contract env token_id i) P (issue q) s := by
  apply Yields.perform
  intro s₁ haside hinv
  refine ⟨trivial, ?_⟩
  intro r s₂ hstep
  have hA₁ := hA s s₁ haside h
  exact serial_keeps hinv (fun r s' hq hserial => hexec s₁ r s' hinv hA₁ hq hserial) r hstep

/-- Thread `i` has not returned from the check, nor passed it. -/
structure Fresh (i : Nat) (s : TokenDb) : Prop where
  returned : i ∉ s.returned
  passed : i ∉ s.passed

theorem Fresh.aside (h : Fresh i s) (ha : Aside token_id i s s') : Fresh i s' :=
  ⟨fun hi => h.returned (ha.returned.mp hi), fun hi => h.passed (ha.passed.mp hi)⟩

/-- An outside call that does not load the gate keeps whatever the others keep. -/
theorem yields_outside {c : Call} {A : TokenDb → Prop}
    (hA : ∀ s s', Aside token_id i s s' → A s → A s') (hc : outside c = true)
    (hload : loads_gate c = false)
    (hown : ∀ s w, A s → w.store.tokens = s.world.store.tokens → A { s with world := w })
    (h : A s) : Yields (contract env token_id i) (fun _ s' => A s') (issue (.call c)) s := by
  apply yields_issue hA _ h
  intro s r s' hinv hs hq _
  simp only [exec_stmt, hload, Bool.false_eq_true, if_false, Option.some.injEq, Prod.mk.injEq] at hq
  obtain ⟨-, rfl⟩ := hq
  have htokens : (exec env c s.world).2.store.tokens = s.world.store.tokens :=
    outside_tokens hc s.world
  refine ⟨?_, ?_, fun _ _ => hown s _ hs htokens⟩
  · refine ⟨hinv.single, ?_, ?_, hinv.returned_sub, hinv.returned_nodup, hinv.passed_sub,
      hinv.passed_nodup⟩
    · intro hne
      have hused := hinv.used hne
      unfold TokenDb.unused at hused ⊢
      rw [htokens]
      exact hused
    · intro held hheld
      rw [htokens]
      exact hinv.locked held hheld
  · intro j _
    refine ⟨?_, Iff.rfl, Iff.rfl, Iff.rfl, Iff.rfl, fun _ h => h⟩
    intro token htoken
    rw [htokens]
    exact ⟨token, htoken⟩

/-! ## The transaction -/

/-- Reading the row: a call that finds it unused is the only one. -/
theorem yields_select (h : Fresh i s) :
    Yields (contract env token_id i) (fun row s' => Fresh i s' ∧ ∀ token, row = some token →
      token.is_used = false → i ∈ s'.reading ∧ ∃ token, s'.world.store.tokens.get? token_id =
        some token) (issue (.select_token token_id)) s := by
  apply yields_issue (A := Fresh i) (fun _ _ ha h => h.aside ha) _ h
  intro s r s' hinv hfresh hq hserial
  simp only [exec_stmt, Option.some.injEq, Prod.mk.injEq] at hq
  obtain ⟨rfl, rfl⟩ := hq
  by_cases hunused : s.unused token_id = true
  · -- nobody else has an open transaction, and nobody has committed
    have hreading : s.reading = [] := hserial hunused
    have hcommitted : s.committed = [] := by
      by_contra hne
      rw [hinv.used hne] at hunused
      cases hunused
    rw [if_pos hunused]
    refine ⟨⟨?_, hinv.used, hinv.locked, hinv.returned_sub, hinv.returned_nodup, hinv.passed_sub,
      hinv.passed_nodup⟩, ?_, ?_⟩
    · simp [hreading, hcommitted]
    · intro j hji
      exact ⟨fun token h => ⟨token, h⟩, by simp [hji], Iff.rfl, Iff.rfl, Iff.rfl, fun _ h => h⟩
    · intro row hrow
      refine ⟨⟨hfresh.returned, hfresh.passed⟩, ?_⟩
      intro token htoken _
      have hget : s.world.store.tokens.get? token_id = row := Except.ok.inj hrow
      exact ⟨List.mem_cons_self, token, hget.trans htoken⟩
  · rw [if_neg hunused]
    refine ⟨hinv, fun j _ => Aside.refl token_id j s, ?_⟩
    intro row hrow
    refine ⟨hfresh, ?_⟩
    intro token htoken hused
    have hget : s.world.store.tokens.get? token_id = row := Except.ok.inj hrow
    exfalso
    apply hunused
    unfold TokenDb.unused
    rw [hget, htoken]
    simp [hused]

/-- The call has read the token as unused, and its row is there. -/
structure Reading (token_id : String) (i : Nat) (s : TokenDb) : Prop where
  fresh : Fresh i s
  reading : i ∈ s.reading
  row : ∃ token, s.world.store.tokens.get? token_id = some token

theorem Reading.aside (h : Reading token_id i s) (ha : Aside token_id i s s') :
    Reading token_id i s' := by
  obtain ⟨token, htoken⟩ := h.row
  exact ⟨h.fresh.aside ha, ha.reading.mpr h.reading, ha.token token htoken⟩

theorem yields_update (used_at : Time) (h : Reading token_id i s) :
    Yields (contract env token_id i)
      (fun _ s' => Reading token_id i s' ∧ ∃ t, s'.lock token_id = some (i, t))
      (issue (.update_token token_id used_at)) s := by
  apply yields_issue (A := Reading token_id i) (fun _ _ ha h => h.aside ha) _ h
  intro s r s' hinv hreading hq _
  simp only [exec_stmt] at hq
  cases hlock : s.lock token_id with
  | some held =>
    rw [hlock] at hq
    simp only at hq
    by_cases hmine : held.1 = i
    · rw [if_pos hmine] at hq
      cases hq
      refine ⟨hinv, fun j _ => Aside.refl token_id j s, fun _ _ => ⟨hreading, held.2, ?_⟩⟩
      rw [hlock, ← hmine]
    · rw [if_neg hmine] at hq
      cases hq
  | none =>
    rw [hlock] at hq
    cases hq
    refine ⟨⟨hinv.single, hinv.used, fun _ _ => hreading.row, hinv.returned_sub,
      hinv.returned_nodup, hinv.passed_sub, hinv.passed_nodup⟩, ?_, ?_⟩
    · intro j _
      refine ⟨fun token h => ⟨token, h⟩, Iff.rfl, Iff.rfl, Iff.rfl, Iff.rfl, ?_⟩
      intro t ht
      rw [hlock] at ht
      cases ht
    · intro _ _
      exact ⟨⟨⟨hreading.fresh.returned, hreading.fresh.passed⟩, hreading.reading, hreading.row⟩,
        used_at, if_pos rfl⟩

/-- A committed update leaves the token used. -/
theorem unused_write_used {token : ApprovalToken} (used_at : Time) {w : World}
    (h : w.store.tokens.get? token_id = some token) :
    (TokenDb.write_used token_id used_at w).store.tokens.get? token_id =
      some { token with used_at := some used_at } := by
  unfold TokenDb.write_used
  rw [h]
  exact Dict.get?_set_self _ _ _

theorem yields_commit (h : Reading token_id i s) (hlock : ∃ t, s.lock token_id = some (i, t)) :
    Yields (contract env token_id i) (fun _ s' => Fresh i s' ∧ i ∈ s'.committed)
      (issue (.commit token_id)) s := by
  apply yields_issue
    (A := fun s => Reading token_id i s ∧ ∃ t, s.lock token_id = some (i, t)) _ _ ⟨h, hlock⟩
  · rintro s s' ha ⟨hreading, t, ht⟩
    exact ⟨hreading.aside ha, t, ha.lock t ht⟩
  rintro s r s' hinv ⟨hreading, t, ht⟩ hq _
  simp only [exec_stmt, ht, if_true, Option.some.injEq, Prod.mk.injEq] at hq
  obtain ⟨-, rfl⟩ := hq
  obtain ⟨token, htoken⟩ := hreading.row
  have hwritten := unused_write_used t htoken
  refine ⟨⟨?_, ?_, ?_, ?_, hinv.returned_nodup, hinv.passed_sub, hinv.passed_nodup⟩, ?_, ?_⟩
  · -- the reader becomes the committer
    have hless : (s.reading.filter fun j => decide (j ≠ i)).length < s.reading.length := by
      rw [List.length_filter_lt_length_iff_exists]
      exact ⟨i, hreading.reading, by simp⟩
    have hsingle := hinv.single
    simp only [TokenDb.close, List.length_append, List.length_cons] at hsingle ⊢
    omega
  · intro _
    show TokenDb.unused token_id { s.close i with world := TokenDb.write_used token_id t s.world } =
      false
    unfold TokenDb.unused
    rw [hwritten]
    rfl
  · intro _ _
    exact ⟨_, hwritten⟩
  · intro j hj
    exact List.mem_cons_of_mem i (hinv.returned_sub j hj)
  · intro j hji
    refine ⟨fun _ _ => ⟨_, hwritten⟩, ?_, ?_, Iff.rfl, Iff.rfl, ?_⟩
    · simp [TokenDb.close, hji]
    · simp [hji]
    · intro used_at hused
      rw [ht] at hused
      cases hused
      exact absurd rfl hji
  · intro _ _
    exact ⟨⟨hreading.fresh.returned, hreading.fresh.passed⟩, List.mem_cons_self⟩

/-- `mark_token_used` returns `True` only to a call whose update is committed. -/
theorem yields_mark (used_at : Time) (h : Fresh i s) :
    Yields (contract env token_id i)
      (fun first_use s' => Fresh i s' ∧ (first_use = true → i ∈ s'.committed))
      (mark_token_used token_id used_at) s := by
  apply Yields.bind (yields_select h)
  rintro row s₁ ⟨hfresh, hrow⟩
  cases row with
  | none => exact Yields.ret ⟨hfresh, fun h => by cases h⟩
  | some orm =>
    simp only
    by_cases hused : orm.is_used = true
    · rw [if_pos hused]
      exact Yields.ret ⟨hfresh, fun h => by cases h⟩
    · rw [if_neg hused]
      obtain ⟨hreading, htoken⟩ := hrow orm rfl (Bool.eq_false_iff.mpr hused)
      apply Yields.bind (yields_update used_at ⟨hfresh, hreading, htoken⟩)
      rintro _ s₂ ⟨hreading₂, hlock⟩
      apply Yields.bind (yields_commit hreading₂ hlock)
      rintro _ s₃ ⟨hfresh₃, hcommitted⟩
      exact Yields.ret ⟨hfresh₃, fun _ => hcommitted⟩

/-- Its return: at most one call returns `True`. -/
theorem yields_returned (first_use : Bool) (h : Fresh i s)
    (hfirst : first_use = true → i ∈ s.committed) :
    Yields (contract env token_id i)
      (fun _ s' => i ∉ s'.passed ∧ (first_use = true → i ∈ s'.returned))
      (issue (.returned first_use)) s := by
  apply yields_issue
    (A := fun s => Fresh i s ∧ (first_use = true → i ∈ s.committed)) _ _ ⟨h, hfirst⟩
  · rintro s s' ha ⟨hfresh, hc⟩
    exact ⟨hfresh.aside ha, fun hf => ha.committed.mpr (hc hf)⟩
  rintro s r s' hinv ⟨hfresh, hc⟩ hq _
  simp only [exec_stmt, Option.some.injEq, Prod.mk.injEq] at hq
  obtain ⟨-, rfl⟩ := hq
  cases first_use with
  | false => exact ⟨hinv, fun j _ => Aside.refl token_id j s, fun _ _ => ⟨hfresh.passed, by simp⟩⟩
  | true =>
    refine ⟨⟨hinv.single, hinv.used, hinv.locked, ?_, ?_, ?_, hinv.passed_nodup⟩, ?_, ?_⟩
    · intro j hj
      obtain rfl | hj := List.mem_cons.mp hj
      · exact hc rfl
      · exact hinv.returned_sub j hj
    · exact List.nodup_cons.mpr ⟨hfresh.returned, hinv.returned_nodup⟩
    · intro j hj
      exact List.mem_cons_of_mem i (hinv.passed_sub j hj)
    · intro j hji
      exact ⟨fun token h => ⟨token, h⟩, Iff.rfl, Iff.rfl, by simp [hji], Iff.rfl, fun _ h => h⟩
    · intro _ _
      exact ⟨hfresh.passed, fun _ => List.mem_cons_self⟩

theorem yields_mark_and_return (used_at : Time) (h : Fresh i s) :
    Yields (contract env token_id i)
      (fun first_use s' => i ∉ s'.passed ∧ (first_use = true → i ∈ s'.returned))
      (mark_and_return token_id used_at) s := by
  apply Yields.bind (yields_mark used_at h)
  rintro first_use s₁ ⟨hfresh, hcommitted⟩
  apply Yields.bind (yields_returned first_use hfresh hcommitted)
  intro _ s₂ hs₂
  exact Yields.ret hs₂

/-! ## The calls -/

/-- Calls that concern neither the token nor the check. -/
def Quiet (c : Call) : Prop := outside c = true ∧ loads_gate c = false

theorem yields_quiet {α : Type} {p : M α} (hp : Issues Quiet p) (s : TokenDb) :
    Yields (contract env token_id i) (fun _ _ => True) (p.expand statements) s := by
  have hcall : ∀ c s, Quiet c → True →
      Safe (contract env token_id i) (fun _ _ => True) (statements c) s := by
    intro c s hc _
    rw [outside_not_mark hc.1]
    have hyields : Yields (contract env token_id i) (fun _ _ => True) (issue (.call c)) s :=
      yields_outside (A := fun _ => True) (fun _ _ _ _ => trivial) hc.1 hc.2
        (fun _ _ _ _ => trivial) trivial
    exact Safe.weaken hyields fun _ _ _ => trivial
  exact Safe.weaken (Safe.expand hp hcall trivial) fun _ _ _ _ _ => trivial

theorem record_resolution_quiet (args : ResolveArgs) (payload : TokenPayload) (gate : GateRequest) :
    Issues Quiet (record_resolution args payload gate) := by
  unfold record_resolution
  refine .bind (.perform ⟨rfl, rfl⟩) fun _ => ?_
  refine .bind (.perform ⟨rfl, rfl⟩) fun _ => ?_
  refine .bind (.perform ⟨rfl, rfl⟩) fun _ => ?_
  refine .bind (maybe_audit_issues _ _ _ _ fun _ => ⟨rfl, rfl⟩) fun _ => ?_
  refine .bind (.perform ⟨rfl, rfl⟩) fun _ => ?_
  refine .bind ?_ fun _ => .ret
  unfold resume_step
  cases args.decision with
  | approve => exact .perform ⟨rfl, rfl⟩
  | reject => exact .ret

/-- After the check: the gate request is loaded, once. -/
theorem yields_check_gate (args : ResolveArgs) (payload : TokenPayload) (hpassed : i ∉ s.passed)
    (hreturned : i ∈ s.returned) :
    Yields (contract env token_id i) (fun _ _ => True)
      ((check_gate args payload).expand statements) s := by
  have hload : Yields (contract env token_id i) (fun _ _ => True)
      (issue (.call (.get_gate_request payload.gid))) s := by
    apply yields_issue (A := fun s => i ∉ s.passed ∧ i ∈ s.returned) _ _ ⟨hpassed, hreturned⟩
    · rintro s s' ha ⟨hp, hr⟩
      exact ⟨fun h => hp (ha.passed.mp h), ha.returned.mpr hr⟩
    rintro s r s' hinv ⟨hp, hr⟩ hq _
    cases hq
    refine ⟨⟨hinv.single, hinv.used, hinv.locked, hinv.returned_sub, hinv.returned_nodup, ?_, ?_⟩,
      ?_, fun _ _ => trivial⟩
    · intro j hj
      obtain rfl | hj := List.mem_cons.mp hj
      · exact hr
      · exact hinv.passed_sub j hj
    · exact List.nodup_cons.mpr ⟨hp, hinv.passed_nodup⟩
    · intro j hji
      exact ⟨fun token h => ⟨token, h⟩, Iff.rfl, Iff.rfl, Iff.rfl, by simp [loads_gate, hji],
        fun _ h => h⟩
  unfold check_gate
  rw [monad_bind, expand_bind, expand_perform]
  apply Yields.bind hload
  intro found s₁ _
  apply yields_quiet
  cases found with
  | none => exact .raise
  | some gate =>
    simp only
    split_ifs
    · exact .raise
    · split
      · exact .raise
      · exact .bind (maybe_audit_issues _ _ _ _ fun _ => ⟨rfl, rfl⟩) fun _ => .raise
      · exact record_resolution_quiet args payload gate

/-- Steps 2 to 4 and what follows them. -/
theorem yields_use_token (args : ResolveArgs) {payload : TokenPayload} (hid : payload.tid = token_id)
    (h : Fresh i s) :
    Yields (contract env token_id i) (fun _ _ => True)
      ((use_token args payload).expand statements) s := by
  have hkeep : ∀ {c : Call} {s : TokenDb}, outside c = true → loads_gate c = false → Fresh i s →
      Yields (contract env token_id i) (fun _ s' => Fresh i s') (issue (.call c)) s := by
    intro c s hc hload h
    exact yields_outside (fun _ _ ha h => h.aside ha) hc hload
      (fun s w h _ => ⟨h.returned, h.passed⟩) h
  unfold use_token
  rw [monad_bind, expand_bind, expand_perform]
  apply Yields.bind (hkeep (c := .now) rfl rfl h)
  intro now s₁ h₁
  split_ifs
  · exact yields_quiet (.bind (maybe_audit_issues _ _ _ _ fun _ => ⟨rfl, rfl⟩) fun _ => .raise) s₁
  rw [monad_bind, expand_bind, expand_perform]
  apply Yields.bind (hkeep (c := .get_token payload.tid) rfl rfl h₁)
  intro found s₂ h₂
  cases found with
  | none => exact Yields.raise
  | some token =>
    simp only [monad_bind]
    rw [expand_bind, expand_perform]
    apply Yields.bind (hkeep (c := .now) rfl rfl h₂)
    intro used_at s₃ h₃
    rw [expand_bind, expand_perform]
    have hmark : Yields (contract env token_id i)
        (fun first_use s' => i ∉ s'.passed ∧ (first_use = true → i ∈ s'.returned))
        (mark_and_return token_id used_at) s₃ := yields_mark_and_return used_at h₃
    rw [← hid] at hmark ⊢
    apply Yields.bind hmark
    rintro first_use s₄ ⟨hpassed, hreturned⟩
    split_ifs with hfirst
    · exact yields_check_gate args payload hpassed (hreturned hfirst)
    · exact yields_quiet
        (.bind (maybe_audit_issues _ _ _ _ fun _ => ⟨rfl, rfl⟩) fun _ => .raise) s₄

/-- A use of the token: `mark_token_used` by itself, or a resolution that presents a raw token
    with this id. -/
inductive TokenCall (crypto : Crypto) (token_id : String) : S Unit → Prop where
  | mark (used_at : Time) : TokenCall crypto token_id (mark_and_return token_id used_at).discard
  | resolve {args : ResolveArgs} {payload : TokenPayload} :
      verify_token crypto args.raw_token args.signing_key = .ok (.ok payload) →
      payload.tid = token_id →
      TokenCall crypto token_id ((resolve_gate crypto args).expand statements).discard

theorem safe_token_call {crypto : Crypto} {p : S Unit} (hp : TokenCall crypto token_id p)
    (h : Fresh i s) : Safe (contract env token_id i) (fun _ _ => True) p s := by
  cases hp with
  | mark used_at => exact Yields.discard (yields_mark_and_return used_at h)
  | @resolve args payload hverify hid =>
    unfold resolve_gate
    rw [hverify]
    exact Yields.discard (yields_use_token args hid h)

end proof

/-- **Single use, one transaction at a time.** Any number of `mark_token_used` calls and of
    resolutions for one token id are interleaved statement by statement, with
    failing statements. If no call reads the token as unused while the transaction of
    another call that did so is open, at most one call returns `True` and at most one
    resolution gets past the single-use check. -/
theorem token_used_once_when_serial {env : Env} {crypto : Crypto} {token_id : String} {w : World}
    {ts ts' : List (S Unit)} {s : TokenDb} (hts : ∀ p ∈ ts, TokenCall crypto token_id p)
    (h : Interleaving (serial env) (TokenDb.start w) ts s ts') :
    s.returned.length ≤ 1 ∧ s.passed.length ≤ 1 := by
  have hinit : OneUse token_id (TokenDb.start w) := by
    refine ⟨Nat.zero_le _, fun hne => absurd rfl hne, ?_, ?_, List.nodup_nil, ?_, List.nodup_nil⟩
    · intro held hheld
      cases hheld
    · intro i hi
      cases hi
    · intro i hi
      cases hi
  have hstart : ∀ i p, ts[i]? = some p → Safe (threadContract (serial env) (OneUse token_id)
      (Aside token_id) (fun _ _ _ => True) i) (fun _ _ => True) p (TokenDb.start w) := by
    intro i p hp
    have hfresh : Fresh i (TokenDb.start w) := ⟨List.not_mem_nil, List.not_mem_nil⟩
    exact safe_token_call (hts p (List.mem_of_getElem? hp)) hfresh
  obtain ⟨hinv, -⟩ := Interleaving.safe (Q := fun _ _ _ => True) (Aside.refl token_id)
    (fun _ => Aside.trans) (fun _ _ _ _ _ _ => trivial) hinit hstart h
  exact hinv.at_most_one

/-! ## The same link opened twice

    The run waiting for a signature; two resolutions present its first token. -/

section twice

/-- The two programs; the signature checks are replaced by their outcomes. -/
def link_threads : List (S Unit) :=
  [((use_token (resolve_with (first_token (signature_waiting 1)) .approve "attorney")
      (first_token (signature_waiting 1)).payload).expand statements).discard,
    ((use_token (resolve_with (first_token (signature_waiting 1)) .approve "attorney")
      (first_token (signature_waiting 1)).payload).expand statements).discard]

theorem link_threads_present : ∀ p ∈ link_threads,
    TokenCall reference_crypto (first_token (signature_waiting 1)).id p := by
  have hcall : TokenCall reference_crypto (first_token (signature_waiting 1)).id
      ((use_token (resolve_with (first_token (signature_waiting 1)) .approve "attorney")
        (first_token (signature_waiting 1)).payload).expand statements).discard := by
    rw [← resolve_gate_with]
    exact .resolve (verify_resolve_with _ _ _) rfl
  intro p hp
  unfold link_threads at hp
  rcases List.mem_cons.mp hp with rfl | hp
  · exact hcall
  · rw [List.mem_singleton] at hp
    rw [hp]
    exact hcall

/-- Both calls read the token, then both go on. -/
def link_race : Option (TokenDb × List (S Unit)) :=
  play (exec_stmt reference_env)
    (List.replicate 4 0 ++ List.replicate 4 1 ++ List.replicate 4 0 ++ List.replicate 4 1)
    (TokenDb.start (signature_waiting 1)) link_threads

/-- **One token used twice**: both calls get `True` from `mark_token_used` and get past the
    single-use check. -/
theorem one_link_passes_twice :
    (∀ p ∈ link_threads, TokenCall reference_crypto (first_token (signature_waiting 1)).id p) ∧
    ∃ s ts', Interleaving (statement reference_env) (TokenDb.start (signature_waiting 1))
      link_threads s ts' ∧ s.returned.length = 2 ∧ s.passed.length = 2 := by
  have hplayed : link_race.isSome = true := by decide +kernel
  obtain ⟨⟨s, ts'⟩, hrace⟩ := Option.isSome_iff_exists.mp hplayed
  have hboth : ∀ q ∈ link_race, q.1.returned.length = 2 ∧ q.1.passed.length = 2 := by
    decide +kernel
  refine ⟨link_threads_present, s, ts', ?_, hboth _ hrace⟩
  apply Interleaving.of_play _ hrace
  intro i q s r s' hexec
  exact .answered hexec

/-- The statements of a serial history. -/
def serial_exec (i : Nat) (q : Stmt) (s : TokenDb) : Option (Except Exn q.Resp × TokenDb) :=
  if reads_unused q s && !s.reading.isEmpty then none else exec_stmt reference_env i q s

/-- The second call starts when the first one has ended. -/
def link_turns : Option (TokenDb × List (S Unit)) :=
  play serial_exec (List.replicate 14 0 ++ List.replicate 14 1)
    (TokenDb.start (signature_waiting 1)) link_threads

/-- The guarantee at work: the second call is turned away. -/
theorem second_click_refused :
    ∃ s : TokenDb, s.returned.length = 1 ∧ s.returned.length ≤ 1 ∧ s.passed.length ≤ 1 := by
  have hplayed : link_turns.isSome = true := by decide +kernel
  obtain ⟨⟨s, ts'⟩, hturns⟩ := Option.isSome_iff_exists.mp hplayed
  have hone : ∀ q ∈ link_turns, q.1.returned.length = 1 := by decide +kernel
  have hreach : Interleaving (serial reference_env) (TokenDb.start (signature_waiting 1))
      link_threads s ts' := by
    apply Interleaving.of_play _ hturns
    intro i q s r s' hexec
    unfold serial_exec at hexec
    split_ifs at hexec with hopen
    refine ⟨.answered hexec, ?_⟩
    intro hreads
    rw [hreads, Bool.true_and, Bool.not_eq_true', ← Bool.not_eq_true, Bool.not_eq_true] at hopen
    simpa using hopen
  exact ⟨s, hone _ hturns, token_used_once_when_serial link_threads_present hreach⟩

end twice

end CaseAutomation.Orchestrator.Postgres
