import CaseAutomation.Framework.Issues
import CaseAutomation.StatusUpdate.Triggers

/-! # One E-Mail for a Transition

    A webhook event and any number of sweeps see a matter in a new status, and the runs that they start are
    executed, all side by side. The change ids of a webhook and of a sweep differ, and so do those of two
    sweeps, so neither the seal nor the key of `start_run` keeps two triggers apart: only the last known status
    does, and it is set late.

    A trigger that passes its check for the matter holds a token until it has started its run. Where a
    trigger passes only when there is neither a token nor a run for the matter, there is never more than one run, and so
    at most one run sends an e-mail (`one_email_when_alone`). Once the runs have finished, a sweep finds
    the status known in any case.
-/

namespace CaseAutomation.StatusUpdate

open Framework Program Domain

/-! ## The condition -/

/-- The change for which a call lets a trigger start a run. -/
def starting : (c : Call) → Except Exn c.Resp → Option MatterStatusDelta
  | .check_event _ _ _ _, .ok (.start delta) => some delta
  | .compare _ _, .ok (some (.start delta)) => some delta
  | _, _ => none

/-- The call lets a trigger start a run for the matter. -/
def passes (matter_id : String) (c : Call) (r : Except Exn c.Resp) : Bool :=
  (starting c r).any fun delta => decide (delta.matter_id = matter_id)

/-- The call starts a run for the matter. -/
def starts (matter_id : String) : Call → Bool
  | .start_run delta => decide (delta.matter_id = matter_id)
  | _ => false

/-- The triggers that have passed and not started their run yet, after a call of thread `i`. -/
def note (matter_id : String) (i : Nat) (c : Call) (r : Except Exn c.Resp) (tokens : List Nat) :
    List Nat :=
  if passes matter_id c r then i :: tokens
  else if starts matter_id c then tokens.erase i
  else tokens

/-- There is no run for the matter. -/
def World.untouched (matter_id : String) (w : World) : Bool :=
  w.runs.all fun run => decide (run.delta.matter_id ≠ matter_id)

/-- The calls of thread `i`, where a trigger passes for the matter only if no other one has. -/
def alone (env : Env) (matter_id : String) (i : Nat) :
    Relation Call Call.Resp Exn (World × List Nat) :=
  fun c s r s' => Service.rel (exec env) c s.1 r s'.1 ∧ s'.2 = note matter_id i c r s.2 ∧
    (passes matter_id c r = true → s.1.untouched matter_id = true ∧ s.2 = [])

/-! ## The invariant -/

/-- The runs of the matter. -/
def World.concerning (matter_id : String) (w : World) : List Run :=
  w.runs.filter fun run => decide (run.delta.matter_id = matter_id)

/-- At most one run is started or about to be, and every run is for the status observed. -/
structure Single (env : Env) (matter_id status : String) (s : World × List Nat) : Prop where
  one : (s.1.concerning matter_id).length + s.2.length ≤ 1
  observed : ∀ run ∈ s.1.runs, run.delta.matter_id = matter_id → run.delta.to_status = status
  known : ∀ run ∈ s.1.runs, ∃ n < s.1.uuids, run.id = env.uuid n
  ids : (s.1.runs.map Run.id).Nodup

/-- The status of the matter is known. -/
def World.settled (matter_id status : String) (w : World) : Prop :=
  w.status_store.get_last_status matter_id = some status

/-- What all threads keep. -/
structure Kept (matter_id status : String) (w w' : World) : Prop where
  runs : w.runs <:+ w'.runs
  settled : w.settled matter_id status → w'.settled matter_id status

/-- What others do to thread `i`. -/
structure Others (matter_id status : String) (i : Nat) (s s' : World × List Nat) : Prop where
  token : i ∈ s.2 → i ∈ s'.2
  kept : Kept matter_id status s.1 s'.1

/-- What a thread may assume and must keep. -/
def trigger_contract (env : Env) (matter_id status : String) (i : Nat) :
    Contract Call Call.Resp Exn (World × List Nat) :=
  threadContract (alone env matter_id) (Single env matter_id status) (Others matter_id status)
    (fun _ _ _ => True) i

section calls
variable {env : Env} {matter_id status : String} {i : Nat} {s s' : World × List Nat} {w w' : World}
  {delta : MatterStatusDelta}

theorem Kept.refl (w : World) : Kept matter_id status w w := ⟨List.suffix_refl _, id⟩

/-- What starts no run keeps the runs. -/
theorem Kept.of_runs {w w' : World} (hruns : w'.runs = w.runs)
    (hsettled : w.settled matter_id status → w'.settled matter_id status) :
    Kept matter_id status w w' := by
  have hsuffix : w.runs <:+ w'.runs := ⟨[], hruns.symm⟩
  exact ⟨hsuffix, hsettled⟩

theorem Kept.trans {w₂ : World} (h : Kept matter_id status w w') (h' : Kept matter_id status w' w₂) :
    Kept matter_id status w w₂ := ⟨h.runs.trans h'.runs, fun hw => h'.settled (h.settled hw)⟩

theorem Others.refl (i : Nat) (s : World × List Nat) : Others matter_id status i s s :=
  ⟨id, Kept.refl _⟩

theorem Others.trans {a b c : World × List Nat} (h : Others matter_id status i a b)
    (h' : Others matter_id status i b c) : Others matter_id status i a c :=
  ⟨fun hi => h'.token (h.token hi), h.kept.trans h'.kept⟩

/-- Nobody takes the token of another thread. -/
theorem note_other {j : Nat} (hj : j ≠ i) {c : Call} {r : Except Exn c.Resp} {tokens : List Nat}
    (h : j ∈ tokens) : j ∈ note matter_id i c r tokens := by
  unfold note
  split
  · exact List.mem_cons_of_mem _ h
  · split
    · exact (List.mem_erase_of_ne hj).mpr h
    · exact h

/-- One call, from what it does. -/
theorem safe_call {c : Call} {P : World × List Nat → Prop}
    {Q : Except Exn c.Resp → World × List Nat → Prop} (h : P s)
    (hP : ∀ {s s'}, Others matter_id status i s s' → P s → P s')
    (hcall : ∀ s r s', Single env matter_id status s → P s → alone env matter_id i c s r s' →
      Single env matter_id status s' ∧ Kept matter_id status s.1 s'.1 ∧ Q r s') :
    Safe (trigger_contract env matter_id status i) Q (await c) s := by
  apply Safe.perform
  intro s₁ hrely hinv
  refine ⟨trivial, ?_⟩
  intro r s₂ hstep
  obtain ⟨hsingle, hkept, hQ⟩ := hcall s₁ r s₂ hinv (hP hrely h) hstep
  refine ⟨hsingle, ?_, hQ⟩
  intro j hj
  refine ⟨?_, hkept⟩
  intro htoken
  rw [hstep.2.1]
  exact note_other hj htoken

/-- A call that changes no run and no token. -/
structure Quiet (matter_id status : String) (s s' : World × List Nat) : Prop where
  runs : s'.1.runs = s.1.runs
  uuids : s'.1.uuids = s.1.uuids
  tokens : s'.2 = s.2
  settled : s.1.settled matter_id status → s'.1.settled matter_id status

/-- Where no run is started, only the tokens count. -/
theorem Single.of_runs (hs : Single env matter_id status s) (hruns : s'.1.runs = s.1.runs)
    (huuids : s.1.uuids ≤ s'.1.uuids) (hone : (s.1.concerning matter_id).length + s'.2.length ≤ 1) :
    Single env matter_id status s' := by
  refine ⟨?_, ?_, ?_, ?_⟩
  · unfold World.concerning at hone ⊢
    rw [hruns]
    exact hone
  · rw [hruns]
    exact hs.observed
  · intro run hrun
    rw [hruns] at hrun
    obtain ⟨n, hn, hid⟩ := hs.known run hrun
    have hlt : n < s'.1.uuids := by omega
    exact ⟨n, hlt, hid⟩
  · rw [hruns]
    exact hs.ids

theorem Quiet.single (h : Quiet matter_id status s s') (hs : Single env matter_id status s) :
    Single env matter_id status s' := by
  have hone := hs.one
  rw [← h.tokens] at hone
  exact hs.of_runs h.runs (Nat.le_of_eq h.uuids.symm) hone

theorem Quiet.kept (h : Quiet matter_id status s s') : Kept matter_id status s.1 s'.1 :=
  Kept.of_runs h.runs h.settled

/-! ## The checks -/

theorem check_event_start {config : StatusUpdateConfig} {id from_status to_status event_id : String}
    {now : Time} {store : LastKnownStatusStore}
    (h : check_event config id from_status to_status event_id now store = .start delta) :
    delta.matter_id = id ∧ delta.to_status = to_status := by
  unfold check_event at h
  split at h
  · simp only at h
    split at h
    · cases h
    · cases h
      exact ⟨rfl, rfl⟩
  · cases h

theorem compare_start {config : StatusUpdateConfig} {id current_status : String} {now : Time}
    {store : LastKnownStatusStore}
    (h : (compare config id current_status now store).1 = some (.start delta)) :
    delta.matter_id = id ∧ delta.to_status = current_status := by
  unfold compare at h
  split at h
  · cases h
  · split at h
    · cases h
    · simp only at h
      split at h
      · cases h
      · exact check_event_start (Option.some.inj h)

/-- A comparison sets no status. -/
theorem compare_store (config : StatusUpdateConfig) (id current_status : String) (now : Time)
    (store : LastKnownStatusStore) :
    (compare config id current_status now store).2.last_status = store.last_status := by
  unfold compare
  split
  · rfl
  · split
    · rfl
    · simp only
      split
      · rfl
      · rfl

/-- A known status starts nothing. -/
theorem compare_settled (config : StatusUpdateConfig) (now : Time) {store : LastKnownStatusStore}
    (h : store.get_last_status matter_id = some status) :
    (compare config matter_id status now store).1 = none := by
  unfold compare
  rw [h]
  simp

/-- What a trigger holds that has passed its check. -/
def Passed (matter_id status : String) (i : Nat) (delta : MatterStatusDelta) (s : World × List Nat) :
    Prop :=
  delta.matter_id = matter_id → i ∈ s.2 ∧ delta.to_status = status

theorem Passed.stable (hrely : Others matter_id status i s s')
    (h : Passed matter_id status i delta s) : Passed matter_id status i delta s' := by
  intro hmatter
  exact ⟨hrely.token (h hmatter).1, (h hmatter).2⟩

theorem check_of_starting {id from_status to_status event_id : String} {check : Check}
    (h : starting (.check_event id from_status to_status event_id) (.ok check) = some delta) :
    check = .start delta := by
  cases check with
  | skip => cases h
  | noop change_id => cases h
  | start delta' => rw [Option.some.inj h]

theorem answer_of_starting {id current_status : String} {answer : Option Check}
    (h : starting (.compare id current_status) (.ok answer) = some delta) :
    answer = some (.start delta) := by
  match answer with
  | none => cases h
  | some .skip => cases h
  | some (.noop change_id) => cases h
  | some (.start delta') => rw [Option.some.inj h]

/-- A call that lets a trigger pass takes the token. -/
theorem single_of_pass {c : Call} {r : Except Exn c.Resp} (hs : Single env matter_id status s)
    (hstep : alone env matter_id i c s r s') (hpass : passes matter_id c r = true)
    (hruns : s'.1.runs = s.1.runs) (huuids : s'.1.uuids = s.1.uuids) :
    Single env matter_id status s' ∧ i ∈ s'.2 := by
  obtain ⟨-, hnote, halone⟩ := hstep
  obtain ⟨huntouched, hnone⟩ := halone hpass
  have htokens : s'.2 = [i] := by
    rw [hnote, note, if_pos hpass, hnone]
  have hempty : s.1.concerning matter_id = [] := by
    apply List.filter_eq_nil_iff.mpr
    intro run hrun
    have hne := List.all_eq_true.mp huntouched run hrun
    simpa using hne
  -- neither a run nor a token before the call, one token after it
  have hone : (s.1.concerning matter_id).length + s'.2.length ≤ 1 := by
    rw [hempty, htokens]
    simp
  refine ⟨hs.of_runs hruns (Nat.le_of_eq huuids.symm) hone, ?_⟩
  rw [htokens]
  exact List.mem_singleton_self i

/-- A call that changes at most the store, from what it answers: a trigger that passes has the token. -/
theorem safe_check {c : Call} {L : Except Exn c.Resp → Prop} (hstarts : starts matter_id c = false)
    (hcall : ∀ w r w', exec env c w = (r, w') → w'.runs = w.runs ∧ w'.uuids = w.uuids ∧
      (w.settled matter_id status → w'.settled matter_id status) ∧ L r ∧
      ∀ delta, starting c r = some delta → delta.matter_id = matter_id → delta.to_status = status) :
    Safe (trigger_contract env matter_id status i)
      (fun r s' => L r ∧ ∀ delta, starting c r = some delta → Passed matter_id status i delta s')
      (await c) s := by
  refine safe_call (P := fun _ => True) trivial (fun _ h => h) ?_
  intro s r s' hs _ hstep
  obtain ⟨hruns, huuids, hsettled, hL, hstatus⟩ := hcall _ _ _ hstep.1
  cases hpass : passes matter_id c r with
  | true =>
    obtain ⟨hsingle, htoken⟩ := single_of_pass hs hstep hpass hruns huuids
    refine ⟨hsingle, Kept.of_runs hruns hsettled, hL, ?_⟩
    intro delta hdelta hmatter
    exact ⟨htoken, hstatus delta hdelta hmatter⟩
  | false =>
    have hquiet : Quiet matter_id status s s' := by
      refine ⟨hruns, huuids, ?_, hsettled⟩
      rw [hstep.2.1, note, hpass, hstarts]
      rfl
    refine ⟨hquiet.single hs, hquiet.kept, hL, ?_⟩
    intro delta hdelta hmatter
    rw [passes, hdelta] at hpass
    simp [hmatter] at hpass

/-! ## Starting a run -/

/-- What `start_run` does: nothing, or there is one more run. -/
theorem start_run_cases {r : Except Exn String} (h : w.start_run env delta = (r, w')) :
    w'.status_store = w.status_store ∧ w.uuids ≤ w'.uuids ∧
    (w'.runs = w.runs ∨ w'.runs = ⟨env.uuid w.uuids, delta⟩ :: w.runs ∧ w.uuids < w'.uuids) := by
  have hwith : ∀ w : World, (w.with_run env delta).2.status_store = w.status_store ∧
      w.uuids ≤ (w.with_run env delta).2.uuids ∧
      ((w.with_run env delta).2.runs = w.runs ∨
        (w.with_run env delta).2.runs = ⟨env.uuid w.uuids, delta⟩ :: w.runs ∧
          w.uuids < (w.with_run env delta).2.uuids) := by
    intro w
    unfold World.with_run
    split
    · exact ⟨rfl, Nat.le_succ _, .inl rfl⟩
    · exact ⟨rfl, Nat.le_succ _, .inr ⟨rfl, Nat.lt_succ_self _⟩⟩
  have hcalled := hwith { w with starts := w.starts + 1 }
  unfold World.start_run at h
  simp only at h
  split at h
  · obtain ⟨-, rfl⟩ := Prod.mk.inj h
    exact hcalled
  · split at h
    · obtain ⟨-, rfl⟩ := Prod.mk.inj h
      exact hcalled
    · obtain ⟨-, rfl⟩ := Prod.mk.inj h
      exact ⟨rfl, Nat.le_refl _, .inl rfl⟩

/-- One more run, started by the trigger that has the token. -/
theorem Single.add_run (hs : Single env matter_id status s)
    (hpassed : Passed matter_id status i delta s)
    (hruns : s'.1.runs = ⟨env.uuid s.1.uuids, delta⟩ :: s.1.runs) (huuids : s.1.uuids < s'.1.uuids)
    (htokens : s'.2 = if delta.matter_id = matter_id then s.2.erase i else s.2) :
    Single env matter_id status s' := by
  refine ⟨?_, ?_, ?_, ?_⟩
  · have hone := hs.one
    unfold World.concerning at hone ⊢
    rw [hruns, htokens, List.filter_cons]
    by_cases hmatter : delta.matter_id = matter_id
    · -- the token of the trigger becomes the run
      have hlength := List.length_erase_of_mem (hpassed hmatter).1
      have hpos := List.length_pos_of_mem (hpassed hmatter).1
      rw [if_pos (decide_eq_true hmatter), if_pos hmatter, List.length_cons, hlength]
      omega
    · rw [if_neg (by simpa using hmatter), if_neg hmatter]
      exact hone
  · intro run hrun hmatter
    rw [hruns] at hrun
    obtain rfl | hrun := List.mem_cons.mp hrun
    · exact (hpassed hmatter).2
    · exact hs.observed run hrun hmatter
  · intro run hrun
    rw [hruns] at hrun
    obtain rfl | hrun := List.mem_cons.mp hrun
    · exact ⟨_, huuids, rfl⟩
    · obtain ⟨n, hn, hid⟩ := hs.known run hrun
      exact ⟨n, hn.trans huuids, hid⟩
  · rw [hruns]
    refine List.nodup_cons.mpr ⟨?_, hs.ids⟩
    -- the id was not drawn before
    intro hmem
    obtain ⟨run, hrun, hid⟩ := List.mem_map.mp hmem
    obtain ⟨n, hn, hknown⟩ := hs.known run hrun
    have heq := env.uuid_injective (hid.symm.trans hknown)
    exact absurd hn (by omega)

theorem safe_start_run (h : Passed matter_id status i delta s) :
    Safe (trigger_contract env matter_id status i) (fun _ _ => True) (await (.start_run delta)) s := by
  refine safe_call (P := Passed matter_id status i delta) h Passed.stable ?_
  intro s r s' hs hpassed hstep
  obtain ⟨hexec, hnote, -⟩ := hstep
  obtain ⟨hstore, huuids, hcases⟩ := start_run_cases hexec
  have hsettled : s.1.settled matter_id status → s'.1.settled matter_id status := by
    unfold World.settled
    rw [hstore]
    exact id
  have htokens : s'.2 = if delta.matter_id = matter_id then s.2.erase i else s.2 := by
    rw [hnote]
    simp [note, passes, starting, starts]
  obtain hsame | ⟨hruns, hlt⟩ := hcases
  · -- no new run: the trigger gives its token back all the same
    have hlength : s'.2.length ≤ s.2.length := by
      rw [htokens]
      split
      · exact List.length_erase_le
      · exact Nat.le_refl _
    have hone : (s.1.concerning matter_id).length + s'.2.length ≤ 1 := by
      have := hs.one
      omega
    exact ⟨hs.of_runs hsame huuids hone, Kept.of_runs hsame hsettled, trivial⟩
  · refine ⟨hs.add_run hpassed hruns hlt htokens, ⟨?_, hsettled⟩, trivial⟩
    rw [hruns]
    exact List.suffix_cons _ _

/-! ## Triggers -/

/-- The sweeps see the matter in this status. -/
def Observed (env : Env) (matter_id status : String) : Prop :=
  ∀ n matter, env.matter n matter_id = .ok matter → matter.status = status

theorem settled_update {store : LastKnownStatusStore} {id st : String} (hst : id = matter_id → st = status)
    (h : store.get_last_status matter_id = some status) :
    (store.update_last_status id st).get_last_status matter_id = some status := by
  unfold LastKnownStatusStore.update_last_status LastKnownStatusStore.get_last_status
  rw [Dict.get?_set]
  split
  · next hid => rw [hst hid.symm]
  · exact h

theorem safe_start_checked {check : Check}
    (h : ∀ delta, check = .start delta → Passed matter_id status i delta s) :
    Safe (trigger_contract env matter_id status i) (fun _ _ => True) (start_checked check) s := by
  cases check with
  | skip => exact Safe.ret trivial
  | noop change_id => exact Safe.ret trivial
  | start delta =>
    refine Safe.bind (safe_start_run (h delta rfl)) ?_ fun _ _ _ => trivial
    intro run_id s₁ _
    exact Safe.ret trivial

/-- A webhook event for the matter is about the status observed. -/
theorem safe_handle_status_change_event {id from_status to_status event_id : String}
    (hevent : id = matter_id → to_status = status) :
    Safe (trigger_contract env matter_id status i) (fun _ _ => True)
      (handle_status_change_event id from_status to_status event_id) s := by
  refine Safe.bind (safe_check (L := fun _ => True) rfl ?_) ?_ fun _ _ _ => trivial
  · intro w r w' hexec
    obtain ⟨rfl, rfl⟩ := Prod.mk.inj hexec
    refine ⟨rfl, rfl, fun h => h, trivial, ?_⟩
    intro delta hdelta hmatter
    obtain ⟨hid, hto⟩ := check_event_start (check_of_starting hdelta)
    exact hto.trans (hevent (hid.symm.trans hmatter))
  · intro check s₁ hchecked
    refine safe_start_checked ?_
    rintro delta rfl
    exact hchecked.2 delta rfl

/-- The comparison of a sweep. -/
theorem safe_compare {id current_status : String} (hcurrent : id = matter_id → current_status = status) :
    Safe (trigger_contract env matter_id status i)
      (fun r s' => ∀ delta, r = .ok (some (.start delta)) → Passed matter_id status i delta s')
      (await (.compare id current_status)) s := by
  refine Safe.weaken (safe_check (L := fun _ => True) rfl ?_) ?_
  · intro w r w' hexec
    obtain ⟨rfl, rfl⟩ := Prod.mk.inj hexec
    refine ⟨rfl, rfl, ?_, trivial, ?_⟩
    · intro h
      show (compare _ _ _ _ _).2.last_status.get? matter_id = some status
      rw [compare_store]
      exact h
    · intro delta hdelta hmatter
      obtain ⟨hid, hto⟩ := compare_start (answer_of_starting hdelta)
      exact hto.trans (hcurrent (hid.symm.trans hmatter))
  · rintro r s' hr delta rfl
    exact hr.2 delta rfl

theorem safe_update_last_status {id st : String} (hst : id = matter_id → st = status) :
    Safe (trigger_contract env matter_id status i) (fun _ _ => True)
      (await (.update_last_status id st)) s := by
  refine Safe.weaken (safe_check (L := fun _ => True) rfl ?_) fun _ _ _ => trivial
  intro w r w' hexec
  obtain ⟨rfl, rfl⟩ := Prod.mk.inj hexec
  exact ⟨rfl, rfl, settled_update hst, trivial, fun _ h => by cases h⟩

theorem safe_sweep_matter (hobserved : Observed env matter_id status) (id : String) :
    Safe (trigger_contract env matter_id status i) (fun _ _ => True) (sweep_matter id) s := by
  refine Safe.bind (safe_check (L := fun (r : Except Exn (Call.get_matter id).Resp) => ∀ matter,
    r = .ok matter → id = matter_id → matter.status = status) rfl ?_) ?_ fun _ _ _ => trivial
  · intro w r w' hexec
    obtain ⟨rfl, rfl⟩ := Prod.mk.inj hexec
    refine ⟨rfl, rfl, fun h => h, ?_, fun _ h => by cases h⟩
    intro matter hmatter hid
    rw [hid] at hmatter
    exact hobserved _ _ hmatter
  · intro matter s₁ hmatter
    -- the status that is compared, and the one that is set at the end, is the one observed
    have hstatus := hmatter.1 matter rfl
    refine Safe.bind (safe_compare hstatus) ?_ fun _ _ _ => trivial
    intro answer s₂ hanswer
    match answer with
    | none => exact Safe.ret trivial
    | some check =>
      refine Safe.bind (safe_start_checked ?_) ?_ fun _ _ _ => trivial
      · rintro delta rfl
        exact hanswer delta rfl
      · intro started s₃ _
        match started with
        | none => exact Safe.ret trivial
        | some result =>
          refine Safe.bind (safe_update_last_status hstatus) ?_ fun _ _ _ => trivial
          intro _ s₄ _
          exact Safe.ret trivial

theorem safe_sweep_matters (hobserved : Observed env matter_id status) (ids : List String) :
    Safe (trigger_contract env matter_id status i) (fun _ _ => True) (sweep_matters ids) s := by
  induction ids generalizing s with
  | nil => exact Safe.ret trivial
  | cons id rest ih =>
    refine Safe.bind (P := fun _ _ => True) (Safe.attempt (safe_sweep_matter hobserved id)
      fun _ _ _ => trivial) ?_ fun _ _ _ => trivial
    intro result s₁ _
    refine Safe.bind ih ?_ fun _ _ _ => trivial
    intro results s₂ _
    exact Safe.ret trivial

/-! ## Steps -/

/-- A step sets the status of the matter to the one observed. -/
def SetsStatus (matter_id status : String) (c : Workflows.Call) : Prop :=
  ∀ id st, c = .update_last_status id st → id = matter_id → st = status

/-- What a call of a step changes. -/
theorem of_step_cases {run_id : String} {c : Workflows.Call} {r : Except Exn c.Resp}
    (h : w.of_step env run_id c = (r, w')) (hsets : SetsStatus matter_id status c) :
    w'.runs = w.runs ∧ w'.uuids = w.uuids ∧
      (w.settled matter_id status → w'.settled matter_id status) := by
  unfold World.of_step at h
  split at h
  · next id st =>
    obtain ⟨rfl, rfl⟩ := Prod.mk.inj h
    exact ⟨rfl, rfl, settled_update (hsets id st rfl)⟩
  · obtain ⟨rfl, rfl⟩ := Prod.mk.inj h
    exact ⟨rfl, rfl, fun h => h⟩
  · simp only at h
    split at h
    · obtain ⟨rfl, rfl⟩ := Prod.mk.inj h
      exact ⟨rfl, rfl, fun h => h⟩
    · obtain ⟨rfl, rfl⟩ := Prod.mk.inj h
      split
      · exact ⟨rfl, rfl, fun h => h⟩
      · exact ⟨rfl, rfl, fun h => h⟩
  · obtain ⟨rfl, rfl⟩ := Prod.mk.inj h
    exact ⟨rfl, rfl, fun h => h⟩

/-- The fields that are read. -/
theorem fields_of_read_delta {p : Workflows.Pydantic} {data : PyDict} {delta : MatterStatusDelta}
    (h : read_delta p data = some delta) :
    Workflows.field data "matter_id" Workflows.read_str none = some delta.matter_id ∧
    Workflows.field data "to_status" Workflows.read_str none = some delta.to_status := by
  unfold read_delta at h
  obtain ⟨matter_id, hmatter_id, h⟩ := Option.bind_eq_some_iff.mp h
  obtain ⟨from_status, -, h⟩ := Option.bind_eq_some_iff.mp h
  obtain ⟨to_status, hto_status, h⟩ := Option.bind_eq_some_iff.mp h
  obtain ⟨change_id, -, h⟩ := Option.bind_eq_some_iff.mp h
  obtain ⟨source, -, h⟩ := Option.bind_eq_some_iff.mp h
  obtain ⟨detected_at, -, h⟩ := Option.bind_eq_some_iff.mp h
  obtain ⟨context, -, h⟩ := Option.bind_eq_some_iff.mp h
  cases h
  exact ⟨hmatter_id, hto_status⟩

/-- The context of a run says what it was started for. -/
theorem delta_of_context {svc : StatusUpdateServices} {iso : Time → String} {run : Run}
    {run_id : String} {output : String → Option PyDict} {delta : MatterStatusDelta}
    (h : svc.delta ⟨run_id, run.context iso, output⟩ = .ok delta) :
    delta.matter_id = run.delta.matter_id ∧ delta.to_status = run.delta.to_status := by
  unfold StatusUpdateServices.delta Workflows.construct at h
  split at h
  · next data hdata =>
    obtain rfl := PyValue.dict.inj hdata
    split at h
    · next read hread =>
      obtain ⟨hmatter_id, hto_status⟩ := fields_of_read_delta hread
      obtain rfl := Except.ok.inj h
      exact ⟨(Option.some.inj hmatter_id).symm, (Option.some.inj hto_status).symm⟩
    · cases h
  · cases h

section steps
variable {svc : StatusUpdateServices} {ctx : Workflows.Context}

theorem issues_audit {action run_id : String} {inputs outputs : PyDict} :
    Issues (SetsStatus matter_id status) (svc.audit action inputs outputs run_id) := by
  unfold StatusUpdateServices.audit
  split
  · refine Issues.bind (Issues.attempt (Issues.perform ?_)) fun _ => Issues.ret
    intro id st h
    cases h
  · exact Issues.ret

/-- A call that sets no status. -/
theorem issues_call {c : Workflows.Call} (h : ∀ id st, c ≠ .update_last_status id st) :
    Issues (SetsStatus matter_id status) (Workflows.await c) :=
  Issues.perform fun id st hc => absurd hc (h id st)

theorem issues_draft_email : Issues (SetsStatus matter_id status) (svc.draft_email ctx) := by
  refine Issues.bind Issues.ofExcept fun delta => ?_
  refine Issues.bind (issues_call fun _ _ h => by cases h) fun matter => ?_
  simp only
  split
  · exact Issues.ret
  · refine Issues.bind ?_ fun _ => Issues.bind issues_audit fun _ => Issues.ret
    refine Issues.bind (issues_call fun _ _ h => by cases h) fun id => ?_
    exact Issues.bind (issues_call fun _ _ h => by cases h) fun _ => Issues.ret

theorem issues_qc_recipient_integrity :
    Issues (SetsStatus matter_id status) (svc.qc_recipient_integrity ctx) := by
  refine Issues.bind Issues.ofExcept fun delta => ?_
  refine Issues.bind (issues_call fun _ _ h => by cases h) fun matter => ?_
  simp only
  split
  · exact Issues.ret
  · refine Issues.bind ?_ fun _ => Issues.bind issues_audit fun _ => Issues.ret
    refine Issues.bind (issues_call fun _ _ h => by cases h) fun _ => ?_
    refine Issues.bind (Issues.attempt (issues_call fun _ _ h => by cases h)) fun r => ?_
    cases r with
    | ok aggregate => exact Issues.ret
    | error e => exact Issues.ret

theorem issues_send_email : Issues (SetsStatus matter_id status) (svc.send_email ctx) := by
  refine Issues.bind Issues.ofExcept fun delta => ?_
  simp only
  split
  · exact Issues.ret
  · split
    · refine Issues.bind (issues_call fun _ _ h => by cases h) fun _ => ?_
      exact Issues.bind issues_audit fun _ => Issues.ret
    · exact Issues.ret

theorem issues_record_outcome : Issues (SetsStatus matter_id status) (svc.record_outcome ctx) := by
  refine Issues.bind Issues.ofExcept fun delta => ?_
  simp only
  split
  · exact Issues.bind (issues_call fun _ _ h => by cases h) fun _ => Issues.ret
  · exact Issues.ret

/-- A step of a run sets at most the status that the run was started for. -/
theorem issues_step {name : String} {step : Workflows.Step} (hstep : svc.step name = some step)
    (hdelta : ∀ delta, svc.delta ctx = .ok delta → delta.matter_id = matter_id →
      delta.to_status = status) :
    Issues (SetsStatus matter_id status) (step ctx) := by
  unfold StatusUpdateServices.step at hstep
  split at hstep
  all_goals cases hstep
  · exact Issues.bind Issues.ofExcept fun _ => Issues.ret
  · show Issues _ ((ofExcept (svc.delta ctx)).bind _)
    cases hread : svc.delta ctx with
    | error e => exact Issues.raise
    | ok delta =>
      show Issues _ ((Workflows.await (.update_last_status delta.matter_id delta.to_status)).bind _)
      refine Issues.bind (Issues.perform ?_) fun _ => Issues.ret
      intro id st h
      cases h
      exact hdelta delta hread
  · refine Issues.bind Issues.ofExcept fun _ => ?_
    exact Issues.bind (issues_call fun _ _ h => by cases h) fun _ => Issues.ret
  · exact issues_draft_email
  · exact issues_qc_recipient_integrity
  · exact issues_send_email
  · exact issues_record_outcome

end steps

/-! ## Invocations -/

theorem in_run_bind {α β : Type} (run_id : String) (p : Workflows.M α) (f : α → Workflows.M β) :
    in_run run_id (p.bind f) = (in_run run_id p).bind fun a => in_run run_id (f a) := by
  induction p with
  | ret a => rfl
  | raise e => rfl
  | call c k ih => exact congrArg (Program.call (Call.of_step run_id c)) (funext ih)

/-- The calls of a step of a run. -/
def OfStep (matter_id status : String) (c : Call) : Prop :=
  ∃ run_id step_call, c = .of_step run_id step_call ∧ SetsStatus matter_id status step_call

theorem issues_in_run {α : Type} {run_id : String} {p : Workflows.M α}
    (h : Issues (SetsStatus matter_id status) p) :
    Issues (OfStep matter_id status) (in_run run_id p) := by
  induction p with
  | ret a => trivial
  | raise e => trivial
  | call c k ih => exact ⟨⟨run_id, c, rfl, h.1⟩, fun r => ih r (h.2 r)⟩

theorem quiet_of_step {run_id : String} {c : Workflows.Call} {r : Except Exn c.Resp}
    (hsets : SetsStatus matter_id status c)
    (h : alone env matter_id i (.of_step run_id c) s r s') : Quiet matter_id status s s' := by
  obtain ⟨hexec, hnote, -⟩ := h
  obtain ⟨hruns, huuids, hsettled⟩ := of_step_cases hexec hsets
  exact ⟨hruns, huuids, hnote, hsettled⟩

theorem safe_in_run {α : Type} {run_id : String} {p : Workflows.M α}
    (h : Issues (SetsStatus matter_id status) p) :
    Safe (trigger_contract env matter_id status i) (fun _ _ => True) (in_run run_id p) s := by
  refine Safe.of_issues (A := fun _ => True) (fun _ _ _ h => h) ?_ (issues_in_run h) trivial
  rintro c s ⟨run_id, step_call, rfl, hsets⟩ hs _
  refine ⟨trivial, ?_⟩
  intro r s' hstep
  have hquiet := quiet_of_step hsets hstep
  refine ⟨hquiet.single hs, ?_, trivial⟩
  intro j _
  refine ⟨?_, hquiet.kept⟩
  rw [hquiet.tokens]
  exact id

/-- The run that an invocation has loaded. -/
def Loaded (env : Env) (matter_id status run_id : String) (context : PyDict)
    (s : World × List Nat) : Prop :=
  ∃ run ∈ s.1.runs, run.id = run_id ∧ context = run.context env.iso ∧
    (run.delta.matter_id = matter_id → run.delta.to_status = status)

/-- The run exists, and if it is one for the matter, the status is known. -/
def Computed (matter_id status run_id : String) (s : World × List Nat) : Prop :=
  ∃ run ∈ s.1.runs, run.id = run_id ∧
    (run.delta.matter_id = matter_id → s.1.settled matter_id status)

theorem Computed.stable {run_id : String} (hrely : Others matter_id status i s s')
    (h : Computed matter_id status run_id s) : Computed matter_id status run_id s' := by
  obtain ⟨run, hrun, hid, hsettled⟩ := h
  exact ⟨run, hrely.kept.runs.subset hrun, hid, fun hmatter => hrely.kept.settled (hsettled hmatter)⟩

theorem safe_load_run (run_id name : String) :
    Safe (trigger_contract env matter_id status i)
      (fun r s' => ∀ context, r = .ok context → Loaded env matter_id status run_id context s')
      (await (.load_run run_id name)) s := by
  refine safe_call (P := fun _ => True) trivial (fun _ h => h) ?_
  intro s r s' hs _ hstep
  obtain ⟨hexec, hnote, -⟩ := hstep
  obtain ⟨hload, hworld⟩ := Prod.mk.inj hexec
  have hsame : s' = s := Prod.ext hworld.symm hnote
  rw [hsame]
  refine ⟨hs, Kept.refl _, ?_⟩
  rintro context rfl
  unfold World.load_run at hload
  split at hload
  · cases hload
  · next run hfind =>
    split at hload
    · cases hload
    · have hid : run.id = run_id := by simpa using List.find?_some hfind
      have hrun := List.mem_of_find?_eq_some hfind
      exact ⟨run, hrun, hid, (Except.ok.inj hload).symm, hs.observed run hrun⟩

/-- The second step makes the status known. -/
theorem safe_compute_delta {svc : StatusUpdateServices} {run_id : String} {context : PyDict}
    {output : String → Option PyDict} (h : Loaded env matter_id status run_id context s) :
    Safe (trigger_contract env matter_id status i)
      (fun r s' => r.isOk = true → Computed matter_id status run_id s')
      (in_run run_id (svc.compute_delta ⟨run_id, context, output⟩)) s := by
  obtain ⟨run, hrun, hid, rfl, hobserved⟩ := h
  -- its only call sets the status that the run was started for
  show Safe _ _ (in_run run_id ((ofExcept (svc.delta _)).bind _)) s
  cases hread : svc.delta ⟨run_id, run.context env.iso, output⟩ with
  | error e => exact Safe.raise fun h => by cases h
  | ok delta =>
    obtain ⟨hmatter_id, hto_status⟩ := delta_of_context hread
    show Safe _ _ (in_run run_id
      ((Workflows.await (.update_last_status delta.matter_id delta.to_status)).bind _)) s
    rw [in_run_bind]
    refine Safe.bind (P := fun _ s' => Computed matter_id status run_id s') ?_
      (fun _ _ hcomputed => Safe.ret fun _ => hcomputed) fun _ _ hcomputed _ => hcomputed
    have hcall : in_run run_id (Workflows.await (.update_last_status delta.matter_id delta.to_status)) =
        await (.of_step run_id (.update_last_status delta.matter_id delta.to_status)) := by
      refine congrArg (Program.call (Call.of_step run_id _)) (funext ?_)
      intro r
      cases r with
      | ok _ => rfl
      | error e => rfl
    rw [hcall]
    refine safe_call (P := fun s => run ∈ s.1.runs) hrun
      (fun hrely h => hrely.kept.runs.subset h) ?_
    intro s r s' hs hrun hstep
    have hsets : SetsStatus matter_id status (.update_last_status delta.matter_id delta.to_status) := by
      intro id st hc hmatter
      cases hc
      rw [hto_status]
      exact hobserved (hmatter_id.symm.trans hmatter)
    have hquiet := quiet_of_step hsets hstep
    refine ⟨hquiet.single hs, hquiet.kept, run, ?_, hid, ?_⟩
    · rw [hquiet.runs]
      exact hrun
    · intro hmatter
      have hw := (Prod.mk.inj hstep.1).2
      rw [← hw]
      show (Dict.set _ delta.matter_id delta.to_status).get? matter_id = some status
      rw [hmatter_id, hto_status, hmatter, hobserved hmatter]
      exact Dict.get?_set_self _ _ _

/-- What holds when a job has ended: the status is known after the second step of a run. -/
def Ended (matter_id status : String) (job : Job) (r : Except Exn Unit) (s : World × List Nat) : Prop :=
  ∀ run_id output, job = .step run_id "compute_delta" output → r.isOk = true →
    Computed matter_id status run_id s

theorem Ended.of_other {job : Job} {r : Except Exn Unit}
    (h : ∀ run_id output, job ≠ .step run_id "compute_delta" output) :
    Ended matter_id status job r s :=
  fun run_id output hjob => absurd hjob (h run_id output)

theorem safe_invoke_step (svc : StatusUpdateServices) (run_id name : String)
    (output : String → Option PyDict) :
    Safe (trigger_contract env matter_id status i) (Ended matter_id status (.step run_id name output))
      (invoke_step svc run_id name output) s := by
  refine Safe.bind (safe_load_run run_id name) ?_ fun e _ _ _ _ _ h => by cases h
  intro context s₁ hloaded
  have hloaded := hloaded context rfl
  -- only one step is followed to its end
  by_cases hname : name = "compute_delta"
  · subst hname
    refine Safe.bind (safe_compute_delta hloaded) ?_ fun e _ _ _ _ _ h => by cases h
    intro _ s₂ hcomputed
    refine Safe.ret ?_
    intro run_id' output' hjob _
    cases hjob
    exact hcomputed rfl
  · have hother : ∀ run_id' output', Job.step run_id name output ≠ .step run_id' "compute_delta" output' := by
      intro run_id' output' hjob
      cases hjob
      exact hname rfl
    cases hstep : svc.step name with
    | none =>
      exact Safe.raise (Ended.of_other hother)
    | some step =>
      obtain ⟨run, -, -, rfl, hobserved⟩ := hloaded
      refine Safe.bind (safe_in_run (issues_step hstep ?_)) ?_ fun _ _ _ => Ended.of_other hother
      · intro delta hread hmatter
        obtain ⟨hmatter_id, hto_status⟩ := delta_of_context hread
        rw [hto_status]
        exact hobserved (hmatter_id.symm.trans hmatter)
      · intro _ s₂ _
        exact Safe.ret (Ended.of_other hother)

/-- The webhook events for the matter are about the status observed. -/
def Job.Concerns (matter_id status : String) (job : Job) : Prop :=
  ∀ from_status to_status event_id, job = .webhook matter_id from_status to_status event_id →
    to_status = status

/-- Any job, whatever the others do. -/
theorem safe_job (svc : StatusUpdateServices) (hobserved : Observed env matter_id status) {job : Job}
    (hconcerns : job.Concerns matter_id status) :
    Safe (trigger_contract env matter_id status i) (Ended matter_id status job) (job.program svc) s := by
  cases job with
  | webhook id from_status to_status event_id =>
    have hevent : id = matter_id → to_status = status := by
      rintro rfl
      exact hconcerns _ _ _ rfl
    exact Safe.weaken (safe_handle_status_change_event hevent).discard fun _ _ _ =>
      Ended.of_other fun _ _ h => by cases h
  | sweep ids =>
    exact Safe.weaken (safe_sweep_matters hobserved ids).discard fun _ _ _ =>
      Ended.of_other fun _ _ h => by cases h
  | approval run_id =>
    refine Safe.weaken (safe_check (L := fun _ => True) rfl ?_) fun _ _ _ =>
      Ended.of_other fun _ _ h => by cases h
    intro w r w' hexec
    obtain ⟨rfl, rfl⟩ := Prod.mk.inj hexec
    exact ⟨rfl, rfl, fun h => h, trivial, fun _ h => by cases h⟩
  | step run_id name output => exact safe_invoke_step svc run_id name output

/-! ## A further sweep -/

/-- Once the status is known, a sweep starts nothing. -/
theorem sweep_settled (hobserved : Observed env matter_id status) (h : w.settled matter_id status) :
    ∃ w', (sweep_matters [matter_id]).run (exec env) w = (.ok [], w') ∧ w'.runs = w.runs := by
  have hsweep : ∃ r w', (sweep_matter matter_id).run (exec env) w = (r, w') ∧ w'.runs = w.runs ∧
      ∀ started, r ≠ .ok (some started) := by
    unfold sweep_matter
    cases hmatter : env.matter w.matter_calls matter_id with
    | error e =>
      have hget : (await (.get_matter matter_id)).run (exec env) w =
          (.error e, { w with matter_calls := w.matter_calls + 1 }) := by
        rw [run_perform]
        simp only [exec, hmatter]
      exact ⟨_, _, run_bind_error hget, rfl, fun _ h => by cases h⟩
    | ok matter =>
      have hget : (await (.get_matter matter_id)).run (exec env) w =
          (.ok matter, { w with matter_calls := w.matter_calls + 1 }) := by
        rw [run_perform]
        simp only [exec, hmatter]
      rw [run_bind_ok hget, hobserved _ _ hmatter]
      have hnone := compare_settled env.services.config (env.clock w.ticks) h
      refine ⟨.ok none, (exec env (.compare matter_id status)
        { w with matter_calls := w.matter_calls + 1 }).2, ?_, rfl, fun _ h => by cases h⟩
      refine (run_bind_ok (a := none) ?_).trans rfl
      rw [run_perform]
      exact Prod.ext (congrArg Except.ok hnone) rfl
  obtain ⟨r, w', hrun, hruns, hnone⟩ := hsweep
  refine ⟨w', ?_, hruns⟩
  have hattempt : (sweep_matter matter_id).attempt.run (exec env) w = (.ok r, w') := by
    rw [run_attempt, hrun]
  unfold sweep_matters
  rw [run_bind_ok hattempt]
  match r with
  | .error e => rfl
  | .ok none => rfl
  | .ok (some started) => exact absurd rfl (hnone started)

end calls

/-! ## All jobs -/

/-- All runs for the matter have finished, and there is one. -/
def Finished (matter_id : String) (jobs : List Job) (w : World) (ts : List (M Unit)) : Prop :=
  (∃ run ∈ w.runs, run.delta.matter_id = matter_id) ∧
  ∀ run ∈ w.runs, run.delta.matter_id = matter_id → ∃ (i : Nat) (output : String → Option PyDict),
    jobs[i]? = some (.step run.id "compute_delta" output) ∧ ts[i]? = some (.ret ())

/-- The e-mail was sent by a run for the matter. -/
def Sent.concerns (matter_id : String) (w : World) (sent : Sent) : Prop :=
  ∃ run ∈ w.runs, run.id = sent.run_id ∧ run.delta.matter_id = matter_id

/-- **One e-mail for a transition.** Webhook events and sweeps that see the matter in one status, approvals,
    and steps of the runs, any number of them in any order: where a trigger passes its check for the matter
    only when no other trigger has passed, at most one run sends an e-mail. Once all runs have
    finished, a further sweep starts none. -/
theorem one_email_when_alone {env : Env} {matter_id status : String} {jobs : List Job} {w₀ w : World}
    {tokens : List Nat} {ts : List (M Unit)} (hnew : w₀.runs = [])
    (hobserved : Observed env matter_id status)
    (hconcerns : ∀ job ∈ jobs, job.Concerns matter_id status)
    (h : Interleaving (alone env matter_id) (w₀, []) (jobs.map (Job.program env.services)) (w, tokens) ts) :
    (∀ sent ∈ w.sent, ∀ sent' ∈ w.sent, sent.concerns matter_id w → sent'.concerns matter_id w →
      sent.run_id = sent'.run_id) ∧
    (Finished matter_id jobs w ts →
      ∃ w', (sweep_matters [matter_id]).run (exec env) w = (.ok [], w') ∧ w'.runs = w.runs) := by
  -- at the start there is neither a run nor a token
  have hinit : Single env matter_id status (w₀, []) := by
    refine ⟨?_, ?_, ?_, ?_⟩
    · simp [World.concerning, hnew]
    · simp [hnew]
    · simp [hnew]
    · simp [hnew]
  have hsafe : ∀ i p, (jobs.map (Job.program env.services))[i]? = some p →
      Safe (threadContract (alone env matter_id) (Single env matter_id status)
        (Others matter_id status) (fun _ _ _ => True) i)
        (fun r s => ∀ job, jobs[i]? = some job → Ended matter_id status job r s) p (w₀, []) := by
    intro i p hp
    rw [List.getElem?_map, Option.map_eq_some_iff] at hp
    obtain ⟨job, hjob, rfl⟩ := hp
    refine Safe.weaken (safe_job env.services hobserved (hconcerns job (List.mem_of_getElem? hjob))) ?_
    intro r s hended job' hjob'
    rw [hjob] at hjob'
    cases hjob'
    exact hended
  obtain ⟨hsingle, hall⟩ := Interleaving.safe (Q := fun i r s => ∀ job, jobs[i]? = some job →
      Ended matter_id status job r s) Others.refl (fun _ => Others.trans)
    (fun _ _ _ _ hrely hended job hjob run_id output hstep hok =>
      (hended job hjob run_id output hstep hok).stable hrely) hinit hsafe h
  refine ⟨?_, ?_⟩
  · intro sent _ sent' _ hconcerned hconcerned'
    obtain ⟨run, hrun, hid, hmatter⟩ := hconcerned
    obtain ⟨run', hrun', hid', hmatter'⟩ := hconcerned'
    -- the two runs are the same one
    have hone : (w.concerning matter_id).length + tokens.length ≤ 1 := hsingle.one
    have hlength : (w.concerning matter_id).length ≤ 1 := by omega
    have hmem : run ∈ w.concerning matter_id := List.mem_filter.mpr ⟨hrun, decide_eq_true hmatter⟩
    have hmem' : run' ∈ w.concerning matter_id := List.mem_filter.mpr ⟨hrun', decide_eq_true hmatter'⟩
    have hsame : run = run' := by
      match hlist : w.concerning matter_id with
      | [] =>
        rw [hlist] at hmem
        cases hmem
      | [only] =>
        rw [hlist, List.mem_singleton] at hmem hmem'
        rw [hmem, hmem']
      | first :: second :: rest =>
        rw [hlist] at hlength
        simp at hlength
    rw [← hid, ← hid', hsame]
  · intro hall_finished
    obtain ⟨⟨run, hrun, hmatter⟩, hfinished⟩ := hall_finished
    -- the thread that has executed compute_delta of the run left the status known
    obtain ⟨i, output, hjob, hret⟩ := hfinished run hrun hmatter
    obtain ⟨run', hrun', hid, hsettled⟩ := hall i _ hret _ hjob run.id output rfl rfl
    have hsame : run' = run := List.inj_on_of_nodup_map hsingle.ids hrun' hrun hid
    rw [hsame] at hsettled
    exact sweep_settled hobserved (hsettled hmatter)

/-! ## A webhook and a sweep -/

section scenarios

def sample_matter : Matter where
  id := "m-1"
  source := "clio"
  reference := "2024-001"
  title := "Asylum"
  status := "approved"
  practice_area := none
  client := ⟨"c-1", "clio", "Ana", some "ana@example.org", none, none, ∅⟩
  responsible := none
  opened_at := 0
  key_dates := []
  external_ids := ∅

def sample_services : StatusUpdateServices where
  pydantic := ⟨fun _ => some 0, fun _ => none, fun _ => none, some⟩
  config := ⟨["approved"], false⟩
  audited := false

/-- Every call of a step succeeds. -/
def sample_answers : (c : Workflows.Call) → Except Exn c.Resp
  | .now => .ok 0
  | .uuid4 => .ok "c-9"
  | .get_matter _ => .ok sample_matter
  | .create_draft _ => .ok "draft-1"
  | .send _ _ => .ok "message-1"
  | .qc_verify _ _ _ => .ok .PASS
  | .audit _ _ _ _ => .ok ()
  | .update_last_status _ _ => .ok ()
  | .mark_delivered _ _ => .ok ()
  | _ => .error (.other "NotImplementedError" "")

def sample_env : Env where
  services := sample_services
  iso _ := "2024-01-01T00:00:00Z"
  clock _ := 0
  matter _ _ := .ok sample_matter
  create_run _ := .answered
  uuid := numbered_id
  uuid_injective := numbered_id_injective
  answers _ := sample_answers
  sent_anyway _ := false

/-- The matter was last seen as pending. -/
def pending_world : World :=
  ⟨LastKnownStatusStore.empty.update_last_status "m-1" "pending", [], [], [], 0, 0, 0, 0, 0⟩

/-- What the steps of a run have returned. -/
def sample_output : String → Option PyDict
  | "resolve_recipients" => some [("gaps", .list [])]
  | "draft_email" => some [("draft_id", .str "draft-1"), ("blocked", .bool false)]
  | "qc_recipient_integrity" => some [("qc_result", .str "pass")]
  | "send_email" => some [("sent", .bool true), ("message_id", .str "message-1")]
  | _ => none

/-- A whole run: its steps in order, with the approval at the gate. -/
def run_jobs (run_id : String) : List Job :=
  (STEPS.take 5).map (fun name => .step run_id name sample_output) ++ [.approval run_id] ++
    (STEPS.drop 6).map fun name => .step run_id name sample_output

def approved_event : Job := .webhook "m-1" "pending" "approved" "evt-1"

/-- The webhook event, a sweep, and the two runs. -/
def event_and_sweep : List Job :=
  [approved_event, .sweep ["m-1"]] ++ run_jobs "id-0" ++ run_jobs "id-1"

/-- The calls, by any thread. -/
def sample_exec (_ : Nat) (c : Call) (w : World) : Option (Except Exn c.Resp × World) :=
  some (exec sample_env c w)

/-- One job after the other, each with calls enough. -/
def in_order (n : Nat) : List Nat := (List.range n).flatMap fun i => List.replicate 8 i

def event_then_sweep : Option (World × List (M Unit)) :=
  play sample_exec (in_order event_and_sweep.length) pending_world
    (event_and_sweep.map (Job.program sample_services))

/-- The runs that have sent an e-mail, with their matters. -/
def World.senders (w : World) : List (String × List String) :=
  w.sent.map fun sent => (sent.run_id, (w.runs.filter fun run => decide (run.id = sent.run_id)).map
    fun run => run.delta.matter_id)

/-- **Two runs send an e-mail for one transition.** The sweep comes before the run of the webhook
    event has set the status. -/
theorem two_runs_send : ∃ w ts,
    Interleaving (fun _ => Service.rel (exec sample_env)) pending_world
      (event_and_sweep.map (Job.program sample_services)) w ts ∧
    w.senders = [("id-1", ["m-1"]), ("id-0", ["m-1"])] := by
  have hevaluated : event_then_sweep.isSome = true ∧
      ∀ s ∈ event_then_sweep, s.1.senders = [("id-1", ["m-1"]), ("id-0", ["m-1"])] := by
    decide +kernel
  obtain ⟨hplayed, hsenders⟩ := hevaluated
  obtain ⟨⟨w, ts⟩, hrun⟩ := Option.isSome_iff_exists.mp hplayed
  refine ⟨w, ts, ?_, hsenders _ hrun⟩
  exact Interleaving.of_play_exec hrun

/-- The calls where they meet the condition. -/
def alone_exec (env : Env) (matter_id : String) (i : Nat) (c : Call) (s : World × List Nat) :
    Option (Except Exn c.Resp × (World × List Nat)) :=
  let result := exec env c s.1
  if passes matter_id c result.1 = true → s.1.untouched matter_id = true ∧ s.2 = [] then
    some (result.1, result.2, note matter_id i c result.1 s.2)
  else none

theorem alone_exec_sound {env : Env} {matter_id : String} (i : Nat) (c : Call) (s : World × List Nat)
    (r : Except Exn c.Resp) (s' : World × List Nat)
    (h : alone_exec env matter_id i c s = some (r, s')) : alone env matter_id i c s r s' := by
  unfold alone_exec at h
  simp only at h
  split at h
  · next halone =>
    obtain ⟨rfl, rfl⟩ := Prod.mk.inj (Option.some.inj h)
    exact ⟨rfl, rfl, halone⟩
  · cases h

/-- The sweep comes when the run of the event has finished. -/
def event_run_sweep : List Job := [approved_event] ++ run_jobs "id-0" ++ [.sweep ["m-1"]]

def sweep_after_run : Option ((World × List Nat) × List (M Unit)) :=
  play (alone_exec sample_env "m-1") (in_order event_run_sweep.length) (pending_world, [])
    (event_run_sweep.map (Job.program sample_services))

theorem one_run_sends : ∃ w : World, w.senders = [("id-0", ["m-1"])] ∧
    ∀ sent ∈ w.sent, ∀ sent' ∈ w.sent, sent.concerns "m-1" w → sent'.concerns "m-1" w →
      sent.run_id = sent'.run_id := by
  have hevaluated : sweep_after_run.isSome = true ∧
      ∀ s ∈ sweep_after_run, s.1.1.senders = [("id-0", ["m-1"])] := by decide +kernel
  obtain ⟨hplayed, hsenders⟩ := hevaluated
  obtain ⟨⟨⟨w, tokens⟩, ts⟩, hrun⟩ := Option.isSome_iff_exists.mp hplayed
  have hreach : Interleaving (alone sample_env "m-1") (pending_world, [])
      (event_run_sweep.map (Job.program sample_env.services)) (w, tokens) ts :=
    Interleaving.of_play alone_exec_sound hrun
  have hobserved : Observed sample_env "m-1" "approved" := by
    rintro n matter h
    cases h
    rfl
  have hconcerns : ∀ job ∈ event_run_sweep, job.Concerns "m-1" "approved" := by
    intro job hjob from_status to_status event_id hwebhook
    subst hwebhook
    simp [event_run_sweep, run_jobs, approved_event, STEPS] at hjob
    exact hjob.2.1
  exact ⟨w, hsenders _ hrun, (one_email_when_alone rfl hobserved hconcerns hreach).1⟩

end scenarios

end CaseAutomation.StatusUpdate
