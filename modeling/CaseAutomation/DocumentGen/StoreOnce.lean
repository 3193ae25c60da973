import CaseAutomation.DocumentGen.Ledger

/-! # Concurrent `store_document` Calls

    `store_document` looks for the document of its key, awaits the `put` of the document store, and
    only then records the key: two calls with one key that have both found nothing both store a
    document. The versions of a series differ all the same, since a version is
    allocated in the stretch that looks up the key.

    A call is inside from the moment it finds nothing under its key until it has recorded the key or
    its `put` has failed. Where none finds nothing while another one with its key is inside, at
    most one `put` succeeds for the key, and all calls return its document
    (`stored_once_when_alone`).
-/

namespace CaseAutomation.DocumentGen

open Framework Program Region Domain

/-- The successful puts of a key. -/
def World.stored (idem_key : String) (w : World) : Nat :=
  w.puts.countP fun p => decide (p.request.idem_key = idem_key)

/-! ## Versions -/

/-- A version in its series. -/
abbrev Numbered : Type := (String × String × String) × Int

/-- The versions that were allocated and not handed to the document store yet. -/
abbrev Pending : Type := List (Nat × Numbered)

/-- The allocated versions after a call of thread `i`. -/
def Pending.note (i : Nat) : (c : Call) → Except Exn c.Resp → Pending → Pending
  | .prepare request, .ok (.inr doc), pending => (i, request.series, doc.version) :: pending
  | .put _ _, _, pending => pending.filter fun p => decide (p.1 ≠ i)
  | _, _, pending => pending

def Put.numbered (p : Put) : Numbered := (p.request.series, p.doc.version)

/-- No version occurs twice, and none is ahead of the ledger. -/
structure Distinct (s : World × Pending) : Prop where
  nodup : (s.2.map Prod.snd ++ s.1.puts.map Put.numbered).Nodup
  bound : ∀ x ∈ s.2.map Prod.snd ++ s.1.puts.map Put.numbered,
    x.2 < s.1.ledger.next_version x.1

/-- The calls, with the allocated versions. -/
def allocating (env : Env) (i : Nat) : Relation Call Call.Resp Exn (World × Pending) :=
  fun c s r s' => Service.rel (exec env) c s.1 r s'.1 ∧ s'.2 = Pending.note i c r s.2

/-- Nobody else hands over the version of thread `i`. -/
def Reserved (i : Nat) (s s' : World × Pending) : Prop := ∀ x, (i, x) ∈ s.2 → (i, x) ∈ s'.2

/-- What a call of `store_document` may assume and must keep. -/
def version_contract (env : Env) (i : Nat) : Contract Call Call.Resp Exn (World × Pending) :=
  threadContract (allocating env) Distinct Reserved (fun _ _ _ => True) i

section versions
variable {env : Env} {i : Nat} {s : World × Pending}

theorem Pending.note_other {j : Nat} (hj : j ≠ i) {c : Call} {r : Except Exn c.Resp}
    {pending : Pending} {x : Numbered} (h : (j, x) ∈ pending) : (j, x) ∈ Pending.note i c r pending := by
  unfold Pending.note
  split
  · exact List.mem_cons_of_mem _ h
  · simpa [hj] using h
  · exact h

theorem next_version_allocate (ledger : InMemoryVersionLedger) (key key' : String × String × String) :
    (ledger.allocate key).next_version key' =
      if key' = key then ledger.next_version key + 1 else ledger.next_version key' := by
  simp only [InMemoryVersionLedger.allocate, InMemoryVersionLedger.next_version, Dict.get?_set]
  split
  · rfl
  · rfl

/-- Allocating a version. -/
theorem Distinct.allocate {w : World} {pending : Pending} (h : Distinct (w, pending))
    (request : StoreRequest) (uuids clock : Nat) :
    Distinct ({ w with ledger := w.ledger.allocate request.series, uuids := uuids, clock := clock },
      (i, request.series, w.ledger.next_version request.series) :: pending) := by
  have hnew : (request.series, w.ledger.next_version request.series) ∉
      pending.map Prod.snd ++ w.puts.map Put.numbered := by
    intro hmem
    exact absurd (h.bound _ hmem) (lt_irrefl _)
  refine ⟨List.nodup_cons.mpr ⟨hnew, h.nodup⟩, ?_⟩
  intro x hx
  rw [next_version_allocate]
  obtain rfl | hold := List.mem_cons.mp hx
  · rw [if_pos rfl]
    exact Int.lt_succ _
  · have hbound := h.bound x hold
    split
    · next hseries =>
      rw [hseries] at hbound
      exact lt_trans hbound (Int.lt_succ _)
    · exact hbound

/-- A version is taken from the allocated ones, and perhaps stored. -/
theorem Distinct.hand_over {w : World} {pending : Pending} {p : Put} (h : Distinct (w, pending))
    (hp : (i, p.numbered) ∈ pending) (stored : Bool) (docstore_calls : Nat) :
    Distinct ({ w with docstore_calls := docstore_calls, puts := if stored then p :: w.puts else w.puts },
      pending.filter fun q => decide (q.1 ≠ i)) := by
  have hsub : ∀ x, x ∈ (pending.filter fun q => decide (q.1 ≠ i)).map Prod.snd →
      x ∈ pending.map Prod.snd := by
    intro x hx
    obtain ⟨q, hq, rfl⟩ := List.mem_map.mp hx
    exact List.mem_map_of_mem (List.mem_of_mem_filter hq)
  obtain ⟨hpending, hputs, hdisjoint⟩ := List.nodup_append.mp h.nodup
  have hfilter : ((pending.filter fun q => decide (q.1 ≠ i)).map Prod.snd).Nodup :=
    hpending.sublist (List.filter_sublist.map Prod.snd)
  have hgone : p.numbered ∉ (pending.filter fun q => decide (q.1 ≠ i)).map Prod.snd := by
    -- the version has one owner, and its entry is taken out
    intro hmem
    obtain ⟨⟨j, x⟩, hq, hx⟩ := List.mem_map.mp hmem
    obtain ⟨hin, hj⟩ := List.mem_filter.mp hq
    have hsame := List.inj_on_of_nodup_map hpending hin hp hx
    rw [hsame] at hj
    simp at hj
  have hnumbered : p.numbered ∈ pending.map Prod.snd := List.mem_map_of_mem hp
  cases stored with
  | false =>
    refine ⟨?_, ?_⟩
    · exact List.nodup_append.mpr ⟨hfilter, hputs, fun a ha => hdisjoint a (hsub a ha)⟩
    · intro x hx
      obtain hx | hx := List.mem_append.mp hx
      · exact h.bound x (List.mem_append_left _ (hsub x hx))
      · exact h.bound x (List.mem_append_right _ hx)
  | true =>
    refine ⟨?_, ?_⟩
    · refine List.nodup_append.mpr ⟨hfilter, List.nodup_cons.mpr ⟨?_, hputs⟩, ?_⟩
      · intro hmem
        exact hdisjoint _ hnumbered _ hmem rfl
      · intro a ha b hb hab
        obtain rfl | hb := List.mem_cons.mp hb
        · rw [hab] at ha
          exact hgone ha
        · exact hdisjoint a (hsub a ha) b hb hab
    · intro x hx
      obtain hx | hx := List.mem_append.mp hx
      · exact h.bound x (List.mem_append_left _ (hsub x hx))
      · obtain rfl | hx := List.mem_cons.mp hx
        · exact h.bound _ (List.mem_append_left _ hnumbered)
        · exact h.bound x (List.mem_append_right _ hx)

/-- One call, from what it does to the allocated versions. -/
theorem safe_numbered {c : Call} {P : World × Pending → Prop}
    {Q : Except Exn c.Resp → World × Pending → Prop} (h : P s)
    (hP : ∀ {s s'}, Reserved i s s' → P s → P s')
    (hcall : ∀ s r s', Distinct s → P s → allocating env i c s r s' → Distinct s' ∧ Q r s') :
    Safe (version_contract env i) Q (await c) s := by
  apply Safe.perform
  intro s₁ hrely hinv
  refine ⟨trivial, ?_⟩
  intro r s₂ hstep
  obtain ⟨hdistinct, hQ⟩ := hcall s₁ r s₂ hinv (hP hrely h) hstep
  refine ⟨hdistinct, ?_, hQ⟩
  intro j hj x hx
  rw [hstep.2]
  exact Pending.note_other hj hx

/-- A call that finds nothing reserves a version. -/
theorem safe_prepare_version (request : StoreRequest) :
    Safe (version_contract env i) (fun r s' => ∀ doc, r = .ok (.inr doc) →
      (i, request.series, doc.version) ∈ s'.2) (await (.prepare request)) s := by
  refine safe_numbered (P := fun _ => True) trivial (fun _ h => h) ?_
  intro s r s' hinv _ hstep
  obtain ⟨hexec, hnote⟩ := hstep
  unfold Service.rel exec World.prepare at hexec
  simp only at hexec
  cases hlookup : s.1.ledger.lookup_idem request.idem_key with
  | some existing =>
    rw [hlookup] at hexec
    obtain ⟨rfl, hw⟩ := Prod.mk.inj hexec
    have hsame : s' = s := Prod.ext hw.symm hnote
    rw [hsame]
    refine ⟨hinv, ?_⟩
    intro doc h
    cases h
  | none =>
    rw [hlookup] at hexec
    obtain ⟨rfl, hw⟩ := Prod.mk.inj hexec
    have hnext : s' = ({ s.1 with
        ledger := s.1.ledger.allocate request.series, uuids := s.1.uuids + 1, clock := s.1.clock + 1 },
        (i, request.series, s.1.ledger.next_version request.series) :: s.2) :=
      Prod.ext hw.symm hnote
    rw [hnext]
    refine ⟨hinv.allocate request _ _, ?_⟩
    intro doc h
    cases h
    exact List.mem_cons_self

theorem safe_put_version {request : StoreRequest} {doc : Document}
    (h : (i, request.series, doc.version) ∈ s.2) :
    Safe (version_contract env i) (fun _ _ => True) (await (.put request doc)) s := by
  refine safe_numbered (P := fun s => (i, request.series, doc.version) ∈ s.2) h
    (fun hrely h => hrely _ h) ?_
  intro s r s' hinv hmem hstep
  obtain ⟨hexec, hnote⟩ := hstep
  refine ⟨?_, trivial⟩
  have hput : s.1.put env request doc = (r, s'.1) := hexec
  unfold World.put at hput
  simp only at hput
  split at hput
  · next stored hstored =>
    have hnext : s' = ({ s.1 with
        docstore_calls := s.1.docstore_calls + 1
        puts := if true then ⟨request, doc, stored⟩ :: s.1.puts else s.1.puts },
        s.2.filter fun q => decide (q.1 ≠ i)) := Prod.ext (Prod.mk.inj hput).2.symm hnote
    rw [hnext]
    exact hinv.hand_over (p := ⟨request, doc, stored⟩) hmem true _
  · next e hfailed =>
    have hnext : s' = ({ s.1 with
        docstore_calls := s.1.docstore_calls + 1
        puts := if false then ⟨request, doc, doc⟩ :: s.1.puts else s.1.puts },
        s.2.filter fun q => decide (q.1 ≠ i)) := Prod.ext (Prod.mk.inj hput).2.symm hnote
    rw [hnext]
    exact hinv.hand_over (p := ⟨request, doc, doc⟩) hmem false _

theorem next_version_record (ledger : InMemoryVersionLedger) (idem_key checksum : String)
    (doc : Document) (key : String × String × String) :
    (ledger.record_idem idem_key doc checksum).2.next_version key = ledger.next_version key := by
  unfold InMemoryVersionLedger.record_idem
  split
  · split
    · rfl
    · rfl
  · rfl

theorem safe_record_version {request : StoreRequest} {stored : Document} :
    Safe (version_contract env i) (fun _ _ => True) (await (.record request stored)) s := by
  refine safe_numbered (P := fun _ => True) trivial (fun _ h => h) ?_
  intro s r s' hinv _ hstep
  obtain ⟨hexec, hnote⟩ := hstep
  have hw := (Prod.mk.inj hexec).2
  refine ⟨⟨?_, ?_⟩, trivial⟩
  · rw [hnote, ← hw]
    exact hinv.nodup
  · rw [hnote, ← hw]
    intro x hx
    rw [next_version_record]
    exact hinv.bound x hx

theorem safe_store_version (request : StoreRequest) :
    Safe (version_contract env i) (fun _ _ => True) (store_document request) s := by
  refine Safe.bind (safe_prepare_version request) ?_ fun _ _ _ => trivial
  intro found s₁ hfound
  cases found with
  | inl existing => exact Safe.ret trivial
  | inr doc =>
    refine Safe.bind (safe_put_version (hfound doc rfl)) ?_ fun _ _ _ => trivial
    intro stored s₂ _
    refine Safe.bind safe_record_version ?_ fun _ _ _ => trivial
    intro _ s₃ _
    exact Safe.ret trivial

end versions

/-- No two stored documents of a series have one version, in any interleaving. -/
theorem versions_distinct {env : Env} {requests : List StoreRequest} {w₀ w : World}
    {ts : List (M Document)} (hnew : w₀.puts = [])
    (h : Interleaving (fun _ => Service.rel (exec env)) w₀ (requests.map store_document) w ts) :
    w.puts.Pairwise fun p q => p.request.series = q.request.series → p.doc.version ≠ q.doc.version := by
  obtain ⟨pending, hghost⟩ := h.with_ghost (fun i c r => Pending.note i c r) []
  have hinit : Distinct (w₀, []) := by
    refine ⟨?_, ?_⟩
    · rw [hnew]
      exact List.nodup_nil
    · intro x hx
      rw [hnew] at hx
      cases hx
  have hsafe : ∀ i p, (requests.map store_document)[i]? = some p →
      Safe (threadContract (allocating env) Distinct Reserved (fun _ _ _ => True) i)
        (fun _ _ => True) p (w₀, []) := by
    intro i p hp
    rw [List.getElem?_map, Option.map_eq_some_iff] at hp
    obtain ⟨request, -, rfl⟩ := hp
    exact safe_store_version request
  have hdistinct : Distinct (w, pending) :=
    (Interleaving.safe (fun _ _ _ h => h) (fun _ _ _ _ h h' x hx => h' x (h x hx))
      (fun _ _ _ _ _ h => h) hinit hsafe hghost).1
  have hputs := List.pairwise_map.mp (List.nodup_append.mp hdistinct.nodup).2.1
  refine hputs.imp ?_
  intro p q hne hseries hversion
  exact hne (Prod.ext hseries hversion)

/-! ## Documents -/

/-- The calls with a key between the lookup that finds nothing and the recording of the key. -/
def store_region (idem_key : String) : Region Call Call.Resp Exn World where
  enters
    | .prepare request, .ok (.inr _) => decide (request.idem_key = idem_key)
    | _, _ => false
  leaves
    | .put request _, .error _ => decide (request.idem_key = idem_key)
    | .record request _, _ => decide (request.idem_key = idem_key)
    | _, _ => false
  inv w := w.stored idem_key ≤ 1
  rest w := w.ledger.lookup_idem idem_key = none → w.stored idem_key = 0
  same w w' := w'.ledger.lookup_idem idem_key = w.ledger.lookup_idem idem_key ∧
    w'.stored idem_key = w.stored idem_key
  kept w w' := ∀ doc, w.ledger.lookup_idem idem_key = some doc →
    w'.ledger.lookup_idem idem_key = some doc
  same_refl _ := ⟨rfl, rfl⟩
  same_trans h h' := ⟨h'.1.trans h.1, h'.2.trans h.2⟩
  kept_trans h h' := fun doc hdoc => h' doc (h doc hdoc)
  kept_of_same h := fun _ hdoc => h.1.trans hdoc
  inv_of_same h hinv := by
    rw [h.2]
    exact hinv
  rest_of_same h hrest := by
    rw [h.1, h.2]
    exact hrest

/-- What a call may assume and must keep, for one key. -/
def store_contract (env : Env) (idem_key : String) (i : Nat) :
    Contract Call Call.Resp Exn (World × List Nat) :=
  (store_region idem_key).contract (fun _ => Service.rel (exec env)) i

/-- Neither recorded nor stored. -/
def Unstored (idem_key : String) (w : World) : Prop :=
  w.ledger.lookup_idem idem_key = none ∧ w.stored idem_key = 0

/-- Stored, and not recorded yet. -/
def Unrecorded (idem_key : String) (w : World) : Prop :=
  w.ledger.lookup_idem idem_key = none ∧ w.stored idem_key = 1

/-- The key has this document. -/
def Recorded (idem_key : String) (doc : Document) (w : World) : Prop :=
  w.ledger.lookup_idem idem_key = some doc

section documents
variable {env : Env} {idem_key : String} {request : StoreRequest} {i : Nat} {s : World × List Nat}

theorem Unstored.stable {w w' : World} (hsame : (store_region idem_key).same w w')
    (h : Unstored idem_key w) : Unstored idem_key w' := ⟨hsame.1.trans h.1, hsame.2.trans h.2⟩

theorem Unrecorded.stable {w w' : World} (hsame : (store_region idem_key).same w w')
    (h : Unrecorded idem_key w) : Unrecorded idem_key w' := ⟨hsame.1.trans h.1, hsame.2.trans h.2⟩

/-- A put counts for its key only. -/
theorem stored_put {w w' : World} {p : Put} (h : w'.puts = p :: w.puts) :
    w'.stored idem_key = w.stored idem_key + if p.request.idem_key = idem_key then 1 else 0 := by
  simp [World.stored, h, List.countP_cons]

theorem stored_same {w w' : World} (h : w'.puts = w.puts) :
    w'.stored idem_key = w.stored idem_key := by
  unfold World.stored
  rw [h]

/-- Recording a key changes no other one. -/
theorem lookup_record_other {ledger : InMemoryVersionLedger} {key : String} (hkey : key ≠ idem_key)
    (doc : Document) (rendered_checksum : String) :
    (ledger.record_idem key doc rendered_checksum).2.lookup_idem idem_key =
      ledger.lookup_idem idem_key := by
  unfold InMemoryVersionLedger.record_idem
  split
  · split
    · rfl
    · exact (lookup_recorded ledger key doc _).trans (if_neg (Ne.symm hkey))
  · exact (lookup_recorded ledger key doc _).trans (if_neg (Ne.symm hkey))

/-! ### Calls with the key -/

/-- What a call knows after the lookup. -/
def Found (idem_key : String) (i : Nat) :
    Except Exn (Document ⊕ Document) → World × List Nat → Prop
  | .ok (.inl existing), s => Outside i (Recorded idem_key existing) s
  | .ok (.inr _), s => Inside i (Unstored idem_key) s
  | .error _, _ => True

/-- The lookup: the document of the key, or the key is neither recorded nor stored. -/
theorem safe_prepare (hkey : request.idem_key = idem_key) (h : Outside i (fun _ => True) s) :
    Safe (store_contract env idem_key i) (Found idem_key i) (await (.prepare request)) s := by
  subst hkey
  refine Safe.weaken (outside_call (Q := fun _ => Unstored request.idem_key)
    (L := fun (r : Except Exn (Call.prepare request).Resp) w => ∀ existing,
      r = .ok (.inl existing) → Recorded request.idem_key existing w) h (fun _ h => h) ?_) ?_
  · intro w r w' _ _ hstep
    obtain ⟨existing, rfl, rfl, hlookup⟩ | ⟨doc, rfl, -, hputs, hidem, hlookup⟩ := prepare_cases hstep
    · refine ⟨(store_region _).same_refl w', fun h => (by cases h), ?_⟩
      intro _ existing' h
      cases h
      exact hlookup
    · have hsame : (store_region request.idem_key).same w w' := ⟨hidem _, stored_same hputs⟩
      refine ⟨hsame, ?_, ?_⟩
      · intro _ hrest
        exact Unstored.stable hsame ⟨hlookup, hrest hlookup⟩
      · intro _ existing h
        cases h
  · intro r s' hr
    match r with
    | .ok (.inl existing) => exact ⟨(hr.2 rfl).1, (hr.2 rfl).2 existing rfl⟩
    | .ok (.inr doc) => exact hr.1 (decide_eq_true rfl)
    | .error e => trivial

/-- The `put`: the first one of the key. -/
theorem safe_put {doc : Document} (hkey : request.idem_key = idem_key)
    (h : Inside i (Unstored idem_key) s) :
    Safe (store_contract env idem_key i)
      (fun r s' => ∀ stored, r = .ok stored → Inside i (Unrecorded idem_key) s')
      (await (.put request doc)) s := by
  subst hkey
  refine Safe.weaken (inside_call (L := fun _ _ => True) (Q := fun _ => Unrecorded request.idem_key) h
    Unstored.stable (fun _ => rfl) ?_) ?_
  · intro w r w' hinv hw hstep
    obtain ⟨hledger, ⟨stored, rfl, -, hputs⟩ | ⟨e, rfl, hputs⟩⟩ := put_cases hstep
    · have hone : w'.stored request.idem_key = 1 := by
        rw [stored_put hputs, hw.2, if_pos rfl]
      refine ⟨?_, ?_, fun h => (by cases h), fun _ => ⟨?_, hone⟩⟩
      · show w'.stored request.idem_key ≤ 1
        omega
      · intro doc hdoc
        rw [hledger]
        exact hdoc
      · rw [hledger]
        exact hw.1
    · have hnone : w'.stored request.idem_key = 0 := (stored_same hputs).trans hw.2
      refine ⟨?_, ?_, fun _ => ⟨fun _ => hnone, trivial⟩, ?_⟩
      · show w'.stored request.idem_key ≤ 1
        omega
      · intro doc hdoc
        rw [hledger]
        exact hdoc
      · intro h
        simp [store_region] at h
  · rintro r s' hr stored rfl
    exact hr.2 rfl

/-- The key is recorded. -/
theorem safe_record {stored : Document} (hkey : request.idem_key = idem_key)
    (h : Inside i (Unrecorded idem_key) s) :
    Safe (store_contract env idem_key i) (fun _ s' => Outside i (Recorded idem_key stored) s')
      (await (.record request stored)) s := by
  subst hkey
  refine Safe.weaken (inside_call (L := fun _ => Recorded request.idem_key stored)
    (Q := fun _ _ => True) h Unrecorded.stable (fun _ => rfl) ?_) ?_
  · intro w r w' hinv hw hstep
    have hw' := (Prod.mk.inj hstep).2
    rw [record_idem_fresh stored request.rendered_checksum hw.1] at hw'
    have hrecorded : w'.ledger.lookup_idem request.idem_key = some stored := by
      rw [← hw']
      exact (lookup_recorded _ _ _ _).trans (if_pos rfl)
    have hputs : w'.stored request.idem_key = w.stored request.idem_key := by
      rw [← hw']
      rfl
    refine ⟨?_, ?_, fun _ => ⟨?_, hrecorded⟩, fun _ => trivial⟩
    · show w'.stored request.idem_key ≤ 1
      rw [hputs]
      exact hinv
    · intro doc hdoc
      rw [hw.1] at hdoc
      cases hdoc
    · intro hnone
      rw [hrecorded] at hnone
      cases hnone
  · intro r s' hr
    exact hr.1 (decide_eq_true rfl)

/-! ### Calls with another key -/

/-- No call with another key touches this one. -/
theorem safe_other {c : Call} (hno : ∀ r, (store_region idem_key).enters c r = false)
    (hcall : ∀ w r w', exec env c w = (r, w') → (store_region idem_key).same w w')
    (h : Outside i (fun _ => True) s) :
    Safe (store_contract env idem_key i) (fun _ s' => Outside i (fun _ => True) s') (await c) s :=
  idle_call h (fun _ h => h) hno fun w r w' _ _ hstep => ⟨hcall w r w' hstep, trivial⟩

theorem safe_store_other (hkey : request.idem_key ≠ idem_key) (h : Outside i (fun _ => True) s) :
    Safe (store_contract env idem_key i) (fun _ _ => True) (store_document request) s := by
  refine Safe.bind (safe_other ?_ ?_ h) ?_ fun _ _ _ => trivial
  · intro r
    match r with
    | .ok (.inl existing) => rfl
    | .ok (.inr doc) => exact decide_eq_false hkey
    | .error e => rfl
  · intro w r w' hstep
    obtain ⟨-, -, rfl, -⟩ | ⟨-, -, -, hputs, hidem, -⟩ := prepare_cases hstep
    · exact (store_region idem_key).same_refl w'
    · exact ⟨hidem _, stored_same hputs⟩
  intro found s₁ hfound
  cases found with
  | inl existing => exact Safe.ret trivial
  | inr doc =>
    refine Safe.bind (safe_other (fun _ => rfl) ?_ hfound) ?_ fun _ _ _ => trivial
    · intro w r w' hstep
      obtain ⟨hledger, ⟨stored, -, -, hputs⟩ | ⟨e, -, hputs⟩⟩ := put_cases hstep
      · refine ⟨by rw [hledger], ?_⟩
        rw [stored_put hputs, if_neg hkey, Nat.add_zero]
      · exact ⟨by rw [hledger], stored_same hputs⟩
    intro stored s₂ hput
    refine Safe.bind (safe_other (fun _ => rfl) ?_ hput) ?_ fun _ _ _ => trivial
    · intro w r w' hstep
      have hw' := (Prod.mk.inj hstep).2
      rw [← hw']
      exact ⟨lookup_record_other hkey _ _, rfl⟩
    intro _ s₃ _
    exact Safe.ret trivial

/-! ### All calls -/

/-- What a call returns is the document of its key. -/
def Returned (idem_key : String) (request : StoreRequest) (r : Except Exn Document)
    (s : World × List Nat) : Prop :=
  request.idem_key = idem_key → ∀ doc, r = .ok doc → Recorded idem_key doc s.1

theorem returned_error (e : Exn) : Returned idem_key request (.error e) s := by
  intro _ doc h
  cases h

theorem returned_recorded {doc : Document} (h : Recorded idem_key doc s.1) :
    Returned idem_key request (.ok doc) s := by
  intro _ doc' hdoc
  cases hdoc
  exact h

/-- One call, whatever the others do. -/
theorem safe_store_document (h : Outside i (fun _ => True) s) :
    Safe (store_contract env idem_key i) (Returned idem_key request) (store_document request) s := by
  by_cases hkey : request.idem_key = idem_key
  · refine Safe.bind (safe_prepare hkey h) ?_ fun e _ _ => returned_error e
    intro found s₁ hfound
    cases found with
    | inl existing => exact Safe.ret (returned_recorded hfound.2)
    | inr doc =>
      refine Safe.bind (safe_put hkey hfound) ?_ fun e _ _ => returned_error e
      intro stored s₂ hput
      refine Safe.bind (safe_record hkey (hput stored rfl)) ?_ fun e _ _ => returned_error e
      intro _ s₃ hrecord
      exact Safe.ret (returned_recorded hrecord.2)
  · refine Safe.weaken (safe_store_other hkey h) ?_
    intro r s' _ hsame
    exact absurd hsame hkey

end documents

/-- **One stored document per key.** Any number of calls, in any order, with any failures of the
    document store: where none finds nothing under the key while another one has found
    nothing and is not done, at most one `put` succeeds for the key, and all calls with the key
    return one document. The versions of a series differ in any case. -/
theorem stored_once_when_alone {env : Env} {idem_key : String} {requests : List StoreRequest}
    {w₀ w : World} {inside : List Nat} {ts : List (M Document)} (hnew : w₀.puts = [])
    (h : Interleaving ((store_region idem_key).solitary fun _ => Service.rel (exec env)) (w₀, [])
      (requests.map store_document) (w, inside) ts) :
    w.stored idem_key ≤ 1 ∧
    (∀ (i j : Nat) (request request' : StoreRequest) (doc doc' : Document),
      requests[i]? = some request → requests[j]? = some request' →
      request.idem_key = idem_key → request'.idem_key = idem_key →
      ts[i]? = some (.ret doc) → ts[j]? = some (.ret doc') → doc = doc') ∧
    w.puts.Pairwise fun p q => p.request.series = q.request.series → p.doc.version ≠ q.doc.version := by
  have hnone : w₀.stored idem_key = 0 := by
    unfold World.stored
    rw [hnew]
    rfl
  have hsafe : ∀ i p, (requests.map store_document)[i]? = some p →
      Safe (store_contract env idem_key i)
        (fun r s => ∀ request, requests[i]? = some request → Returned idem_key request r s) p
        (w₀, []) := by
    intro i p hp
    rw [List.getElem?_map, Option.map_eq_some_iff] at hp
    obtain ⟨request, hrequest, rfl⟩ := hp
    refine Safe.weaken (safe_store_document ⟨List.not_mem_nil, trivial⟩) ?_
    intro r s hreturned request' h'
    rw [hrequest] at h'
    cases h'
    exact hreturned
  obtain ⟨hsolo, hall⟩ := solitary_safe (R := store_region idem_key)
    (Q := fun i r s => ∀ request, requests[i]? = some request →
      Returned idem_key request r s)
    (fun _ _ _ _ hrely hreturned request hrequest hkey doc hdoc =>
      hrely.kept doc (hreturned request hrequest hkey doc hdoc))
    (by
      show w₀.stored idem_key ≤ 1
      omega)
    (fun _ => hnone) hsafe h
  refine ⟨hsolo.inv, ?_, ?_⟩
  · intro i j request request' doc doc' hi hj hkey hkey' hdoc hdoc'
    have hfirst := hall i _ hdoc request hi hkey doc rfl
    have hsecond := hall j _ hdoc' request' hj hkey' doc' rfl
    exact Option.some.inj (hfirst.symm.trans hsecond)
  · exact versions_distinct hnew (h.map Prod.fst fun _ _ _ _ _ hstep => hstep.1)

/-! ## Two calls side by side -/

section side_by_side

/-- The reference document store. -/
def calm_env : Env where
  platform := plain_platform
  uuid n := "id-" ++ toString n
  time n := n
  docstore _ doc content := .ok (reference_docstore doc content)
  qc _ := some .pass

def new_world : World := ⟨.empty, [], [], 0, 0, 0, 0⟩

def sample_request : StoreRequest where
  matter_id := "m-1"
  template_name := "engagement_letter"
  doc_key := "engagement_letter"
  rendered_bytes := encode_utf8 "Dear Ana"
  rendered_checksum := checksum (encode_utf8 "Dear Ana")
  privileged := true
  classification := some "engagement_letter"
  idem_key := "k-1"

def both_calls : List (M Document) := [sample_request, sample_request].map store_document

/-- The id of the document that a call has returned. -/
def returned_id (p : M Document) : Option String :=
  match p with
  | .ret doc => some doc.id
  | _ => none

theorem returned_of_ids {ts : List (M Document)} {ids : List (Option String)}
    (h : ts.map returned_id = ids) {i : Nat} {id : String} (hi : ids[i]? = some (some id)) :
    ∃ doc, ts[i]? = some (.ret doc) := by
  rw [← h, List.getElem?_map, Option.map_eq_some_iff] at hi
  obtain ⟨p, hp, hid⟩ := hi
  cases p with
  | ret doc => exact ⟨doc, hp⟩
  | raise e => cases hid
  | call c k => cases hid

/-- The calls, by any thread. -/
def calm_exec (_ : Nat) (c : Call) (w : World) : Option (Except Exn c.Resp × World) :=
  some (exec calm_env c w)

theorem calm_exec_sound (i : Nat) (c : Call) (w : World) (r : Except Exn c.Resp) (w' : World)
    (h : calm_exec i c w = some (r, w')) : Service.rel (exec calm_env) c w r w' :=
  Option.some.inj h

/-- Both calls run side by side, one step each in turn. -/
def calls_side_by_side : Option (World × List (M Document)) :=
  play calm_exec [0, 1, 0, 1, 0, 1] new_world both_calls

/-- **Both calls store a document.** Two calls at the same instant find nothing under the key,
    and they return different documents. -/
theorem both_calls_store : ∃ w ts,
    Interleaving (fun _ => Service.rel (exec calm_env)) new_world both_calls w ts ∧
    w.stored "k-1" = 2 ∧ ts.map returned_id = [some "id-0", some "id-1"] := by
  have hplayed : calls_side_by_side.isSome = true := by decide +kernel
  obtain ⟨⟨w, ts⟩, hrun⟩ := Option.isSome_iff_exists.mp hplayed
  have htwice : ∀ s ∈ calls_side_by_side, s.1.stored "k-1" = 2 ∧
      s.2.map returned_id = [some "id-0", some "id-1"] := by decide +kernel
  exact ⟨w, ts, Interleaving.of_play calm_exec_sound hrun, htwice _ hrun⟩

/-- The second call starts when the first one has ended. -/
def calls_in_turn : Option ((World × List Nat) × List (M Document)) :=
  play ((store_region "k-1").solitary_exec calm_exec) [0, 0, 0, 1] (new_world, []) both_calls

/-- One call after the other: the second one finds the document. -/
theorem calls_in_turn_store_once : ∃ (w : World) (doc doc' : Document),
    w.stored "k-1" = 1 ∧ w.stored "k-1" ≤ 1 ∧ doc = doc' := by
  have hplayed : calls_in_turn.isSome = true := by decide +kernel
  obtain ⟨⟨⟨w, inside⟩, ts⟩, hrun⟩ := Option.isSome_iff_exists.mp hplayed
  have hended : ∀ s ∈ calls_in_turn, s.1.1.stored "k-1" = 1 ∧
      s.2.map returned_id = [some "id-0", some "id-0"] := by decide +kernel
  have hreach : Interleaving ((store_region "k-1").solitary fun _ => Service.rel (exec calm_env))
      (new_world, []) ([sample_request, sample_request].map store_document) (w, inside) ts := by
    apply Interleaving.of_play _ hrun
    intro i c s r s' hexec
    exact solitary_exec_sound calm_exec_sound hexec
  obtain ⟨hone, hids⟩ := hended _ hrun
  obtain ⟨hstored, hsame, -⟩ := stored_once_when_alone rfl hreach
  obtain ⟨doc, hdoc⟩ := returned_of_ids hids (i := 0) rfl
  obtain ⟨doc', hdoc'⟩ := returned_of_ids hids (i := 1) rfl
  exact ⟨w, doc, doc', hone, hstored, hsame 0 1 _ _ doc doc' rfl rfl rfl rfl hdoc hdoc'⟩

end side_by_side

end CaseAutomation.DocumentGen
