import CaseAutomation.Connectors.Deliveries

/-! # Deliveries Side by Side

    Several deliveries of one event at the same time. Looking for the mark, setting it and enqueueing
    the event are three awaited steps: two deliveries that have both found no mark both
    enqueue the event.

    A delivery is inside from the moment it finds no mark until it has enqueued the event or
    Redis has failed. Where none finds the event unmarked while another one is inside, the event
    is enqueued at most once (`enqueued_once_when_alone`).
-/

namespace CaseAutomation.Connectors.Webhook

open Framework Program Region

/-- The event is marked in Redis. -/
def World.marked (connector_name provider_event_id : String) (w : World) : Prop :=
  dedup_key connector_name provider_event_id ∈ w.redis

/-- The deliveries between the lookup and the trigger sink. -/
def event_region (connector_name provider_event_id : String) : Region Call Call.Resp Exn World where
  enters
    | .redis_get _, .ok duplicate => !duplicate
    | _, _ => false
  leaves
    | .redis_set _, .error _ => true
    | .enqueue _ _, _ => true
    | _, _ => false
  inv w := w.enqueued connector_name provider_event_id ≤ 1
  rest w := w.marked connector_name provider_event_id ∨ w.enqueued connector_name provider_event_id = 0
  same w w' := w'.redis = w.redis ∧ w'.queue = w.queue
  kept _ _ := True
  same_refl _ := ⟨rfl, rfl⟩
  same_trans h h' := ⟨h'.1.trans h.1, h'.2.trans h.2⟩
  kept_trans _ _ := trivial
  kept_of_same _ := trivial
  inv_of_same h hinv := by
    unfold World.enqueued
    rw [h.2]
    exact hinv
  rest_of_same h hrest := by
    unfold World.marked World.enqueued
    rw [h.1, h.2]
    exact hrest

/-- The calls, where every event has this id. -/
def of_event (env : Env) (provider_event_id : String) (_ : Nat) :
    Relation Call Call.Resp Exn World :=
  fun c w r w' => exec env c w = (r, w') ∧
    match c, r with
    | .normalise _ _, .ok (some event) => event.provider_event_id = provider_event_id
    | _, _ => True

section deliveries
variable {env : Env} {connector_name secret provider_event_id : String} {i : Nat}
  {s : World × List Nat}

/-- What a delivery may assume and must keep. -/
def delivery_contract (env : Env) (connector_name provider_event_id : String) (i : Nat) :
    Contract Call Call.Resp Exn (World × List Nat) :=
  (event_region connector_name provider_event_id).contract (of_event env provider_event_id) i

/-- Not enqueued so far. -/
def Fresh (connector_name provider_event_id : String) (w : World) : Prop :=
  w.enqueued connector_name provider_event_id = 0

/-- Marked, and not enqueued so far. -/
def Pending (connector_name provider_event_id : String) (w : World) : Prop :=
  w.marked connector_name provider_event_id ∧ w.enqueued connector_name provider_event_id = 0

theorem Fresh.stable {w w' : World} (hsame : (event_region connector_name provider_event_id).same w w')
    (h : Fresh connector_name provider_event_id w) : Fresh connector_name provider_event_id w' := by
  unfold Fresh World.enqueued
  rw [hsame.2]
  exact h

theorem Pending.stable {w w' : World}
    (hsame : (event_region connector_name provider_event_id).same w w')
    (h : Pending connector_name provider_event_id w) : Pending connector_name provider_event_id w' := by
  refine ⟨?_, Fresh.stable hsame h.2⟩
  unfold World.marked
  rw [hsame.1]
  exact h.1

/-! ## Before the lookup -/

/-- Knows nothing, and is outside. -/
abbrev Out (i : Nat) (s : World × List Nat) : Prop := Outside i (fun _ : World => True) s

theorem safe_now (h : Out i s) :
    Safe (delivery_contract env connector_name provider_event_id i) (fun _ s' => Out i s')
      (await .now) s := by
  refine idle_call h (fun _ h => h) (fun _ => rfl) ?_
  intro w r w' _ _ hstep
  obtain ⟨-, rfl⟩ := Prod.mk.inj hstep.1
  exact ⟨⟨rfl, rfl⟩, trivial⟩

theorem safe_check {digest header : String} (h : Out i s) :
    Safe (delivery_contract env connector_name provider_event_id i) (fun _ s' => Out i s')
      (.ofExcept (compare_digest digest header)) s := by
  cases compare_digest digest header with
  | ok verified => exact Safe.ret h
  | error e => exact Safe.raise h

theorem safe_verify_signature (raw_body : List UInt8) (sig ts : Option String) (h : Out i s) :
    Safe (delivery_contract env connector_name provider_event_id i) (fun _ s' => Out i s')
      (verify_signature env raw_body sig secret ts) s := by
  unfold verify_signature
  split
  · exact Safe.ret h
  · simp only
    split
    · exact safe_check h
    · split
      · exact Safe.ret h
      · refine Safe.bind (safe_now h) ?_ fun _ _ hout => hout
        intro now s₁ hout
        split
        · exact Safe.ret hout
        · exact safe_check hout

/-- The normaliser gives the event its id. -/
theorem safe_normalise_call {connector : String} {raw : Json} (h : Out i s) :
    Safe (delivery_contract env connector_name provider_event_id i)
      (fun r s' => Out i s' ∧ ∀ event, r = .ok (some event) →
        event.provider_event_id = provider_event_id)
      (await (.normalise connector raw)) s := by
  refine Safe.weaken (idle_call (L := fun r _ => ∀ event, r = .ok (some event) →
    event.provider_event_id = provider_event_id) h (fun _ h => h) (fun _ => rfl) ?_) ?_
  · intro w r w' _ _ hstep
    obtain ⟨hexec, hevent⟩ := hstep
    obtain ⟨-, rfl⟩ := Prod.mk.inj hexec
    refine ⟨⟨rfl, rfl⟩, ?_⟩
    rintro event rfl
    exact hevent
  · intro r s' hr
    exact ⟨⟨hr.1, trivial⟩, hr.2⟩

/-- What `receive` returns is a rejection or an event with this id. -/
def Received (provider_event_id : String) (r : Except Exn (PipelineResult ⊕ Event)) : Prop :=
  ∀ event, r = .ok (.inr event) → event.provider_event_id = provider_event_id

theorem received_error (e : Exn) : Received provider_event_id (.error e) := by
  intro event h
  cases h

theorem received_rejection (result : PipelineResult) :
    Received provider_event_id (.ok (.inl result)) := by
  intro event h
  cases h

theorem safe_normalise (raw_body : List UInt8) (h : Out i s) :
    Safe (delivery_contract env connector_name provider_event_id i)
      (fun r s' => Out i s' ∧ Received provider_event_id r)
      (normalise env connector_name raw_body) s := by
  unfold normalise
  split
  · exact Safe.ret ⟨h, received_rejection _⟩
  · exact Safe.raise ⟨h, received_error _⟩
  · refine Safe.bind (safe_normalise_call h) ?_ fun e _ hout => ⟨hout.1, received_error e⟩
    intro answer s₁ hout
    cases answer with
    | none => exact Safe.ret ⟨hout.1, received_rejection _⟩
    | some event =>
      refine Safe.ret ⟨hout.1, ?_⟩
      intro event' h
      cases h
      exact hout.2 event rfl

theorem safe_receive (delivery : Delivery) (h : Out i s) :
    Safe (delivery_contract env connector_name provider_event_id i)
      (fun r s' => Out i s' ∧ Received provider_event_id r)
      (receive env connector_name secret delivery) s := by
  unfold receive
  split
  · exact Safe.ret ⟨h, received_rejection _⟩
  · refine Safe.bind (safe_verify_signature _ _ _ h) ?_ fun e _ hout => ⟨hout, received_error e⟩
    intro verified s₁ hout
    cases verified with
    | true => exact safe_normalise delivery.raw_body hout
    | false => exact Safe.ret ⟨hout, received_rejection _⟩

/-! ## The three steps -/

/-- The lookup: without a mark, and with nobody inside, the event was not enqueued so far. -/
theorem safe_find (h : Out i s) :
    Safe (delivery_contract env connector_name provider_event_id i)
      (fun r s' => (r = .ok false → Inside i (Fresh connector_name provider_event_id) s') ∧
        (r ≠ .ok false → Out i s'))
      (await (.redis_get (dedup_key connector_name provider_event_id))) s := by
  refine Safe.weaken (outside_call (L := fun _ _ => True)
    (Q := fun _ => Fresh connector_name provider_event_id) h (fun _ h => h) ?_) ?_
  · intro w r w' _ _ hstep
    have hget : w.redis_get env (dedup_key connector_name provider_event_id) = (r, w') := hstep.1
    unfold World.redis_get at hget
    simp only at hget
    cases hfault : env.redis w.redis_calls with
    | answered =>
      rw [hfault] at hget
      obtain ⟨rfl, rfl⟩ := Prod.mk.inj hget
      refine ⟨⟨rfl, rfl⟩, ?_, fun _ => trivial⟩
      intro henters hrest
      obtain hmarked | hfresh := hrest
      · have hmiss : (!decide (dedup_key connector_name provider_event_id ∈ w.redis)) = true := henters
        simp [show dedup_key connector_name provider_event_id ∈ w.redis from hmarked] at hmiss
      · exact hfresh
    | refused error =>
      rw [hfault] at hget
      obtain ⟨rfl, rfl⟩ := Prod.mk.inj hget
      exact ⟨⟨rfl, rfl⟩, fun h => (by cases h), fun _ => trivial⟩
    | unacknowledged error =>
      rw [hfault] at hget
      obtain ⟨rfl, rfl⟩ := Prod.mk.inj hget
      exact ⟨⟨rfl, rfl⟩, fun h => (by cases h), fun _ => trivial⟩
  · intro r s' hr
    refine ⟨?_, ?_⟩
    · rintro rfl
      exact hr.1 rfl
    · intro hne
      match r with
      | .ok true => exact hr.2 rfl
      | .ok false => exact absurd rfl hne
      | .error e => exact hr.2 rfl

/-- The mark is set, or Redis fails. -/
theorem safe_mark (h : Inside i (Fresh connector_name provider_event_id) s) :
    Safe (delivery_contract env connector_name provider_event_id i)
      (fun r s' => (r = .ok () → Inside i (Pending connector_name provider_event_id) s') ∧
        (∀ e, r = .error e → Out i s'))
      (await (.redis_set (dedup_key connector_name provider_event_id))) s := by
  refine Safe.weaken (inside_call (L := fun _ _ => True)
    (Q := fun _ => Pending connector_name provider_event_id) h Fresh.stable (fun _ => rfl) ?_) ?_
  · intro w r w' hinv hw hstep
    have hset : w.redis_set env (dedup_key connector_name provider_event_id) = (r, w') := hstep.1
    unfold World.redis_set at hset
    simp only at hset
    cases hfault : env.redis w.redis_calls with
    | answered =>
      rw [hfault] at hset
      obtain ⟨rfl, rfl⟩ := Prod.mk.inj hset
      exact ⟨hinv, trivial, fun h => (by cases h), fun _ => ⟨List.mem_cons_self, hw⟩⟩
    | refused error =>
      rw [hfault] at hset
      obtain ⟨rfl, rfl⟩ := Prod.mk.inj hset
      exact ⟨hinv, trivial, fun _ => ⟨.inr hw, trivial⟩, fun h => by cases h⟩
    | unacknowledged error =>
      rw [hfault] at hset
      obtain ⟨rfl, rfl⟩ := Prod.mk.inj hset
      exact ⟨hinv, trivial, fun _ => ⟨.inl List.mem_cons_self, trivial⟩, fun h => by cases h⟩
  · intro r s' hr
    cases r with
    | ok u => exact ⟨fun _ => hr.2 rfl, fun _ h => by cases h⟩
    | error e => exact ⟨fun h => (by cases h), fun _ _ => hr.1 rfl⟩

/-- The event is enqueued for the first time, or not at all. -/
theorem safe_enqueue {event : Event} (h : Inside i (Pending connector_name provider_event_id) s) :
    Safe (delivery_contract env connector_name provider_event_id i) (fun _ s' => Out i s')
      (await (.enqueue connector_name event)) s := by
  refine Safe.weaken (inside_call (L := fun _ _ => True) (Q := fun _ _ => True) h Pending.stable
    (fun _ => rfl) ?_) fun _ _ hr => hr.1 rfl
  intro w r w' hinv hw hstep
  have hsink : w.enqueue env connector_name event = (r, w') := hstep.1
  have hadded : (event_region connector_name provider_event_id).inv
      { w with sink_calls := w.sink_calls + 1, queue := (connector_name, event) :: w.queue } := by
    show List.countP _ (_ :: w.queue) ≤ 1
    have hzero : w.queue.countP (fun e => decide (e.1 = connector_name ∧
      e.2.provider_event_id = provider_event_id)) = 0 := hw.2
    rw [List.countP_cons, hzero]
    split <;> omega
  unfold World.enqueue at hsink
  simp only at hsink
  cases hfault : env.sink w.sink_calls with
  | answered =>
    rw [hfault] at hsink
    obtain ⟨-, rfl⟩ := Prod.mk.inj hsink
    exact ⟨hadded, trivial, fun _ => ⟨.inl hw.1, trivial⟩, fun _ => trivial⟩
  | refused error =>
    rw [hfault] at hsink
    obtain ⟨-, rfl⟩ := Prod.mk.inj hsink
    exact ⟨hinv, trivial, fun _ => ⟨.inl hw.1, trivial⟩, fun _ => trivial⟩
  | unacknowledged error =>
    rw [hfault] at hsink
    obtain ⟨-, rfl⟩ := Prod.mk.inj hsink
    exact ⟨hadded, trivial, fun _ => ⟨.inl hw.1, trivial⟩, fun _ => trivial⟩

/-- `dedupe` leaves the delivery inside only where the event is to be enqueued. -/
theorem safe_dedupe (h : Out i s) :
    Safe (delivery_contract env connector_name provider_event_id i)
      (fun r s' => (r = .ok false → Inside i (Pending connector_name provider_event_id) s') ∧
        (r ≠ .ok false → Out i s'))
      (dedupe connector_name provider_event_id) s := by
  refine Safe.bind (safe_find h) ?_ fun e s' hout => ⟨fun h => (by cases h), fun _ => hout.2 (by simp)⟩
  intro duplicate s₁ hfound
  cases duplicate with
  | true => exact Safe.ret ⟨fun h => (by cases h), fun _ => hfound.2 (by simp)⟩
  | false =>
    refine Safe.bind (safe_mark (hfound.1 rfl)) ?_ fun e s' hout =>
      ⟨fun h => (by cases h), fun _ => hout.2 e rfl⟩
    intro _ s₂ hmarked
    exact Safe.ret ⟨fun _ => hmarked.1 rfl, fun h => absurd rfl h⟩

theorem safe_process_event {event : Event} (hid : event.provider_event_id = provider_event_id)
    (h : Out i s) :
    Safe (delivery_contract env connector_name provider_event_id i) (fun _ _ => True)
      (process_event connector_name event) s := by
  unfold process_event
  rw [hid]
  refine Safe.bind (P := fun r s' => ∀ answer, r = .ok answer → answer = .ok false →
    Inside i (Pending connector_name provider_event_id) s') (Safe.attempt (safe_dedupe h) ?_) ?_
    fun _ _ _ => trivial
  · rintro r s' hr answer hanswer rfl
    cases hanswer
    exact hr.1 rfl
  · intro answer s₁ hanswer
    match answer with
    | .error _ => exact Safe.ret trivial
    | .ok true => exact Safe.ret trivial
    | .ok false =>
      refine Safe.bind (P := fun _ _ => True) (Safe.attempt (safe_enqueue (hanswer _ rfl rfl))
        fun _ _ _ => trivial) ?_ fun _ _ _ => trivial
      intro r s₂ _
      cases r with
      | error _ => exact Safe.ret trivial
      | ok _ => exact Safe.ret trivial

/-- One delivery, whatever the others do. -/
theorem safe_process_webhook (delivery : Delivery) (h : Out i s) :
    Safe (delivery_contract env connector_name provider_event_id i) (fun _ _ => True)
      (process_webhook env connector_name secret delivery) s := by
  refine Safe.bind (safe_receive delivery h) ?_ fun _ _ _ => trivial
  intro received s₁ hreceived
  cases received with
  | inl result => exact Safe.ret trivial
  | inr event => exact safe_process_event (hreceived.2 event rfl) hreceived.1

end deliveries

/-- **An event is enqueued at most once.** Any number of deliveries of one event, in any order,
    with any failures: where none finds the event unmarked while another one is between that
    and the trigger sink, the event is enqueued at most once. -/
theorem enqueued_once_when_alone {env : Env} {connector_name secret provider_event_id : String}
    {deliveries : List Delivery} {w₀ w : World} {inside : List Nat} {ts : List (M PipelineResult)}
    (hfresh : w₀.enqueued connector_name provider_event_id = 0)
    (h : Interleaving ((event_region connector_name provider_event_id).solitary
        (of_event env provider_event_id)) (w₀, [])
      (deliveries.map (process_webhook env connector_name secret)) (w, inside) ts) :
    w.enqueued connector_name provider_event_id ≤ 1 := by
  have hinv : (event_region connector_name provider_event_id).inv w₀ := by
    show w₀.enqueued connector_name provider_event_id ≤ 1
    omega
  have hsafe : ∀ i p, (deliveries.map (process_webhook env connector_name secret))[i]? = some p →
      Safe (delivery_contract env connector_name provider_event_id i) (fun _ _ => True) p
        (w₀, []) := by
    intro i p hp
    rw [List.getElem?_map, Option.map_eq_some_iff] at hp
    obtain ⟨delivery, -, rfl⟩ := hp
    exact safe_process_webhook delivery ⟨List.not_mem_nil, trivial⟩
  exact (solitary_safe (Q := fun _ _ _ => True) (fun _ _ _ _ _ h => h) hinv (.inr hfresh) hsafe h).1.inv

/-! ## Two deliveries side by side -/

section side_by_side

/-- Redis and the trigger sink work. -/
def calm_env : Env := reference_env .answered .answered

def both_deliveries : List (M PipelineResult) :=
  [status_changed, status_changed].map (process_webhook calm_env "reference" "secret")

theorem both_deliveries_eq : both_deliveries =
    [process_verified calm_env "reference" status_changed_body,
      process_verified calm_env "reference" status_changed_body] := by
  rw [both_deliveries, List.map_cons, List.map_cons, List.map_nil, process_status_changed]

/-- Both deliveries run side by side, one call each in turn. -/
def deliveries_side_by_side : Option (World × List (M PipelineResult)) :=
  play (fun _ c w => some (exec calm_env c w)) [0, 1, 0, 1, 0, 1, 0, 1] new_world both_deliveries

/-- **Both deliveries enqueue the event.** Two deliveries at the same instant find no mark. -/
theorem both_deliveries_enqueue : ∃ w ts,
    Interleaving (fun _ => Service.rel (exec calm_env)) new_world both_deliveries w ts ∧
    w.enqueued "reference" "evt-001" = 2 := by
  have hevaluated : deliveries_side_by_side.isSome = true ∧
      ∀ s ∈ deliveries_side_by_side, s.1.enqueued "reference" "evt-001" = 2 := by
    unfold deliveries_side_by_side
    rw [both_deliveries_eq]
    decide +kernel
  obtain ⟨hplayed, htwice⟩ := hevaluated
  obtain ⟨⟨w, ts⟩, hrun⟩ := Option.isSome_iff_exists.mp hplayed
  refine ⟨w, ts, ?_, htwice _ hrun⟩
  exact Interleaving.of_play_exec hrun

/-- The answers of the normaliser have the id. -/
def normalised_as (provider_event_id : String) : (c : Call) → Except Exn c.Resp → Bool
  | .normalise _ _, .ok (some event) => decide (event.provider_event_id = provider_event_id)
  | _, _ => true

/-- The calls where they concern the event. -/
def of_event_exec (env : Env) (provider_event_id : String) (_ : Nat) (c : Call) (w : World) :
    Option (Except Exn c.Resp × World) :=
  if normalised_as provider_event_id c (exec env c w).1 then some (exec env c w) else none

theorem of_event_exec_sound {env : Env} {provider_event_id : String} (i : Nat) (c : Call) (w : World)
    (r : Except Exn c.Resp) (w' : World)
    (h : of_event_exec env provider_event_id i c w = some (r, w')) :
    of_event env provider_event_id i c w r w' := by
  unfold of_event_exec at h
  split at h
  · next hnormalised =>
    have hexec := Option.some.inj h
    rw [hexec] at hnormalised
    refine ⟨hexec, ?_⟩
    unfold normalised_as at hnormalised
    split
    · exact of_decide_eq_true hnormalised
    · trivial
  · cases h

/-- The second delivery starts when the first one has ended. -/
def deliveries_in_turn : Option ((World × List Nat) × List (M PipelineResult)) :=
  play ((event_region "reference" "evt-001").solitary_exec (of_event_exec calm_env "evt-001"))
    [0, 0, 0, 0, 1, 1, 1, 1] (new_world, []) both_deliveries

/-- One delivery after the other: the second one finds the mark. -/
theorem deliveries_in_turn_enqueue_once : ∃ w : World,
    w.enqueued "reference" "evt-001" = 1 ∧ w.enqueued "reference" "evt-001" ≤ 1 := by
  have hevaluated : deliveries_in_turn.isSome = true ∧
      ∀ s ∈ deliveries_in_turn, s.1.1.enqueued "reference" "evt-001" = 1 := by
    unfold deliveries_in_turn
    rw [both_deliveries_eq]
    decide +kernel
  obtain ⟨hplayed, honce⟩ := hevaluated
  obtain ⟨⟨⟨w, inside⟩, ts⟩, hrun⟩ := Option.isSome_iff_exists.mp hplayed
  have hreach : Interleaving ((event_region "reference" "evt-001").solitary
      (of_event calm_env "evt-001")) (new_world, [])
      ([status_changed, status_changed].map (process_webhook calm_env "reference" "secret"))
      (w, inside) ts := by
    apply Interleaving.of_play _ hrun
    intro i c s r s' hexec
    exact solitary_exec_sound of_event_exec_sound hexec
  exact ⟨w, honce _ hrun, enqueued_once_when_alone rfl hreach⟩

end side_by_side

end CaseAutomation.Connectors.Webhook
