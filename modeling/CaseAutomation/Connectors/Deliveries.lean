import CaseAutomation.Connectors.Webhook
import CaseAutomation.Framework.Issues

/-! # Deliveries One After the Other

    A provider delivers an event again until it is answered with something else than 503. The
    pipeline marks the event as processed before it enqueues it: where the enqueue then fails,
    or the mark was set but the reply of Redis was lost, the answer is 503 and the mark
    stays. The next delivery is ignored as a duplicate, and the event is lost.

    Where no delivery of an event loses it in this way, a mark means that the event was
    enqueued (`no_event_lost`).
-/

namespace CaseAutomation.Connectors.Webhook

open Framework Program

variable {env : Env} {connector_name secret provider_event_id : String}

/-! ## What a delivery does -/

/-- The result of a delivery, and what it leaves. -/
def deliver (env : Env) (connector_name secret : String) (delivery : Delivery) (w : World) :
    Except Exn PipelineResult × World :=
  (process_webhook env connector_name secret delivery).run (exec env) w

/-- Several deliveries, one after the other. -/
def after_deliveries (env : Env) (connector_name secret : String) :
    List Delivery → World → World
  | [], w => w
  | delivery :: rest, w =>
    after_deliveries env connector_name secret rest (deliver env connector_name secret delivery w).2

/-- The delivery is valid and carries the event. -/
def Carries (env : Env) (connector_name secret : String) (delivery : Delivery) (w : World)
    (event : Event) : Prop :=
  ((receive env connector_name secret delivery).run (exec env) w).1 = .ok (.inr event)

/-- Neither Redis nor the trigger sink was called. -/
structure Untouched (w w' : World) : Prop where
  redis : w'.redis = w.redis
  queue : w'.queue = w.queue
  redis_calls : w'.redis_calls = w.redis_calls
  sink_calls : w'.sink_calls = w.sink_calls

/-- Reading the clock and calling the normaliser. -/
def Call.is_local : Call → Prop
  | .now | .normalise _ _ => True
  | _ => False

theorem receive_issues (delivery : Delivery) :
    Issues Call.is_local (receive env connector_name secret delivery) := by
  have hcheck : ∀ digest header, Issues Call.is_local
      (.ofExcept (compare_digest digest header) : M Bool) := fun _ _ => .ofExcept
  unfold receive
  split
  · exact .ret
  · refine .bind ?_ fun verified => ?_
    · unfold verify_signature
      split
      · exact .ret
      · simp only
        split
        · exact hcheck _ _
        · split
          · exact .ret
          · refine .bind (.perform trivial) fun now => ?_
            split
            · exact .ret
            · exact hcheck _ _
    · split
      · unfold normalise
        split
        · exact .ret
        · exact .raise
        · refine .bind (.perform trivial) fun answer => ?_
          cases answer with
          | none => exact .ret
          | some event => exact .ret
      · exact .ret

/-- What is answered before the event is known. -/
def Decision.is_rejection (decision : Decision) : Prop :=
  decision = .rejected_oversized ∨ decision = .rejected_bad_signature ∨
    decision = .dropped_unknown_type

theorem receive_returns (env : Env) (connector_name secret : String) (delivery : Delivery) :
    Returns (fun r : PipelineResult ⊕ Event => ∀ result, r = .inl result →
      result.decision.is_rejection) (receive env connector_name secret delivery) := by
  unfold receive
  split
  · rintro _ ⟨⟩
    exact .inl rfl
  · refine Returns.bind fun verified => ?_
    split
    · unfold normalise
      split
      · rintro _ ⟨⟩
        exact .inr (.inl rfl)
      · trivial
      · refine Returns.bind fun answer => ?_
        cases answer with
        | none =>
          rintro _ ⟨⟩
          exact .inr (.inr rfl)
        | some event => rintro _ ⟨⟩
    · rintro _ ⟨⟩
      exact .inr (.inl rfl)

theorem receive_untouched (env : Env) (connector_name secret : String) (delivery : Delivery) (w : World) :
    Untouched w ((receive env connector_name secret delivery).run (exec env) w).2 := by
  refine run_related (R := Untouched) ?_ ?_ ?_ (receive_issues delivery) w
  · intro w
    exact ⟨rfl, rfl, rfl, rfl⟩
  · intro a b c h h'
    exact ⟨h'.redis.trans h.redis, h'.queue.trans h.queue, h'.redis_calls.trans h.redis_calls,
      h'.sink_calls.trans h.sink_calls⟩
  · intro c w hc
    cases c <;> first | exact ⟨rfl, rfl, rfl, rfl⟩ | cases hc

/-- A delivery is rejected, or raises, or is a delivery of an event. -/
theorem deliver_cases (env : Env) (connector_name secret : String) (delivery : Delivery) (w : World) :
    (∃ w', Untouched w w' ∧ ((∃ e, deliver env connector_name secret delivery w = (.error e, w')) ∨
        ∃ result : PipelineResult, result.decision.is_rejection ∧
          deliver env connector_name secret delivery w = (.ok result, w')) ∧
      ∀ event, ¬ Carries env connector_name secret delivery w event) ∨
    ∃ event w', Carries env connector_name secret delivery w event ∧ Untouched w w' ∧
      deliver env connector_name secret delivery w =
        (process_event connector_name event).run (exec env) w' := by
  have huntouched := receive_untouched env connector_name secret delivery w
  have hreturns := receive_returns env connector_name secret delivery
  unfold Carries deliver process_webhook
  rcases hout : (receive env connector_name secret delivery).run (exec env) w with ⟨r, w'⟩
  rw [hout] at huntouched
  match r with
  | .error e =>
    refine .inl ⟨w', huntouched, .inl ⟨e, run_bind_error hout⟩, ?_⟩
    intro event h
    cases h
  | .ok (.inl result) =>
    have hrejected := hreturns.run (congrArg Prod.fst hout) result rfl
    refine .inl ⟨w', huntouched, .inr ⟨result, hrejected, ?_⟩, ?_⟩
    · rw [run_bind_ok hout]
      rfl
    · intro event h
      cases h
  | .ok (.inr event) =>
    refine .inr ⟨event, w', rfl, huntouched, ?_⟩
    rw [run_bind_ok hout]

/-! ## The event -/

/-- The delivery of an event would mark it and not enqueue it: the mark is set although Redis is
    reported to have failed, or the trigger sink fails after the mark. -/
def Loses (env : Env) (connector_name provider_event_id : String) (w : World) : Prop :=
  env.redis w.redis_calls = .answered ∧ dedup_key connector_name provider_event_id ∉ w.redis ∧
    ((∃ error, env.redis (w.redis_calls + 1) = .unacknowledged error) ∨
      env.redis (w.redis_calls + 1) = .answered ∧ ∃ error, env.sink w.sink_calls = .refused error)

/-- Redis and the trigger sink answer the next delivery. -/
def Working (env : Env) (w : World) : Prop :=
  env.redis w.redis_calls = .answered ∧ env.redis (w.redis_calls + 1) = .answered ∧
    env.sink w.sink_calls = .answered

/-- The ends of a delivery of an event. -/
inductive Ends (env : Env) (connector_name : String) (event : Event) (w : World) :
    PipelineResult → World → Prop where
  | unavailable {result : PipelineResult} {w' : World} :
      ¬ Working env w → result.decision = .redis_unavailable → w'.redis = w.redis →
      w'.queue = w.queue → Ends env connector_name event w result w'
  | duplicate {result : PipelineResult} {w' : World} :
      dedup_key connector_name event.provider_event_id ∈ w.redis →
      result.decision = .duplicate_ignored → w'.redis = w.redis → w'.queue = w.queue →
      Ends env connector_name event w result w'
  | lost {result : PipelineResult} {w' : World} :
      Loses env connector_name event.provider_event_id w →
      (result.decision = .redis_unavailable ∨ result.decision = .enqueue_failed) →
      w'.redis = dedup_key connector_name event.provider_event_id :: w.redis →
      w'.queue = w.queue → Ends env connector_name event w result w'
  | queued {result : PipelineResult} {w' : World} :
      (result.decision = .enqueued ∨ ¬ Working env w ∧ result.decision = .enqueue_failed) →
      w'.redis = dedup_key connector_name event.provider_event_id :: w.redis →
      w'.queue = (connector_name, event) :: w.queue → Ends env connector_name event w result w'

/-- The lookup fails. -/
theorem process_event_unanswered {event : Event} {w : World}
    (hget : env.redis w.redis_calls ≠ .answered) :
    (process_event connector_name event).run (exec env) w =
      (.ok ⟨.redis_unavailable, none, "Dedup store unavailable."⟩,
        { w with redis_calls := w.redis_calls + 1 }) := by
  cases hfault : env.redis w.redis_calls with
  | answered => exact absurd hfault hget
  | refused error =>
    simp [process_event, dedupe, run_bind, exec, World.redis_get, hfault]
  | unacknowledged error =>
    simp [process_event, dedupe, run_bind, exec, World.redis_get, hfault]

/-- The event is marked already. -/
theorem process_event_marked {event : Event} {w : World}
    (hget : env.redis w.redis_calls = .answered)
    (hmark : dedup_key connector_name event.provider_event_id ∈ w.redis) :
    (process_event connector_name event).run (exec env) w =
      (.ok ⟨.duplicate_ignored, none, ""⟩, { w with redis_calls := w.redis_calls + 1 }) := by
  simp [process_event, dedupe, run_bind, exec, World.redis_get, hget, hmark]

/-- The event is not marked: it is marked, and then enqueued. -/
theorem process_event_unmarked {event : Event} {w : World}
    (hget : env.redis w.redis_calls = .answered)
    (hmark : dedup_key connector_name event.provider_event_id ∉ w.redis) :
    (process_event connector_name event).run (exec env) w =
      match ({ w with redis_calls := w.redis_calls + 1 } : World).redis_set env
        (dedup_key connector_name event.provider_event_id) with
      | (.error _, w₁) => (.ok ⟨.redis_unavailable, none, "Dedup store unavailable."⟩, w₁)
      | (.ok _, w₁) => (enqueue_event connector_name event).run (exec env) w₁ := by
  simp only [process_event, dedupe, run_bind, run_attempt, run_perform, exec, World.redis_get, hget,
    hmark, decide_false]
  simp only [Bool.false_eq_true, if_false, run_bind, run_perform, exec]
  cases hset : World.redis_set env (dedup_key connector_name event.provider_event_id)
    { w with redis_calls := w.redis_calls + 1 } with
  | mk r w₁ => cases r <;> simp

/-- The end of a delivery whose mark was set. -/
theorem enqueue_event_ends {event : Event} {w w' : World}
    (hget : env.redis w.redis_calls = .answered)
    (hset : env.redis (w.redis_calls + 1) = .answered)
    (hmark : dedup_key connector_name event.provider_event_id ∉ w.redis)
    (hcalls : w'.sink_calls = w.sink_calls) (hqueue : w'.queue = w.queue)
    (hredis : w'.redis = dedup_key connector_name event.provider_event_id :: w.redis) :
    ∃ result w'', (enqueue_event connector_name event).run (exec env) w' = (.ok result, w'') ∧
      Ends env connector_name event w result w'' := by
  have hrun : (enqueue_event connector_name event).run (exec env) w' =
      match w'.enqueue env connector_name event with
      | (.error _, w₁) => (.ok ⟨.enqueue_failed, none, "Trigger sink unavailable."⟩, w₁)
      | (.ok _, w₁) => (.ok ⟨.enqueued, some event, ""⟩, w₁) := by
    simp only [enqueue_event, run_bind, run_attempt, run_perform, exec]
    rcases w'.enqueue env connector_name event with ⟨r, w₁⟩
    cases r <;> rfl
  rw [hrun]
  unfold World.enqueue
  rw [hcalls]
  cases hsink : env.sink w.sink_calls with
  | answered =>
    refine ⟨_, _, rfl, .queued (.inl rfl) hredis ?_⟩
    rw [← hqueue]
  | refused error => exact ⟨_, _, rfl, .lost ⟨hget, hmark, .inr ⟨hset, error, hsink⟩⟩ (.inr rfl) hredis hqueue⟩
  | unacknowledged error =>
    refine ⟨_, _, rfl, .queued (.inr ⟨?_, rfl⟩) hredis ?_⟩
    · intro hworking
      rw [hworking.2.2] at hsink
      cases hsink
    · rw [← hqueue]

theorem process_event_ends (env : Env) (connector_name : String) (event : Event) (w : World) :
    ∃ result w', (process_event connector_name event).run (exec env) w = (.ok result, w') ∧
      Ends env connector_name event w result w' := by
  by_cases hget : env.redis w.redis_calls = .answered
  · by_cases hmark : dedup_key connector_name event.provider_event_id ∈ w.redis
    · exact ⟨_, _, process_event_marked hget hmark, .duplicate hmark rfl rfl rfl⟩
    · rw [process_event_unmarked hget hmark]
      unfold World.redis_set
      cases hset : env.redis (w.redis_calls + 1) with
      | answered =>
        simp only
        exact enqueue_event_ends hget hset hmark rfl rfl rfl
      | refused error =>
        simp only
        refine ⟨_, _, rfl, .unavailable ?_ rfl rfl rfl⟩
        intro hworking
        rw [hworking.2.1] at hset
        cases hset
      | unacknowledged error =>
        simp only
        exact ⟨_, _, rfl, .lost ⟨hget, hmark, .inl ⟨error, hset⟩⟩ (.inl rfl) rfl rfl⟩
  · refine ⟨_, _, process_event_unanswered hget, .unavailable ?_ rfl rfl rfl⟩
    intro hworking
    exact hget hworking.1

/-! ## Histories -/

/-- A mark means that the event was enqueued. -/
def Marked (connector_name provider_event_id : String) (w : World) : Prop :=
  dedup_key connector_name provider_event_id ∈ w.redis →
    0 < w.enqueued connector_name provider_event_id

theorem dedup_key_injective {id id' : String}
    (h : dedup_key connector_name id = dedup_key connector_name id') : id = id' := by
  unfold dedup_key at h
  exact String.append_right_inj _ |>.mp h

/-- Nothing about the event changed. -/
theorem Marked.same {w w' : World} (h : Marked connector_name provider_event_id w)
    (hredis : w'.redis = w.redis) (hqueue : w'.queue = w.queue) :
    Marked connector_name provider_event_id w' := by
  unfold Marked World.enqueued at *
  rw [hredis, hqueue]
  exact h

theorem Untouched.loses {w w' : World} (h : Untouched w w') :
    Loses env connector_name provider_event_id w' ↔ Loses env connector_name provider_event_id w := by
  unfold Loses
  rw [h.redis, h.redis_calls, h.sink_calls]

theorem Untouched.working {w w' : World} (h : Untouched w w') : Working env w' ↔ Working env w := by
  unfold Working
  rw [h.redis_calls, h.sink_calls]

/-- The mark of another event. -/
theorem mem_of_mem_cons_other {id : String} {keys : List String} (hid : id ≠ provider_event_id)
    (h : dedup_key connector_name provider_event_id ∈ dedup_key connector_name id :: keys) :
    dedup_key connector_name provider_event_id ∈ keys := by
  obtain hsame | hmem := List.mem_cons.mp h
  · exact absurd (dedup_key_injective hsame).symm hid
  · exact hmem

/-- A delivery of an event that is not lost keeps the marks true. -/
theorem Marked.ends {event : Event} {w w' : World} {result : PipelineResult}
    (h : Marked connector_name provider_event_id w)
    (hkeeps : event.provider_event_id = provider_event_id →
      ¬ Loses env connector_name provider_event_id w)
    (hends : Ends env connector_name event w result w') :
    Marked connector_name provider_event_id w' := by
  cases hends with
  | unavailable _ _ hredis hqueue => exact h.same hredis hqueue
  | duplicate _ _ hredis hqueue => exact h.same hredis hqueue
  | lost hloses _ hredis hqueue =>
    by_cases hid : event.provider_event_id = provider_event_id
    · rw [hid] at hloses
      exact absurd hloses (hkeeps hid)
    · intro hmem
      rw [hredis] at hmem
      unfold World.enqueued
      rw [hqueue]
      exact h (mem_of_mem_cons_other hid hmem)
  | queued _ hredis hqueue =>
    intro hmem
    unfold World.enqueued
    rw [hqueue]
    by_cases hid : event.provider_event_id = provider_event_id
    · simp [hid]
    · rw [hredis] at hmem
      have hbefore := h (mem_of_mem_cons_other hid hmem)
      rw [List.countP_cons_of_neg (by simp [hid])]
      exact hbefore

/-- One delivery that does not lose the event. -/
theorem Marked.deliver {delivery : Delivery} {w : World}
    (h : Marked connector_name provider_event_id w)
    (hkeeps : ∀ event, Carries env connector_name secret delivery w event →
      event.provider_event_id = provider_event_id → ¬ Loses env connector_name provider_event_id w) :
    Marked connector_name provider_event_id (deliver env connector_name secret delivery w).2 := by
  obtain ⟨w', huntouched, hout, -⟩ | ⟨event, w', hcarries, huntouched, hout⟩ :=
    deliver_cases env connector_name secret delivery w
  · have hsame := h.same huntouched.redis huntouched.queue
    obtain ⟨e, hout⟩ | ⟨result, -, hout⟩ := hout
    · rw [hout]
      exact hsame
    · rw [hout]
      exact hsame
  · obtain ⟨result, w'', hrun, hends⟩ := process_event_ends env connector_name event w'
    rw [hout, hrun]
    refine (h.same huntouched.redis huntouched.queue).ends ?_ hends
    intro hid
    rw [huntouched.loses]
    exact hkeeps event hcarries hid

/-- The deliveries of a history that carry the event do not lose it. -/
def Lossless (env : Env) (connector_name secret provider_event_id : String)
    (history : List Delivery) (w : World) : Prop :=
  ∀ pre delivery post, history = pre ++ delivery :: post → ∀ event,
    Carries env connector_name secret delivery
      (after_deliveries env connector_name secret pre w) event →
    event.provider_event_id = provider_event_id →
    ¬ Loses env connector_name provider_event_id
      (after_deliveries env connector_name secret pre w)

theorem Marked.after {history : List Delivery} {w : World}
    (h : Marked connector_name provider_event_id w)
    (hlossless : Lossless env connector_name secret provider_event_id history w) :
    Marked connector_name provider_event_id
      (after_deliveries env connector_name secret history w) := by
  induction history generalizing w with
  | nil => exact h
  | cons delivery rest ih =>
    refine ih (h.deliver (hlossless [] delivery rest rfl)) ?_
    intro pre delivery' post hrest
    exact hlossless (delivery :: pre) delivery' post (by rw [hrest, List.cons_append])

/-- **No event is lost.** After any history of deliveries none of which loses the event: where a
    delivery of it is ignored as a duplicate, it was enqueued, and where it was not enqueued so
    far, the next delivery that meets a working Redis and a working trigger sink enqueues it. -/
theorem no_event_lost {env : Env} {connector_name secret : String} {history : List Delivery}
    {delivery : Delivery} {event : Event} {w₀ w : World}
    (hstart : Marked connector_name event.provider_event_id w₀)
    (hlossless : Lossless env connector_name secret event.provider_event_id history w₀)
    (hw : w = after_deliveries env connector_name secret history w₀)
    (hcarries : Carries env connector_name secret delivery w event) :
    (∀ result, (deliver env connector_name secret delivery w).1 = .ok result →
      result.decision = .duplicate_ignored →
      0 < w.enqueued connector_name event.provider_event_id) ∧
    (Working env w → w.enqueued connector_name event.provider_event_id = 0 →
      ∃ result w', deliver env connector_name secret delivery w = (.ok result, w') ∧
        result.decision = .enqueued ∧
        w'.enqueued connector_name event.provider_event_id = 1) := by
  have hmarked : Marked connector_name event.provider_event_id w := by
    rw [hw]
    exact hstart.after hlossless
  obtain ⟨w', huntouched, -, hnot⟩ | ⟨event', w', hcarries', huntouched, hout⟩ :=
    deliver_cases env connector_name secret delivery w
  · exact absurd hcarries (hnot event)
  obtain rfl : event' = event := by
    have hsame := hcarries'.symm.trans hcarries
    cases hsame
    rfl
  obtain ⟨result, w'', hrun, hends⟩ := process_event_ends env connector_name event' w'
  rw [hout, hrun]
  constructor
  · intro result' hresult hduplicate
    cases hresult
    have hmem : dedup_key connector_name event'.provider_event_id ∈ w.redis := by
      rw [← huntouched.redis]
      cases hends with
      | unavailable _ hdecision =>
        rw [hduplicate] at hdecision
        cases hdecision
      | duplicate hmark => exact hmark
      | lost _ hdecision =>
        rw [hduplicate] at hdecision
        obtain hdecision | hdecision := hdecision <;> cases hdecision
      | queued hdecision =>
        rw [hduplicate] at hdecision
        obtain hdecision | ⟨-, hdecision⟩ := hdecision <;> cases hdecision
    exact hmarked hmem
  · intro hworking hnone
    refine ⟨result, w'', rfl, ?_⟩
    rw [← huntouched.working] at hworking
    cases hends with
    | unavailable hnot => exact absurd hworking hnot
    | duplicate hmark =>
      rw [huntouched.redis] at hmark
      have henqueued := hmarked hmark
      omega
    | lost hloses =>
      obtain ⟨-, -, ⟨error, hset⟩ | ⟨-, error, hsink⟩⟩ := hloses
      · rw [hworking.2.1] at hset
        cases hset
      · rw [hworking.2.2] at hsink
        cases hsink
    | queued hdecision _ hqueue =>
      refine ⟨?_, ?_⟩
      · obtain hdecision | ⟨hnot, -⟩ := hdecision
        · exact hdecision
        · exact absurd hworking hnot
      · unfold World.enqueued at hnone ⊢
        rw [hqueue, huntouched.queue]
        simpa using hnone

/-! ## Signed deliveries -/

theorem hexdigest_hmac_ne (key msg : List UInt8) :
    Security.hexdigest (Security.hmac_sha256 key msg) ≠ "" := by
  intro hempty
  have hlength := congrArg String.length hempty
  simp [Security.hexdigest, Security.hmac_sha256, Security.sha256, Security.word_bytes] at hlength

/-- A digest agrees with itself. -/
theorem compare_digest_self (bytes : List UInt8) :
    compare_digest (Security.hexdigest bytes) (Security.hexdigest bytes) = .ok true := by
  have hascii : is_ascii (Security.hexdigest bytes) = true := by
    unfold is_ascii
    rw [List.all_eq_true]
    intro c hc
    exact decide_eq_true (Security.hexdigest_ascii bytes c hc)
  simp [compare_digest, hascii]

/-- A body of the right size that comes with its signature, and without a timestamp, is let through. No
    digest has to be computed to see it. -/
theorem receive_signed (env : Env) (connector_name secret : String) {raw_body : List UInt8}
    {header : String} (hheader : header = "x-hub-signature-256" ∨ header = "x-signature")
    (hsize : raw_body.length ≤ MAX_BODY_BYTES) :
    receive env connector_name secret ⟨raw_body,
        [(header, Security.hexdigest (Security.hmac_sha256 (encode_utf8 secret) raw_body))]⟩ =
      normalise env connector_name raw_body := by
  have hne := hexdigest_hmac_ne (encode_utf8 secret) raw_body
  have hcompare := compare_digest_self (Security.hmac_sha256 (encode_utf8 secret) raw_body)
  have hfits : ¬ MAX_BODY_BYTES < raw_body.length := by omega
  unfold receive verify_signature
  rw [if_neg hfits]
  generalize Security.hexdigest (Security.hmac_sha256 (encode_utf8 secret) raw_body) = digest
    at hne hcompare ⊢
  have hkept : (some digest).filter (· ≠ "") = some digest := by simp [Option.filter, hne]
  obtain rfl | rfl := hheader
  · have hhub : [("x-hub-signature-256", digest)].lookup "x-hub-signature-256" = some digest := rfl
    have htime : [("x-hub-signature-256", digest)].lookup "x-timestamp" = none := rfl
    simp only [hhub, htime, hkept, hcompare]
    rfl
  · have hhub : [("x-signature", digest)].lookup "x-hub-signature-256" = none := rfl
    have hplain : [("x-signature", digest)].lookup "x-signature" = some digest := rfl
    have htime : [("x-signature", digest)].lookup "x-timestamp" = none := rfl
    simp only [hhub, hplain, htime, Option.filter_none, hkept, hcompare]
    rfl

/-- `process_webhook` behind the check of the signature. -/
def process_verified (env : Env) (connector_name : String) (raw_body : List UInt8) : M PipelineResult :=
  (normalise env connector_name raw_body).bind fun
  | .inl result => .ret result
  | .inr event => process_event connector_name event

theorem process_webhook_verified {delivery : Delivery}
    (h : receive env connector_name secret delivery = normalise env connector_name delivery.raw_body) :
    process_webhook env connector_name secret delivery =
      process_verified env connector_name delivery.raw_body := by
  unfold process_webhook
  rw [h]
  rfl

/-! ## Two deliveries of one event -/

section two_deliveries

def status_changed_body : List UInt8 :=
  encode_utf8 "\x7b\"id\": \"evt-001\", \"type\": \"matter.status_changed\"\x7d"

/-- A signed delivery. -/
def status_changed : Delivery :=
  ⟨status_changed_body, [("x-hub-signature-256",
    Security.hexdigest (Security.hmac_sha256 (encode_utf8 "secret") status_changed_body))]⟩

theorem receive_status_changed (env : Env) :
    receive env "reference" "secret" status_changed = normalise env "reference" status_changed_body :=
  receive_signed env "reference" "secret" (.inl rfl) (by decide +kernel)

/-- The reference connector; the first calls of Redis and of the trigger sink go as given. -/
def reference_env (redis sink : Fault) : Env where
  json_loads _ := .ok (.obj [("id", .str "evt-001"), ("type", .str "matter.status_changed")])
  float _ := none
  time _ := 0
  normaliser _ := reference_normaliser ("id-0", "id-1") (0, 0)
  redis n := if n = 0 then redis else .answered
  sink n := if n = 0 then sink else .answered

def new_world : World := ⟨[], [], 0, 0, 0, 0⟩

/-- The decision of a delivery that returns. -/
def decision (out : Except Exn PipelineResult × World) : Option Decision :=
  out.1.toOption.map PipelineResult.decision

/-- The sink fails once. -/
def flaky_sink : Env := reference_env .answered (.refused (.other "ConnectionError" "sink"))

/-- Redis fails once. -/
def flaky_redis : Env := reference_env (.refused (.other "ConnectionError" "redis")) .answered

/-- What the first delivery leaves. -/
def after_first (env : Env) : World :=
  after_deliveries env "reference" "secret" [status_changed] new_world

theorem process_status_changed (env : Env) : process_webhook env "reference" "secret" status_changed =
    process_verified env "reference" status_changed_body :=
  process_webhook_verified (receive_status_changed env)

theorem deliver_status_changed (env : Env) (w : World) :
    deliver env "reference" "secret" status_changed w =
      (process_verified env "reference" status_changed_body).run (exec env) w := by
  rw [deliver, process_status_changed]

theorem after_first_eq (env : Env) : after_first env =
    ((process_verified env "reference" status_changed_body).run (exec env) new_world).2 := by
  rw [after_first, after_deliveries, after_deliveries, deliver_status_changed]

instance (env : Env) (w : World) : Decidable (Working env w) := by
  unfold Working
  infer_instance

/-- **A failed enqueue loses the event.** The first delivery is answered `enqueue_failed`, so the
    provider delivers again; everything works now, and the delivery is ignored as a duplicate
    of an event that nobody has enqueued. -/
theorem failed_enqueue_loses_event :
    decision (deliver flaky_sink "reference" "secret" status_changed new_world) =
      some .enqueue_failed ∧
    Working flaky_sink (after_first flaky_sink) ∧
    (after_first flaky_sink).enqueued "reference" "evt-001" = 0 ∧
    decision (deliver flaky_sink "reference" "secret" status_changed (after_first flaky_sink)) =
      some .duplicate_ignored := by
  rw [deliver_status_changed, deliver_status_changed, after_first_eq]
  -- one evaluation: the first delivery is shared
  decide +kernel

/-- The event of a delivery. -/
def carried : Except Exn (PipelineResult ⊕ Event) → Option Event
  | .ok (.inr event) => some event
  | _ => none

theorem carried_eq {r : Except Exn (PipelineResult ⊕ Event)} {event : Event}
    (h : carried r = some event) : r = .ok (.inr event) := by
  unfold carried at h
  split at h
  · cases h
    rfl
  · cases h

theorem flaky_redis_lossless (id : String) :
    Lossless flaky_redis "reference" "secret" id [status_changed] new_world := by
  intro pre delivery post hhistory event _ _ hloses
  cases pre with
  | nil => cases hloses.1
  | cons first pre =>
    have hlength := congrArg List.length hhistory
    simp at hlength

/-- Redis fails before anything is marked: the second delivery enqueues the event. -/
theorem failed_lookup_is_retried : ∃ result w',
    deliver flaky_redis "reference" "secret" status_changed (after_first flaky_redis) =
      (.ok result, w') ∧ result.decision = .enqueued := by
  have hevaluated : (carried ((receive flaky_redis "reference" "secret" status_changed).run
        (exec flaky_redis) (after_first flaky_redis)).1).isSome = true ∧
      (after_first flaky_redis).queue.isEmpty = true ∧
      Working flaky_redis (after_first flaky_redis) := by
    rw [receive_status_changed, after_first_eq]
    decide +kernel
  obtain ⟨hsome, hempty, hworking⟩ := hevaluated
  obtain ⟨event, hevent⟩ := Option.isSome_iff_exists.mp hsome
  have hnone : (after_first flaky_redis).queue = [] := List.isEmpty_iff.mp hempty
  have hzero : (after_first flaky_redis).enqueued "reference" event.provider_event_id = 0 := by
    rw [World.enqueued, hnone]
    rfl
  have hfirst : after_first flaky_redis =
      after_deliveries flaky_redis "reference" "secret" [status_changed] new_world := rfl
  have hretried := (no_event_lost (fun h => by cases h) (flaky_redis_lossless _) hfirst
    (carried_eq hevent)).2 hworking hzero
  obtain ⟨result, w', hout, hdecision, -⟩ := hretried
  exact ⟨result, w', hout, hdecision⟩

end two_deliveries

end CaseAutomation.Connectors.Webhook
