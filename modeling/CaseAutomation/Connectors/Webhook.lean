import CaseAutomation.Base.PyValues
import CaseAutomation.Connectors.Client

/-! # The Webhook Pipeline

    `connectors/webhook/pipeline.py` and the route of `sidecar/webhooks.py`: verify, parse,
    normalise, look for a duplicate, mark the event as processed, enqueue it.

    The normaliser of a connector draws ids and reads the clock, so each of its calls may answer
    differently; it is a call like those of Redis and of the trigger sink.
-/

namespace CaseAutomation.Connectors.Webhook

open Framework Security

def MAX_BODY_BYTES : Nat := 1048576

def REPLAY_WINDOW_SECONDS : ℚ := 300

/-- A normalised inbound event. -/
structure Event where
  id : String
  connector : String
  provider_event_id : String
  type : String
  occurred_at : Time
  received_at : Time
  matter_ref : Option String
  payload : JsonObj
  raw_ref : Option String

/-- The terminal decisions. -/
inductive Decision where
  | rejected_oversized
  | rejected_bad_signature
  | dropped_unknown_type
  | duplicate_ignored
  | redis_unavailable
  | enqueue_failed
  | enqueued
  deriving DecidableEq, Repr

/-- `PipelineResult`. -/
structure PipelineResult where
  decision : Decision
  event : Option Event
  reason : String

/-- A POST of the provider. -/
structure Delivery where
  raw_body : List UInt8
  headers : List (String × String)

/-- What `float()` makes of a header. -/
inductive ParsedFloat where
  | nan
  | infinite
  | finite (x : ℚ)

/-- What the outside provides. -/
structure Env where
  /-- `json.loads` of a body. -/
  json_loads : List UInt8 → Except Exn Json
  /-- `float()` of a header; none where it raises. -/
  float : String → Option ParsedFloat
  /-- The successive readings of `datetime.now(tz=UTC).timestamp()`. -/
  time : Nat → ℚ
  /-- The successive calls of the normaliser. -/
  normaliser : Nat → String → Json → Except Exn (Option Event)
  redis : Nat → Fault
  sink : Nat → Fault

structure World where
  /-- The dedup keys in Redis. -/
  redis : List String
  /-- The events handed to the trigger sink so far, each with the connector it was received for. -/
  queue : List (String × Event)
  clock : Nat
  normalised : Nat
  redis_calls : Nat
  sink_calls : Nat

/-- `_dedup_key`. -/
def dedup_key (connector provider_event_id : String) : String :=
  "cam:webhook:" ++ connector ++ ":" ++ provider_event_id

/-! ## Calls -/

inductive Call where
  | now
  | normalise (connector : String) (raw : Json)
  | redis_get (key : String)
  | redis_set (key : String)
  | enqueue (connector_name : String) (event : Event)

abbrev Call.Resp : Call → Type
  | .now => ℚ
  | .normalise _ _ => Option Event
  | .redis_get _ => Bool
  | .redis_set _ => Unit
  | .enqueue _ _ => Unit

abbrev M (α : Type) : Type := Program Call Call.Resp Exn α

/-- One call, awaited. -/
abbrev await (c : Call) : M c.Resp := Program.perform c

namespace World

/-- Whether the key is set; any failure is raised. -/
def redis_get (env : Env) (key : String) (w : World) : Except Exn Bool × World :=
  let called := { w with redis_calls := w.redis_calls + 1 }
  match env.redis w.redis_calls with
  | .answered => (.ok (decide (key ∈ w.redis)), called)
  | .refused error | .unacknowledged error => (.error error, called)

/-- The key is set; its expiry is left out. -/
def redis_set (env : Env) (key : String) (w : World) : Except Exn Unit × World :=
  let called := { w with redis_calls := w.redis_calls + 1 }
  match env.redis w.redis_calls with
  | .answered => (.ok (), { called with redis := key :: called.redis })
  | .refused error => (.error error, called)
  | .unacknowledged error => (.error error, { called with redis := key :: called.redis })

/-- The event is handed to the trigger sink. -/
def enqueue (env : Env) (connector_name : String) (event : Event) (w : World) :
    Except Exn Unit × World :=
  let called := { w with sink_calls := w.sink_calls + 1 }
  match env.sink w.sink_calls with
  | .answered => (.ok (), { called with queue := (connector_name, event) :: called.queue })
  | .refused error => (.error error, called)
  | .unacknowledged error =>
    (.error error, { called with queue := (connector_name, event) :: called.queue })

/-- How often an event was enqueued. -/
def enqueued (connector_name provider_event_id : String) (w : World) : Nat :=
  w.queue.countP fun e => decide (e.1 = connector_name ∧ e.2.provider_event_id = provider_event_id)

end World

/-- The effect of a call. -/
def exec (env : Env) : Program.Service Call Call.Resp Exn World
  | .now, w => (.ok (env.time w.clock), { w with clock := w.clock + 1 })
  | .normalise connector raw, w =>
    (env.normaliser w.normalised connector raw, { w with normalised := w.normalised + 1 })
  | .redis_get key, w => w.redis_get env key
  | .redis_set key, w => w.redis_set env key
  | .enqueue connector_name event, w => w.enqueue env connector_name event

/-! ## Verification -/

/-- `hmac.compare_digest(expected, signature_header)`. -/
def compare_digest (expected signature_header : String) : Except Exn Bool :=
  if is_ascii signature_header then .ok (decide (expected = signature_header))
  else .error (.type_error "comparing strings with non-ASCII characters is not supported")

/-- The timestamp lies outside the replay window. -/
def is_stale (now : ℚ) : ParsedFloat → Bool
  | .nan => false
  | .infinite => true
  | .finite ts => decide (REPLAY_WINDOW_SECONDS < |now - ts|)

/-- `verify_signature`. -/
def verify_signature (env : Env) (raw_body : List UInt8) (signature_header : Option String)
    (secret : String) (timestamp_header : Option String) : M Bool :=
  match signature_header.filter (· ≠ "") with
  | none => .ret false
  | some signature_header =>
    let expected := hexdigest (hmac_sha256 (encode_utf8 secret) raw_body)
    let check : M Bool := .ofExcept (compare_digest expected signature_header)
    match timestamp_header with
    | none => check
    | some timestamp_header =>
      match env.float timestamp_header with
      | none => .ret false
      | some ts => (await .now).bind fun now => if is_stale now ts then .ret false else check

/-! ## The pipeline -/

/-- Whether the event is a duplicate; if not, it is marked as processed. -/
def dedupe (connector_name provider_event_id : String) : M Bool :=
  (await (.redis_get (dedup_key connector_name provider_event_id))).bind fun duplicate =>
  if duplicate then .ret true
  else
    (await (.redis_set (dedup_key connector_name provider_event_id))).bind fun _ =>
    .ret false

/-- `process_webhook` from step 5 on. -/
def enqueue_event (connector_name : String) (event : Event) : M PipelineResult :=
  (await (.enqueue connector_name event)).attempt.bind fun
  | .error _ => .ret ⟨.enqueue_failed, none, "Trigger sink unavailable."⟩
  | .ok _ => .ret ⟨.enqueued, some event, ""⟩

/-- `process_webhook` from step 4 on. -/
def process_event (connector_name : String) (event : Event) : M PipelineResult :=
  (dedupe connector_name event.provider_event_id).attempt.bind fun
  | .error _ => .ret ⟨.redis_unavailable, none, "Dedup store unavailable."⟩
  | .ok true => .ret ⟨.duplicate_ignored, none, ""⟩
  | .ok false => enqueue_event connector_name event

/-- `process_webhook` from step 2 to step 3: the event, or what is answered without one. -/
def normalise (env : Env) (connector_name : String) (raw_body : List UInt8) :
    M (PipelineResult ⊕ Event) :=
  match env.json_loads raw_body with
  -- `JSONDecodeError` and `UnicodeDecodeError` are `ValueError`s; `RecursionError` is none
  | .error (.value_error _) => .ret (.inl ⟨.rejected_bad_signature, none, "Malformed JSON body."⟩)
  | .error error => .raise error
  | .ok raw_payload =>
    (await (.normalise connector_name raw_payload)).bind fun
    | none => .ret (.inl ⟨.dropped_unknown_type, none, "Unrecognised event type."⟩)
    | some event => .ret (.inr event)

/-- `process_webhook` up to step 3. -/
def receive (env : Env) (connector_name secret : String) (delivery : Delivery) :
    M (PipelineResult ⊕ Event) :=
  if MAX_BODY_BYTES < delivery.raw_body.length then
    .ret (.inl ⟨.rejected_oversized, none, "Body exceeds size cap."⟩)
  else
    let sig := match (delivery.headers.lookup "x-hub-signature-256").filter (· ≠ "") with
      | some sig => some sig
      | none => delivery.headers.lookup "x-signature"
    let ts := delivery.headers.lookup "x-timestamp"
    (verify_signature env delivery.raw_body sig secret ts).bind fun verified =>
    if verified then normalise env connector_name delivery.raw_body
    else .ret (.inl ⟨.rejected_bad_signature, none, "Invalid or missing signature."⟩)

/-- `process_webhook`. -/
def process_webhook (env : Env) (connector_name secret : String) (delivery : Delivery) :
    M PipelineResult :=
  (receive env connector_name secret delivery).bind fun
  | .inl result => .ret result
  | .inr event => process_event connector_name event

/-! ## The reference normaliser -/

/-- The types that it knows. -/
def known_types : List String :=
  ["matter.status_changed", "lead.created", "document.signed", "email.received", "contact.created"]

/-- Whether a JSON value counts as false. -/
def is_falsy : Json → Bool
  | .null | .bool false | .int 0 | .str "" | .arr [] | .obj [] => true
  | .float x => decide (x.value = 0)
  | _ => false

/-- `reference_normaliser`, with the ids and the times that it draws. -/
def reference_normaliser (uuid : String × String) (now : Time × Time) (connector : String) :
    Json → Except Exn (Option Event)
  | .obj raw =>
    let event_type := match (raw.lookup "type").filter (!is_falsy ·) with
      | some event_type => some event_type
      | none => raw.lookup "event_type"
    match event_type with
    | some (.str event_type) =>
      if event_type ∈ known_types then
        match (raw.lookup "id").getD (.str uuid.2), (raw.lookup "matter_id").getD .null with
        | .str provider_event_id, .null => .ok (some (event event_type provider_event_id none raw))
        | .str provider_event_id, .str matter_ref =>
          .ok (some (event event_type provider_event_id (some matter_ref) raw))
        | _, _ => .error (.other "ValidationError" "Event")
      else .ok none
    | some (.arr (_ :: _)) => .error (.type_error "unhashable type: 'list'")
    | some (.obj (_ :: _)) => .error (.type_error "unhashable type: 'dict'")
    | _ => .ok none
  | _ => .error (.other "AttributeError" "get")
where
  event (event_type provider_event_id : String) (matter_ref : Option String) (raw : JsonObj) : Event :=
    { id := uuid.1
      connector := connector
      provider_event_id := provider_event_id
      type := event_type
      occurred_at := now.1
      received_at := now.2
      matter_ref := matter_ref
      payload := raw.filter fun f => decide (f.1 ∉ ["id", "type", "event_type"])
      raw_ref := none }

/-! ## The route -/

/-- `result.decision`, the text of the answer. -/
def Decision.name : Decision → String
  | .rejected_oversized => "rejected_oversized"
  | .rejected_bad_signature => "rejected_bad_signature"
  | .dropped_unknown_type => "dropped_unknown_type"
  | .duplicate_ignored => "duplicate_ignored"
  | .redis_unavailable => "redis_unavailable"
  | .enqueue_failed => "enqueue_failed"
  | .enqueued => "enqueued"

/-- `decision_to_status`. -/
def Decision.status_code : Decision → Nat
  | .enqueued => 202
  | .duplicate_ignored => 200
  | .dropped_unknown_type => 202
  | .rejected_bad_signature => 401
  | .rejected_oversized => 413
  | .redis_unavailable => 503
  | .enqueue_failed => 503

/-- The state of the sidecar. -/
structure App where
  registered_connectors : List String
  webhook_secrets : List (String × String)
  /-- A Redis client is configured. -/
  redis : Bool

/-- `ingest_webhook`: the status code and the body of the answer. -/
def ingest_webhook (env : Env) (app : App) (connector_name : String) (delivery : Delivery) :
    M (Nat × String) :=
  if connector_name ∉ app.registered_connectors then
    .ret (404, "Unknown connector: " ++ repr_str connector_name)
  else if MAX_BODY_BYTES < delivery.raw_body.length then .ret (413, "Payload too large.")
  else if !app.redis then .ret (503, "Dedup store unavailable.")
  else
    let secret := (app.webhook_secrets.lookup connector_name).getD ""
    (process_webhook env connector_name secret delivery).bind fun result =>
    .ret (result.decision.status_code, result.decision.name)

end CaseAutomation.Connectors.Webhook
