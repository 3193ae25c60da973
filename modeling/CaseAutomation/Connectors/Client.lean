import CaseAutomation.Audit.Record
import CaseAutomation.Connectors.Health
import CaseAutomation.Framework.CheckThenAct
import CaseAutomation.Framework.Dict

/-! # The Outbound Client

    `OutboundClient.request` of `connectors/middleware.py`, with `classify` of
    `connectors/errors.py`.

    A `Call` is what runs without a switch to another coroutine: an awaited operation with the
    synchronous code up to the next one. A read passes the guard and starts its first attempt
    in one stretch; a write awaits Redis in between. Metrics, logs and what is handed to
    the HTTP client unread (headers, timeout) are left out.
-/

namespace CaseAutomation.Connectors

open Framework

/-! ## Answers of a vendor -/

/-- The body of a response: empty, a JSON text (of finite numbers and whole characters), or anything
    that `json.loads` refuses. -/
inductive Content where
  | empty
  | json (value : Json)
  | text

/-- An `httpx.Response`, as far as it is read. -/
structure Response where
  status_code : Int
  content : Content
  /-- The `Retry-After` header, if `float()` can read it. -/
  retry_after : Option ℚ

namespace Response

/-- `response.is_success`. -/
def is_success (response : Response) : Bool :=
  decide (200 ≤ response.status_code ∧ response.status_code ≤ 299)

/-- `response.json()`; it raises for a body that is no JSON text. -/
def json (response : Response) : Option Json :=
  match response.content with
  | .json value => some value
  | _ => none

/-- The content of `httpx.Response(200, json=value)`: `None` stands for no body. -/
def replay_content : Json → Content
  | .null => .empty
  | value => .json value

/-- `httpx.Response(200, json=value)`. -/
def replay (value : Json) : Response := ⟨200, replay_content value, none⟩

/-- What `_record_success` keeps of a response. -/
def result_data (response : Response) : Json := response.json.getD (.obj [])

end Response

/-- A `ConnectorError`; only a `RateLimitError` has a `retry_after`. -/
structure ConnectorError where
  cls : ConnectorErrorClass
  connector : String
  detail : String
  retry_after : Option ℚ

namespace ConnectorError

def exn (err : ConnectorError) : Exn := .connector err.cls err.connector err.detail

def retryable (err : ConnectorError) : Bool := err.cls.retryable

/-- `FatalError(connector, detail)`. -/
def fatal (connector detail : String) : ConnectorError := ⟨.FatalError, connector, detail, none⟩

end ConnectorError

/-- What `http_client.request` raises. -/
inductive HttpError where
  | timeout
  | network
  | connector (err : ConnectorError)
  | other (type_name : String)

/-- What is handed to `classify`. -/
inductive Failure where
  | response (response : Response)
  | raised (error : HttpError)

/-- `classify`. -/
def classify (failure : Failure) (connector : String) : ConnectorError :=
  match failure with
  | .response response =>
    let detail := "HTTP " ++ toString response.status_code
    if response.status_code ∈ [401, 403] then ⟨.AuthError, connector, detail, none⟩
    else if response.status_code = 429 then
      ⟨.RateLimitError, connector, detail, response.retry_after⟩
    else if response.status_code = 404 then ⟨.NotFoundError, connector, detail, none⟩
    else if response.status_code ∈ [408, 425, 500, 502, 503, 504] then
      ⟨.TransientError, connector, detail, none⟩
    else .fatal connector (detail ++ " (non-retryable)")
  | .raised .timeout => ⟨.TransientError, connector, "Request timed out.", none⟩
  | .raised .network => ⟨.TransientError, connector, "Network error.", none⟩
  | .raised (.connector err) => err
  | .raised (.other type_name) => .fatal connector ("Unclassified error: " ++ type_name)

/-! ## Requests -/

structure RetryPolicy where
  max_attempts : Int
  base_delay : ℚ
  max_delay : ℚ
  total_deadline : ℚ

def DEFAULT_RETRY : RetryPolicy := ⟨5, 1 / 2, 30, 120⟩

/-- The arguments of `request`. -/
structure Request where
  method : String
  url : String
  idem_key : Option String
  retry : RetryPolicy
  json_body : Json
  is_write : Bool
  operation : String

/-- How a call of Redis goes. -/
inductive Fault where
  | answered
  /-- The operation was not carried out. -/
  | refused (error : Exn)
  /-- The operation was carried out, but its reply was lost. -/
  | unacknowledged (error : Exn)
  deriving DecidableEq

/-- What the outside provides. -/
structure Env where
  /-- The connector of the clients, which share its health. -/
  connector : String
  classify_fn : Failure → String → ConnectorError
  /-- `str(uuid.uuid5(namespace, name))`. -/
  uuid5 : String → String → String
  /-- The time that passes before the successive readings of `time.monotonic()`. -/
  elapse : Nat → ℚ
  elapse_nonneg : ∀ n, 0 ≤ elapse n
  /-- How the successive attempts are answered. -/
  vendor : Nat → Except HttpError Response
  /-- The successive results of `random()`. -/
  random : Nat → ℚ
  redis : Nat → Fault

structure World where
  health : ConnectorHealth
  redis : Dict String String
  now : ℚ
  readings : Nat
  answers : Nat
  draws : Nat
  redis_calls : Nat
  /-- When the attempts were started, and the state of the circuit then. -/
  starts : List (ℚ × HealthState)
  /-- The successful answers, the latest first. -/
  successes : List Response

/-- `_derive_idem_key`. -/
def derive_idem_key (env : Env) (operation logical_args : String) : String :=
  env.uuid5 "6ba7b810-9dad-11d1-80b4-00c04fd430c8"
    (env.connector ++ ":" ++ operation ++ ":" ++ logical_args)

/-- `_resolve_idem_key`, with and without a Redis client. -/
def resolve_idem_key (env : Env) (redis : Bool) (q : Request) : Option String :=
  if !q.is_write || !redis then none
  else
    match q.idem_key with
    | some idem_key => some idem_key
    | none =>
      let body := String.ofList (JsonCodec.text [' '] (Audit.sort_keys q.json_body))
      some (derive_idem_key env q.operation (q.method ++ ":" ++ q.url ++ ":" ++ body))

/-- `_idem_redis_key`. -/
def idem_redis_key (connector idem_key : String) : String :=
  "cam:idem:" ++ connector ++ ":" ++ idem_key

/-- The record that `_idem_set` writes. -/
def idem_record (result : Json) : String :=
  JsonCodec.dumps [("result", result), ("status", .str "completed")]

/-- `_jitter_wait`. -/
def jitter_wait (random : ℚ) (attempt : Nat) (base cap : ℚ) : ℚ :=
  random * min cap (base * 2 ^ attempt)

/-! ## Calls -/

inductive Call where
  /-- `_guard_circuit` of a write. -/
  | guard
  /-- `_execute_with_retry` up to the first attempt, for a read after `_guard_circuit`. -/
  | start (guarded : Bool) (total_deadline : ℚ)
  /-- The next attempt. -/
  | resume (deadline : ℚ)
  /-- The answer of the vendor, and what is done with it. -/
  | answer (retry : RetryPolicy) (attempt : Nat) (deadline : ℚ)
  /-- Asleep until a time that was fixed when the call went to sleep. -/
  | sleep (wake_at : ℚ)
  | idem_get (idem_key : String)
  | idem_set (idem_key : String) (result : Json)

abbrev Call.Resp : Call → Type
  | .guard => Unit
  | .start _ _ => ℚ
  | .resume _ => Unit
  | .answer _ _ _ => Response ⊕ ℚ
  | .sleep _ => Unit
  | .idem_get _ => Option JsonObj
  | .idem_set _ _ => Unit

abbrev M (α : Type) : Type := Program Call Call.Resp Exn α

/-- One call, awaited. -/
abbrev await (c : Call) : M c.Resp := Program.perform c

namespace World

/-- `time.monotonic()` is read. -/
def tick (env : Env) (w : World) : World :=
  { w with now := w.now + env.elapse w.readings, readings := w.readings + 1 }

/-- `self._health.record_failure(err)`. -/
def record_failure (env : Env) (error : Exn) (w : World) : World :=
  let w := w.tick env
  { w with health := w.health.record_failure error w.now }

/-- `_guard_circuit`. -/
def guard_circuit (env : Env) (w : World) : Except Exn Unit × World :=
  let w := w.tick env
  let w := { w with health := w.health.maybe_transition_to_half_open w.now }
  if w.health.state = .opened then
    (.error (w.health.last_error.getD
      (ConnectorError.fatal env.connector "Circuit breaker is open.").exn), w)
  else (.ok (), w)

/-- The deadline is checked and the attempt is started. -/
def start_attempt (env : Env) (deadline : ℚ) (w : World) : Except Exn Unit × World :=
  let w := w.tick env
  if deadline ≤ w.now then
    let error := (ConnectorError.fatal env.connector "Total deadline exceeded.").exn
    (.error error, w.record_failure env error)
  else (.ok (), { w with starts := (w.now, w.health.read w.now) :: w.starts })

/-- `_execute_with_retry` up to the first attempt. -/
def first_attempt (env : Env) (total_deadline : ℚ) (w : World) : Except Exn ℚ × World :=
  let w := w.tick env
  let deadline := w.now + total_deadline
  match w.start_attempt env deadline with
  | (.ok _, w) => (.ok deadline, w)
  | (.error e, w) => (.error e, w)

/-- `_single_attempt`, from the answer on. -/
def single_attempt (env : Env) (w : World) : Except ConnectorError Response :=
  match env.vendor w.answers with
  | .ok response =>
    if response.is_success then .ok response
    else .error (env.classify_fn (.response response) env.connector)
  | .error (.connector err) => .error err
  | .error error => .error (env.classify_fn (.raised error) env.connector)

/-- The time to wait before the next attempt. -/
def retry_wait (env : Env) (retry : RetryPolicy) (attempt : Nat) (err : ConnectorError)
    (w : World) : ℚ :=
  let wait := jitter_wait (env.random w.draws) attempt retry.base_delay retry.max_delay
  match err.cls, err.retry_after with
  | .RateLimitError, some retry_after => max wait retry_after
  | _, _ => wait

/-- A failed attempt: it is recorded, and then raised or slept on until the time in the answer. -/
def attempt_failed (env : Env) (retry : RetryPolicy) (attempt : Nat) (deadline : ℚ)
    (err : ConnectorError) (w : World) : Except Exn (Response ⊕ ℚ) × World :=
  let w := w.record_failure env err.exn
  if !err.retryable || decide (retry.max_attempts ≤ attempt) then
    if err.retryable && decide (retry.max_attempts ≤ attempt) then
      (.error (ConnectorError.fatal env.connector
        ("Retry exhausted after " ++ toString attempt ++ " attempts.")).exn, w)
    else (.error err.exn, w)
  else
    let wait := w.retry_wait env retry attempt err
    let w := { w.tick env with draws := w.draws + 1 }
    let remaining := deadline - w.now
    if remaining ≤ 0 then
      (.error (ConnectorError.fatal env.connector "Total deadline exceeded mid-retry.").exn, w)
    else (.ok (.inr (w.now + max 0 (min wait remaining))), w)

/-- The vendor has answered. -/
def take_answer (env : Env) (retry : RetryPolicy) (attempt : Nat) (deadline : ℚ) (w : World) :
    Except Exn (Response ⊕ ℚ) × World :=
  let answered := { w with answers := w.answers + 1 }
  match w.single_attempt env with
  | .ok response =>
    (.ok (.inl response), { answered with
      health := answered.health.record_success
      successes := response :: answered.successes })
  | .error err => answered.attempt_failed env retry attempt deadline err

/-- `_idem_get`. -/
def idem_get (env : Env) (idem_key : String) (w : World) : Except Exn (Option JsonObj) × World :=
  let called := { w with redis_calls := w.redis_calls + 1 }
  match env.redis w.redis_calls with
  | .refused error | .unacknowledged error => (.error error, called)
  | .answered =>
    match w.redis.get? (idem_redis_key env.connector idem_key) with
    | none => (.ok none, called)
    | some raw =>
      match JsonCodec.loads raw with
      | none => (.error (.value_error "Expecting value"), called)
      | some cached => (.ok (some cached), called)

/-- `_idem_set`; the expiry of the record is left out. -/
def idem_set (env : Env) (idem_key : String) (result : Json) (w : World) :
    Except Exn Unit × World :=
  let called := { w with redis_calls := w.redis_calls + 1 }
  let stored := { called with
    redis := called.redis.set (idem_redis_key env.connector idem_key) (idem_record result) }
  match env.redis w.redis_calls with
  | .answered => (.ok (), stored)
  | .refused error => (.error error, called)
  | .unacknowledged error => (.error error, stored)

end World

/-- The effect of a call. -/
def exec (env : Env) : Program.Service Call Call.Resp Exn World
  | .guard, w => w.guard_circuit env
  | .start guarded total_deadline, w =>
    if guarded then
      match w.guard_circuit env with
      | (.ok _, w) => w.first_attempt env total_deadline
      | (.error e, w) => (.error e, w)
    else w.first_attempt env total_deadline
  | .resume deadline, w => w.start_attempt env deadline
  | .answer retry attempt deadline, w => w.take_answer env retry attempt deadline
  | .sleep wake_at, w => (.ok (), { w.tick env with now := max (w.tick env).now wake_at })
  | .idem_get idem_key, w => w.idem_get env idem_key
  | .idem_set idem_key result, w => w.idem_set env idem_key result

section start
variable {env : Env} {total_deadline : ℚ} {w w' : World} {e : Exn}

/-- A guard that refuses the call ends the start. -/
theorem exec_start_refused (h : w.guard_circuit env = (.error e, w')) :
    exec env (.start true total_deadline) w = (.error e, w') := by
  simp only [exec, if_true, h]

/-- Behind a guard that lets the call pass, the first attempt is made. -/
theorem exec_start_passed {u : Unit} (h : w.guard_circuit env = (.ok u, w')) :
    exec env (.start true total_deadline) w = w'.first_attempt env total_deadline := by
  simp only [exec, if_true, h]

/-- The first attempt is made at the time the deadline is counted from. -/
theorem first_attempt_refused
    (h : (w.tick env).start_attempt env ((w.tick env).now + total_deadline) = (.error e, w')) :
    w.first_attempt env total_deadline = (.error e, w') := by
  simp only [World.first_attempt, h]

theorem first_attempt_passed {u : Unit}
    (h : (w.tick env).start_attempt env ((w.tick env).now + total_deadline) = (.ok u, w')) :
    w.first_attempt env total_deadline = (.ok ((w.tick env).now + total_deadline), w') := by
  simp only [World.first_attempt, h]

end start

/-! ## `OutboundClient.request` -/

/-- The loop of `_execute_with_retry`, from an attempt that was started; at most `left` more may
    follow. -/
def retry_loop (retry : RetryPolicy) (deadline : ℚ) : Nat → Nat → M Response
  | 0, attempt => (await (.answer retry attempt deadline)).bind fun
    | .inl response => .ret response
    -- with no attempt left the failure was raised
    | .inr _ => .raise .assertion_error
  | left + 1, attempt => (await (.answer retry attempt deadline)).bind fun
    | .inl response => .ret response
    | .inr wake_at =>
      (await (.sleep wake_at)).bind fun _ =>
      (await (.resume deadline)).bind fun _ =>
      retry_loop retry deadline left (attempt + 1)

/-- `_execute_with_retry`. -/
def execute_with_retry (guarded : Bool) (retry : RetryPolicy) : M Response :=
  (await (.start guarded retry.total_deadline)).bind fun deadline =>
  retry_loop retry deadline (retry.max_attempts - 1).toNat 1

/-- The response that a record stands for. -/
def replayed (cached : Option JsonObj) : Option (Except Exn Response) :=
  match cached with
  | none => none
  | some cached =>
    match cached.lookup "status" with
    | some (.str "completed") =>
      match cached.lookup "result" with
      | some result => some (.ok (.replay result))
      | none => some (.error (.key_error "result"))
    | _ => none

/-- `_record_success`, after the circuit was told. -/
def record_result (idem_key : String) (response : Response) : M Unit :=
  if idem_key = "" then .ret () else await (.idem_set idem_key response.result_data)

/-- A write with an idempotency key. -/
def idempotent_write (idem_key : String) (retry : RetryPolicy) : M Response :=
  (await .guard).bind fun _ =>
  (await (.idem_get idem_key)).bind fun cached =>
  match replayed cached with
  | some answer => .ofExcept answer
  | none =>
    (execute_with_retry false retry).bind fun response =>
    (record_result idem_key response).bind fun _ =>
    .ret response

/-- `request`. -/
def request (env : Env) (redis : Bool) (q : Request) : M Response :=
  match resolve_idem_key env redis q with
  | none => execute_with_retry true q.retry
  | some idem_key => idempotent_write idem_key q.retry

/-- The answer to the last attempt is final. -/
theorem attempt_failed_last (env : Env) (retry : RetryPolicy) (attempt : Nat) (deadline : ℚ)
    (err : ConnectorError) (w : World) (hlast : retry.max_attempts ≤ attempt) :
    ∃ e, (w.attempt_failed env retry attempt deadline err).1 = .error e := by
  unfold World.attempt_failed
  simp only [hlast, decide_true, Bool.or_true, if_true]
  split
  · exact ⟨_, rfl⟩
  · exact ⟨_, rfl⟩

end CaseAutomation.Connectors
