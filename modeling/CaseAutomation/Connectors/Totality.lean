import CaseAutomation.Connectors.Deliveries

/-! # Deliveries That Are Answered

    The pipeline catches what Redis and the trigger sink raise, and the `ValueError`s of the parser. It does
    not catch what the comparison of the signature raises, nor the other exceptions of the parser, nor what
    the normaliser raises.

    * `is_verified`, `is_normalisable` : the tests that a delivery goes through, as functions of what
      it carries.
    * `answered_iff`                   : which deliveries are answered at all.
-/

namespace CaseAutomation.Connectors.Webhook

open Framework Program Security

variable {connector_name : String}

/-! ## What a delivery carries -/

/-- `process_webhook` is handed the reference normaliser. -/
def Env.with_reference (env : Env) (uuids : Nat → String × String) (nows : Nat → Time × Time) : Env :=
  { env with normaliser := fun n => reference_normaliser (uuids n) (nows n) }

/-- The signature header. -/
def signature (delivery : Delivery) : Option String :=
  match (delivery.headers.lookup "x-hub-signature-256").filter (· ≠ "") with
  | some sig => some sig
  | none => delivery.headers.lookup "x-signature"

/-- The timestamp header is no number, or lies outside the replay window. -/
def is_outside_window (env : Env) (now : ℚ) (delivery : Delivery) : Bool :=
  match delivery.headers.lookup "x-timestamp" with
  | none => false
  | some timestamp_header =>
    match env.float timestamp_header with
    | none => true
    | some ts => is_stale now ts

/-- The hex digest that the signature is compared with. -/
def expected_signature (secret : String) (delivery : Delivery) : String :=
  hexdigest (hmac_sha256 (encode_utf8 secret) delivery.raw_body)

/-- What the verification comes to. -/
def is_verified (env : Env) (now : ℚ) (secret : String) (delivery : Delivery) : Except Exn Bool :=
  match (signature delivery).filter (· ≠ "") with
  | none => .ok false
  | some header =>
    if is_outside_window env now delivery then .ok false
    else compare_digest (expected_signature secret delivery) header

/-- `raw.get("type") or raw.get("event_type")`. -/
def event_type (raw : JsonObj) : Option Json :=
  match (raw.lookup "type").filter (!is_falsy ·) with
  | some event_type => some event_type
  | none => raw.lookup "event_type"

/-- Neither a list nor an object with anything in it. -/
def is_hashable : Json → Bool
  | .arr (_ :: _) | .obj (_ :: _) => false
  | _ => true

/-- One of the types that the normaliser knows. -/
def is_known : Json → Bool
  | .str event_type => decide (event_type ∈ known_types)
  | _ => false

/-- A string, or nothing in its place. -/
def is_text (optional : Bool) : Json → Bool
  | .str _ => true
  | .null => optional
  | _ => false

/-- The reference normaliser can read the payload. -/
def is_normalisable : Json → Bool
  | .obj raw =>
    (event_type raw).all is_hashable &&
      (!(event_type raw).any is_known ||
        (raw.lookup "id").all (is_text false) && (raw.lookup "matter_id").all (is_text true))
  | _ => false

/-- The parser answers, or its exception is caught, and then the payload can be read. -/
def is_readable : Except Exn Json → Bool
  | .error (.value_error _) => true
  | .error _ => false
  | .ok raw_payload => is_normalisable raw_payload

/-! ## The stages -/

section stages
variable {env : Env} {uuids : Nat → String × String} {nows : Nat → Time × Time}

/-- An exception is no answer. -/
theorem not_ok_of_error {α : Type} {e : Exn} : ¬ ∃ answer, (.error e : Except Exn α) = .ok answer := by
  intro ⟨answer, h⟩
  cases h

/-- A default that passes the test itself. -/
theorem all_eq_getD {α : Type} {test : α → Bool} {x : α} (hdefault : test x = true) (found : Option α) :
    found.all test = test (found.getD x) := by
  cases found with
  | none => exact hdefault.symm
  | some y => rfl

/-- What the normaliser makes of an object, by the type that it gives. -/
def normalised (uuid : String × String) (now : Time × Time) (connector : String) (raw : JsonObj) :
    Option Json → Except Exn (Option Event)
  | some (.str event_type) =>
    if event_type ∈ known_types then
      match (raw.lookup "id").getD (.str uuid.2), (raw.lookup "matter_id").getD .null with
      | .str provider_event_id, .null => .ok (some
          (reference_normaliser.event uuid now connector event_type provider_event_id none raw))
      | .str provider_event_id, .str matter_ref => .ok (some
          (reference_normaliser.event uuid now connector event_type provider_event_id
            (some matter_ref) raw))
      | _, _ => .error (.other "ValidationError" "Event")
    else .ok none
  | some (.arr (_ :: _)) => .error (.type_error "unhashable type: 'list'")
  | some (.obj (_ :: _)) => .error (.type_error "unhashable type: 'dict'")
  | _ => .ok none

/-- The normaliser returns for these payloads only. -/
theorem reference_normaliser_returns (uuid : String × String) (now : Time × Time) (connector : String)
    (raw_payload : Json) :
    (∃ answer, reference_normaliser uuid now connector raw_payload = .ok answer) ↔
      is_normalisable raw_payload = true := by
  cases raw_payload with
  | obj raw =>
    have hread : reference_normaliser uuid now connector (.obj raw) =
        normalised uuid now connector raw (event_type raw) := rfl
    rw [hread, is_normalisable]
    cases event_type raw with
    | none => exact iff_of_true ⟨none, rfl⟩ rfl
    | some kind =>
      cases kind with
      | str kind =>
        by_cases hknown : kind ∈ known_types
        · have hfields : ((some (Json.str kind)).all is_hashable && (!(some (Json.str kind)).any is_known ||
                (raw.lookup "id").all (is_text false) && (raw.lookup "matter_id").all (is_text true))) =
              (is_text false ((raw.lookup "id").getD (.str uuid.2)) &&
                is_text true ((raw.lookup "matter_id").getD .null)) := by
            rw [all_eq_getD (show is_text false (.str uuid.2) = true from rfl),
              all_eq_getD (show is_text true .null = true from rfl)]
            simp [is_hashable, is_known, hknown]
          rw [hfields]
          simp only [normalised, hknown, if_true]
          -- the two fields of the event that pydantic checks
          generalize (raw.lookup "id").getD (.str uuid.2) = provider_event_id
          generalize (raw.lookup "matter_id").getD .null = matter_id
          cases provider_event_id <;> cases matter_id <;>
            first
              | exact iff_of_true ⟨_, rfl⟩ rfl
              | exact iff_of_false not_ok_of_error Bool.false_ne_true
        · simp only [normalised, hknown, if_false]
          refine iff_of_true ⟨none, rfl⟩ ?_
          simp [is_hashable, is_known, hknown]
      | arr xs =>
        cases xs with
        | nil => exact iff_of_true ⟨none, rfl⟩ rfl
        | cons x xs => exact iff_of_false not_ok_of_error Bool.false_ne_true
      | obj fields =>
        cases fields with
        | nil => exact iff_of_true ⟨none, rfl⟩ rfl
        | cons f fields => exact iff_of_false not_ok_of_error Bool.false_ne_true
      | null => exact iff_of_true ⟨none, rfl⟩ rfl
      | bool b => exact iff_of_true ⟨none, rfl⟩ rfl
      | int n => exact iff_of_true ⟨none, rfl⟩ rfl
      | float x => exact iff_of_true ⟨none, rfl⟩ rfl
  | null => exact iff_of_false not_ok_of_error (by decide)
  | bool b => exact iff_of_false not_ok_of_error Bool.false_ne_true
  | int n => exact iff_of_false not_ok_of_error Bool.false_ne_true
  | float x => exact iff_of_false not_ok_of_error Bool.false_ne_true
  | str s => exact iff_of_false not_ok_of_error Bool.false_ne_true
  | arr xs => exact iff_of_false not_ok_of_error Bool.false_ne_true

theorem run_verify_signature (env : Env) (secret : String) (delivery : Delivery)
    (w : World) :
    ∃ w', (verify_signature env delivery.raw_body (signature delivery) secret
        (delivery.headers.lookup "x-timestamp")).run (exec env) w =
      (is_verified env (env.time w.clock) secret delivery, w') := by
  unfold verify_signature is_verified is_outside_window
  cases (signature delivery).filter (· ≠ "") with
  | none => exact ⟨w, rfl⟩
  | some header =>
    cases delivery.headers.lookup "x-timestamp" with
    | none => exact ⟨w, run_ofExcept _ w⟩
    | some timestamp_header =>
      cases hfloat : env.float timestamp_header with
      | none =>
        simp only [hfloat]
        exact ⟨w, rfl⟩
      | some ts =>
        -- the clock is read
        simp only [hfloat, run_bind, run_perform, exec]
        cases is_stale (env.time w.clock) ts with
        | true => exact ⟨_, rfl⟩
        | false => exact ⟨_, run_ofExcept _ _⟩

/-- The parser and the normaliser. -/
theorem run_normalise (env : Env) (uuids : Nat → String × String) (nows : Nat → Time × Time)
    (connector_name : String) (raw_body : List UInt8) (w : World) :
    (∃ answer, ((normalise (env.with_reference uuids nows) connector_name raw_body).run
        (exec (env.with_reference uuids nows)) w).1 = .ok answer) ↔
      is_readable (env.json_loads raw_body) = true := by
  have hloads : (env.with_reference uuids nows).json_loads raw_body = env.json_loads raw_body := rfl
  unfold normalise
  rw [hloads]
  cases env.json_loads raw_body with
  | error e =>
    cases e with
    | value_error message => exact iff_of_true ⟨_, rfl⟩ rfl
    | _ => exact iff_of_false not_ok_of_error Bool.false_ne_true
  | ok raw_payload =>
    have hcall : (env.with_reference uuids nows).normaliser w.normalised connector_name raw_payload =
        reference_normaliser (uuids w.normalised) (nows w.normalised) connector_name raw_payload := rfl
    rw [is_readable, ← reference_normaliser_returns (uuids w.normalised) (nows w.normalised) connector_name]
    simp only [run_bind, run_perform, exec, hcall]
    cases reference_normaliser (uuids w.normalised) (nows w.normalised) connector_name raw_payload with
    | error e => exact iff_of_false not_ok_of_error not_ok_of_error
    | ok answer =>
      refine iff_of_true ?_ ⟨answer, rfl⟩
      cases answer with
      | none => exact ⟨_, rfl⟩
      | some event => exact ⟨_, rfl⟩

end stages

/-! ## Deliveries -/

/-- The delivery is answered before its payload is read, or the payload can be read: its body is too
    long, or its signature does not verify, or it does and the body is not JSON or can be normalised. -/
def Answerable (env : Env) (secret : String) (delivery : Delivery) (w : World) : Prop :=
  MAX_BODY_BYTES < delivery.raw_body.length ∨
    is_verified env (env.time w.clock) secret delivery = .ok false ∨
    is_verified env (env.time w.clock) secret delivery = .ok true ∧
      is_readable (env.json_loads delivery.raw_body) = true

theorem receive_returns_iff (env : Env) (uuids : Nat → String × String) (nows : Nat → Time × Time)
    (connector_name secret : String) (delivery : Delivery) (w : World) :
    (∃ answer, ((receive (env.with_reference uuids nows) connector_name secret delivery).run
        (exec (env.with_reference uuids nows)) w).1 = .ok answer) ↔ Answerable env secret delivery w := by
  have hreceive : receive (env.with_reference uuids nows) connector_name secret delivery =
      if MAX_BODY_BYTES < delivery.raw_body.length then
        .ret (.inl ⟨.rejected_oversized, none, "Body exceeds size cap."⟩)
      else
        (verify_signature (env.with_reference uuids nows) delivery.raw_body (signature delivery) secret
          (delivery.headers.lookup "x-timestamp")).bind fun verified =>
        if verified then normalise (env.with_reference uuids nows) connector_name delivery.raw_body
        else .ret (.inl ⟨.rejected_bad_signature, none, "Invalid or missing signature."⟩) := rfl
  unfold Answerable
  rw [hreceive]
  by_cases hsize : MAX_BODY_BYTES < delivery.raw_body.length
  · rw [if_pos hsize]
    exact iff_of_true ⟨_, rfl⟩ (.inl hsize)
  · rw [if_neg hsize]
    obtain ⟨w', hverify⟩ := run_verify_signature (env.with_reference uuids nows) secret delivery w
    have hsame : is_verified (env.with_reference uuids nows) ((env.with_reference uuids nows).time w.clock)
        secret delivery = is_verified env (env.time w.clock) secret delivery := rfl
    rw [hsame] at hverify
    cases hverified : is_verified env (env.time w.clock) secret delivery with
    | error e =>
      rw [hverified] at hverify
      rw [run_bind_error hverify]
      simp [hsize]
    | ok verified =>
      rw [hverified] at hverify
      rw [run_bind_ok hverify]
      cases verified with
      | false => exact iff_of_true ⟨_, rfl⟩ (.inr (.inl rfl))
      | true =>
        rw [if_pos rfl, run_normalise]
        simp [hsize]

/-- **Which deliveries are answered.** With the reference normaliser, whatever Redis and the trigger sink
    do, the pipeline returns a result exactly for these. -/
theorem answered_iff (env : Env) (uuids : Nat → String × String) (nows : Nat → Time × Time)
    (connector_name secret : String) (delivery : Delivery) (w : World) :
    (∃ result, (deliver (env.with_reference uuids nows) connector_name secret delivery w).1 =
      .ok result) ↔ Answerable env secret delivery w := by
  rw [← receive_returns_iff env uuids nows connector_name secret delivery w]
  unfold deliver process_webhook
  rcases hreceive : (receive (env.with_reference uuids nows) connector_name secret delivery).run
    (exec (env.with_reference uuids nows)) w with ⟨r, w'⟩
  cases r with
  | error e =>
    rw [run_bind_error hreceive]
    simp
  | ok answer =>
    rw [run_bind_ok hreceive]
    refine iff_of_true ?_ ⟨answer, rfl⟩
    cases answer with
    | inl result => exact ⟨result, rfl⟩
    | inr event =>
      obtain ⟨result, w'', hrun, -⟩ := process_event_ends (env.with_reference uuids nows) connector_name
        event w'
      exact ⟨result, congrArg Prod.fst hrun⟩

/-! ## Deliveries that raise -/

/-- A signed body. -/
def signed (body : String) : Delivery :=
  ⟨encode_utf8 body, [("x-signature", hexdigest (hmac_sha256 (encode_utf8 "secret") (encode_utf8 body)))]⟩

/-- Its signature verifies. -/
theorem deliver_signed (env : Env) (body : String) (w : World)
    (hsize : (encode_utf8 body).length ≤ MAX_BODY_BYTES) :
    deliver env "reference" "secret" (signed body) w =
      (process_verified env "reference" (encode_utf8 body)).run (exec env) w := by
  rw [deliver, signed, process_webhook_verified (receive_signed env "reference" "secret" (.inr rfl) hsize)]

/-- A signature header that is not ASCII. -/
def accented_signature : Delivery := ⟨encode_utf8 "[]", [("x-signature", "é")]⟩

/-- The parser reads the body as `payload`; Redis and the trigger sink work. -/
def payload_env (payload : Json) : Env :=
  { reference_env .answered .answered with json_loads := fun _ => .ok payload }

/-- The exception of a delivery that raises. -/
def raised (out : Except Exn PipelineResult × World) : Option String :=
  match out.1 with
  | .error e => some e.class_name
  | .ok _ => none

/-- **Not every delivery is answered.** A signed list has no fields, an id that is a number is no text,
    and a list is no key of a set; a signature that is not ASCII cannot be compared. -/
theorem signed_deliveries_raise :
    raised (deliver (payload_env (.arr [])) "reference" "secret" (signed "[]") new_world) =
      some "AttributeError" ∧
    raised (deliver (payload_env (.obj [("id", .int 7), ("type", .str "lead.created")])) "reference"
      "secret" (signed "\x7b\"id\": 7, \"type\": \"lead.created\"\x7d") new_world) =
      some "ValidationError" ∧
    raised (deliver (payload_env (.obj [("type", .arr [.null])])) "reference" "secret"
      (signed "\x7b\"type\": [null]\x7d") new_world) = some "TypeError" ∧
    raised (deliver (payload_env (.arr [])) "reference" "secret" accented_signature new_world) =
      some "TypeError" := by
  rw [deliver_signed _ _ _ (by decide +kernel), deliver_signed _ _ _ (by decide +kernel),
    deliver_signed _ _ _ (by decide +kernel)]
  decide +kernel

end CaseAutomation.Connectors.Webhook
