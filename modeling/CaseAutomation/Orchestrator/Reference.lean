import CaseAutomation.Base.JsonCodec
import CaseAutomation.Base.Text
import CaseAutomation.Security.Hmac
import CaseAutomation.Orchestrator.System

/-! # Reference Parameters

    The parameters of the model (`JsonText`, `Crypto`, `Env`) have instances that compute
    what the standard library computes: JSON text, HMAC-SHA256 and a source of
    ids that never repeats.
-/

namespace CaseAutomation.Orchestrator

open Framework Security

/-- JSON text of step outputs. -/
def reference_json : JsonText where
  dumps := JsonCodec.dumps
  loads := JsonCodec.loads
  loads_dumps := JsonCodec.loads_dumps
  loads_reserved := JsonCodec.loads_reserved

/-! ## Payloads -/

/-- `json.dumps(payload, sort_keys=True)`. -/
def payload_fields (p : TokenPayload) : JsonObj :=
  [("exp", .int p.exp), ("gid", .str p.gid), ("rid", .str p.rid), ("step", .str p.step),
    ("tid", .str p.tid)]

/-- The fields of a payload, read back. -/
def payload_of_fields : JsonObj → Option TokenPayload
  | [("exp", .int exp), ("gid", .str gid), ("rid", .str rid), ("step", .str step),
      ("tid", .str tid)] => some ⟨tid, gid, rid, step, exp⟩
  | _ => none

/-- `data.decode()`. -/
def decode_utf8 (bs : Bytes) : Option String := String.fromUTF8? ⟨bs.toArray⟩

theorem decode_encode_utf8 (s : String) : decode_utf8 (encode_utf8 s) = some s := by
  have hbytes : (⟨(encode_utf8 s).toArray⟩ : ByteArray) = s.toByteArray := by
    unfold encode_utf8
    rw [Array.toArray_toList]
  unfold decode_utf8 String.fromUTF8?
  rw [hbytes, dif_pos s.isValidUTF8]
  rfl

/-- HMAC-SHA256 signatures over base64url JSON payloads. -/
def reference_crypto : Crypto where
  hmac_hex key msg := hexdigest (hmac_sha256 key (encode_utf8 msg))
  hmac_hex_ascii key msg := by
    unfold is_ascii
    rw [List.all_eq_true]
    intro c hc
    exact decide_eq_true (hexdigest_ascii _ c hc)
  sha256_hex s := hexdigest (sha256 (encode_utf8 s))
  dumps p := encode_utf8 (JsonCodec.dumps (payload_fields p))
  loads bs := ((decode_utf8 bs).bind JsonCodec.loads).bind payload_of_fields
  loads_dumps p := by
    rw [decode_encode_utf8, Option.bind_some, JsonCodec.loads_dumps]
    rfl

/-! ## Ids and the clock -/

/-- A clock that advances by one microsecond at each reading, and numbered ids. -/
def reference_env : Env where
  time n := n
  uuid := numbered_id
  uuid_injective := numbered_id_injective
  json := reference_json

/-! ## Registering one workflow -/

/-- A registry that holds one definition. -/
def singleton_registry (defn : WorkflowDef) : Registry :=
  (∅ : Registry).set (registry_key defn.name defn.version) defn

/-- The definition is found under its name. -/
theorem latest_singleton (defn : WorkflowDef) :
    get_workflow_latest (singleton_registry defn) defn.name = .ok defn := by
  have hvalues : (singleton_registry defn).values = [defn] := rfl
  unfold get_workflow_latest
  rw [hvalues]
  simp [max_version]

theorem draft_ne_nil : ["draft"] ≠ ([] : List String) := by decide

theorem fetch_ne_nil : ["fetch"] ≠ ([] : List String) := by decide

/-- A workflow with the given steps, one handler for all of them, and gate configurations. -/
def plain_workflow (steps : List String) (hsteps : steps ≠ []) (handler : String → Handler)
    (gate_configs : String → Option GateConfig) : WorkflowDef where
  name := "plain"
  version := 1
  steps := steps
  handlers step := if is_gate step then none else some (handler step)
  gate_configs := gate_configs
  input_schema := none
  steps_ne_nil := hsteps
  handlers_total := by
    intro step _ hgate
    simp [hgate]

/-- The arguments that start a run of it. -/
def plain_start : StartArgs where
  workflow_name := "plain"
  context := []
  trigger := ⟨.agent, "mcp", none⟩
  idem_key := none
  run_id := none

/-- An engine with the reference signatures. -/
def reference_engine : Engine where
  crypto := reference_crypto
  signing_key := encode_utf8 "test-key-32-bytes-padded-0000000"
  audited := false

/-- The run `id-0` of a workflow, just started. -/
def queued_run (defn : WorkflowDef) : World :=
  (World.fresh (.in_memory ∅) none (singleton_registry defn)).serve reference_env reference_engine
    (.start_run plain_start)

theorem queued_run_reachable (defn : WorkflowDef) :
    ∃ ts, Interleaved reference_env reference_engine (singleton_registry defn) "plain"
      (queued_run defn) ts := by
  have hboot : Interleaved reference_env reference_engine (singleton_registry defn) "plain"
      (World.fresh (.in_memory ∅) none (singleton_registry defn)) [] := .boot ⟨_, _, rfl⟩
  exact hboot.serve (q := .start_run plain_start) (.start_run rfl)

/-- The status of the run `id-0`. -/
def status_of (w : World) : Option RunStatus := (w.store.runs.get? "id-0").map (·.status)

/-- The oldest token record in the store. -/
def first_token (w : World) : ApprovalToken :=
  w.store.tokens.values.headD ⟨"", "", "", "", "", "", .mcp, 0, none⟩

theorem first_token_mem {w : World} (h : w.store.tokens.values.length ≠ 0) :
    first_token w ∈ w.store.tokens.values := by
  unfold first_token
  cases hvalues : w.store.tokens.values with
  | nil => rw [hvalues] at h; exact absurd rfl h
  | cons token rest => exact List.mem_cons_self

/-- A resolution that presents the raw token of a stored record. -/
def resolve_with (token : ApprovalToken) (decision : Decision) (actor : String) : ResolveArgs where
  raw_token := raw_token reference_crypto reference_engine.signing_key token.payload
  decision := decision
  actor := actor
  channel := token.channel
  signing_key := reference_engine.signing_key
  audited := false
  reason := none

theorem resolve_with_raw_token (token : ApprovalToken) (decision : Decision) (actor : String) :
    (resolve_with token decision actor).raw_token =
      PyStr.of_text (raw_token reference_crypto reference_engine.signing_key token.payload) := by
  simp only [resolve_with]

theorem verify_resolve_with (token : ApprovalToken) (decision : Decision) (actor : String) :
    verify_token reference_crypto (resolve_with token decision actor).raw_token
      (resolve_with token decision actor).signing_key = .ok (.ok token.payload) := by
  rw [resolve_with_raw_token]
  exact verify_raw_token _ _ _

/-- It is authentic wherever the record is stored. -/
theorem authentic_resolve_with {w : World} {token : ApprovalToken} (decision : Decision)
    (actor : String) (h : token ∈ w.store.tokens.values) :
    Authentic reference_crypto w (resolve_with token decision actor) := by
  intro payload hverify
  rw [verify_resolve_with] at hverify
  exact ⟨token, h, Except.ok.inj (Except.ok.inj hverify)⟩

/-- What the resolver does with it: the signature check is replaced by its outcome. -/
theorem resolve_gate_with (token : ApprovalToken) (decision : Decision) (actor : String) :
    resolve_gate reference_crypto (resolve_with token decision actor) =
      use_token (resolve_with token decision actor) token.payload := by
  unfold resolve_gate
  rw [verify_resolve_with]

theorem serve_resolve_with (env : Env) (w : World) (token : ApprovalToken) (decision : Decision)
    (actor : String) :
    w.serve env reference_engine (.resolve_gate (resolve_with token decision actor)) =
      ((use_token (resolve_with token decision actor) token.payload).discard.run (exec env) w).2 := by
  show ((resolve_gate reference_crypto (resolve_with token decision actor)).discard.run
    (exec env) w).2 = _
  rw [resolve_gate_with]

/-- The first token in the store is used to approve its gate, in the name of an attorney; the
    signature check is replaced by its outcome. -/
def World.approve_first (w : World) : World :=
  ((use_token (resolve_with (first_token w) .approve "attorney")
    (first_token w).payload).discard.run (exec reference_env) w).2

theorem Interleaved.approve_first {registry : Registry} {name : String} {w : World}
    {ts : List (M Unit)} (h : Interleaved reference_env reference_engine registry name w ts)
    (hissued : w.store.tokens.values.length ≠ 0) :
    ∃ ts', Interleaved reference_env reference_engine registry name w.approve_first ts' := by
  have hauth := authentic_resolve_with .approve "attorney" (first_token_mem hissued)
  obtain ⟨ts', h'⟩ := h.serve (.resolve_gate hauth)
  rw [serve_resolve_with] at h'
  exact ⟨ts', h'⟩

theorem Sequential.approve_first {step : Program.Relation Call Call.Resp Exn World}
    {registry : Registry} {accept : World → Request → Prop} {p : M Unit} {w : World}
    (hstep : ∀ c w, step c w (exec reference_env c w).1 (exec reference_env c w).2)
    (h : Sequential step reference_engine registry accept p w)
    (haccept : accept w (.resolve_gate (resolve_with (first_token w) .approve "attorney"))) :
    ∃ p', Sequential step reference_engine registry accept p' w.approve_first := by
  obtain ⟨p', h'⟩ := h.serve hstep haccept
  rw [serve_resolve_with] at h'
  exact ⟨p', h'⟩

/-! ## A run waiting for a signature -/

/-- A workflow with one gate, which asks for `quorum` approvals. -/
def signature_workflow (quorum : Int) : WorkflowDef :=
  plain_workflow ["GATE:sign"] (by decide) (fun _ _ _ => .returned none [])
    fun _ => some { default_gate_config with quorum := quorum }

def signature_start (quorum : Int) : World :=
  World.fresh (.in_memory ∅) none (singleton_registry (signature_workflow quorum))

/-- A run of it, started and executed up to the gate. -/
def signature_waiting (quorum : Int) : World :=
  ((signature_start quorum).serve reference_env reference_engine (.start_run plain_start)).serve
    reference_env reference_engine (.execute 1 "id-0")

end CaseAutomation.Orchestrator
