import CaseAutomation.Orchestrator.Reference

/-! # The Token Codec

    What `verify_token` accepts: the part before the first dot, a dot, and the signature of that part.
    `json.loads` may return any object, so the verification is stated here for whatever type of
    objects it returns; `verify_token` is the case where these are payloads.
-/

namespace CaseAutomation.Orchestrator

/-- `json.loads`, which undoes `json.dumps` on payloads. -/
structure JsonLoads (crypto : Crypto) (Object : Type) where
  /-- `none` stands for its exceptions. -/
  loads : Bytes → Option Object
  /-- The object of a payload. -/
  object : TokenPayload → Object
  loads_dumps : ∀ p, loads (crypto.dumps p) = some (object p)

/-- `verify_token`, which returns the object that was signed. -/
def verify_object {crypto : Crypto} {Object : Type} (json : JsonLoads crypto Object) (raw : PyStr)
    (signing_key : Bytes) : Except Exn (Except String Object) :=
  match split_dot raw with
  | none => .ok (.error "malformed")
  | some (payload_b64, provided_sig) => do
    let expected_sig ← sign crypto signing_key payload_b64
    if ← compare_digest expected_sig provided_sig then
      match (urlsafe_b64decode (padded payload_b64)).bind json.loads with
      | none => .ok (.error "malformed")
      | some payload => .ok (.ok payload)
    else .ok (.error "tampered")

/-- The objects are the payloads themselves. -/
def Crypto.payloads (crypto : Crypto) : JsonLoads crypto TokenPayload where
  loads := crypto.loads
  object := id
  loads_dumps := crypto.loads_dumps

theorem verify_object_payloads (crypto : Crypto) (raw : PyStr) (signing_key : Bytes) :
    verify_object crypto.payloads raw signing_key = verify_token crypto raw signing_key := by
  unfold verify_object verify_token
  cases split_dot raw with
  | none => rfl
  | some parts =>
    simp only [Crypto.payloads]
    refine bind_congr fun expected_sig => bind_congr fun same => ?_
    cases same with
    | false => rfl
    | true => cases (urlsafe_b64decode (padded parts.1)).bind crypto.loads <;> rfl

/-! ## Splitting at the first dot -/

/-- What stands before the first dot, and what follows it. -/
theorem split_dot_some {raw p sig : PyStr} : split_dot raw = some (p, sig) ↔
    (∀ c ∈ p, c ≠ .char '.') ∧ raw = p ++ .char '.' :: sig := by
  constructor
  · intro h
    unfold split_dot at h
    split at h
    · cases h
    · next c rest hdrop =>
      obtain ⟨rfl, rfl⟩ := Prod.mk.inj (Option.some.inj h)
      -- the string up to the first dot, and the string from it on
      have hsplit := List.takeWhile_append_dropWhile (p := fun c => decide (c ≠ CodePoint.char '.'))
        (l := raw)
      have hdot : c = .char '.' := by
        have hhead := List.head?_dropWhile_not (fun c => decide (c ≠ CodePoint.char '.')) raw
        rw [hdrop] at hhead
        simpa using hhead
      refine ⟨?_, ?_⟩
      · intro x hx
        simpa using List.mem_takeWhile_imp hx
      · rw [hdrop, hdot] at hsplit
        exact hsplit.symm
  · rintro ⟨hp, rfl⟩
    exact split_dot_append hp

/-! ## What is accepted -/

section accepted
variable {crypto : Crypto} {Object : Type} {json : JsonLoads crypto Object} {raw : PyStr}
  {signing_key : Bytes}

/-- The raw token is a text, a dot and the signature of the text, and the text encodes the
    payload. -/
def Signed (json : JsonLoads crypto Object) (raw : PyStr) (signing_key : Bytes)
    (payload : Object) : Prop :=
  ∃ p : String, (∀ c ∈ p.toList, c ≠ '.') ∧
    raw = PyStr.of_text (p ++ "." ++ crypto.hmac_hex signing_key p) ∧
    (urlsafe_b64decode (padded p)).bind json.loads = some payload

/-- `_sign` returns for a text only. -/
theorem sign_ok {payload_b64 : PyStr} {signature : String}
    (h : sign crypto signing_key payload_b64 = .ok signature) :
    ∃ p : String, payload_b64 = PyStr.of_text p ∧ signature = crypto.hmac_hex signing_key p := by
  unfold sign at h
  obtain ⟨p, hp, h⟩ := ok_of_bind h
  cases h
  exact ⟨p, PyStr.encode_ok.mp hp, rfl⟩

/-- **Acceptance.** A raw token is accepted if and only if it is signed. -/
theorem verify_object_ok (payload : Object) :
    verify_object json raw signing_key = .ok (.ok payload) ↔ Signed json raw signing_key payload := by
  have hascii : ∀ p, is_ascii (crypto.hmac_hex signing_key p) = true := crypto.hmac_hex_ascii _
  constructor
  · intro h
    unfold verify_object at h
    cases hsplit : split_dot raw with
    | none =>
      rw [hsplit] at h
      cases h
    | some parts =>
      obtain ⟨payload_b64, sig⟩ := parts
      rw [hsplit] at h
      obtain ⟨expected_sig, hsign, hrest⟩ := ok_of_bind h
      obtain ⟨same, hcompare, hdecoded⟩ := ok_of_bind hrest
      -- the part before the dot is a text, and the signature that was compared is its own
      obtain ⟨p, rfl, rfl⟩ := sign_ok hsign
      obtain ⟨hp, rfl⟩ := split_dot_some.mp hsplit
      cases same with
      | false => cases hdecoded
      | true =>
        obtain rfl := (compare_digest_true (hascii p)).mp hcompare
        simp only [if_true] at hdecoded
        split at hdecoded
        · cases hdecoded
        · next object hload =>
          cases hdecoded
          refine ⟨p, ?_, (of_text_dot p _).symm, hload⟩
          intro c hc hdot
          exact hp _ (List.mem_map_of_mem hc) (congrArg CodePoint.char hdot)
  · rintro ⟨p, hp, rfl, hload⟩
    unfold verify_object
    rw [of_text_dot, split_dot_append (of_text_no_dot hp)]
    simp only [sign_of_text, bind, Except.bind, (compare_digest_true (hascii p)).mpr rfl, if_true,
      hload]

/-- The raw token of a payload is signed. -/
theorem signed_raw_token (json : JsonLoads crypto Object) (signing_key : Bytes)
    (payload : TokenPayload) :
    Signed json (raw_token crypto signing_key payload) signing_key (json.object payload) := by
  refine ⟨b64 (crypto.dumps payload), b64_no_dot _, rfl, ?_⟩
  rw [urlsafe_b64decode_padded_b64, Option.bind_some, json.loads_dumps]

end accepted

/-- **The token codec.** What `issue_token` returns verifies, under the same key, to exactly the
    payload that was signed, whose fields are those of the stored token. And whatever string is
    accepted under a key is the part before the first dot, a dot and the signature of that part, and
    its payload is the decoding of that part. -/
theorem token_codec {crypto : Crypto} {Object : Type} (json : JsonLoads crypto Object)
    (signing_key : Bytes) :
    (∀ gate_request_id run_id step channel ttl_seconds token_id now,
      let issued := issue_token crypto gate_request_id run_id step channel signing_key ttl_seconds
        token_id now
      let payload : TokenPayload :=
        { tid := token_id, gid := gate_request_id, rid := run_id, step := step
          exp := now + seconds ttl_seconds }
      verify_object json issued.1 signing_key = .ok (.ok (json.object payload)) ∧
        issued.2.payload = payload) ∧
    ∀ raw payload, verify_object json raw signing_key = .ok (.ok payload) ↔
      ∃ p : String, (∀ c ∈ p.toList, c ≠ '.') ∧
        raw = PyStr.of_text (p ++ "." ++ crypto.hmac_hex signing_key p) ∧
        (urlsafe_b64decode (padded p)).bind json.loads = some payload := by
  refine ⟨?_, fun raw payload => verify_object_ok payload⟩
  intro gate_request_id run_id step channel ttl_seconds token_id now issued payload
  exact ⟨(verify_object_ok _).mpr (signed_raw_token json signing_key payload), rfl⟩

/-- The payload of a step whose name has a dot and an accent, signed with a real key. -/
def accented_payload : TokenPayload := ⟨"t-1", "g-1", "r-1", "prüfen.2", 1⟩

/-- A token for it comes back as it was. -/
theorem reference_token_codec :
    verify_object reference_crypto.payloads
      (issue_token reference_crypto "g-1" "r-1" "prüfen.2" .email [107] 0 "t-1" 1).1 [107] =
        .ok (.ok accented_payload) :=
  ((token_codec reference_crypto.payloads [107]).1 "g-1" "r-1" "prüfen.2" .email 0 "t-1" 1).1

end CaseAutomation.Orchestrator
