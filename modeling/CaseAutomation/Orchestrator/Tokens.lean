import Mathlib.Data.List.TakeWhile
import CaseAutomation.Base.PyStr
import CaseAutomation.Orchestrator.States

/-! # Approval Tokens

    Issuing and verifying raw tokens (`orchestrator/gates.py`):

        base64url(json_payload) + "." + hex(hmac_sha256(key, base64url(payload)))

    A raw token to be verified is any string, with surrogates perhaps; an issued one is
    a text. Base64 is modelled down to the sextets, with the lenient decoder of the
    standard library. HMAC-SHA256, SHA-256 and the JSON text of a payload are
    parameters (`Crypto`); only their documented shape is used.
-/

namespace CaseAutomation.Orchestrator

/-- Bytes, as in signing keys and encoded payloads. -/
abbrev Bytes : Type := List UInt8

/-- The signed payload `{tid, gid, rid, step, exp}`. -/
structure TokenPayload where
  tid : String
  gid : String
  rid : String
  step : String
  exp : Time
  deriving DecidableEq, Repr

/-- The cryptographic and serialisation functions of the standard library. -/
structure Crypto where
  /-- `hmac.new(key, msg, sha256).hexdigest()`. -/
  hmac_hex : Bytes → String → String
  /-- A hex digest is ASCII text. -/
  hmac_hex_ascii : ∀ key msg, is_ascii (hmac_hex key msg) = true
  /-- `sha256(text).hexdigest()`. -/
  sha256_hex : String → String
  /-- `json.dumps(payload, sort_keys=True).encode()`. -/
  dumps : TokenPayload → Bytes
  /-- `json.loads(data)`; `none` stands for its exceptions. -/
  loads : Bytes → Option TokenPayload
  loads_dumps : ∀ p, loads (dumps p) = some p

/-! ## Base64 -/

/-- The URL-safe alphabet. -/
def b64_char (n : Nat) : Char :=
  if n < 26 then Char.ofNat (65 + n)
  else if n < 52 then Char.ofNat (71 + n)
  else if n < 62 then Char.ofNat (n - 4)
  else if n = 62 then '-' else '_'

/-- The value of a character; `urlsafe_b64decode` maps `-_` to `+/` and accepts both. -/
def b64_value (c : Char) : Option Nat :=
  if 'A' ≤ c ∧ c ≤ 'Z' then some (c.toNat - 65)
  else if 'a' ≤ c ∧ c ≤ 'z' then some (c.toNat - 71)
  else if '0' ≤ c ∧ c ≤ '9' then some (c.toNat + 4)
  else if c = '-' ∨ c = '+' then some 62
  else if c = '_' ∨ c = '/' then some 63
  else none

/-- `base64.urlsafe_b64encode`. -/
def urlsafe_b64encode : Bytes → List Char
  | a :: b :: c :: rest =>
    b64_char (a.toNat / 4) :: b64_char (a.toNat % 4 * 16 + b.toNat / 16) ::
      b64_char (b.toNat % 16 * 4 + c.toNat / 64) :: b64_char (c.toNat % 64) ::
      urlsafe_b64encode rest
  | [a, b] =>
    [b64_char (a.toNat / 4), b64_char (a.toNat % 4 * 16 + b.toNat / 16),
      b64_char (b.toNat % 16 * 4), '=']
  | [a] => [b64_char (a.toNat / 4), b64_char (a.toNat % 4 * 16), '=', '=']
  | [] => []

/-- The decoder's loop (`binascii.a2b_base64`, not strict): position in the current
    quad, bits left over from the previous character, and padding seen so far.
    Characters outside the alphabet are skipped. -/
def a2b_base64 : (quad_pos leftchar pads : Nat) → List Char → Option Bytes
  | quad_pos, _, _, [] => if quad_pos = 0 then some [] else none
  | quad_pos, left, pads, c :: cs =>
    if c = '=' then
      if 2 ≤ quad_pos then
        if 4 ≤ quad_pos + (pads + 1) then some [] else a2b_base64 quad_pos left (pads + 1) cs
      else a2b_base64 quad_pos left pads cs
    else
      match b64_value c with
      | none => a2b_base64 quad_pos left pads cs
      | some v =>
        match quad_pos with
        | 0 => a2b_base64 1 v 0 cs
        | 1 => (a2b_base64 2 (v % 16) 0 cs).map (UInt8.ofNat (left * 4 + v / 16) :: ·)
        | 2 => (a2b_base64 3 (v % 4) 0 cs).map (UInt8.ofNat (left * 16 + v / 4) :: ·)
        | _ => (a2b_base64 0 0 0 cs).map (UInt8.ofNat (left * 64 + v) :: ·)

/-- `base64.urlsafe_b64decode` of a string; `none` stands for its exceptions. -/
def urlsafe_b64decode (s : PyStr) : Option Bytes :=
  if s.is_ascii then a2b_base64 0 0 0 s.text.toList else none

/-- `s.rstrip("=")`. -/
def rstrip_pad (cs : List Char) : List Char := (cs.reverse.dropWhile (· = '=')).reverse

/-- `_b64`. -/
def b64 (data : Bytes) : String := String.ofList (rstrip_pad (urlsafe_b64encode data))

/-- `payload_b64 + "=" * ((4 - len(payload_b64) % 4) % 4)`. -/
def padded (payload_b64 : PyStr) : PyStr :=
  payload_b64 ++ List.replicate ((4 - payload_b64.length % 4) % 4) (.char '=')

/-! ## Issuing and verifying -/

/-- `KEY_ID`. -/
def KEY_ID : String := "v1"

/-- `_sign`. -/
def sign (crypto : Crypto) (key : Bytes) (payload_b64 : PyStr) : Except Exn String := do
  return crypto.hmac_hex key (← payload_b64.encode)

/-- The raw token of a payload; its first part is a text, so that `_sign` does not raise. -/
def raw_token (crypto : Crypto) (key : Bytes) (payload : TokenPayload) : String :=
  b64 (crypto.dumps payload) ++ "." ++ crypto.hmac_hex key (b64 (crypto.dumps payload))

/-- `issue_token`, given the token id and the instant it draws. -/
def issue_token (crypto : Crypto) (gate_request_id run_id step : String) (channel : Channel)
    (signing_key : Bytes) (ttl_seconds : Int) (token_id : String) (now : Time) :
    String × ApprovalToken :=
  let expires_at := now + seconds ttl_seconds
  let raw := raw_token crypto signing_key
    { tid := token_id, gid := gate_request_id, rid := run_id, step := step, exp := expires_at }
  (raw,
    { id := token_id
      gate_request_id := gate_request_id
      run_id := run_id
      step := step
      key_id := KEY_ID
      token_hash := crypto.sha256_hex raw
      channel := channel
      expires_at := expires_at
      used_at := none })

/-- `raw.split(".", 1)` when there is a dot. -/
def split_dot (raw : PyStr) : Option (PyStr × PyStr) :=
  match raw.dropWhile (· ≠ .char '.') with
  | [] => none
  | _ :: rest => some (raw.takeWhile (· ≠ .char '.'), rest)

/-- `hmac.compare_digest` on strings raises `TypeError` unless both are ASCII. -/
def compare_digest (a : String) (b : PyStr) : Except Exn Bool :=
  if is_ascii a && b.is_ascii then .ok (decide ((a : PyStr) = b))
  else .error (.type_error "comparing strings with non-ASCII characters is not supported")

/-- `verify_token`: the payload, or the reason for refusing the token. -/
def verify_token (crypto : Crypto) (raw : PyStr) (signing_key : Bytes) :
    Except Exn (Except String TokenPayload) :=
  match split_dot raw with
  | none => .ok (.error "malformed")
  | some (payload_b64, provided_sig) => do
    let expected_sig ← sign crypto signing_key payload_b64
    if ← compare_digest expected_sig provided_sig then
      match (urlsafe_b64decode (padded payload_b64)).bind crypto.loads with
      | none => .ok (.error "malformed")
      | some payload => .ok (.ok payload)
    else .ok (.error "tampered")

/-! ## The codec round trip

    Stripping the padding and putting it back gives the encoded text, for every
    residue of the payload length, and the decoder inverts the encoder. -/

theorem b64_char_ne_pad : ∀ n < 64, b64_char n ≠ '=' := by decide

theorem b64_char_ne_dot : ∀ n < 64, b64_char n ≠ '.' := by decide

theorem b64_char_ascii : ∀ n < 64, (b64_char n).toNat < 128 := by decide

theorem b64_value_char : ∀ n < 64, b64_value (b64_char n) = some n := by decide

section decoder
variable {n : Nat} (hn : n < 64) (left pads : Nat) (cs : List Char)
include hn

theorem a2b_first : a2b_base64 0 left pads (b64_char n :: cs) = a2b_base64 1 n 0 cs := by
  rw [a2b_base64, if_neg (b64_char_ne_pad n hn), b64_value_char n hn]
  rfl

theorem a2b_second : a2b_base64 1 left pads (b64_char n :: cs) =
    (a2b_base64 2 (n % 16) 0 cs).map (UInt8.ofNat (left * 4 + n / 16) :: ·) := by
  rw [a2b_base64, if_neg (b64_char_ne_pad n hn), b64_value_char n hn]
  rfl

theorem a2b_third : a2b_base64 2 left pads (b64_char n :: cs) =
    (a2b_base64 3 (n % 4) 0 cs).map (UInt8.ofNat (left * 16 + n / 4) :: ·) := by
  rw [a2b_base64, if_neg (b64_char_ne_pad n hn), b64_value_char n hn]
  rfl

theorem a2b_fourth : a2b_base64 3 left pads (b64_char n :: cs) =
    (a2b_base64 0 0 0 cs).map (UInt8.ofNat (left * 64 + n) :: ·) := by
  rw [a2b_base64, if_neg (b64_char_ne_pad n hn), b64_value_char n hn]
  rfl

end decoder

theorem ofNat_eq_byte {a : UInt8} {n : Nat} (h : n = a.toNat) : UInt8.ofNat n = a := by
  rw [h, UInt8.ofNat_toNat]

/-- The decoder inverts the encoder. -/
theorem a2b_encode (bs : Bytes) : a2b_base64 0 0 0 (urlsafe_b64encode bs) = some bs := by
  fun_induction urlsafe_b64encode bs with
  | case1 a b c rest ih =>
    have ha := a.toNat_lt
    have hb := b.toNat_lt
    have hc := c.toNat_lt
    rw [a2b_first (by omega), a2b_second (by omega), a2b_third (by omega),
      a2b_fourth (by omega), ih]
    simp only [Option.map_some, Option.some.injEq, List.cons.injEq, and_true]
    exact ⟨ofNat_eq_byte (by omega), ofNat_eq_byte (by omega), ofNat_eq_byte (by omega)⟩
  | case2 a b =>
    have ha := a.toNat_lt
    have hb := b.toNat_lt
    rw [a2b_first (by omega), a2b_second (by omega), a2b_third (by omega)]
    have hend : a2b_base64 3 (b.toNat % 16 * 4 % 4) 0 ['='] = some [] := rfl
    rw [hend]
    simp only [Option.map_some, Option.some.injEq, List.cons.injEq, and_true]
    exact ⟨ofNat_eq_byte (by omega), ofNat_eq_byte (by omega)⟩
  | case3 a =>
    have ha := a.toNat_lt
    rw [a2b_first (by omega), a2b_second (by omega)]
    have hend : a2b_base64 2 (a.toNat % 4 * 16 % 16) 0 ['=', '='] = some [] := rfl
    rw [hend]
    simp only [Option.map_some, Option.some.injEq, List.cons.injEq, and_true]
    exact ofNat_eq_byte (by omega)
  | case4 => rfl

/-- The encoded text is alphabet characters followed by the padding that fills the
    last quad. -/
theorem encode_shape (bs : Bytes) : ∃ body k,
    urlsafe_b64encode bs = body ++ List.replicate k '=' ∧
    (∀ c ∈ body, ∃ n < 64, c = b64_char n) ∧ (body.length + k) % 4 = 0 ∧ k < 4 := by
  fun_induction urlsafe_b64encode bs with
  | case1 a b c rest ih =>
    obtain ⟨body, k, heq, hbody, hlen, hk⟩ := ih
    have ha := a.toNat_lt
    have hb := b.toNat_lt
    have hc := c.toNat_lt
    refine ⟨_ :: _ :: _ :: _ :: body, k, by rw [heq]; rfl, ?_,
      by simp only [List.length_cons]; omega, hk⟩
    intro x hx
    simp only [List.mem_cons] at hx
    rcases hx with rfl | rfl | rfl | rfl | hx
    · exact ⟨_, by omega, rfl⟩
    · exact ⟨_, by omega, rfl⟩
    · exact ⟨_, by omega, rfl⟩
    · exact ⟨_, by omega, rfl⟩
    · exact hbody x hx
  | case2 a b =>
    have ha := a.toNat_lt
    have hb := b.toNat_lt
    refine ⟨[_, _, _], 1, rfl, ?_, by simp, by omega⟩
    intro x hx
    simp only [List.mem_cons, List.not_mem_nil, or_false] at hx
    rcases hx with rfl | rfl | rfl
    · exact ⟨_, by omega, rfl⟩
    · exact ⟨_, by omega, rfl⟩
    · exact ⟨_, by omega, rfl⟩
  | case3 a =>
    have ha := a.toNat_lt
    refine ⟨[_, _], 2, rfl, ?_, by simp, by omega⟩
    intro x hx
    simp only [List.mem_cons, List.not_mem_nil, or_false] at hx
    rcases hx with rfl | rfl
    · exact ⟨_, by omega, rfl⟩
    · exact ⟨_, by omega, rfl⟩
  | case4 => exact ⟨[], 0, rfl, by simp, rfl, by omega⟩

theorem rstrip_pad_append {body : List Char} (k : Nat) (h : ∀ c ∈ body, c ≠ '=') :
    rstrip_pad (body ++ List.replicate k '=') = body := by
  unfold rstrip_pad
  rw [List.reverse_append, List.reverse_replicate, List.dropWhile_append_of_pos (by simp)]
  have hself : body.reverse.dropWhile (fun c => decide (c = '=')) = body.reverse := by
    rw [List.dropWhile_eq_self_iff]
    intro hl hc
    have hmem : body.reverse[0] ∈ body := List.mem_reverse.mp (List.getElem_mem hl)
    exact h _ hmem (by simpa using hc)
  rw [hself, List.reverse_reverse]

theorem is_ascii_ofList {cs : List Char} :
    is_ascii (String.ofList cs) = cs.all fun c => c.toNat < 128 := by
  simp [is_ascii]

theorem padded_of_text (s : String) : padded s =
    PyStr.of_text (s ++ String.ofList (List.replicate ((4 - s.toList.length % 4) % 4) '=')) := by
  simp [padded, PyStr.of_text]

/-- The decoder of a text. -/
theorem urlsafe_b64decode_of_text (s : String) :
    urlsafe_b64decode s = if is_ascii s then a2b_base64 0 0 0 s.toList else none := by
  rw [urlsafe_b64decode, PyStr.is_ascii_of_text, PyStr.text_of_text]

/-- `verify_token` undoes the base64 text of `issue_token`. -/
theorem urlsafe_b64decode_padded_b64 (bs : Bytes) :
    urlsafe_b64decode (padded (b64 bs)) = some bs := by
  obtain ⟨body, k, heq, hbody, hlen, hk⟩ := encode_shape bs
  have hne : ∀ c ∈ body, c ≠ '=' := by
    intro c hc
    obtain ⟨n, hn, rfl⟩ := hbody c hc
    exact b64_char_ne_pad n hn
  have hpad : padded (b64 bs) = PyStr.of_text (String.ofList (urlsafe_b64encode bs)) := by
    rw [padded_of_text]
    unfold b64
    rw [heq, rstrip_pad_append k hne, String.toList_ofList]
    have hk' : (4 - body.length % 4) % 4 = k := by omega
    rw [hk', String.ofList_append]
  have hascii : is_ascii (String.ofList (urlsafe_b64encode bs)) = true := by
    rw [is_ascii_ofList, heq, List.all_append, Bool.and_eq_true, List.all_eq_true, List.all_eq_true]
    refine ⟨fun c hc => ?_, fun c hc => ?_⟩
    · obtain ⟨n, hn, rfl⟩ := hbody c hc
      simpa using b64_char_ascii n hn
    · rw [List.eq_of_mem_replicate hc]
      decide
  rw [hpad, urlsafe_b64decode_of_text, if_pos hascii, String.toList_ofList]
  exact a2b_encode bs

/-- The payload part of a token contains no dot. -/
theorem b64_no_dot (bs : Bytes) : ∀ c ∈ (b64 bs).toList, c ≠ '.' := by
  obtain ⟨body, k, heq, hbody, -, -⟩ := encode_shape bs
  have hne : ∀ c ∈ body, c ≠ '=' := by
    intro c hc
    obtain ⟨n, hn, rfl⟩ := hbody c hc
    exact b64_char_ne_pad n hn
  intro c hc
  rw [b64, heq, rstrip_pad_append k hne, String.toList_ofList] at hc
  obtain ⟨n, hn, rfl⟩ := hbody c hc
  exact b64_char_ne_dot n hn

/-- A text without dots. -/
theorem of_text_no_dot {p : String} (h : ∀ c ∈ p.toList, c ≠ '.') :
    ∀ c ∈ PyStr.of_text p, c ≠ .char '.' := by
  intro c hc
  obtain ⟨d, hd, rfl⟩ := List.mem_map.mp hc
  simpa using h d hd

theorem split_dot_append {p sig : PyStr} (h : ∀ c ∈ p, c ≠ .char '.') :
    split_dot (p ++ .char '.' :: sig) = some (p, sig) := by
  have hpos : ∀ c ∈ p, (fun c => decide (c ≠ CodePoint.char '.')) c = true := by
    intro c hc
    simpa using h c hc
  simp only [split_dot]
  rw [List.dropWhile_append_of_pos hpos, List.takeWhile_append_of_pos hpos]
  simp

/-- The parts of a text. -/
theorem of_text_dot (p sig : String) :
    PyStr.of_text (p ++ "." ++ sig) = PyStr.of_text p ++ .char '.' :: PyStr.of_text sig := by
  simp [PyStr.of_text]

theorem sign_of_text (crypto : Crypto) (key : Bytes) (p : String) :
    sign crypto key p = .ok (crypto.hmac_hex key p) := by
  rw [sign, PyStr.encode_of_text]
  rfl

theorem compare_digest_true {a : String} {b : PyStr} (ha : is_ascii a = true) :
    compare_digest a b = .ok true ↔ b = PyStr.of_text a := by
  unfold compare_digest
  constructor
  · intro h
    split at h
    · exact (of_decide_eq_true (Except.ok.inj h)).symm
    · cases h
  · rintro rfl
    simp [ha]

/-- **Token round trip**: a token issued under a key verifies to the payload that was
    signed. -/
theorem verify_raw_token (crypto : Crypto) (key : Bytes) (payload : TokenPayload) :
    verify_token crypto (raw_token crypto key payload) key = .ok (.ok payload) := by
  have hcompare := (compare_digest_true (crypto.hmac_hex_ascii key (b64 (crypto.dumps payload)))).mpr rfl
  unfold verify_token raw_token
  rw [of_text_dot, split_dot_append (of_text_no_dot (b64_no_dot _))]
  simp only [sign_of_text, bind, Except.bind, hcompare, if_true, urlsafe_b64decode_padded_b64,
    Option.bind_some, crypto.loads_dumps]

/-- The payload a stored token record was issued for. -/
def ApprovalToken.payload (token : ApprovalToken) : TokenPayload where
  tid := token.id
  gid := token.gate_request_id
  rid := token.run_id
  step := token.step
  exp := token.expires_at

end CaseAutomation.Orchestrator
