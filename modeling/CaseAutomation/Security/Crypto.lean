import CaseAutomation.Base.Errors
import CaseAutomation.Orchestrator.Tokens
import Mathlib.Algebra.Group.Nat.Defs

/-! # The Crypto Service

    `CryptoService` of `security/crypto.py`: values are encrypted under a data key (DEK) that is drawn
    at its first use, and the data key is wrapped under a key (KEK) that can be rotated.
    On the wire stands base64 of the nonce and the ciphertext.

    AES-GCM is a parameter (`Aesgcm`), an encryption that decrypts what it encrypted and
    nothing under another key. So is `os.urandom`, numbered by its calls.
-/

namespace CaseAutomation.Security

open Orchestrator

/-! ## Standard base64 -/

/-- The standard alphabet has other characters for 62 and 63. -/
def std_char (c : Char) : Char := if c = '-' then '+' else if c = '_' then '/' else c

/-- ASCII text as bytes. -/
def char_byte (c : Char) : UInt8 := UInt8.ofNat c.toNat

def byte_char (b : UInt8) : Char := Char.ofNat b.toNat

/-- `base64.b64encode`. -/
def b64encode (data : Bytes) : Bytes := ((urlsafe_b64encode data).map std_char).map char_byte

/-- The text, without the two characters that only the URL-safe alphabet has. -/
def std_chars (data : Bytes) : List Char :=
  (data.map byte_char).filter fun c => decide (c ≠ '-' ∧ c ≠ '_')

/-- `base64.b64decode`. What is not in the alphabet is skipped. `none` stands for its exceptions. -/
def b64decode (data : Bytes) : Option Bytes := a2b_base64 0 0 0 (std_chars data)

/-- The text of its exception, which counts the characters of the alphabet. -/
def b64decode_error (data : Bytes) : String :=
  let data_chars := (std_chars data).countP fun c => (b64_value c).isSome
  if data_chars % 4 = 1 then
    "Invalid base64-encoded string: number of data characters (" ++ toString data_chars ++
      ") cannot be 1 more than a multiple of 4"
  else "Incorrect padding"

theorem std_char_pad (c : Char) : std_char c = '=' ↔ c = '=' := by
  unfold std_char
  by_cases hminus : c = '-'
  · subst hminus
    decide
  · by_cases hunder : c = '_'
    · subst hunder
      decide
    · simp [hminus, hunder]

theorem b64_value_std_char (c : Char) : b64_value (std_char c) = b64_value c := by
  unfold std_char
  by_cases hminus : c = '-'
  · subst hminus
    decide
  · by_cases hunder : c = '_'
    · subst hunder
      decide
    · simp [hminus, hunder]

/-- The decoder takes both alphabets. -/
theorem a2b_map_std (cs : List Char) : ∀ quad_pos left pads,
    a2b_base64 quad_pos left pads (cs.map std_char) = a2b_base64 quad_pos left pads cs := by
  induction cs with
  | nil => exact fun _ _ _ => rfl
  | cons c cs ih =>
    intro quad_pos left pads
    rw [List.map_cons, a2b_base64, a2b_base64, b64_value_std_char]
    simp only [std_char_pad, ih]

/-- The encoder writes ASCII. -/
theorem encode_char {bs : Bytes} {c : Char} (h : c ∈ urlsafe_b64encode bs) : c.toNat < 128 := by
  obtain ⟨body, k, heq, hbody, -, -⟩ := encode_shape bs
  rw [heq, List.mem_append] at h
  obtain h | h := h
  · obtain ⟨n, hn, rfl⟩ := hbody c h
    exact b64_char_ascii n hn
  · rw [List.eq_of_mem_replicate h]
    decide

theorem std_char_ascii {c : Char} (h : c.toNat < 128) : (std_char c).toNat < 128 := by
  unfold std_char
  split
  · decide
  · split
    · decide
    · exact h

theorem std_char_ne (c : Char) : std_char c ≠ '-' ∧ std_char c ≠ '_' := by
  unfold std_char
  split
  · decide
  · next hminus =>
    split
    · decide
    · next hunder => exact ⟨hminus, hunder⟩

theorem byte_char_char_byte {c : Char} (h : c.toNat < 128) : byte_char (char_byte c) = c := by
  unfold byte_char char_byte
  have hsmall : c.toNat % 2 ^ 8 = c.toNat := Nat.mod_eq_of_lt (by omega)
  rw [UInt8.toNat_ofNat', hsmall, Char.ofNat_toNat]

/-- **Base64 round trip**, for data of every length. -/
theorem b64decode_b64encode (bs : Bytes) : b64decode (b64encode bs) = some bs := by
  have hbytes : (b64encode bs).map byte_char = (urlsafe_b64encode bs).map std_char := by
    unfold b64encode
    rw [List.map_map]
    refine (List.map_congr_left ?_).trans (List.map_id _)
    intro c hc
    obtain ⟨c', hc', rfl⟩ := List.mem_map.mp hc
    exact byte_char_char_byte (std_char_ascii (encode_char hc'))
  have hfilter : ((urlsafe_b64encode bs).map std_char).filter
      (fun c => decide (c ≠ '-' ∧ c ≠ '_')) = (urlsafe_b64encode bs).map std_char := by
    rw [List.filter_eq_self]
    intro c hc
    obtain ⟨c', -, rfl⟩ := List.mem_map.mp hc
    exact decide_eq_true (std_char_ne c')
  rw [b64decode, std_chars, hbytes, hfilter, a2b_map_std, a2b_encode]

/-! ## Parameters -/

/-- `_NONCE_SIZE`. -/
def NONCE_SIZE : Nat := 12

/-- `_KEY_SIZE`. -/
def KEY_SIZE : Nat := 32

/-- The longest data that `AESGCM.encrypt` takes. -/
def MAX_SIZE : Nat := 2 ^ 31 - 1

/-- `AESGCM(key).encrypt(nonce, data, None)` and `AESGCM(key).decrypt(nonce, data, None)` of the
    `cryptography` package, for keys of 16, 24 or 32 bytes; `none` stands for their exceptions. -/
structure Aesgcm where
  encrypt : (key nonce data : Bytes) → Option Bytes
  decrypt : (key nonce data : Bytes) → Option Bytes
  /-- Data that is too long is refused. -/
  encrypt_size : ∀ {key nonce} data, key.length = KEY_SIZE → nonce.length = NONCE_SIZE →
    (encrypt key nonce data = none ↔ MAX_SIZE < data.length)
  correct : ∀ {key nonce data ciphertext}, key.length = KEY_SIZE → nonce.length = NONCE_SIZE →
    encrypt key nonce data = some ciphertext → decrypt key nonce ciphertext = some data
  /-- What was encrypted under one key is refused under any other. -/
  authentic : ∀ {key key' nonce data ciphertext data'}, key.length = KEY_SIZE →
    key'.length = KEY_SIZE → nonce.length = NONCE_SIZE →
    encrypt key nonce data = some ciphertext → decrypt key' nonce ciphertext = some data' →
    key' = key

/-- The libraries under the crypto service. -/
structure CryptoEnv where
  aesgcm : Aesgcm
  /-- What the `n`-th call of `os.urandom(size)` returns. -/
  urandom : (n size : Nat) → Bytes
  urandom_length : ∀ n size, (urandom n size).length = size

/-- `AESGCM(key)` refuses a key of any other length. -/
def aesgcm_key (key : Bytes) : Except Exn Unit :=
  if key.length = 16 ∨ key.length = 24 ∨ key.length = 32 then .ok ()
  else .error (.value_error "AESGCM key must be 128, 192, or 256 bits.")

/-! ## The service -/

/-- `DecryptionError`. -/
def decryption_error (message : String) : Exn := .other "DecryptionError" message

def decryption_failed : Exn :=
  decryption_error "Decryption failed — wrong key or tampered ciphertext."

def unwrap_failed : Exn :=
  decryption_error "Failed to unwrap DEK — wrong KEK or tampered blob."

/-- `CryptoService`. -/
structure CryptoService where
  kek : Bytes
  kek_size : kek.length = KEY_SIZE
  dek : Option Bytes

/-- `CryptoService(kek)`. -/
def CryptoService.new (kek : Bytes) : Except Exn CryptoService :=
  if h : kek.length = KEY_SIZE then .ok ⟨kek, h, none⟩
  else .error (.value_error
    ("KEK must be exactly " ++ toString KEY_SIZE ++ " bytes; got " ++ toString kek.length ++ "."))

/-- A service, and the calls of `os.urandom` so far. -/
structure Session where
  service : CryptoService
  draws : Nat

namespace Session

variable (env : CryptoEnv) (s : Session)

/-- `os.urandom(size)`. -/
def urandom (size : Nat) : Bytes × Session :=
  (env.urandom s.draws size, { s with draws := s.draws + 1 })

def set_dek (dek : Bytes) : Session := { s with service := { s.service with dek := some dek } }

/-- `_get_dek`. -/
def get_dek : Bytes × Session :=
  match s.service.dek with
  | some dek => (dek, s)
  | none =>
    let (dek, s) := s.urandom env KEY_SIZE
    (dek, s.set_dek dek)

/-- `AESGCM(key).encrypt(nonce, data, None)`, and base64 of the nonce and the ciphertext. -/
def aesgcm_encrypt (key nonce data : Bytes) : Except Exn Bytes :=
  match aesgcm_key key with
  | .error e => .error e
  | .ok () =>
    match env.aesgcm.encrypt key nonce data with
    | none => .error (.other "OverflowError" "Data or associated data too long. Max 2**31 - 1 bytes")
    | some ciphertext => .ok (b64encode (nonce ++ ciphertext))

/-- `AESGCM(key).decrypt(raw[:_NONCE_SIZE], raw[_NONCE_SIZE:], None)`, with any exception replaced. -/
def aesgcm_decrypt (key raw : Bytes) (replacement : Exn) : Except Exn Bytes :=
  match aesgcm_key key with
  | .error _ => .error replacement
  | .ok () =>
    match env.aesgcm.decrypt key (raw.take NONCE_SIZE) (raw.drop NONCE_SIZE) with
    | none => .error replacement
    | some data => .ok data

/-- `wrap_dek`. -/
def wrap_dek : Except Exn Bytes × Session :=
  let (dek, s) := s.get_dek env
  let (nonce, s) := s.urandom env NONCE_SIZE
  (aesgcm_encrypt env s.service.kek nonce dek, s)

/-- `load_wrapped_dek`. Base64 that cannot be decoded is reported as it is. -/
def load_wrapped_dek (wrapped : Bytes) : Except Exn Unit × Session :=
  match b64decode wrapped with
  | none => (.error (.other "Error" (b64decode_error wrapped)), s)
  | some raw =>
    match aesgcm_decrypt env s.service.kek raw unwrap_failed with
    | .error e => (.error e, s)
    | .ok dek => (.ok (), s.set_dek dek)

/-- `self._kek = kek`. -/
def set_kek (kek : Bytes) (h : kek.length = KEY_SIZE) : Session :=
  { s with service := { s.service with kek := kek, kek_size := h } }

/-- `rotate_kek`. -/
def rotate_kek (new_kek : Bytes) : Except Exn Bytes × Session :=
  if h : new_kek.length = KEY_SIZE then
    let (_, s) := s.get_dek env
    match (s.set_kek new_kek h).wrap_dek env with
    | (.ok wrapped, s') => (.ok wrapped, s')
    | (.error e, s') => (.error e, s'.set_kek s.service.kek s.service.kek_size)
  else (.error (.value_error ("New KEK must be " ++ toString KEY_SIZE ++ " bytes.")), s)

/-- `encrypt`. -/
def encrypt (plaintext : Bytes) : Except Exn Bytes × Session :=
  let (dek, s) := s.get_dek env
  let (nonce, s) := s.urandom env NONCE_SIZE
  (aesgcm_encrypt env dek nonce plaintext, s)

/-- `decrypt`. -/
def decrypt (token : Bytes) : Except Exn Bytes × Session :=
  match b64decode token with
  | none => (.error decryption_failed, s)
  | some raw =>
    let (dek, s) := s.get_dek env
    (aesgcm_decrypt env dek raw decryption_failed, s)

end Session

/-! ## Sealed data -/

section sealing
variable {env : CryptoEnv}

/-- `token` was made from `data` under `key`. -/
def Sealed (env : CryptoEnv) (key data token : Bytes) : Prop :=
  ∃ nonce ciphertext, nonce.length = NONCE_SIZE ∧ env.aesgcm.encrypt key nonce data = some ciphertext ∧
    b64decode token = some (nonce ++ ciphertext)

theorem aesgcm_key_ok {key : Bytes} (h : key.length = KEY_SIZE) : aesgcm_key key = .ok () :=
  if_pos (.inr (.inr h))

theorem Sealed.of_encrypt {key nonce data token : Bytes} (hkey : key.length = KEY_SIZE)
    (hnonce : nonce.length = NONCE_SIZE) (h : Session.aesgcm_encrypt env key nonce data = .ok token) :
    Sealed env key data token := by
  unfold Session.aesgcm_encrypt at h
  rw [aesgcm_key_ok hkey] at h
  simp only at h
  split at h
  · cases h
  · next ciphertext hcipher =>
    cases h
    exact ⟨nonce, ciphertext, hnonce, hcipher, b64decode_b64encode _⟩

/-- A key of the right length encrypts all data that is not too long. -/
theorem aesgcm_encrypt_cases {key nonce : Bytes} (hkey : key.length = KEY_SIZE)
    (hnonce : nonce.length = NONCE_SIZE) (data : Bytes) :
    (data.length ≤ MAX_SIZE ∧
      ∃ bs, Session.aesgcm_encrypt env key nonce data = .ok (b64encode bs)) ∨
    (MAX_SIZE < data.length ∧ ∃ e, Session.aesgcm_encrypt env key nonce data = .error e) := by
  have hsize := env.aesgcm.encrypt_size data hkey hnonce
  unfold Session.aesgcm_encrypt
  rw [aesgcm_key_ok hkey]
  cases hcipher : env.aesgcm.encrypt key nonce data with
  | none => exact .inr ⟨hsize.mp hcipher, _, rfl⟩
  | some ciphertext =>
    refine .inl ⟨?_, _, rfl⟩
    by_contra hlong
    rw [hsize.mpr (not_le.mp hlong)] at hcipher
    cases hcipher

/-- Sealed data is read back under its key. -/
theorem Sealed.reads {key data token : Bytes} (h : Sealed env key data token)
    (hkey : key.length = KEY_SIZE) (replacement : Exn) : ∃ raw, b64decode token = some raw ∧
      Session.aesgcm_decrypt env key raw replacement = .ok data := by
  obtain ⟨nonce, ciphertext, hnonce, hcipher, hdecode⟩ := h
  refine ⟨_, hdecode, ?_⟩
  unfold Session.aesgcm_decrypt
  rw [aesgcm_key_ok hkey, List.take_left' hnonce, List.drop_left' hnonce]
  simp only [env.aesgcm.correct hkey hnonce hcipher]

/-- It is read under no other key. -/
theorem Sealed.key_eq {key key' data data' token raw : Bytes} {replacement : Exn}
    (h : Sealed env key data token) (hkey : key.length = KEY_SIZE) (hkey' : key'.length = KEY_SIZE)
    (hraw : b64decode token = some raw)
    (hread : Session.aesgcm_decrypt env key' raw replacement = .ok data') : key' = key := by
  obtain ⟨nonce, ciphertext, hnonce, hcipher, hdecode⟩ := h
  cases hdecode.symm.trans hraw
  unfold Session.aesgcm_decrypt at hread
  rw [aesgcm_key_ok hkey', List.take_left' hnonce, List.drop_left' hnonce] at hread
  simp only at hread
  split at hread
  · cases hread
  · next hplain => exact env.aesgcm.authentic hkey hkey' hnonce hcipher hplain

end sealing

/-! ## Sampled ciphertexts

    A cipher that computes what AES-256-GCM computes on given samples, and on any other data writes the
    key and the nonce before it.
-/

/-- One call of `AESGCM(key).encrypt(nonce, data, None)`. -/
structure Sample where
  key : Bytes
  nonce : Bytes
  data : Bytes
  ciphertext : Bytes
  deriving DecidableEq

/-- No sample looks like other data, and the ciphertext of a sample says which one it is. -/
structure Samples where
  list : List Sample
  short : ∀ x ∈ list, x.data.length ≤ MAX_SIZE
  marked : ∀ x ∈ list, (x.ciphertext.drop KEY_SIZE).take NONCE_SIZE ≠ x.nonce
  apart : ∀ x ∈ list, ∀ y ∈ list, x.nonce = y.nonce → x.ciphertext = y.ciphertext → x = y

namespace Samples

variable (samples : Samples) (key nonce data : Bytes)

/-- The sample of an encryption. -/
def of_data : Option Sample :=
  samples.list.find? fun x => decide (x.key = key ∧ x.nonce = nonce ∧ x.data = data)

/-- The sample of a decryption. -/
def of_ciphertext : Option Sample :=
  samples.list.find? fun x => decide (x.key = key ∧ x.nonce = nonce ∧ x.ciphertext = data)

def encrypt : Option Bytes :=
  match samples.of_data key nonce data with
  | some x => some x.ciphertext
  | none => if MAX_SIZE < data.length then none else some (key ++ nonce ++ data)

def decrypt : Option Bytes :=
  match samples.of_ciphertext key nonce data with
  | some x => some x.data
  | none =>
    if data.take (KEY_SIZE + NONCE_SIZE) = key ++ nonce then some (data.drop (KEY_SIZE + NONCE_SIZE))
    else none

variable {samples key nonce data} {x : Sample}

theorem of_data_some (h : samples.of_data key nonce data = some x) :
    x ∈ samples.list ∧ x.key = key ∧ x.nonce = nonce ∧ x.data = data :=
  ⟨List.mem_of_find?_eq_some h, by simpa using List.find?_some h⟩

theorem of_ciphertext_some (h : samples.of_ciphertext key nonce data = some x) :
    x ∈ samples.list ∧ x.key = key ∧ x.nonce = nonce ∧ x.ciphertext = data :=
  ⟨List.mem_of_find?_eq_some h, by simpa using List.find?_some h⟩

/-- What an encryption returns. -/
theorem encrypt_cases {ciphertext : Bytes} (h : samples.encrypt key nonce data = some ciphertext) :
    (∃ x ∈ samples.list, x.key = key ∧ x.nonce = nonce ∧ x.data = data ∧
      x.ciphertext = ciphertext) ∨ ciphertext = key ++ nonce ++ data := by
  unfold encrypt at h
  split at h
  · next x hx =>
    obtain ⟨hmem, hkey, hnonce, hdata⟩ := of_data_some hx
    exact .inl ⟨x, hmem, hkey, hnonce, hdata, Option.some.inj h⟩
  · split at h
    · cases h
    · exact .inr (Option.some.inj h).symm

/-- What a decryption returns. -/
theorem decrypt_cases {plaintext : Bytes} (h : samples.decrypt key nonce data = some plaintext) :
    (∃ x ∈ samples.list, x.key = key ∧ x.nonce = nonce ∧ x.ciphertext = data ∧
      x.data = plaintext) ∨
      data.take (KEY_SIZE + NONCE_SIZE) = key ++ nonce := by
  unfold decrypt at h
  split at h
  · next x hx =>
    obtain ⟨hmem, hkey, hnonce, hdata⟩ := of_ciphertext_some hx
    exact .inl ⟨x, hmem, hkey, hnonce, hdata, Option.some.inj h⟩
  · split at h
    · next hprefix => exact .inr hprefix
    · cases h

theorem take_prefixed (hkey : key.length = KEY_SIZE) (hnonce : nonce.length = NONCE_SIZE) :
    (key ++ nonce ++ data).take (KEY_SIZE + NONCE_SIZE) = key ++ nonce :=
  List.take_left' (by rw [List.length_append, hkey, hnonce])

theorem nonce_prefixed (hkey : key.length = KEY_SIZE) (hnonce : nonce.length = NONCE_SIZE) :
    ((key ++ nonce ++ data).drop KEY_SIZE).take NONCE_SIZE = nonce := by
  rw [List.append_assoc, List.drop_left' hkey, List.take_left' hnonce]

/-- The nonce that stands behind a key-sized prefix. -/
theorem nonce_of_take {ciphertext key nonce : Bytes} (hkey : key.length = KEY_SIZE)
    (hnonce : nonce.length = NONCE_SIZE)
    (h : ciphertext.take (KEY_SIZE + NONCE_SIZE) = key ++ nonce) :
    (ciphertext.drop KEY_SIZE).take NONCE_SIZE = nonce := by
  have hsplit : ciphertext = key ++ nonce ++ ciphertext.drop (KEY_SIZE + NONCE_SIZE) := by
    rw [← h, List.take_append_drop]
  rw [hsplit]
  exact nonce_prefixed hkey hnonce

variable (samples) in
/-- The cipher. -/
def cipher : Aesgcm where
  encrypt := samples.encrypt
  decrypt := samples.decrypt
  encrypt_size := by
    intro key nonce data _ _
    unfold encrypt
    split
    · next x hx =>
      obtain ⟨hmem, -, -, hdata⟩ := of_data_some hx
      have hshort := samples.short x hmem
      rw [hdata] at hshort
      simp [hshort]
    · simp
  correct := by
    intro key nonce data ciphertext hkey hnonce h
    unfold decrypt
    obtain ⟨x, hmem, hxkey, hxnonce, hxdata, hxcipher⟩ | hplain := encrypt_cases h
    · cases hfind : samples.of_ciphertext key nonce ciphertext with
      | none =>
        have hnot := List.find?_eq_none.mp hfind x hmem
        simp [hxkey, hxnonce, hxcipher] at hnot
      | some y =>
        obtain ⟨hymem, -, hynonce, hycipher⟩ := of_ciphertext_some hfind
        rw [samples.apart y hymem x hmem (hynonce.trans hxnonce.symm) (hycipher.trans hxcipher.symm)]
        simp only [hxdata]
    · subst hplain
      cases hfind : samples.of_ciphertext key nonce (key ++ nonce ++ data) with
      | none =>
        simp only [take_prefixed hkey hnonce, if_true]
        rw [List.drop_left' (by rw [List.length_append, hkey, hnonce])]
      | some y =>
        -- a sample never looks like this
        obtain ⟨hymem, -, hynonce, hycipher⟩ := of_ciphertext_some hfind
        have hmarked := samples.marked y hymem
        rw [hycipher, nonce_prefixed hkey hnonce, hynonce] at hmarked
        exact absurd rfl hmarked
  authentic := by
    intro key key' nonce data ciphertext data' hkey hkey' hnonce h h'
    obtain ⟨x, hmem, hxkey, hxnonce, -, hxcipher⟩ | hplain := encrypt_cases h
    · obtain ⟨y, hymem, hykey, hynonce, hycipher, -⟩ | hprefix := decrypt_cases h'
      · rw [← hykey, ← hxkey, samples.apart y hymem x hmem (hynonce.trans hxnonce.symm)
          (hycipher.trans hxcipher.symm)]
      · have hmarked := samples.marked x hmem
        rw [hxcipher, nonce_of_take hkey' hnonce hprefix, hxnonce] at hmarked
        exact absurd rfl hmarked
    · subst hplain
      obtain ⟨y, hymem, -, hynonce, hycipher, -⟩ | hprefix := decrypt_cases h'
      · have hmarked := samples.marked y hymem
        rw [hycipher, nonce_prefixed hkey hnonce, hynonce] at hmarked
        exact absurd rfl hmarked
      · rw [take_prefixed hkey hnonce] at hprefix
        exact (List.append_inj_left hprefix (hkey.trans hkey'.symm)).symm

variable (samples) in
/-- The cipher with a `urandom` whose `n`-th call returns the byte `n + 1` again and again. -/
def env : CryptoEnv where
  aesgcm := samples.cipher
  urandom n size := List.replicate size (UInt8.ofNat (n + 1))
  urandom_length _ _ := List.length_replicate

end Samples

end CaseAutomation.Security
