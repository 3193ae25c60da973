import Mathlib.Algebra.Group.Nat.Defs
import Mathlib.Data.List.Basic

/-! # HMAC-SHA256

    The digests that the standard library provides (`hashlib.sha256`,
    `hmac.new(key, msg, sha256)`), on lists of bytes.
-/

namespace CaseAutomation.Security

/-! ## SHA-256 -/

/-- The round constants. -/
def sha256_k : List UInt32 :=
  [0x428a2f98, 0x71374491, 0xb5c0fbcf, 0xe9b5dba5, 0x3956c25b, 0x59f111f1, 0x923f82a4, 0xab1c5ed5,
   0xd807aa98, 0x12835b01, 0x243185be, 0x550c7dc3, 0x72be5d74, 0x80deb1fe, 0x9bdc06a7, 0xc19bf174,
   0xe49b69c1, 0xefbe4786, 0x0fc19dc6, 0x240ca1cc, 0x2de92c6f, 0x4a7484aa, 0x5cb0a9dc, 0x76f988da,
   0x983e5152, 0xa831c66d, 0xb00327c8, 0xbf597fc7, 0xc6e00bf3, 0xd5a79147, 0x06ca6351, 0x14292967,
   0x27b70a85, 0x2e1b2138, 0x4d2c6dfc, 0x53380d13, 0x650a7354, 0x766a0abb, 0x81c2c92e, 0x92722c85,
   0xa2bfe8a1, 0xa81a664b, 0xc24b8b70, 0xc76c51a3, 0xd192e819, 0xd6990624, 0xf40e3585, 0x106aa070,
   0x19a4c116, 0x1e376c08, 0x2748774c, 0x34b0bcb5, 0x391c0cb3, 0x4ed8aa4a, 0x5b9cca4f, 0x682e6ff3,
   0x748f82ee, 0x78a5636f, 0x84c87814, 0x8cc70208, 0x90befffa, 0xa4506ceb, 0xbef9a3f7, 0xc67178f2]

/-- The eight working variables. -/
structure Sha256State where
  a : UInt32
  b : UInt32
  c : UInt32
  d : UInt32
  e : UInt32
  f : UInt32
  g : UInt32
  h : UInt32

def sha256_init : Sha256State :=
  ⟨0x6a09e667, 0xbb67ae85, 0x3c6ef372, 0xa54ff53a, 0x510e527f, 0x9b05688c, 0x1f83d9ab, 0x5be0cd19⟩

def rotr (x : UInt32) (n : UInt32) : UInt32 := (x >>> n) ||| (x <<< (32 - n))

/-- Big-endian bytes of a word. -/
def word_bytes (x : UInt32) : List UInt8 :=
  [(x >>> 24).toUInt8, (x >>> 16).toUInt8, (x >>> 8).toUInt8, x.toUInt8]

/-- The words of a block. -/
def words : List UInt8 → List UInt32
  | a :: b :: c :: d :: rest =>
    ((a.toUInt32 <<< 24) ||| (b.toUInt32 <<< 16) ||| (c.toUInt32 <<< 8) ||| d.toUInt32) :: words rest
  | _ => []

/-- The message schedule, latest word first. -/
def extend_schedule : Nat → List UInt32 → List UInt32
  | 0, ws => ws
  | n + 1, ws =>
    let w15 := ws.getD 14 0
    let w2 := ws.getD 1 0
    let s0 := rotr w15 7 ^^^ rotr w15 18 ^^^ (w15 >>> 3)
    let s1 := rotr w2 17 ^^^ rotr w2 19 ^^^ (w2 >>> 10)
    extend_schedule n ((ws.getD 15 0 + s0 + ws.getD 6 0 + s1) :: ws)

/-- One round. -/
def sha256_round (s : Sha256State) (kw : UInt32 × UInt32) : Sha256State :=
  let s1 := rotr s.e 6 ^^^ rotr s.e 11 ^^^ rotr s.e 25
  let ch := (s.e &&& s.f) ^^^ ((~~~ s.e) &&& s.g)
  let t1 := s.h + s1 + ch + kw.1 + kw.2
  let s0 := rotr s.a 2 ^^^ rotr s.a 13 ^^^ rotr s.a 22
  let maj := (s.a &&& s.b) ^^^ (s.a &&& s.c) ^^^ (s.b &&& s.c)
  ⟨t1 + (s0 + maj), s.a, s.b, s.c, s.d + t1, s.e, s.f, s.g⟩

/-- The compression function on one 64-byte block. -/
def sha256_block (s : Sha256State) (block : List UInt8) : Sha256State :=
  let ws := (extend_schedule 48 (words block).reverse).reverse
  let t := (sha256_k.zip ws).foldl sha256_round s
  ⟨s.a + t.a, s.b + t.b, s.c + t.c, s.d + t.d, s.e + t.e, s.f + t.f, s.g + t.g, s.h + t.h⟩

/-- The message with its padding and its length in bits. -/
def sha256_pad (msg : List UInt8) : List UInt8 :=
  let bits := msg.length * 8
  msg ++ 0x80 :: List.replicate ((119 - msg.length % 64) % 64) 0 ++
    (List.range 8).map fun i => UInt8.ofNat (bits / 256 ^ (7 - i))

/-- The blocks of a padded message. -/
def sha256_blocks : Nat → List UInt8 → List (List UInt8)
  | 0, _ => []
  | n + 1, bytes => bytes.take 64 :: sha256_blocks n (bytes.drop 64)

/-- `hashlib.sha256(msg).digest()`. -/
def sha256 (msg : List UInt8) : List UInt8 :=
  let padded := sha256_pad msg
  let s := (sha256_blocks (padded.length / 64) padded).foldl sha256_block sha256_init
  [s.a, s.b, s.c, s.d, s.e, s.f, s.g, s.h].flatMap word_bytes

/-! ## HMAC and hex digests -/

/-- The key as one block. -/
def hmac_key (key : List UInt8) : List UInt8 :=
  let k := if key.length ≤ 64 then key else sha256 key
  k ++ List.replicate (64 - k.length) 0

/-- `hmac.new(key, msg, sha256).digest()`. -/
def hmac_sha256 (key msg : List UInt8) : List UInt8 :=
  let k := hmac_key key
  sha256 (k.map (· ^^^ 0x5c) ++ sha256 (k.map (· ^^^ 0x36) ++ msg))

def hex_digit (n : Nat) : Char := if n < 10 then Char.ofNat (48 + n) else Char.ofNat (87 + n)

/-- `digest.hex()`. -/
def hexdigest (bytes : List UInt8) : String :=
  String.ofList (bytes.flatMap fun b => [hex_digit (b.toNat / 16), hex_digit (b.toNat % 16)])

theorem hex_digit_ascii : ∀ n < 16, (hex_digit n).toNat < 128 := by decide

/-- Hex digests are ASCII text. -/
theorem hexdigest_ascii (bytes : List UInt8) :
    ∀ c ∈ (hexdigest bytes).toList, c.toNat < 128 := by
  intro c hc
  rw [hexdigest, String.toList_ofList, List.mem_flatMap] at hc
  obtain ⟨b, -, hb⟩ := hc
  have hlt := b.toNat_lt
  rcases List.mem_cons.mp hb with rfl | hb
  · exact hex_digit_ascii _ (by omega)
  · rw [List.mem_singleton.mp hb]
    exact hex_digit_ascii _ (by omega)

end CaseAutomation.Security
