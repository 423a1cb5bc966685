import Chiplog.Data.Model
import Mathlib.Data.List.GetD

namespace Chiplog.Data.Sha256

/-! SHA-256 as the standard library computes it.

Theorems of this development range over every `Hashlib`; this one lets a model
run on the digests the program itself would produce. -/

def roundConstants : List UInt32 :=
  [0x428a2f98, 0x71374491, 0xb5c0fbcf, 0xe9b5dba5, 0x3956c25b, 0x59f111f1, 0x923f82a4, 0xab1c5ed5,
    0xd807aa98, 0x12835b01, 0x243185be, 0x550c7dc3, 0x72be5d74, 0x80deb1fe, 0x9bdc06a7, 0xc19bf174,
    0xe49b69c1, 0xefbe4786, 0x0fc19dc6, 0x240ca1cc, 0x2de92c6f, 0x4a7484aa, 0x5cb0a9dc, 0x76f988da,
    0x983e5152, 0xa831c66d, 0xb00327c8, 0xbf597fc7, 0xc6e00bf3, 0xd5a79147, 0x06ca6351, 0x14292967,
    0x27b70a85, 0x2e1b2138, 0x4d2c6dfc, 0x53380d13, 0x650a7354, 0x766a0abb, 0x81c2c92e, 0x92722c85,
    0xa2bfe8a1, 0xa81a664b, 0xc24b8b70, 0xc76c51a3, 0xd192e819, 0xd6990624, 0xf40e3585, 0x106aa070,
    0x19a4c116, 0x1e376c08, 0x2748774c, 0x34b0bcb5, 0x391c0cb3, 0x4ed8aa4a, 0x5b9cca4f, 0x682e6ff3,
    0x748f82ee, 0x78a5636f, 0x84c87814, 0x8cc70208, 0x90befffa, 0xa4506ceb, 0xbef9a3f7, 0xc67178f2]

/-- The eight chaining words. -/
structure State where
  a : UInt32
  b : UInt32
  c : UInt32
  d : UInt32
  e : UInt32
  f : UInt32
  g : UInt32
  h : UInt32

def initial : State :=
  ⟨0x6a09e667, 0xbb67ae85, 0x3c6ef372, 0xa54ff53a, 0x510e527f, 0x9b05688c, 0x1f83d9ab, 0x5be0cd19⟩

def rotate (word : UInt32) (count : UInt32) : UInt32 :=
  (word >>> count) ||| (word <<< (32 - count))

/-- The schedule window holds the sixteen most recent words, oldest first. -/
def nextWord (window : List UInt32) : UInt32 :=
  let w2 := window.getD 14 0
  let w7 := window.getD 9 0
  let w15 := window.getD 1 0
  let w16 := window.getD 0 0
  (rotate w2 17 ^^^ rotate w2 19 ^^^ (w2 >>> 10)) + w7 +
    (rotate w15 7 ^^^ rotate w15 18 ^^^ (w15 >>> 3)) + w16

def round (state : State) (constant word : UInt32) : State :=
  let sum1 := rotate state.e 6 ^^^ rotate state.e 11 ^^^ rotate state.e 25
  let choice := (state.e &&& state.f) ^^^ ((state.e ^^^ 0xffffffff) &&& state.g)
  let first := state.h + sum1 + choice + constant + word
  let sum0 := rotate state.a 2 ^^^ rotate state.a 13 ^^^ rotate state.a 22
  let majority := (state.a &&& state.b) ^^^ (state.a &&& state.c) ^^^ (state.b &&& state.c)
  ⟨first + (sum0 + majority), state.a, state.b, state.c, state.d + first, state.e, state.f, state.g⟩

def rounds : List UInt32 → List UInt32 → State → State
  | [], _, state => state
  | constant :: constants, window, state =>
      rounds constants (window.drop 1 ++ [nextWord window]) (round state constant (window.getD 0 0))

def words : Bytes → List UInt32
  | a :: b :: c :: d :: rest =>
      ((a.toUInt32 <<< 24) ||| (b.toUInt32 <<< 16) ||| (c.toUInt32 <<< 8) ||| d.toUInt32) :: words rest
  | _ => []

def compress (state : State) (block : Bytes) : State :=
  let after := rounds roundConstants (words block) state
  ⟨state.a + after.a, state.b + after.b, state.c + after.c, state.d + after.d,
    state.e + after.e, state.f + after.f, state.g + after.g, state.h + after.h⟩

/-- Delimiter, zeros and the big-endian bit length. -/
def pad (raw : Bytes) : Bytes :=
  raw ++ [0x80] ++ List.replicate ((119 - raw.length % 64) % 64) 0 ++
    (List.range 8).map (fun index => UInt8.ofNat (raw.length * 8 / 256 ^ (7 - index)))

def absorb : Nat → Bytes → State → State
  | 0, _, state => state
  | blocks + 1, raw, state => absorb blocks (raw.drop 64) (compress state (raw.take 64))

def hexWord (word : UInt32) : List Char :=
  [28, 24, 20, 16, 12, 8, 4, 0].map (fun shift => hexDigit (word.toNat / 2 ^ shift))

def hexState (state : State) : List Char :=
  [state.a, state.b, state.c, state.d, state.e, state.f, state.g, state.h].flatMap hexWord

theorem hexDigit_mem (value : Nat) : hexDigit value ∈ hexAlphabet := by
  unfold hexDigit
  have small : value % 16 < hexAlphabet.length := by
    have length : hexAlphabet.length = 16 := by decide
    omega
  rw [List.getD_eq_getElem _ _ small]
  exact List.getElem_mem small

theorem hexState_hex (state : State) :
    (hexState state).length = 64 ∧ ∀ char ∈ hexState state, char ∈ hexAlphabet := by
  refine ⟨by simp [hexState, hexWord], ?_⟩
  intro char member
  obtain ⟨word, _, member⟩ := List.mem_flatMap.mp member
  obtain ⟨shift, _, rfl⟩ := List.mem_map.mp member
  exact hexDigit_mem _

def hexdigest (raw : Bytes) : Digest :=
  let padded := pad raw
  let final := hexState (absorb (padded.length / 64) padded initial)
  ⟨String.ofList final, by
    have shape := hexState_hex (absorb (padded.length / 64) padded initial)
    simpa using shape⟩

example : (hexdigest (utf8 "abc")).text =
    "ba7816bf8f01cfea414140de5dae2223b00361a396177a9cb410ff61f20015ad" := by
  decide +kernel

/-- The hash the program runs with. -/
@[reducible] def hashlib : Hashlib := ⟨hexdigest⟩

end Chiplog.Data.Sha256

namespace Chiplog.Data.Hmac

/-! `hmac.new(key, message, hashlib.sha256).hexdigest()`. -/

def hexValue (char : Char) : Nat := hexAlphabet.idxOf char

/-- `bytes.fromhex`. -/
def fromHex : List Char → Bytes
  | high :: low :: rest => UInt8.ofNat (hexValue high * 16 + hexValue low) :: fromHex rest
  | _ => []

section

variable [Hashlib]

/-- `hashlib.sha256(raw).digest()`. -/
def rawDigest (raw : Bytes) : Bytes := fromHex (sha256 raw).text.toList

/-- The key, hashed when longer than a block and filled up with zeros. -/
def blockKey (key : Bytes) : Bytes :=
  let short := if 64 < key.length then rawDigest key else key
  short ++ List.replicate (64 - short.length) 0

def hmac (key message : Bytes) : Digest :=
  let block := blockKey key
  sha256 (block.map (· ^^^ 0x5c) ++ rawDigest (block.map (· ^^^ 0x36) ++ message))

end

example :
    letI := Sha256.hashlib
    (hmac (utf8 "key") (utf8 "message")).text =
      "6e9ef29b75fffc5b7abae527d58fdadb2fe42e7219011976917343065f58ed4a" := by
  decide +kernel

end Chiplog.Data.Hmac
