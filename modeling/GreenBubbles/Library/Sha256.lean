import GreenBubbles.Library.Bytes

/-! # SHA-256

The hash function of FIPS 180-4 on byte lists, and the hexadecimal text of a
digest.
-/
namespace GreenBubbles.Library.Sha256

open Bytes

def roundConstants : List UInt32 :=
  [0x428a2f98, 0x71374491, 0xb5c0fbcf, 0xe9b5dba5, 0x3956c25b, 0x59f111f1, 0x923f82a4, 0xab1c5ed5,
   0xd807aa98, 0x12835b01, 0x243185be, 0x550c7dc3, 0x72be5d74, 0x80deb1fe, 0x9bdc06a7, 0xc19bf174,
   0xe49b69c1, 0xefbe4786, 0x0fc19dc6, 0x240ca1cc, 0x2de92c6f, 0x4a7484aa, 0x5cb0a9dc, 0x76f988da,
   0x983e5152, 0xa831c66d, 0xb00327c8, 0xbf597fc7, 0xc6e00bf3, 0xd5a79147, 0x06ca6351, 0x14292967,
   0x27b70a85, 0x2e1b2138, 0x4d2c6dfc, 0x53380d13, 0x650a7354, 0x766a0abb, 0x81c2c92e, 0x92722c85,
   0xa2bfe8a1, 0xa81a664b, 0xc24b8b70, 0xc76c51a3, 0xd192e819, 0xd6990624, 0xf40e3585, 0x106aa070,
   0x19a4c116, 0x1e376c08, 0x2748774c, 0x34b0bcb5, 0x391c0cb3, 0x4ed8aa4a, 0x5b9cca4f, 0x682e6ff3,
   0x748f82ee, 0x78a5636f, 0x84c87814, 0x8cc70208, 0x90befffa, 0xa4506ceb, 0xbef9a3f7, 0xc67178f2]

structure Chaining where
  a : UInt32
  b : UInt32
  c : UInt32
  d : UInt32
  e : UInt32
  f : UInt32
  g : UInt32
  h : UInt32

def initial : Chaining where
  a := 0x6a09e667
  b := 0xbb67ae85
  c := 0x3c6ef372
  d := 0xa54ff53a
  e := 0x510e527f
  f := 0x9b05688c
  g := 0x1f83d9ab
  h := 0x5be0cd19

def rotateRight (x : UInt32) (n : UInt32) : UInt32 := (x >>> n) ||| (x <<< (32 - n))

def bytesOfWord (word : UInt32) : List UInt8 :=
  [(word >>> 24).toUInt8, (word >>> 16).toUInt8, (word >>> 8).toUInt8, word.toUInt8]

def wordOfBytes (b₀ b₁ b₂ b₃ : UInt8) : UInt32 :=
  (b₀.toUInt32 <<< 24) ||| (b₁.toUInt32 <<< 16) ||| (b₂.toUInt32 <<< 8) ||| b₃.toUInt32

def words : List UInt8 → List UInt32
  | b₀ :: b₁ :: b₂ :: b₃ :: rest => wordOfBytes b₀ b₁ b₂ b₃ :: words rest
  | _ => []

/-- A one bit, zeros up to eight bytes short of a block, and the length in bits. -/
def pad (message : List UInt8) : List UInt8 :=
  message ++ 0x80 :: List.replicate ((119 - message.length % 64) % 64) 0 ++
    (List.range 8).map fun place => UInt8.ofNat (8 * message.length / 256 ^ (7 - place))

/-- The message schedule: the block's words, then those each round derives from
the sixteen before it; `recent` holds these, the latest first. -/
def schedule : ℕ → List UInt32 → List UInt32
  | 0, _ => []
  | rounds + 1, recent =>
    let w₂ := recent.getD 1 0
    let w₁₅ := recent.getD 14 0
    let s₀ := rotateRight w₁₅ 7 ^^^ rotateRight w₁₅ 18 ^^^ (w₁₅ >>> 3)
    let s₁ := rotateRight w₂ 17 ^^^ rotateRight w₂ 19 ^^^ (w₂ >>> 10)
    let word := recent.getD 15 0 + s₀ + recent.getD 6 0 + s₁
    word :: schedule rounds (word :: recent.take 15)

def round (state : Chaining) (constant word : UInt32) : Chaining :=
  let s₁ := rotateRight state.e 6 ^^^ rotateRight state.e 11 ^^^ rotateRight state.e 25
  let choice := (state.e &&& state.f) ^^^ (~~~state.e &&& state.g)
  let t₁ := state.h + s₁ + choice + constant + word
  let s₀ := rotateRight state.a 2 ^^^ rotateRight state.a 13 ^^^ rotateRight state.a 22
  let majority := (state.a &&& state.b) ^^^ (state.a &&& state.c) ^^^ (state.b &&& state.c)
  { a := t₁ + (s₀ + majority), b := state.a, c := state.b, d := state.c
    e := state.d + t₁, f := state.e, g := state.f, h := state.g }

def compress (state : Chaining) (block : List UInt32) : Chaining :=
  let rounds := block ++ schedule 48 block.reverse
  let final := (roundConstants.zip rounds).foldl (fun s kw => round s kw.1 kw.2) state
  { a := state.a + final.a, b := state.b + final.b, c := state.c + final.c, d := state.d + final.d
    e := state.e + final.e, f := state.f + final.f, g := state.g + final.g, h := state.h + final.h }

def hash (message : List UInt8) : List UInt8 :=
  let padded := words (pad message)
  let blocks := (List.range (padded.length / 16)).map fun block => (padded.drop (16 * block)).take 16
  let final := blocks.foldl compress initial
  [final.a, final.b, final.c, final.d, final.e, final.f, final.g, final.h].flatMap bytesOfWord

theorem length_hash (message : List UInt8) : (hash message).length = 32 := by
  simp [hash, bytesOfWord]

attribute [irreducible] hash

def hexDigest (message : List UInt8) : String := encode (hash message)

example : hexDigest [0x61, 0x62, 0x63] =
    "ba7816bf8f01cfea414140de5dae2223b00361a396177a9cb410ff61f20015ad" := by decide +kernel

end GreenBubbles.Library.Sha256
