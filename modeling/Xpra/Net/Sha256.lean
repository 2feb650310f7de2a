import Xpra.Net.Yaml
import Xpra.Library.Numeral

/-! SHA-256 and HMAC-SHA256 as written out in `net/sha256.rs`. -/

namespace Xpra.Net.Sha256
open Library

def K : List UInt32 := [
  0x428a2f98, 0x71374491, 0xb5c0fbcf, 0xe9b5dba5, 0x3956c25b, 0x59f111f1, 0x923f82a4, 0xab1c5ed5,
  0xd807aa98, 0x12835b01, 0x243185be, 0x550c7dc3, 0x72be5d74, 0x80deb1fe, 0x9bdc06a7, 0xc19bf174,
  0xe49b69c1, 0xefbe4786, 0x0fc19dc6, 0x240ca1cc, 0x2de92c6f, 0x4a7484aa, 0x5cb0a9dc, 0x76f988da,
  0x983e5152, 0xa831c66d, 0xb00327c8, 0xbf597fc7, 0xc6e00bf3, 0xd5a79147, 0x06ca6351, 0x14292967,
  0x27b70a85, 0x2e1b2138, 0x4d2c6dfc, 0x53380d13, 0x650a7354, 0x766a0abb, 0x81c2c92e, 0x92722c85,
  0xa2bfe8a1, 0xa81a664b, 0xc24b8b70, 0xc76c51a3, 0xd192e819, 0xd6990624, 0xf40e3585, 0x106aa070,
  0x19a4c116, 0x1e376c08, 0x2748774c, 0x34b0bcb5, 0x391c0cb3, 0x4ed8aa4a, 0x5b9cca4f, 0x682e6ff3,
  0x748f82ee, 0x78a5636f, 0x84c87814, 0x8cc70208, 0x90befffa, 0xa4506ceb, 0xbef9a3f7, 0xc67178f2]

def BLOCK : Nat := 64

def rotateRight (word : UInt32) (count : UInt32) : UInt32 := (word >>> count) ||| (word <<< (32 - count))

def padZeros (message : Bytes) : Bytes :=
  if message.length % BLOCK ≠ 56 then padZeros (message ++ [0]) else message
termination_by (120 - message.length % 64) % 64
decreasing_by
  simp only [BLOCK, List.length_append, List.length_singleton] at *
  omega

def pad (data : Bytes) : Bytes := padZeros (data ++ [0x80]) ++ Numeral.toBig 8 (data.length * 8)

def chunks (message : Bytes) : List Bytes :=
  (List.range ((message.length + (BLOCK - 1)) / BLOCK)).map fun i => (message.drop (i * BLOCK)).take BLOCK

def word (chunk : Bytes) (i : Nat) : UInt32 := UInt32.ofNat (Numeral.big ((chunk.drop (i * 4)).take 4))

/-- The message schedule, grown one word at a time from the first sixteen. -/
def schedule (chunk : Bytes) : List UInt32 :=
  (List.range' 16 48).foldl (fun w i =>
    let at' (back : Nat) := w.getD (i - back) 0
    let s0 := rotateRight (at' 15) 7 ^^^ rotateRight (at' 15) 18 ^^^ (at' 15 >>> 3)
    let s1 := rotateRight (at' 2) 17 ^^^ rotateRight (at' 2) 19 ^^^ (at' 2 >>> 10)
    w ++ [at' 16 + s0 + at' 7 + s1]) ((List.range 16).map (word chunk))

structure Words where
  a : UInt32
  b : UInt32
  c : UInt32
  d : UInt32
  e : UInt32
  f : UInt32
  g : UInt32
  h : UInt32
  deriving DecidableEq, Repr

def Words.initial : Words :=
  ⟨0x6a09e667, 0xbb67ae85, 0x3c6ef372, 0xa54ff53a, 0x510e527f, 0x9b05688c, 0x1f83d9ab, 0x5be0cd19⟩

def round (words : Words) (k w : UInt32) : Words :=
  let ⟨a, b, c, d, e, f, g, h⟩ := words
  let s1 := rotateRight e 6 ^^^ rotateRight e 11 ^^^ rotateRight e 25
  let ch := (e &&& f) ^^^ (~~~e &&& g)
  let temp1 := h + s1 + ch + k + w
  let s0 := rotateRight a 2 ^^^ rotateRight a 13 ^^^ rotateRight a 22
  let maj := (a &&& b) ^^^ (a &&& c) ^^^ (b &&& c)
  let temp2 := s0 + maj
  ⟨temp1 + temp2, a, b, c, d + temp1, e, f, g⟩

def compress (hash : Words) (chunk : Bytes) : Words :=
  let w := schedule chunk
  let done := (List.range 64).foldl (fun words i => round words (K.getD i 0) (w.getD i 0)) hash
  ⟨hash.a + done.a, hash.b + done.b, hash.c + done.c, hash.d + done.d,
    hash.e + done.e, hash.f + done.f, hash.g + done.g, hash.h + done.h⟩

def Words.bytes (words : Words) : Bytes :=
  [words.a, words.b, words.c, words.d, words.e, words.f, words.g, words.h].flatMap fun word =>
    Numeral.toBig 4 word.toNat

def sha256 (data : Bytes) : Bytes := ((chunks (pad data)).foldl compress .initial).bytes

/-- A key longer than a block is hashed down first. -/
def hmacBlock (key : Bytes) : Bytes :=
  let key := if key.length > BLOCK then sha256 key else key
  key ++ List.replicate (BLOCK - key.length) 0

def hmacSha256 (key msg : Bytes) : Bytes :=
  let ipad := (hmacBlock key).map (0x36 ^^^ ·)
  let opad := (hmacBlock key).map (0x5c ^^^ ·)
  sha256 (opad ++ sha256 (ipad ++ msg))

def hexDigit (value : UInt8) : Char := Nat.digitChar value.toNat

def toHex (bytes : Bytes) : String :=
  String.ofList (bytes.flatMap fun (byte : UInt8) => [hexDigit (byte >>> 4), hexDigit (byte &&& 0xf)])

def hmacSha256Hex (key msg : Bytes) : String := toHex (hmacSha256 key msg)

end Xpra.Net.Sha256
