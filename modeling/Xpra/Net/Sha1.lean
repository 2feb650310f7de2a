import Xpra.Net.Sha256

/-! SHA-1 as written out in `net/sha1.rs`. The message is padded and cut into chunks as in
`net/sha256.rs`. -/

namespace Xpra.Net.Sha1
open Library

def rotateLeft (word : UInt32) (count : Nat) : UInt32 := .ofBitVec (word.toBitVec.rotateLeft count)

/-- The message schedule, grown one word at a time from the first sixteen. -/
def schedule (chunk : Bytes) : List UInt32 :=
  (List.range' 16 64).foldl (fun w i =>
    let at' (back : Nat) := w.getD (i - back) 0
    w ++ [rotateLeft (at' 3 ^^^ at' 8 ^^^ at' 14 ^^^ at' 16) 1]) ((List.range 16).map (Sha256.word chunk))

structure Words where
  a : UInt32
  b : UInt32
  c : UInt32
  d : UInt32
  e : UInt32
  deriving DecidableEq, Repr

def Words.initial : Words := ⟨0x67452301, 0xEFCDAB89, 0x98BADCFE, 0x10325476, 0xC3D2E1F0⟩

/-- One turn of the loop over the schedule. -/
def round (words : Words) (i : Nat) (wi : UInt32) : Words :=
  let ⟨a, b, c, d, e⟩ := words
  let (f, k) : UInt32 × UInt32 :=
    if i ≤ 19 then ((b &&& c) ||| (~~~b &&& d), 0x5A827999)
    else if i ≤ 39 then (b ^^^ c ^^^ d, 0x6ED9EBA1)
    else if i ≤ 59 then ((b &&& c) ||| (b &&& d) ||| (c &&& d), 0x8F1BBCDC)
    else (b ^^^ c ^^^ d, 0xCA62C1D6)
  let temp := rotateLeft a 5 + f + e + k + wi
  ⟨temp, a, rotateLeft b 30, c, d⟩

def compress (hash : Words) (chunk : Bytes) : Words :=
  let w := schedule chunk
  let done := (List.range 80).foldl (fun words i => round words i (w.getD i 0)) hash
  ⟨hash.a + done.a, hash.b + done.b, hash.c + done.c, hash.d + done.d, hash.e + done.e⟩

def Words.bytes (words : Words) : Bytes :=
  [words.a, words.b, words.c, words.d, words.e].flatMap fun word => Numeral.toBig 4 word.toNat

def sha1 (data : Bytes) : Bytes := ((Sha256.chunks (Sha256.pad data)).foldl compress .initial).bytes

end Xpra.Net.Sha1
