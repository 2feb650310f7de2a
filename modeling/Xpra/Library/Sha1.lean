import Xpra.Library.Sha2

/-! The hash function SHA-1 on bit strings. Its padding is that of SHA-256. -/

namespace Library.Sha1
open Sha2 (Word bits value pad ofOctets toOctets)

/-! ### Functions and constants -/

def parity (x y z : Word) : Word := x ^^^ y ^^^ z

def f (t : Nat) (x y z : Word) : Word :=
  if t < 20 then Sha2.ch x y z else if t < 40 then parity x y z else if t < 60 then Sha2.maj x y z else parity x y z

/-- The square roots of 2, 3, 5 and 10, to thirty bits behind the point. -/
def constant (t : Nat) : Word :=
  let root (number : Nat) : Word := .ofNat 32 (Nat.sqrt (number * 2 ^ 60))
  if t < 20 then root 2 else if t < 40 then root 3 else if t < 60 then root 5 else root 10

structure State where
  a : Word
  b : Word
  c : Word
  d : Word
  e : Word

def State.initial : State := ⟨0x67452301, 0xefcdab89, 0x98badcfe, 0x10325476, 0xc3d2e1f0⟩

/-! ### Hash computation -/

def schedule (block : List Bool) (t : Nat) : Word :=
  if t < 16 then .ofNat 32 (value ((Frames.cut 32 block).getD t []))
  else (schedule block (t - 3) ^^^ schedule block (t - 8) ^^^ schedule block (t - 14) ^^^ schedule block (t - 16)).rotateLeft 1

def step (t : Nat) (w : Word) (state : State) : State :=
  ⟨state.a.rotateLeft 5 + f t state.b state.c state.d + state.e + constant t + w, state.a, state.b.rotateLeft 30, state.c, state.d⟩

def rounds (block : List Bool) (count : Nat) (state : State) : State :=
  match count with
  | 0 => state
  | t + 1 => step t (schedule block t) (rounds block t state)

def compress (hash : State) (block : List Bool) : State :=
  let done := rounds block 80 hash
  ⟨hash.a + done.a, hash.b + done.b, hash.c + done.c, hash.d + done.d, hash.e + done.e⟩

def State.digest (state : State) : List Bool :=
  [state.a, state.b, state.c, state.d, state.e].flatMap fun word => bits 32 word.toNat

def sha1 (message : List Bool) : List Bool := ((Frames.cut 512 (pad message)).foldl compress .initial).digest

def hash (message : List UInt8) : List UInt8 := toOctets (sha1 (ofOctets message))

end Library.Sha1
