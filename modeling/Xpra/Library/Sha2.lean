import Xpra.Library.Frames
import Xpra.Library.Numeral
import Mathlib.Analysis.SpecialFunctions.Pow.NthRootLemmas
import Mathlib.Data.Nat.Prime.Basic

/-! The hash function SHA-256 on bit strings, and the message authentication code HMAC
over any hash function, in the words of their standards. -/

namespace Library.Sha2
open Frames

abbrev Word := BitVec 32

/-! ### Functions and constants -/

def ch (x y z : Word) : Word := (x &&& y) ^^^ (~~~x &&& z)

def maj (x y z : Word) : Word := (x &&& y) ^^^ (x &&& z) ^^^ (y &&& z)

def bigSigma0 (x : Word) : Word := x.rotateRight 2 ^^^ x.rotateRight 13 ^^^ x.rotateRight 22

def bigSigma1 (x : Word) : Word := x.rotateRight 6 ^^^ x.rotateRight 11 ^^^ x.rotateRight 25

def smallSigma0 (x : Word) : Word := x.rotateRight 7 ^^^ x.rotateRight 18 ^^^ x >>> 3

def smallSigma1 (x : Word) : Word := x.rotateRight 17 ^^^ x.rotateRight 19 ^^^ x >>> 10

/-- The first sixty-four prime numbers. -/
def primes : List Nat := (List.range 312).filter Nat.Prime

/-- The first thirty-two bits of the fractional part of a root of a prime. -/
def fraction (power prime : Nat) : Word := .ofNat 32 (Nat.nthRoot power (prime * 2 ^ (32 * power)))

def constant (t : Nat) : Word := fraction 3 (primes.getD t 0)

structure State where
  a : Word
  b : Word
  c : Word
  d : Word
  e : Word
  f : Word
  g : Word
  h : Word

def State.initial : State :=
  let H (i : Nat) : Word := fraction 2 (primes.getD i 0)
  ⟨H 0, H 1, H 2, H 3, H 4, H 5, H 6, H 7⟩

/-! ### Bits, most significant first -/

def bits (width value : Nat) : List Bool := (List.range width).map fun index => value.testBit (width - 1 - index)

def value (bits : List Bool) : Nat := bits.foldl (fun value bit => 2 * value + bit.toNat) 0

/-! ### Padding -/

theorem exists_zeros (length : Nat) : ∃ count, (length + 1 + count) % 512 = 448 := ⟨960 - (length + 1) % 512, by omega⟩

/-- The smallest number of zeros after which a block has room for the length only. -/
def zeros (length : Nat) : Nat := Nat.find (exists_zeros length)

def pad (message : List Bool) : List Bool :=
  message ++ [true] ++ List.replicate (zeros message.length) false ++ bits 64 message.length

/-! ### Hash computation -/

def schedule (block : List Bool) (t : Nat) : Word :=
  if t < 16 then .ofNat 32 (value ((cut 32 block).getD t []))
  else smallSigma1 (schedule block (t - 2)) + schedule block (t - 7) + smallSigma0 (schedule block (t - 15)) +
    schedule block (t - 16)

def step (k w : Word) (state : State) : State :=
  let t1 := state.h + bigSigma1 state.e + ch state.e state.f state.g + k + w
  let t2 := bigSigma0 state.a + maj state.a state.b state.c
  ⟨t1 + t2, state.a, state.b, state.c, state.d + t1, state.e, state.f, state.g⟩

def rounds (block : List Bool) (count : Nat) (state : State) : State :=
  match count with
  | 0 => state
  | t + 1 => step (constant t) (schedule block t) (rounds block t state)

def compress (hash : State) (block : List Bool) : State :=
  let done := rounds block 64 hash
  ⟨hash.a + done.a, hash.b + done.b, hash.c + done.c, hash.d + done.d,
    hash.e + done.e, hash.f + done.f, hash.g + done.g, hash.h + done.h⟩

def State.digest (state : State) : List Bool :=
  [state.a, state.b, state.c, state.d, state.e, state.f, state.g, state.h].flatMap fun word => bits 32 word.toNat

def sha256 (message : List Bool) : List Bool := ((cut 512 (pad message)).foldl compress .initial).digest

/-! ### Octets -/

def ofOctets (octets : List UInt8) : List Bool := octets.flatMap fun octet => bits 8 octet.toNat

def toOctets (bits : List Bool) : List UInt8 := (cut 8 bits).map fun octet => UInt8.ofNat (value octet)

def hash (message : List UInt8) : List UInt8 := toOctets (sha256 (ofOctets message))

/-- The code over a hash function that works on blocks of `size` octets. -/
def hmac (hash : List UInt8 → List UInt8) (size : Nat) (key text : List UInt8) : List UInt8 :=
  let key := if key.length > size then hash key else key
  let key := key ++ List.replicate (size - key.length) 0
  let masked (pad : UInt8) := List.zipWith (· ^^^ ·) key (List.replicate size pad)
  hash (masked 0x5c ++ hash (masked 0x36 ++ text))

/-! ### Rules for bits -/

theorem bits_succ (width value : Nat) : bits (width + 1) value = bits width (value / 2) ++ [value.testBit 0] := by
  simp only [bits, List.range_succ, List.map_append, List.map_singleton]
  congr 1
  · apply List.map_congr_left
    intro index inside
    have here := List.mem_range.mp inside
    rw [show width + 1 - 1 - index = (width - 1 - index) + 1 by omega, Nat.testBit_succ]
  · simp

theorem bits_add (width more value : Nat) : bits (width + more) value = bits width (value / 2 ^ more) ++ bits more value := by
  induction more generalizing value with
  | zero => simp [bits]
  | succ more ih =>
    rw [← Nat.add_assoc, bits_succ, ih, bits_succ, List.append_assoc, Nat.div_div_eq_div_mul, pow_succ']

@[simp] theorem length_bits (width value : Nat) : (bits width value).length = width := by
  simp [bits]

theorem bits_mod (width value : Nat) : bits width (value % 2 ^ width) = bits width value := by
  apply List.map_congr_left
  intro index inside
  have here := List.mem_range.mp inside
  rw [Nat.testBit_mod_two_pow, decide_eq_true (by omega), Bool.true_and]

theorem value_append (first rest : List Bool) : value (first ++ rest) = value first * 2 ^ rest.length + value rest := by
  have general : ∀ start, rest.foldl (fun value bit => 2 * value + bit.toNat) start = start * 2 ^ rest.length + value rest := by
    induction rest with
    | nil => simp [value]
    | cons bit rest ih =>
      intro start
      rw [value, List.foldl_cons, List.foldl_cons, ih, ih, List.length_cons, pow_succ]
      ring
  rw [value, List.foldl_append]
  exact general _

theorem value_bits (width number : Nat) : value (bits width number) = number % 2 ^ width := by
  induction width generalizing number with
  | zero => simp [bits, value, Nat.mod_one]
  | succ width ih =>
    have last : value [number.testBit 0] = number % 2 := by
      rcases Nat.mod_two_eq_zero_or_one number with even | odd
      · simp [value, even]
      · simp [value, odd]
    rw [bits_succ, value_append, ih, last, pow_succ', Nat.mod_mul]
    simp only [List.length_singleton]
    ring

theorem value_bits_of_lt {width number : Nat} (fits : number < 2 ^ width) : value (bits width number) = number := by
  rw [value_bits, Nat.mod_eq_of_lt fits]

/-! ### Rules for octets -/

@[simp] theorem ofOctets_nil : ofOctets [] = [] := rfl

@[simp] theorem ofOctets_cons (octet : UInt8) (rest : List UInt8) :
    ofOctets (octet :: rest) = bits 8 octet.toNat ++ ofOctets rest := rfl

theorem ofOctets_append (first rest : List UInt8) : ofOctets (first ++ rest) = ofOctets first ++ ofOctets rest :=
  List.flatMap_append

@[simp] theorem length_ofOctets (octets : List UInt8) : (ofOctets octets).length = 8 * octets.length := by
  induction octets with
  | nil => rfl
  | cons octet rest ih =>
    rw [ofOctets_cons, List.length_append, length_bits, ih, List.length_cons]
    omega

theorem ofOctets_drop (count : Nat) (octets : List UInt8) : ofOctets (octets.drop count) = (ofOctets octets).drop (8 * count) := by
  induction octets generalizing count with
  | nil => simp
  | cons octet rest ih =>
    cases count with
    | zero => simp
    | succ count =>
      rw [List.drop_succ_cons, ih, ofOctets_cons, Nat.mul_succ, Nat.add_comm, ← List.drop_drop, List.drop_left' (length_bits 8 _)]

theorem ofOctets_take (count : Nat) (octets : List UInt8) : ofOctets (octets.take count) = (ofOctets octets).take (8 * count) := by
  induction octets generalizing count with
  | nil => simp
  | cons octet rest ih =>
    cases count with
    | zero => simp
    | succ count =>
      rw [List.take_succ_cons, ofOctets_cons, ih, ofOctets_cons, Nat.mul_succ, Nat.add_comm, List.take_add,
        List.take_left' (length_bits 8 _), List.drop_left' (length_bits 8 _)]

theorem cut_ofOctets (width : Nat) (octets : List UInt8) : cut (8 * width) (ofOctets octets) = (cut width octets).map ofOctets := by
  apply List.ext_getElem?
  intro index
  rw [List.getElem?_map, getElem?_cut, getElem?_cut, length_ofOctets, Nat.mul_div_mul_left _ _ (by decide)]
  split
  next =>
    rw [Option.map_some, ofOctets_take, ofOctets_drop]
    congr 3
    ring
  next => rfl

theorem value_ofOctets (octets : List UInt8) : value (ofOctets octets) = Numeral.big octets := by
  induction octets using List.reverseRecOn with
  | nil => rfl
  | append_singleton octets octet ih =>
    have small := octet.toNat_lt
    have last : value (ofOctets [octet]) = octet.toNat := by
      rw [ofOctets_cons, ofOctets_nil, List.append_nil, value_bits_of_lt small]
    rw [ofOctets_append, value_append, ih, last, length_ofOctets, ← Numeral.foldl_eq_big, ← Numeral.foldl_eq_big, List.foldl_append]
    rfl

theorem ofOctets_toBig (width number : Nat) : ofOctets (Numeral.toBig width number) = bits (8 * width) number := by
  induction width generalizing number with
  | zero => rfl
  | succ width ih =>
    have last : ofOctets [UInt8.ofNat number] = bits 8 number := by
      rw [ofOctets_cons, ofOctets_nil, List.append_nil, UInt8.toNat_ofNat', bits_mod]
    rw [Numeral.toBig, Numeral.toLittle_cons, List.reverse_cons, ← Numeral.toBig, ofOctets_append, ih, last, Nat.mul_succ,
      bits_add, show (2 : Nat) ^ 8 = 256 by decide]

theorem ofOctets_zeros (count : Nat) : ofOctets (List.replicate count 0) = List.replicate (8 * count) false := by
  induction count with
  | zero => rfl
  | succ count ih =>
    rw [List.replicate_succ, ofOctets_cons, ih, Nat.mul_succ, Nat.add_comm, List.replicate_add]
    rfl

theorem toOctets_ofOctets (octets : List UInt8) : toOctets (ofOctets octets) = octets := by
  have whole : cut 1 octets = octets.map fun octet => [octet] := by
    apply List.ext_getElem?
    intro index
    rw [getElem?_cut, List.getElem?_map, Nat.div_one, Nat.mul_one]
    split
    next inside =>
      rw [List.getElem?_eq_getElem inside, List.drop_eq_getElem_cons inside]
      rfl
    next outside => rw [List.getElem?_eq_none (Nat.le_of_not_lt outside), Option.map_none]
  have octet (octet : UInt8) : UInt8.ofNat (value (ofOctets [octet])) = octet := by
    rw [ofOctets_cons, ofOctets_nil, List.append_nil, value_bits_of_lt octet.toNat_lt, UInt8.ofNat_toNat]
  have cuts := cut_ofOctets 1 octets
  rw [Nat.mul_one] at cuts
  rw [toOctets, cuts, whole, List.map_map, List.map_map]
  simp only [Function.comp_def, octet, List.map_id']

/-- A mask as long as the key meets every octet of the key. -/
theorem zipWith_mask (key : List UInt8) (mask : UInt8) :
    List.zipWith (· ^^^ ·) key (List.replicate key.length mask) = key.map (· ^^^ mask) := by
  induction key with
  | nil => rfl
  | cons octet rest ih => rw [List.length_cons, List.replicate_succ, List.zipWith_cons_cons, ih, List.map_cons]

/-! ### Rules for constants -/

theorem fraction_eq {power prime : Nat} (number whole : Nat) (low : (number + 2 ^ 32 * whole) ^ power ≤ prime * 2 ^ (32 * power))
    (high : prime * 2 ^ (32 * power) < (number + 2 ^ 32 * whole + 1) ^ power) : fraction power prime = .ofNat 32 number := by
  rw [fraction, Nat.nthRoot_eq_of_le_of_lt low high]
  apply BitVec.eq_of_toNat_eq
  simp

end Library.Sha2
