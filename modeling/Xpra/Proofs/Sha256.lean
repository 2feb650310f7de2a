import Xpra.Library.Loop
import Xpra.Library.Sha2
import Xpra.Net.Sha256

/-! The hash and the authentication code are the standard ones. Bits are compared with
bits, so what the code does with bytes and words is not part of the specification. -/

namespace Xpra.Proofs.Sha256
open Xpra.Net Xpra.Net.Sha256 Library Library.Frames

/-! ### Constants -/

theorem prime_iff {number : Nat} (small : number < 324) :
    Nat.Prime number ↔ 2 ≤ number ∧ ∀ factor < 18, 2 ≤ factor → factor < number → ¬ factor ∣ number := by
  constructor
  · intro prime
    refine ⟨prime.two_le, fun factor _ two smaller divides => ?_⟩
    rcases prime.eq_one_or_self_of_dvd factor divides with one | same
    · omega
    · omega
  · intro tested
    obtain ⟨large, none⟩ := tested
    refine Nat.prime_def_le_sqrt.mpr ⟨large, fun factor two below => ?_⟩
    have root : number.sqrt < 18 := Nat.sqrt_lt.mpr small
    have smaller : factor < number := below.trans_lt (Nat.sqrt_lt_self (by omega))
    exact none factor (below.trans_lt root) two smaller

/-- The first sixty-four primes, written out. -/
def primeTable : List Nat := [
  2, 3, 5, 7, 11, 13, 17, 19, 23, 29, 31, 37, 41, 43, 47, 53, 59, 61, 67, 71, 73, 79, 83, 89, 97, 101, 103, 107, 109, 113, 127,
  131, 137, 139, 149, 151, 157, 163, 167, 173, 179, 181, 191, 193, 197, 199, 211, 223, 227, 229, 233, 239, 241, 251, 257, 263,
  269, 271, 277, 281, 283, 293, 307, 311]

theorem primes_eq : Sha2.primes = primeTable := by
  have tested : Sha2.primes = (List.range 312).filter fun number =>
      decide (2 ≤ number ∧ ∀ factor < 18, 2 ≤ factor → factor < number → ¬ factor ∣ number) := by
    apply List.filter_congr
    intro number below
    rw [decide_eq_decide]
    exact prime_iff ((List.mem_range.mp below).trans (by decide))
  rw [tested]
  decide +kernel

theorem constant_eq {t : Nat} (round : t < 64) : Sha2.constant t = (K.getD t 0).toBitVec := by
  have roots : ∀ t < 64, ∃ whole < 8,
      ((K.getD t 0).toNat + 2 ^ 32 * whole) ^ 3 ≤ primeTable.getD t 0 * 2 ^ (32 * 3) ∧
        primeTable.getD t 0 * 2 ^ (32 * 3) < ((K.getD t 0).toNat + 2 ^ 32 * whole + 1) ^ 3 := by
    decide +kernel
  obtain ⟨whole, -, low, high⟩ := roots t round
  rw [Sha2.constant, primes_eq, Sha2.fraction_eq _ whole low high]
  exact BitVec.eq_of_toNat_eq (Nat.mod_eq_of_lt (K.getD t 0).toNat_lt)

def state (words : Words) : Sha2.State :=
  ⟨words.a.toBitVec, words.b.toBitVec, words.c.toBitVec, words.d.toBitVec,
    words.e.toBitVec, words.f.toBitVec, words.g.toBitVec, words.h.toBitVec⟩

theorem initial_eq : Sha2.State.initial = state .initial := by
  have root (i value whole : Nat) (low : (value + 2 ^ 32 * whole) ^ 2 ≤ primeTable.getD i 0 * 2 ^ (32 * 2))
      (high : primeTable.getD i 0 * 2 ^ (32 * 2) < (value + 2 ^ 32 * whole + 1) ^ 2) :
      Sha2.fraction 2 (Sha2.primes.getD i 0) = .ofNat 32 value := by
    rw [primes_eq, Sha2.fraction_eq value whole low high]
  rw [Sha2.State.initial]
  simp only []
  rw [root 0 0x6a09e667 1 (by decide) (by decide), root 1 0xbb67ae85 1 (by decide) (by decide),
    root 2 0x3c6ef372 2 (by decide) (by decide), root 3 0xa54ff53a 2 (by decide) (by decide),
    root 4 0x510e527f 3 (by decide) (by decide), root 5 0x9b05688c 3 (by decide) (by decide),
    root 6 0x1f83d9ab 4 (by decide) (by decide), root 7 0x5be0cd19 4 (by decide) (by decide)]
  rfl

/-! ### Words -/

theorem rotateRight_toBitVec (word count : UInt32) (some : 0 < count.toNat) (few : count.toNat < 32) :
    (rotateRight word count).toBitVec = word.toBitVec.rotateRight count.toNat := by
  have difference : (32 - count).toNat = 32 - count.toNat := UInt32.toNat_sub_of_le 32 count (UInt32.le_iff_toNat_le.mpr few.le)
  have right : (count.toBitVec % 32).toNat = count.toNat := Nat.mod_eq_of_lt few
  have left : ((32 - count).toBitVec % 32).toNat = 32 - count.toNat := by
    rw [← difference]
    apply Nat.mod_eq_of_lt
    rw [UInt32.toNat_toBitVec, difference]
    exact Nat.sub_lt (by decide) some
  rw [rotateRight, BitVec.rotateRight_def, Nat.mod_eq_of_lt few, UInt32.toBitVec_or, UInt32.toBitVec_shiftRight,
    UInt32.toBitVec_shiftLeft, BitVec.ushiftRight_eq', BitVec.shiftLeft_eq', right, left]

variable (x y z : UInt32)

theorem bigSigma0_eq : (rotateRight x 2 ^^^ rotateRight x 13 ^^^ rotateRight x 22).toBitVec = Sha2.bigSigma0 x.toBitVec := by
  rw [UInt32.toBitVec_xor, UInt32.toBitVec_xor, rotateRight_toBitVec x 2 (by decide) (by decide),
    rotateRight_toBitVec x 13 (by decide) (by decide), rotateRight_toBitVec x 22 (by decide) (by decide)]
  rfl

theorem bigSigma1_eq : (rotateRight x 6 ^^^ rotateRight x 11 ^^^ rotateRight x 25).toBitVec = Sha2.bigSigma1 x.toBitVec := by
  rw [UInt32.toBitVec_xor, UInt32.toBitVec_xor, rotateRight_toBitVec x 6 (by decide) (by decide),
    rotateRight_toBitVec x 11 (by decide) (by decide), rotateRight_toBitVec x 25 (by decide) (by decide)]
  rfl

theorem smallSigma0_eq : (rotateRight x 7 ^^^ rotateRight x 18 ^^^ x >>> 3).toBitVec = Sha2.smallSigma0 x.toBitVec := by
  rw [UInt32.toBitVec_xor, UInt32.toBitVec_xor, rotateRight_toBitVec x 7 (by decide) (by decide),
    rotateRight_toBitVec x 18 (by decide) (by decide)]
  rfl

theorem smallSigma1_eq : (rotateRight x 17 ^^^ rotateRight x 19 ^^^ x >>> 10).toBitVec = Sha2.smallSigma1 x.toBitVec := by
  rw [UInt32.toBitVec_xor, UInt32.toBitVec_xor, rotateRight_toBitVec x 17 (by decide) (by decide),
    rotateRight_toBitVec x 19 (by decide) (by decide)]
  rfl

theorem ch_eq : ((x &&& y) ^^^ (~~~x &&& z)).toBitVec = Sha2.ch x.toBitVec y.toBitVec z.toBitVec := rfl

theorem maj_eq : ((x &&& y) ^^^ (x &&& z) ^^^ (y &&& z)).toBitVec = Sha2.maj x.toBitVec y.toBitVec z.toBitVec := rfl

theorem round_eq (words : Words) (k w : UInt32) : state (round words k w) = Sha2.step k.toBitVec w.toBitVec (state words) := by
  simp only [Sha256.round, state, Sha2.step, UInt32.toBitVec_add, bigSigma0_eq, bigSigma1_eq, ch_eq, maj_eq]

/-! ### The message schedule -/

/-- One turn of the loop that fills the schedule. -/
def extend (w : List UInt32) (i : Nat) : List UInt32 :=
  let at' (back : Nat) := w.getD (i - back) 0
  let s0 := rotateRight (at' 15) 7 ^^^ rotateRight (at' 15) 18 ^^^ (at' 15 >>> 3)
  let s1 := rotateRight (at' 2) 17 ^^^ rotateRight (at' 2) 19 ^^^ (at' 2 >>> 10)
  w ++ [at' 16 + s0 + at' 7 + s1]

/-- The word of the schedule that the specification has at an index. -/
def entry (chunk : Bytes) (t : Nat) : UInt32 := .ofBitVec (Sha2.schedule (Sha2.ofOctets chunk) t)

theorem word_eq {chunk : Bytes} (whole : chunk.length = BLOCK) {t : Nat} (first : t < 16) : word chunk t = entry chunk t := by
  have cuts : cut 32 (Sha2.ofOctets chunk) = (cut 4 chunk).map Sha2.ofOctets := Sha2.cut_ofOctets 4 chunk
  have here : t < chunk.length / 4 := by
    rwa [whole]
  rw [entry, Sha2.schedule, if_pos first, cuts, List.getD_eq_getElem?_getD, List.getElem?_map, getElem?_cut, if_pos here,
    Option.map_some, Option.getD_some, Sha2.value_ofOctets]
  rfl

theorem extend_eq (chunk : Bytes) {i : Nat} (later : 16 ≤ i) :
    extend ((List.range i).map (entry chunk)) i = (List.range i).map (entry chunk) ++ [entry chunk i] := by
  rw [extend]
  dsimp only
  rw [Loop.getD_table _ (by omega), Loop.getD_table _ (by omega), Loop.getD_table _ (by omega), Loop.getD_table _ (by omega)]
  congr 2
  apply UInt32.toBitVec_inj.mp
  conv_rhs => rw [entry, Sha2.schedule, if_neg (by omega)]
  rw [UInt32.toBitVec_add, UInt32.toBitVec_add, UInt32.toBitVec_add, smallSigma0_eq, smallSigma1_eq]
  simp only [entry]
  ac_rfl

theorem schedule_eq {chunk : Bytes} (whole : chunk.length = BLOCK) : schedule chunk = (List.range 64).map (entry chunk) := by
  have first : (List.range 16).map (word chunk) = (List.range 16).map (entry chunk) := by
    apply List.map_congr_left
    intro t below
    exact word_eq whole (List.mem_range.mp below)
  rw [schedule, first]
  exact Loop.grown (entry chunk) 16 (fun i later => extend_eq chunk later) 48

/-! ### Compression -/

theorem rounds_eq {chunk : Bytes} (whole : chunk.length = BLOCK) (hash : Words) {count : Nat} (below : count ≤ 64) :
    state ((List.range count).foldl (fun words i => round words (K.getD i 0) ((schedule chunk).getD i 0)) hash) =
      Sha2.rounds (Sha2.ofOctets chunk) count (state hash) := by
  induction count with
  | zero => rfl
  | succ count ih =>
    rw [List.range_succ, List.foldl_append, List.foldl_cons, List.foldl_nil, round_eq, ih (by omega), schedule_eq whole,
      Loop.getD_table _ (by omega), ← constant_eq (by omega)]
    rfl

theorem compress_eq {chunk : Bytes} (whole : chunk.length = BLOCK) (hash : Words) :
    state (compress hash chunk) = Sha2.compress (state hash) (Sha2.ofOctets chunk) := by
  rw [Sha2.compress, ← rounds_eq whole hash (Nat.le_refl 64)]
  rfl

/-! ### Padding and blocks -/

theorem padZeros_eq (message : Bytes) :
    padZeros message = message ++ List.replicate ((120 - message.length % 64) % 64) 0 := by
  induction message using padZeros.induct with
  | case1 message more ih =>
    have short : message.length % 64 ≠ 56 := more
    have one : (120 - message.length % 64) % 64 = (120 - (message ++ [0]).length % 64) % 64 + 1 := by
      rw [List.length_append, List.length_singleton]
      omega
    rw [padZeros, if_pos more, ih, one, List.replicate_succ, List.append_assoc, List.singleton_append]
  | case2 message full =>
    have none : (120 - message.length % 64) % 64 = 0 := by
      rw [not_not] at full
      rw [show message.length % 64 = 56 from full]
    rw [padZeros, if_neg full, none, List.replicate_zero, List.append_nil]

/-- No smaller number of zeros fills the block. -/
theorem zeros_eq (length : Nat) : Sha2.zeros (8 * length) = 7 + 8 * ((120 - (length + 1) % 64) % 64) := by
  rw [Sha2.zeros, Nat.find_eq_iff]
  constructor
  · omega
  · intro fewer less
    omega

theorem pad_eq (data : Bytes) : Sha2.ofOctets (pad data) = Sha2.pad (Sha2.ofOctets data) := by
  have marker : Sha2.ofOctets [0x80] = [true] ++ List.replicate 7 false := rfl
  rw [pad, padZeros_eq, Sha2.ofOctets_append, Sha2.ofOctets_append, Sha2.ofOctets_append, marker, Sha2.ofOctets_zeros,
    Sha2.ofOctets_toBig, Sha2.pad, Sha2.length_ofOctets, zeros_eq, List.length_append, List.length_singleton,
    Nat.mul_comm data.length, List.replicate_add]
  simp only [List.append_assoc]

theorem length_pad (data : Bytes) : (pad data).length % BLOCK = 0 := by
  rw [pad, padZeros_eq, BLOCK]
  simp only [List.length_append, List.length_replicate, Numeral.toBig_length, List.length_singleton]
  omega

theorem chunks_eq {message : Bytes} (whole : message.length % BLOCK = 0) : chunks message = cut BLOCK message := by
  have count : (message.length + (BLOCK - 1)) / BLOCK = message.length / BLOCK := by
    rw [BLOCK] at whole ⊢
    omega
  rw [chunks, count, cut]

theorem bytes_eq (words : Words) : Sha2.ofOctets words.bytes = (state words).digest := by
  have word (word : UInt32) : Sha2.ofOctets (Numeral.toBig 4 word.toNat) = Sha2.bits 32 word.toBitVec.toNat :=
    Sha2.ofOctets_toBig 4 word.toNat
  simp only [Words.bytes, Sha2.State.digest, state, List.flatMap_cons, List.flatMap_nil, Sha2.ofOctets_append, word,
    Sha2.ofOctets_nil]

theorem sha256_eq (data : Bytes) : sha256 data = Sha2.hash data := by
  have blocks : ∀ chunk ∈ cut BLOCK (pad data), ∀ hash,
      state (compress hash chunk) = Sha2.compress (state hash) (Sha2.ofOctets chunk) := by
    intro chunk member hash
    apply compress_eq
    exact length_of_mem_cut member
  have cuts : cut 512 (Sha2.ofOctets (pad data)) = (cut BLOCK (pad data)).map Sha2.ofOctets := Sha2.cut_ofOctets BLOCK (pad data)
  have same : Sha2.ofOctets (sha256 data) = Sha2.sha256 (Sha2.ofOctets data) := by
    rw [sha256, bytes_eq, chunks_eq (length_pad data), Loop.foldl_agree state Sha2.ofOctets blocks, Sha2.sha256, ← pad_eq, cuts, initial_eq]
  rw [Sha2.hash, ← same, Sha2.toOctets_ofOctets]

theorem length_sha256 (data : Bytes) : (sha256 data).length = 32 := by
  simp [sha256, Words.bytes]

/-! ### The authentication code -/

theorem length_hmacBlock (key : Bytes) : (hmacBlock key).length = BLOCK := by
  rw [hmacBlock]
  split
  next => rw [List.length_append, List.length_replicate, length_sha256]; rfl
  next short =>
    rw [List.length_append, List.length_replicate]
    omega

theorem hmac_eq (key msg : Bytes) : hmacSha256 key msg = Sha2.hmac Sha2.hash BLOCK key msg := by
  have masked (mask : UInt8) : (hmacBlock key).map (mask ^^^ ·) =
      List.zipWith (· ^^^ ·) (hmacBlock key) (List.replicate BLOCK mask) := by
    rw [← length_hmacBlock key, Sha2.zipWith_mask]
    exact List.map_congr_left fun byte _ => UInt8.xor_comm mask byte
  have hash : Sha2.hash = sha256 := funext fun data => (sha256_eq data).symm
  rw [hmacSha256, masked, masked, hash]
  rfl

/-! ### The hexadecimal form -/

/-- The value of a lowercase hexadecimal digit. -/
def digitValue (digit : Char) : Option UInt8 :=
  if '0' ≤ digit ∧ digit ≤ '9' then some (UInt8.ofNat (digit.toNat - '0'.toNat))
  else if 'a' ≤ digit ∧ digit ≤ 'f' then some (UInt8.ofNat (digit.toNat - 'a'.toNat + 10))
  else none

/-- Pairs of lowercase digits as bytes, the more significant digit first. -/
def ofHex : List Char → Option Bytes
  | [] => some []
  | high :: low :: rest => do
    let high ← digitValue high
    let low ← digitValue low
    let rest ← ofHex rest
    return (high * 16 + low) :: rest
  | [_] => none

theorem digits_of_byte (byte : UInt8) : digitValue (hexDigit (byte >>> 4)) = some (byte >>> 4) ∧
    digitValue (hexDigit (byte &&& 0xf)) = some (byte &&& 0xf) ∧ (byte >>> 4) * 16 + (byte &&& 0xf) = byte := by
  have every : ∀ value < 256, let byte := UInt8.ofNat value
      digitValue (hexDigit (byte >>> 4)) = some (byte >>> 4) ∧
        digitValue (hexDigit (byte &&& 0xf)) = some (byte &&& 0xf) ∧ (byte >>> 4) * 16 + (byte &&& 0xf) = byte := by
    decide +kernel
  have here := every byte.toNat byte.toNat_lt
  rwa [UInt8.ofNat_toNat] at here

theorem toHex_toList (bytes : Bytes) :
    (toHex bytes).toList = bytes.flatMap fun (byte : UInt8) => [hexDigit (byte >>> 4), hexDigit (byte &&& 0xf)] :=
  String.toList_ofList

theorem length_toHex (bytes : Bytes) : (toHex bytes).toList.length = 2 * bytes.length := by
  rw [toHex_toList]
  induction bytes with
  | nil => rfl
  | cons byte rest ih =>
    rw [List.flatMap_cons, List.length_append, ih, List.length_cons]
    simp only [List.length_cons, List.length_nil]
    omega

theorem ofHex_toHex (bytes : Bytes) : ofHex (toHex bytes).toList = some bytes := by
  rw [toHex_toList]
  induction bytes with
  | nil => rfl
  | cons byte rest ih =>
    obtain ⟨high, low, same⟩ := digits_of_byte byte
    rw [List.flatMap_cons, List.cons_append, List.cons_append, List.nil_append, ofHex, high, low, ih]
    exact congrArg (fun first => some (first :: rest)) same

/-- The hash is SHA-256, the code is HMAC over it, and its hexadecimal form is sixty-four
lowercase digits that spell the thirty-two bytes. -/
theorem hmac_sha256_standard (data key msg : Bytes) :
    sha256 data = Sha2.hash data ∧ hmacSha256 key msg = Sha2.hmac Sha2.hash 64 key msg ∧
      (hmacSha256 key msg).length = 32 ∧ (hmacSha256Hex key msg).toList.length = 64 ∧
      ofHex (hmacSha256Hex key msg).toList = some (hmacSha256 key msg) := by
  have length : (hmacSha256 key msg).length = 32 := length_sha256 _
  refine ⟨sha256_eq data, hmac_eq key msg, length, ?_, ofHex_toHex _⟩
  rw [hmacSha256Hex, length_toHex, length]

end Xpra.Proofs.Sha256
