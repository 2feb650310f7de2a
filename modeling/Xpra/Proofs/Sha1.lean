import Xpra.Library.Loop
import Xpra.Library.Sha1
import Xpra.Net.Sha1
import Xpra.Proofs.Sha256

/-! The hash is the standard one. Its padding and its blocks are those of SHA-256. -/

namespace Xpra.Proofs.Sha1
open Xpra.Net Xpra.Net.Sha1 Library Library.Frames

/-! ### Rounds -/

theorem ch_eq (x y z : UInt32) : ((x &&& y) ||| (~~~x &&& z)).toBitVec = Sha2.ch x.toBitVec y.toBitVec z.toBitVec := by
  apply BitVec.eq_of_getElem_eq
  intro index below
  cases bit : x.toBitVec[index] <;> simp [Sha2.ch, bit]

theorem maj_eq (x y z : UInt32) :
    ((x &&& y) ||| (x &&& z) ||| (y &&& z)).toBitVec = Sha2.maj x.toBitVec y.toBitVec z.toBitVec := by
  apply BitVec.eq_of_getElem_eq
  intro index below
  cases first : x.toBitVec[index] <;> cases second : y.toBitVec[index] <;> simp [Sha2.maj, first, second]

/-- The four constants are square roots. -/
theorem constant_eq (t : Nat) : Library.Sha1.constant t =
    if t < 20 then 0x5A827999 else if t < 40 then 0x6ED9EBA1 else if t < 60 then 0x8F1BBCDC else 0xCA62C1D6 := by
  have root (number whole : Nat) (low : whole * whole ≤ number * 2 ^ 60) (high : number * 2 ^ 60 < (whole + 1) * (whole + 1)) :
      Nat.sqrt (number * 2 ^ 60) = whole :=
    Nat.eq_sqrt.mpr ⟨low, high⟩ |>.symm
  rw [Library.Sha1.constant]
  dsimp only
  rw [root 2 0x5A827999 (by decide) (by decide), root 3 0x6ED9EBA1 (by decide) (by decide),
    root 5 0x8F1BBCDC (by decide) (by decide), root 10 0xCA62C1D6 (by decide) (by decide)]
  rfl

def state (words : Words) : Library.Sha1.State :=
  ⟨words.a.toBitVec, words.b.toBitVec, words.c.toBitVec, words.d.toBitVec, words.e.toBitVec⟩

theorem round_eq (words : Words) (t : Nat) (w : UInt32) :
    state (Net.Sha1.round words t w) = Library.Sha1.step t w.toBitVec (state words) := by
  have rotated (word : UInt32) (count : Nat) : (rotateLeft word count).toBitVec = word.toBitVec.rotateLeft count := rfl
  rw [Library.Sha1.step, constant_eq, Library.Sha1.f]
  simp only [Net.Sha1.round, state, Nat.lt_succ_iff]
  by_cases first : t ≤ 19
  · simp only [if_pos first, UInt32.toBitVec_add, rotated, ch_eq]
    rfl
  by_cases second : t ≤ 39
  · simp only [if_neg first, if_pos second, UInt32.toBitVec_add, rotated]
    rfl
  by_cases third : t ≤ 59
  · simp only [if_neg first, if_neg second, if_pos third, UInt32.toBitVec_add, rotated, maj_eq]
    rfl
  · simp only [if_neg first, if_neg second, if_neg third, UInt32.toBitVec_add, rotated]
    rfl

/-! ### The message schedule -/

/-- The word of the schedule that the specification has at an index. -/
def entry (chunk : Bytes) (t : Nat) : UInt32 := .ofBitVec (Library.Sha1.schedule (Sha2.ofOctets chunk) t)

variable {chunk : Bytes}

theorem word_eq (whole : chunk.length = Sha256.BLOCK) {t : Nat} (first : t < 16) : Sha256.word chunk t = entry chunk t := by
  rw [Sha256.word_eq whole first, Sha256.entry, Sha2.schedule, if_pos first, entry, Library.Sha1.schedule, if_pos first]

theorem entry_eq {t : Nat} (later : 16 ≤ t) :
    rotateLeft (entry chunk (t - 3) ^^^ entry chunk (t - 8) ^^^ entry chunk (t - 14) ^^^ entry chunk (t - 16)) 1 = entry chunk t := by
  conv_rhs => rw [entry, Library.Sha1.schedule, if_neg (by omega)]
  rfl

theorem schedule_eq (whole : chunk.length = Sha256.BLOCK) : schedule chunk = (List.range 80).map (entry chunk) := by
  have first : (List.range 16).map (Sha256.word chunk) = (List.range 16).map (entry chunk) := by
    apply List.map_congr_left
    intro t below
    exact word_eq whole (List.mem_range.mp below)
  rw [schedule, first]
  apply Loop.grown (entry chunk) 16
  intro t later
  dsimp only
  rw [Loop.getD_table _ (by omega), Loop.getD_table _ (by omega), Loop.getD_table _ (by omega), Loop.getD_table _ (by omega),
    entry_eq later]

/-! ### Compression -/

theorem rounds_eq (whole : chunk.length = Sha256.BLOCK) (hash : Words) {count : Nat} (below : count ≤ 80) :
    state ((List.range count).foldl (fun words i => Net.Sha1.round words i ((schedule chunk).getD i 0)) hash) =
      Library.Sha1.rounds (Sha2.ofOctets chunk) count (state hash) := by
  induction count with
  | zero => rfl
  | succ count ih =>
    rw [List.range_succ, List.foldl_append, List.foldl_cons, List.foldl_nil, round_eq, ih (by omega), schedule_eq whole,
      Loop.getD_table _ (by omega)]
    rfl

theorem compress_eq (whole : chunk.length = Sha256.BLOCK) (hash : Words) :
    state (compress hash chunk) = Library.Sha1.compress (state hash) (Sha2.ofOctets chunk) := by
  rw [Library.Sha1.compress, ← rounds_eq whole hash (Nat.le_refl 80)]
  rfl

theorem bytes_eq (words : Words) : Sha2.ofOctets words.bytes = (state words).digest := by
  have word (word : UInt32) : Sha2.ofOctets (Numeral.toBig 4 word.toNat) = Sha2.bits 32 word.toBitVec.toNat :=
    Sha2.ofOctets_toBig 4 word.toNat
  simp only [Words.bytes, Library.Sha1.State.digest, state, List.flatMap_cons, List.flatMap_nil, Sha2.ofOctets_append, word,
    Sha2.ofOctets_nil]

theorem sha1_eq (data : Bytes) : sha1 data = Library.Sha1.hash data := by
  have cuts := Sha2.cut_ofOctets Sha256.BLOCK (Sha256.pad data)
  have blocks : ∀ chunk ∈ cut Sha256.BLOCK (Sha256.pad data), ∀ hash,
      state (compress hash chunk) = Library.Sha1.compress (state hash) (Sha2.ofOctets chunk) := by
    intro chunk member hash
    apply compress_eq
    exact length_of_mem_cut member
  have same : Sha2.ofOctets (sha1 data) = Library.Sha1.sha1 (Sha2.ofOctets data) := by
    rw [sha1, bytes_eq, Sha256.chunks_eq (Sha256.length_pad data), Loop.foldl_agree state Sha2.ofOctets blocks, ← cuts, Sha256.pad_eq]
    rfl
  rw [Library.Sha1.hash, ← same, Sha2.toOctets_ofOctets]

/-- The standard asks for the fewest zeros after the marker, and for the length in bits. -/
theorem pad_shortest (data : Bytes) : ∃ zeros < 64, (data.length + 9 + zeros) % 64 = 0 ∧
    Sha256.pad data = data ++ [0x80] ++ List.replicate zeros 0 ++ Numeral.toBig 8 (8 * data.length) := by
  refine ⟨(120 - (data.length + 1) % 64) % 64, Nat.mod_lt _ (by decide), by omega, ?_⟩
  rw [Sha256.pad, Sha256.padZeros_eq, List.length_append, List.length_singleton, Nat.mul_comm]

theorem sha1_standard (data : Bytes) (short : data.length < 2 ^ 60) :
    sha1 data = Library.Sha1.hash data ∧
      ∃ zeros < 64, (data.length + 9 + zeros) % 64 = 0 ∧
        Sha256.pad data = data ++ [0x80] ++ List.replicate zeros 0 ++ Numeral.toBig 8 (8 * data.length) ∧
        Numeral.big (Numeral.toBig 8 (8 * data.length)) = 8 * data.length := by
  obtain ⟨zeros, fewest, whole, padded⟩ := pad_shortest data
  have fits : 8 * data.length < 256 ^ 8 := by
    have bound : (256 : Nat) ^ 8 = 8 * 2 ^ 61 := by decide
    omega
  exact ⟨sha1_eq data, zeros, fewest, whole, padded, Numeral.big_toBig_of_lt fits⟩

/-- Fifty-six bytes leave no room for the length in the first block. -/
theorem sha1_standard_two_blocks :
    sha1 (List.replicate 56 0x61) = Library.Sha1.hash (List.replicate 56 0x61) ∧
      ∃ zeros < 64, (56 + 9 + zeros) % 64 = 0 ∧
        Sha256.pad (List.replicate 56 0x61) =
          List.replicate 56 0x61 ++ [0x80] ++ List.replicate zeros 0 ++ Numeral.toBig 8 (8 * 56) ∧
        Numeral.big (Numeral.toBig 8 (8 * 56)) = 8 * 56 :=
  sha1_standard (List.replicate 56 0x61) (by decide)

end Xpra.Proofs.Sha1
