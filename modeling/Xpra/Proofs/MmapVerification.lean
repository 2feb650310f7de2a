import Xpra.Proofs.MmapToken

/-! Reading, writing and verifying tokens, over every range of every area. -/

namespace Xpra.Proofs.MmapVerification
open Xpra.Net Xpra.Client Library MmapToken

variable {area : Memory} {index count token : Nat}

/-- A range that a token can be written to: its end is a position of the area. -/
structure Fits (area : Memory) (index count : Nat) : Prop where
  bounded : index + count < USIZE
  inside : index + count ≤ area.size

/-- What a range has to hold for a token to be read out of it. -/
structure Reads (area : Memory) (index count token : Nat) : Prop where
  positive : 0 < count
  fits : Fits area index count
  narrow : token < 2 ^ 128
  value : Numeral.little (area.slice index count) = token

theorem readToken_iff : readToken area index count = some token ↔ Reads area index count token := by
  rw [readToken_range]
  constructor
  · rintro ⟨positive, bounded, inside, narrow, value⟩
    exact ⟨positive, ⟨bounded, inside⟩, narrow, value⟩
  · intro reads
    exact ⟨reads.positive, reads.fits.bounded, reads.fits.inside, reads.narrow, reads.value⟩

/-- The bytes written are the digits of the token, least significant first. -/
theorem writeToken_slice (area : Memory) (value index count : Nat) :
    (writeToken area value index count).slice index count = Numeral.toLittle count value := by
  rw [Memory.slice, Numeral.toLittle, List.map_inj_left]
  intro i within
  rw [List.mem_range] at within
  rw [writeToken_byte, if_pos (by omega), Nat.add_sub_cancel_left]

theorem writeToken_outside (area : Memory) (value index count : Nat) {i : Nat} (outside : i < index ∨ index + count ≤ i) :
    (writeToken area value index count).byte i = area.byte i := by
  rw [writeToken_byte, if_neg (by omega)]

/-- Eight bytes hold any token, and wider ranges are padded with zeros. -/
theorem writeToken_reads (value : UInt64) (wide : TOKEN_BYTES ≤ count) (fits : Fits area index count) :
    Reads (writeToken area value.toNat index count) index count value.toNat where
  positive := by
    have : 0 < TOKEN_BYTES := by decide
    omega
  fits := ⟨fits.bounded, by rw [writeToken_size]; exact fits.inside⟩
  narrow := by
    have := value.toNat_lt
    omega
  value := by
    have room : value.toNat < 256 ^ count := by
      calc value.toNat < 256 ^ TOKEN_BYTES := value.toNat_lt
        _ ≤ 256 ^ count := Nat.pow_le_pow_right (by decide) wide
    rw [writeToken_slice, Numeral.little_toLittle, Nat.mod_eq_of_lt room]

/-- Where `gen_token` puts its token: behind the header and within the area. -/
structure Placed (before after : Memory) (index : Nat) : Prop where
  behind : HEADER_SIZE ≤ index
  inside : index + TOKEN_BYTES ≤ before.size
  header : ∀ i < HEADER_SIZE, after.byte i = before.byte i

theorem genToken_placed (large : 16 ≤ area.size) (first second : UInt64) :
    Placed area (genToken area first second).1 (genToken area first second).2.2 := by
  have drawn : (genToken area first second).2.2 = HEADER_SIZE + second.toNat % (area.size - HEADER_SIZE - TOKEN_BYTES + 1) := rfl
  have below := Nat.mod_lt second.toNat (Nat.succ_pos (area.size - HEADER_SIZE - TOKEN_BYTES))
  simp only [HEADER_SIZE, TOKEN_BYTES, Nat.succ_eq_add_one] at drawn below
  refine ⟨?_, ?_, ?_⟩
  · simp only [HEADER_SIZE]
    omega
  · simp only [TOKEN_BYTES]
    omega
  · intro i early
    apply writeToken_outside
    exact .inl (by simp only [HEADER_SIZE] at early ⊢; omega)

/-- The server claims a token for its area that is not what stands there. -/
def Refuted (area : MmapArea) (hello : Yaml) : Prop :=
  ∃ description token, serverArea hello = some description ∧
    (yamlHashBool description "enabled").getD true = true ∧
    (yamlHash description "token").bind yamlU128 = some token ∧
    let index := (hashUsize description "token_index").getD 0
    let count := (hashUsize description "token_bytes").getD 128
    (∀ found, ¬ Reads area.memory index count found) ∨ ∃ found, Reads area.memory index count found ∧ found ≠ 0 ∧ found ≠ token

theorem checkServerCaps_error_iff (area : MmapArea) (hello : Yaml) :
    (∃ message, area.checkServerCaps hello = .error message) ↔ Refuted area hello := by
  simp only [MmapArea.checkServerCaps, serverArea, Refuted, ← readToken_iff]
  cases yamlHash hello "mmap" with
  | none => simp
  | some caps =>
    simp only [Option.map_some, Option.some.injEq, exists_and_left, exists_eq_left']
    generalize (yamlHash caps "write").getD caps = description
    cases (yamlHashBool description "enabled").getD true with
    | false => simp
    | true =>
      cases (yamlHash description "token").bind yamlU128 with
      | none => simp
      | some token =>
        cases readToken area.memory ((hashUsize description "token_index").getD 0)
            ((hashUsize description "token_bytes").getD 128) with
        | none => simp
        | some found =>
          by_cases same : found = token
          · simp [same]
          · by_cases untouched : found = 0
            · subst untouched
              simp [same]
            · simp [same, untouched]

/-- Tokens are read where their bytes spell one, come back as they were written, leave the
rest of the area alone, and end the session exactly when the server's is refuted. -/
theorem tokens_read_back :
    (∀ (area : Memory) (index count token : Nat), readToken area index count = some token ↔ Reads area index count token) ∧
    (∀ (area : Memory) (token : UInt64) (index count : Nat), Fits area index count →
      (TOKEN_BYTES ≤ count → readToken (writeToken area token.toNat index count) index count = some token.toNat) ∧
      ∀ i, i < index ∨ index + count ≤ i → (writeToken area token.toNat index count).byte i = area.byte i) ∧
    (∀ (area : Memory) (first second : UInt64), 16 ≤ area.size →
      Placed area (genToken area first second).1 (genToken area first second).2.2) ∧
    (∀ (area : MmapArea) (hello : Yaml), (∃ message, area.checkServerCaps hello = .error message) ↔ Refuted area hello) := by
  refine ⟨?_, ?_, ?_, checkServerCaps_error_iff⟩
  · intro area index count token
    exact readToken_iff
  · intro area token index count fits
    constructor
    · intro wide
      exact readToken_iff.mpr (writeToken_reads token wide fits)
    · intro i outside
      exact writeToken_outside area token.toNat index count outside
  · intro area first second large
    exact genToken_placed large first second

/-- Sixteen bytes that hold a token, with more on either side of them. -/
theorem tokens_read_back_padded :
    readToken (writeToken (.zeros 32) (0x0102 : UInt64).toNat 8 16) 8 16 = some 258 ∧
      (writeToken (.zeros 32) (0x0102 : UInt64).toNat 8 16).byte 24 = 0 ∧
      Placed (.zeros 32) (genToken (.zeros 32) 1 5).1 (genToken (.zeros 32) 1 5).2.2 := by
  obtain ⟨-, written, drawn, -⟩ := tokens_read_back
  obtain ⟨readBack, outside⟩ := written (.zeros 32) 0x0102 8 16 ⟨by decide, by decide⟩
  exact ⟨readBack (by decide), outside 24 (by decide), drawn (.zeros 32) 1 5 (by decide)⟩

end Xpra.Proofs.MmapVerification
