import Xpra.Client.Mmap

/-! What a token read out of the area proves. An area nobody has written to but
the client spells a known number at every position, and a hello that claims such
a number passes for a server that found the area. -/

namespace Xpra.Proofs.MmapToken
open Xpra.Net Xpra.Client Library

variable (area : Memory) (index count : Nat)

theorem slice_succ : area.slice index (count + 1) = area.slice index count ++ [area.byte (index + count)] := by
  simp [Memory.slice, List.range_succ]

theorem little_slice_lt : Numeral.little (area.slice index count) < 256 ^ count := by
  simpa using Numeral.little_lt (area.slice index count)

private theorem or_shift (value : Nat) (byte : UInt8) (place : Nat) (fits : value < 256 ^ place) :
    value ||| byte.toNat <<< (8 * place) = value + 256 ^ place * byte.toNat := by
  have base : 256 ^ place = 2 ^ (8 * place) := by rw [Nat.pow_mul]
  rw [base] at fits ⊢
  rw [Nat.or_comm, ← Nat.shiftLeft_add_eq_or_of_lt fits, Nat.shiftLeft_eq]
  ring

/-- The loop computes the little-endian value of the bytes as long as it stays
within 128 bits. -/
theorem readTokenLoop_eq :
    readTokenLoop area index count =
      if Numeral.little (area.slice index count) < 2 ^ 128 then some (Numeral.little (area.slice index count))
      else none := by
  induction count with
  | zero => rfl
  | succ count ih =>
    have loop : readTokenLoop area index (count + 1) = (readTokenLoop area index count).bind fun token =>
        if count ≥ 16 then if area.byte (index + count) ≠ 0 then none else some token
        else some (token ||| (area.byte (index + count)).toNat <<< (8 * count)) := by
      simp only [readTokenLoop, List.range_succ, List.foldlM_append, List.foldlM_cons, List.foldlM_nil, bind_pure]
      rfl
    have bound := little_slice_lt area index count
    have bound' := little_slice_lt area index (count + 1)
    have value : Numeral.little (area.slice index (count + 1)) =
        Numeral.little (area.slice index count) + 256 ^ count * (area.byte (index + count)).toNat := by
      rw [slice_succ, Numeral.little_append]
      simp
    rw [loop, ih]
    by_cases wide : count ≥ 16
    · by_cases clear : area.byte (index + count) = 0
      · rw [value]
        simp only [clear, wide, if_true, ne_eq, not_true_eq_false, if_false]
        split <;> simp_all
      · have positive : 0 < (area.byte (index + count)).toNat := by
          have : (area.byte (index + count)).toNat ≠ 0 := fun zero => clear (UInt8.toNat_inj.mp zero)
          omega
        have large : 2 ^ 128 ≤ 256 ^ count := by
          calc (2 : Nat) ^ 128 = 256 ^ 16 := by norm_num
            _ ≤ 256 ^ count := Nat.pow_le_pow_right (by decide) wide
        have beyond : ¬ Numeral.little (area.slice index (count + 1)) < 2 ^ 128 := by
          have := Nat.le_mul_of_pos_right (256 ^ count) positive
          rw [value]
          omega
        rw [if_neg beyond]
        simp only [wide, if_true, ne_eq, clear, not_false_eq_true]
        split <;> rfl
    · have small : 256 ^ (count + 1) ≤ 2 ^ 128 := by
        calc 256 ^ (count + 1) ≤ 256 ^ 16 := Nat.pow_le_pow_right (by decide) (by omega)
          _ = 2 ^ 128 := by norm_num
      have smaller : 256 ^ count ≤ 256 ^ (count + 1) := Nat.pow_le_pow_right (by decide) (by omega)
      rw [if_pos (by omega), if_pos (by omega), value, ← or_shift _ _ _ bound]
      simp [wide]

/-- `read_token` takes exactly the ranges that are not empty and end at a position of
the area, and values of at most 128 bits. -/
theorem readToken_range {value : Nat} : readToken area index count = some value ↔
    0 < count ∧ index + count < USIZE ∧ index + count ≤ area.size ∧ value < 2 ^ 128 ∧
      Numeral.little (area.slice index count) = value := by
  rw [readToken, readTokenLoop_eq]
  constructor
  · intro found
    split at found
    · cases found
    next usable =>
      simp only [Option.ite_none_right_eq_some, Option.some.injEq] at found
      obtain ⟨small, rfl⟩ := found
      exact ⟨by omega, by omega, by omega, small, rfl⟩
  · rintro ⟨positive, bounded, inside, small, rfl⟩
    rw [if_neg (by omega), if_pos small]

/-- In an area of a size that the client makes, every range that fits ends at a position. -/
theorem readToken_eq_some {value : Nat} (sized : area.size ≤ MAX_SIZE) :
    readToken area index count = some value ↔
      0 < count ∧ index + count ≤ area.size ∧ value < 2 ^ 128 ∧ Numeral.little (area.slice index count) = value := by
  have bounded : index + count ≤ area.size → index + count < USIZE := by
    intro inside
    simp only [MAX_SIZE, USIZE] at sized ⊢
    omega
  rw [readToken_range]
  constructor
  · rintro ⟨positive, -, inside, small, read⟩
    exact ⟨positive, inside, small, read⟩
  · rintro ⟨positive, inside, small, read⟩
    exact ⟨positive, bounded inside, inside, small, read⟩

/-- `write_token` lays the value out at its place and touches nothing else. -/
theorem writeToken_byte (value i : Nat) :
    (writeToken area value index count).byte i =
      if index ≤ i ∧ i < index + count then Numeral.digit value (i - index) else area.byte i := by
  induction count generalizing area value index with
  | zero =>
    rw [if_neg (by omega)]
    rfl
  | succ count ih =>
    rw [writeToken, ih]
    by_cases first : i = index
    · subst first
      rw [if_neg (by omega), if_pos (by omega)]
      simp [Memory.set, Numeral.digit]
    · by_cases inside : index ≤ i ∧ i < index + (count + 1)
      · rw [if_pos (by omega), if_pos inside]
        have place : i - index = i - (index + 1) + 1 := by omega
        rw [place, Numeral.digit, Numeral.digit, Nat.div_div_eq_div_mul, pow_succ, Nat.mul_comm 256]
      · rw [if_neg (by omega), if_neg inside]
        simp [Memory.set, first]

/-- An area as created spells its token shifted to its place, and zeros. -/
theorem create_byte (path : String) (size : AreaSize) (first second : UInt64) (i : Nat) :
    (MmapArea.create path size first second).memory.byte i =
      Numeral.digit (first.toNat * 256 ^ (MmapArea.create path size first second).tokenIndex) i := by
  generalize place : (MmapArea.create path size first second).tokenIndex = index
  have written : (MmapArea.create path size first second).memory =
      writeToken (.zeros size.val) first.toNat index TOKEN_BYTES := by
    rw [← place]
    rfl
  have narrow : first.toNat < 256 ^ TOKEN_BYTES := first.toNat_lt
  rw [written, writeToken_byte]
  apply UInt8.toNat_inj.mp
  by_cases inside : index ≤ i ∧ i < index + TOKEN_BYTES
  · rw [if_pos inside, Numeral.digit_toNat, Numeral.digit_toNat]
    obtain ⟨offset, rfl⟩ := Nat.exists_eq_add_of_le inside.1
    rw [Nat.add_sub_cancel_left, pow_add, ← Nat.div_div_eq_div_mul, Nat.mul_div_cancel _ (by positivity)]
  · rw [if_neg inside, Numeral.digit_toNat]
    by_cases below : i < index
    · obtain ⟨offset, rfl⟩ := Nat.exists_eq_add_of_lt below
      have shifted : first.toNat * 256 ^ (i + offset + 1) = first.toNat * 256 ^ offset * 256 * 256 ^ i := by ring
      rw [shifted, Nat.mul_div_cancel _ (by positivity), Nat.mul_mod_left]
      rfl
    · obtain ⟨offset, rfl⟩ := Nat.exists_eq_add_of_le (Nat.le_of_not_lt below)
      have beyond : first.toNat < 256 ^ offset :=
        Nat.lt_of_lt_of_le narrow (Nat.pow_le_pow_right (by decide) (by omega))
      rw [pow_add, ← Nat.div_div_eq_div_mul, Nat.mul_div_cancel _ (by positivity), Nat.div_eq_of_lt beyond]
      rfl

/-- The number that zeros and the client's own token spell in a range. -/
def spelled (area : MmapArea) (index count : Nat) : Nat :=
  area.token.toNat * 256 ^ area.tokenIndex / 256 ^ index % 256 ^ count

private theorem create_spells (path : String) (size : AreaSize) (first second : UInt64) :
    Numeral.little ((MmapArea.create path size first second).memory.slice index count) =
      spelled (.create path size first second) index count := by
  have digits : (MmapArea.create path size first second).memory.slice index count =
      Numeral.toLittle count (first.toNat * 256 ^ (MmapArea.create path size first second).tokenIndex / 256 ^ index) := by
    rw [Memory.slice, Numeral.toLittle, List.map_inj_left]
    intro i _
    rw [create_byte, Numeral.digit, Numeral.digit, Nat.div_div_eq_div_mul, pow_add]
  rw [digits, Numeral.little_toLittle]
  rfl

def serverArea (hello : Yaml) : Option Yaml :=
  (yamlHash hello "mmap").map fun caps => (yamlHash caps "write").getD caps

private theorem yamlU128_lt {value : Yaml} {token : Nat} (parsed : yamlU128 value = some token) :
    token < 2 ^ 128 := by
  have decimal (text : String) (read : parseU128 text = some token) : token < 2 ^ 128 := by
    simp only [parseU128, Option.ite_none_left_eq_some, Option.ite_none_right_eq_some, Option.some.injEq] at read
    obtain ⟨_, small, rfl⟩ := read
    exact small
  cases value with
  | integer number =>
    have bound := number.toInt_lt
    simp only [yamlU128] at parsed
    split at parsed <;> cases parsed
    omega
  | real digits => exact decimal digits parsed
  | string text => exact decimal text parsed
  | _ => cases parsed

/-- `check_server_caps` succeeds when the claimed number is found where the hello
says it is. -/
theorem checkServerCaps_true_iff (area : MmapArea) (hello : Yaml) :
    area.checkServerCaps hello = .ok true ↔
      ∃ description token, serverArea hello = some description ∧
        (yamlHashBool description "enabled").getD true = true ∧
        (yamlHash description "token").bind yamlU128 = some token ∧
        readToken area.memory ((hashUsize description "token_index").getD 0)
          ((hashUsize description "token_bytes").getD 128) = some token := by
  simp only [MmapArea.checkServerCaps, serverArea]
  cases yamlHash hello "mmap" with
  | none => simp
  | some caps =>
    simp only [Option.map_some, Option.some.injEq, exists_and_left, exists_eq_left']
    cases enabled : (yamlHashBool ((yamlHash caps "write").getD caps) "enabled").getD true with
    | false => simp
    | true =>
      cases claimed : (yamlHash ((yamlHash caps "write").getD caps) "token").bind yamlU128 with
      | none => simp
      | some token =>
        simp only [Option.some.injEq, exists_eq_left']
        cases read : readToken area.memory ((hashUsize ((yamlHash caps "write").getD caps) "token_index").getD 0)
            ((hashUsize ((yamlHash caps "write").getD caps) "token_bytes").getD 128) with
        | none => simp
        | some found =>
          by_cases same : found = token
          · simp [same]
          · by_cases untouched : found = 0 <;> simp_all

/-- The hello describes an area in use and claims for a range of it the number
that stands there from the start. -/
def Echoes (area : MmapArea) (hello : Yaml) : Prop :=
  ∃ description, serverArea hello = some description ∧
    (yamlHashBool description "enabled").getD true = true ∧
    let index := (hashUsize description "token_index").getD 0
    let count := (hashUsize description "token_bytes").getD 128
    0 < count ∧ index + count ≤ area.memory.size ∧
      (yamlHash description "token").bind yamlU128 = some (spelled area index count)

/-- On an area no server has written to, verification fails exactly for the
hellos that do not echo what the client left there. -/
theorem untouched_area_unverified_iff (path : String) (size : AreaSize) (first second : UInt64) (hello : Yaml) :
    (MmapArea.create path size first second).checkServerCaps hello ≠ .ok true ↔
      ¬ Echoes (.create path size first second) hello := by
  rw [ne_eq, checkServerCaps_true_iff, not_iff_not]
  constructor
  · rintro ⟨description, token, described, enabled, claimed, found⟩
    obtain ⟨positive, inside, _, value⟩ := (readToken_eq_some _ _ _ (MmapArea.upper _)).mp found
    refine ⟨description, described, enabled, positive, inside, ?_⟩
    rw [claimed, ← value, create_spells]
  · rintro ⟨description, described, enabled, positive, inside, claimed⟩
    refine ⟨description, _, described, enabled, claimed, ?_⟩
    exact (readToken_eq_some _ _ _ (MmapArea.upper _)).mpr
      ⟨positive, inside, by
        obtain ⟨value, _, parsed⟩ := Option.bind_eq_some_iff.mp claimed
        exact yamlU128_lt parsed, create_spells _ _ _ _ _ _⟩

private def zeroHello : Yaml :=
  .hash [(.string "mmap", .hash [(.string "token", .integer 0), (.string "token_bytes", .integer 8)])]

theorem zero_token_verifies :
    ∃ (path : String) (size : AreaSize) (first second : UInt64),
      (MmapArea.create path size first second).checkServerCaps zeroHello = .ok true := by
  refine ⟨"", ⟨MIN_SIZE, by decide⟩, 1, 0, ?_⟩
  decide

end Xpra.Proofs.MmapToken
