import Xpra.Client.Host
import Xpra.Library.Utf8

/-! `String::from_utf8_lossy` gives a text back unchanged from its own bytes. -/

namespace Xpra.Proofs.Lossy
open Xpra.Net Xpra.Client Library

def Continues (byte : UInt8) : Prop := 0x80 ≤ byte.toNat ∧ byte.toNat ≤ 0xBF

theorem decodeChar_two {lead second : UInt8} (first : 0xC2 ≤ lead.toNat ∧ lead.toNat ≤ 0xDF) (tail : Continues second) (rest : Bytes) :
    decodeChar lead (second :: rest) = (Char.ofNat (lead.toNat % 32 * 64 + second.toNat % 64), 1) := by
  have high : ¬ lead < 0x80 := by simp [UInt8.lt_iff_toNat_lt]; omega
  have kind : utf8Lead lead = some (continuation, 1) := by
    simp [utf8Lead, UInt8.le_iff_toNat_le, first]
  have more : continuation second := by simp [continuation, UInt8.le_iff_toNat_le]; exact tail
  rw [decodeChar, if_neg high, kind]
  simp [more]

theorem decodeChar_three {lead second third : UInt8} (first : 0xE0 ≤ lead.toNat ∧ lead.toNat ≤ 0xEF)
    (short : lead.toNat = 0xE0 → 0xA0 ≤ second.toNat) (surrogate : lead.toNat = 0xED → second.toNat ≤ 0x9F)
    (tail : Continues second) (last : Continues third) (rest : Bytes) :
    decodeChar lead (second :: third :: rest) =
      (Char.ofNat ((lead.toNat % 16 * 64 + second.toNat % 64) * 64 + third.toNat % 64), 2) := by
  have high : ¬ lead < 0x80 := by simp [UInt8.lt_iff_toNat_lt]; omega
  have more : continuation third := by simp [continuation, UInt8.le_iff_toNat_le]; exact last
  obtain ⟨test, kind, passes⟩ : ∃ test, utf8Lead lead = some (test, 2) ∧ test second := by
    simp only [utf8Lead, UInt8.le_iff_toNat_le, ← UInt8.toNat_inj, UInt8.reduceToNat]
    unfold Continues at tail
    split
    · omega
    · split
      · refine ⟨_, rfl, ?_⟩; simp; omega
      · split
        · refine ⟨_, rfl, ?_⟩; simp; omega
        · rw [if_pos (by omega)]
          refine ⟨_, rfl, ?_⟩; simp [continuation, UInt8.le_iff_toNat_le]; omega
  rw [decodeChar, if_neg high, kind]
  simp [more, passes]

theorem decodeChar_four {lead second third fourth : UInt8} (first : 0xF0 ≤ lead.toNat ∧ lead.toNat ≤ 0xF4)
    (short : lead.toNat = 0xF0 → 0x90 ≤ second.toNat) (beyond : lead.toNat = 0xF4 → second.toNat ≤ 0x8F)
    (tail : Continues second) (more : Continues third) (last : Continues fourth) (rest : Bytes) :
    decodeChar lead (second :: third :: fourth :: rest) =
      (Char.ofNat (((lead.toNat % 8 * 64 + second.toNat % 64) * 64 + third.toNat % 64) * 64 + fourth.toNat % 64), 3) := by
  have high : ¬ lead < 0x80 := by simp [UInt8.lt_iff_toNat_lt]; omega
  have third : continuation third := by simp [continuation, UInt8.le_iff_toNat_le]; exact more
  have fourth : continuation fourth := by simp [continuation, UInt8.le_iff_toNat_le]; exact last
  obtain ⟨test, kind, passes⟩ : ∃ test, utf8Lead lead = some (test, 3) ∧ test second := by
    simp only [utf8Lead, UInt8.le_iff_toNat_le, ← UInt8.toNat_inj, UInt8.reduceToNat]
    unfold Continues at tail
    iterate 4 rw [if_neg (by omega)]
    split
    · refine ⟨_, rfl, ?_⟩; simp; omega
    · split
      · refine ⟨_, rfl, ?_⟩; simp; omega
      · rw [if_pos (by omega)]
        refine ⟨_, rfl, ?_⟩; simp [continuation, UInt8.le_iff_toNat_le]; omega
  rw [decodeChar, if_neg high, kind]
  simp [third, fourth, passes]

/-- The character that the bytes of an encoding begin with, its lead byte taken off. -/
theorem decodeChars_cons {char : Char} {lead : UInt8} {tail rest : Bytes}
    (decoded : decodeChar lead (tail ++ rest) = (char, tail.length)) :
    decodeChars (lead :: (tail ++ rest)) = char :: decodeChars rest := by
  rw [decodeChars, decoded, List.drop_left]

theorem decodeChars_encode (char : Char) (rest : Bytes) :
    decodeChars (String.utf8EncodeChar char ++ rest) = char :: decodeChars rest := by
  have scalar : char.val.toNat < 0xD800 ∨ 0xDFFF < char.val.toNat ∧ char.val.toNat < 0x110000 := char.valid
  have same {value : Nat} (value_eq : value = char.val.toNat) : Char.ofNat value = char := by
    rw [value_eq]
    exact Char.ofNat_toNat char
  rw [String.utf8EncodeChar]
  split
  next low =>
    have value : (UInt8.ofNat char.val.toNat).toNat = char.val.toNat := by
      rw [UInt8.toNat_ofNat', Nat.mod_eq_of_lt (by omega)]
    have seven : UInt8.ofNat char.val.toNat < 0x80 := by
      rw [UInt8.lt_iff_toNat_lt, value]
      exact Nat.lt_succ_of_le low
    apply decodeChars_cons
    rw [decodeChar, if_pos seven, same value]
    rfl
  next =>
    split
    next low =>
      apply decodeChars_cons
      rw [List.singleton_append, decodeChar_two]
      all_goals simp (disch := decide) only [Continues, Utf8.toNat_marked]
      · exact Prod.ext (same (by omega)) rfl
      all_goals omega
    next =>
      split
      next low =>
        apply decodeChars_cons
        rw [List.cons_append, List.singleton_append, decodeChar_three]
        all_goals simp (disch := decide) only [Continues, Utf8.toNat_marked]
        · exact Prod.ext (same (by omega)) rfl
        all_goals omega
      next =>
        apply decodeChars_cons
        rw [List.cons_append, List.cons_append, List.singleton_append, decodeChar_four]
        all_goals simp (disch := decide) only [Continues, Utf8.toNat_marked]
        · exact Prod.ext (same (by omega)) rfl
        all_goals omega

theorem decodeChars_text (chars : List Char) : decodeChars (chars.flatMap String.utf8EncodeChar) = chars := by
  induction chars with
  | nil => rw [List.flatMap_nil, decodeChars]
  | cons char chars ih => rw [List.flatMap_cons, decodeChars_encode, ih]

end Xpra.Proofs.Lossy
