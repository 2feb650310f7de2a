import Mathlib.Data.List.Basic

/-! The UTF-8 encoding of a text as a list of bytes. -/

namespace Library.Utf8

theorem toList_loop (array : ByteArray) (index : Nat) (read : List UInt8) :
    ByteArray.toList.loop array index read = read.reverse ++ array.data.toList.drop index := by
  fun_induction ByteArray.toList.loop array index read with
  | case1 index read inside ih =>
    have here : index < array.data.toList.length := inside
    rw [ih, List.drop_eq_getElem_cons here]
    have read : array.get! index = array.data.toList[index] := getElem!_pos array.data index inside
    rw [List.reverse_cons, read, List.append_assoc]
    rfl
  | case2 index read outside =>
    have past : array.data.toList.length ≤ index := Nat.le_of_not_lt outside
    rw [List.drop_eq_nil_of_le past, List.append_nil]

/-- The bytes of a text are the encodings of its characters. -/
theorem toList_toUTF8 (text : String) : text.toUTF8.toList = text.toList.flatMap String.utf8EncodeChar := by
  have bytes : text.toUTF8 = (text.toList.flatMap String.utf8EncodeChar).toByteArray := String.utf8Encode_toList.symm
  rw [bytes, ByteArray.toList, toList_loop, List.toList_data_toByteArray]
  rfl

/-- A byte as the encoding builds them from a remainder and a mark. -/
theorem toNat_marked {part size mark : Nat} (some : 0 < size) (fits : size + mark ≤ 256) :
    (UInt8.ofNat (part % size + mark)).toNat = part % size + mark := by
  have small := Nat.mod_lt part some
  rw [UInt8.toNat_ofNat', Nat.mod_eq_of_lt (by omega)]

theorem marked_byte {part size mark : Nat} (some : 0 < size) (high : 128 ≤ mark) (fits : size + mark ≤ 256) :
    128 ≤ (UInt8.ofNat (part % size + mark)).toNat := by
  rw [toNat_marked some fits]
  exact Nat.le_add_left_of_le high

/-- The encoding of a character above seven bits has no byte of seven bits. -/
theorem encode_high {char : Char} {byte : UInt8} (high : 128 ≤ char.toNat) (member : byte ∈ String.utf8EncodeChar char) :
    128 ≤ byte.toNat := by
  have above : ¬ char.val.toNat ≤ 0x7f := Nat.not_le.mpr high
  rw [String.utf8EncodeChar, if_neg above] at member
  split at member
  next =>
    simp only [List.mem_cons, List.not_mem_nil, or_false] at member
    rcases member with rfl | rfl
    all_goals exact marked_byte (by decide) (by decide) (by decide)
  next =>
    split at member
    next =>
      simp only [List.mem_cons, List.not_mem_nil, or_false] at member
      rcases member with rfl | rfl | rfl
      all_goals exact marked_byte (by decide) (by decide) (by decide)
    next =>
      simp only [List.mem_cons, List.not_mem_nil, or_false] at member
      rcases member with rfl | rfl | rfl | rfl
      all_goals exact marked_byte (by decide) (by decide) (by decide)

theorem encode_low {char : Char} (low : char.toNat < 128) : String.utf8EncodeChar char = [UInt8.ofNat char.toNat] := by
  have below : char.val.toNat ≤ 0x7f := Nat.le_of_lt_succ low
  rw [String.utf8EncodeChar, if_pos below]
  rfl

/-- A byte of seven bits stands for the character of its value alone. -/
theorem ascii_of_mem {char : Char} {byte : UInt8} (low : byte.toNat < 128) (member : byte ∈ String.utf8EncodeChar char) :
    char = Char.ofNat byte.toNat := by
  have small : char.toNat < 128 := by
    by_contra high
    exact absurd (encode_high (Nat.le_of_not_lt high) member) (Nat.not_le.mpr low)
  rw [encode_low small, List.mem_singleton] at member
  rw [member, UInt8.toNat_ofNat', Nat.mod_eq_of_lt (by omega), Char.ofNat_toNat]

end Library.Utf8
