import Mathlib.Data.Nat.Digits.Lemmas
import Mathlib.Tactic.Ring

/-! Fixed-width base-256 numerals. A value is laid out in exactly `width` bytes,
in either byte order; digits beyond the width are dropped. -/

namespace Library.Numeral

def little (bytes : List UInt8) : Nat := Nat.ofDigits 256 (bytes.map UInt8.toNat)

def big (bytes : List UInt8) : Nat := little bytes.reverse

def digit (value place : Nat) : UInt8 := UInt8.ofNat (value / 256 ^ place)

def toLittle (width value : Nat) : List UInt8 := (List.range width).map (digit value)

def toBig (width value : Nat) : List UInt8 := (toLittle width value).reverse

@[simp] theorem little_nil : little [] = 0 := rfl

@[simp] theorem little_cons (byte : UInt8) (rest : List UInt8) :
    little (byte :: rest) = byte.toNat + 256 * little rest := by
  simp [little, Nat.ofDigits_cons]

theorem little_append (first rest : List UInt8) :
    little (first ++ rest) = little first + 256 ^ first.length * little rest := by
  simp [little, Nat.ofDigits_append]

theorem little_lt (bytes : List UInt8) : little bytes < 256 ^ bytes.length := by
  induction bytes with
  | nil => simp
  | cons byte rest ih =>
    have small := byte.toNat_lt
    simp only [little_cons, List.length_cons, pow_succ]
    omega

theorem digit_toNat (value place : Nat) : (digit value place).toNat = value / 256 ^ place % 256 := by
  simp [digit, UInt8.toNat_ofNat']

@[simp] theorem toLittle_length (width value : Nat) : (toLittle width value).length = width := by
  simp [toLittle]

@[simp] theorem toBig_length (width value : Nat) : (toBig width value).length = width := by
  simp [toBig]

theorem toLittle_succ (width value : Nat) :
    toLittle (width + 1) value = toLittle width value ++ [digit value width] := by
  simp [toLittle, List.range_succ]

/-- Laying a value out and reading it back keeps its low `width` digits. -/
theorem little_toLittle (width value : Nat) : little (toLittle width value) = value % 256 ^ width := by
  induction width with
  | zero => simp [toLittle, Nat.mod_one]
  | succ width ih =>
    rw [toLittle_succ, little_append, ih, toLittle_length, Nat.mod_pow_succ]
    simp [digit_toNat]

theorem big_toBig (width value : Nat) : big (toBig width value) = value % 256 ^ width := by
  simpa [big, toBig] using little_toLittle width value

theorem big_toBig_of_lt {width value : Nat} (fits : value < 256 ^ width) :
    big (toBig width value) = value := by
  rw [big_toBig, Nat.mod_eq_of_lt fits]

theorem toLittle_cons (width value : Nat) :
    toLittle (width + 1) value = UInt8.ofNat value :: toLittle width (value / 256) := by
  simp [toLittle, List.range_succ_eq_map, digit, Nat.div_div_eq_div_mul, pow_succ, Nat.mul_comm]

/-- Every byte string is the layout of the value it spells. -/
theorem toLittle_little (bytes : List UInt8) : toLittle bytes.length (little bytes) = bytes := by
  induction bytes with
  | nil => rfl
  | cons byte rest ih =>
    have small := byte.toNat_lt
    have low : UInt8.ofNat (byte.toNat + 256 * little rest) = byte := by
      apply UInt8.toNat_inj.mp
      rw [UInt8.toNat_ofNat']
      omega
    have high : (byte.toNat + 256 * little rest) / 256 = little rest := by omega
    rw [List.length_cons, little_cons, toLittle_cons, low, high, ih]

theorem toBig_big (bytes : List UInt8) : toBig bytes.length (big bytes) = bytes := by
  rw [toBig, big, ← List.length_reverse, toLittle_little, List.reverse_reverse]

theorem big_lt (bytes : List UInt8) : big bytes < 256 ^ bytes.length := by
  simpa [big] using little_lt bytes.reverse

/-- The accumulator loop that shifts the value up one byte at a time. -/
theorem foldl_eq_big (bytes : List UInt8) :
    bytes.foldl (fun value byte => value * 256 + byte.toNat) 0 = big bytes := by
  have general : ∀ start, bytes.foldl (fun value byte => value * 256 + byte.toNat) start =
      start * 256 ^ bytes.length + big bytes := by
    induction bytes with
    | nil => simp [big]
    | cons byte rest ih =>
      intro start
      rw [List.foldl_cons, ih]
      simp only [big, List.reverse_cons, little_append, List.length_reverse, List.length_cons, pow_succ,
        little_cons, little_nil]
      ring
  simpa using general 0

end Library.Numeral
