import Mathlib.Data.List.Basic

/-! Base64 with the standard alphabet and padding. -/

namespace Library.Base64

/-- The capitals, the small letters, the digits and two more. -/
def symbol (digit : Nat) : Char :=
  if digit < 26 then Char.ofNat ('A'.toNat + digit)
  else if digit < 52 then Char.ofNat ('a'.toNat + (digit - 26))
  else if digit < 62 then Char.ofNat ('0'.toNat + (digit - 52))
  else if digit = 62 then '+'
  else '/'

def value (symbol : Char) : Option Nat :=
  if symbol.isUpper then some (symbol.toNat - 'A'.toNat)
  else if symbol.isLower then some (symbol.toNat - 'a'.toNat + 26)
  else if symbol.isDigit then some (symbol.toNat - '0'.toNat + 52)
  else if symbol = '+' then some 62
  else if symbol = '/' then some 63
  else none

def encode : List UInt8 → List Char
  | [] => []
  | [a] => [symbol (a.toNat / 4), symbol (a.toNat % 4 * 16), '=', '=']
  | [a, b] => [symbol (a.toNat / 4), symbol (a.toNat % 4 * 16 + b.toNat / 16), symbol (b.toNat % 16 * 4), '=']
  | a :: b :: c :: rest =>
    symbol (a.toNat / 4) :: symbol (a.toNat % 4 * 16 + b.toNat / 16) :: symbol (b.toNat % 16 * 4 + c.toNat / 64) ::
      symbol (c.toNat % 64) :: encode rest

/-- Padding is for the last group alone, and the bits it leaves over are zero. -/
def decode : List Char → Option (List UInt8)
  | [] => some []
  | w :: x :: y :: z :: rest => do
    let w ← value w
    let x ← value x
    let first := UInt8.ofNat (w * 4 + x / 16)
    match value y, value z with
    | some y, some z =>
      let later ← decode rest
      return first :: UInt8.ofNat (x % 16 * 16 + y / 4) :: UInt8.ofNat (y % 4 * 64 + z) :: later
    | some y, none =>
      if z = '=' ∧ rest = [] ∧ y % 4 = 0 then return [first, UInt8.ofNat (x % 16 * 16 + y / 4)] else none
    | none, _ => if y = '=' ∧ z = '=' ∧ rest = [] ∧ x % 16 = 0 then return [first] else none
  | _ => none

theorem value_symbol {digit : Nat} (small : digit < 64) : value (symbol digit) = some digit := by
  have each : ∀ digit : Fin 64, value (symbol digit) = some digit.val := by decide
  exact each ⟨digit, small⟩

theorem value_padding : value '=' = none := by decide

theorem ofNat_toNat {value : Nat} (byte : UInt8) (same : value = byte.toNat) : UInt8.ofNat value = byte := by
  rw [same, UInt8.ofNat_toNat]

theorem decode_encode (bytes : List UInt8) : decode (encode bytes) = some bytes := by
  induction bytes using encode.induct with
  | case1 => rfl
  | case2 a =>
    have bound := a.toNat_lt
    rw [encode, decode, value_symbol (by omega), value_symbol (by omega), value_padding]
    simp only [Option.bind_eq_bind, Option.bind_some]
    rw [if_pos ⟨trivial, trivial, trivial, by omega⟩, ofNat_toNat a (by omega)]
    rfl
  | case3 a b =>
    have bound := a.toNat_lt
    have small := b.toNat_lt
    rw [encode, decode, value_symbol (by omega), value_symbol (by omega), value_symbol (by omega), value_padding]
    simp only [Option.bind_eq_bind, Option.bind_some]
    rw [if_pos ⟨trivial, trivial, by omega⟩, ofNat_toNat a (by omega), ofNat_toNat b (by omega)]
    rfl
  | case4 a b c rest ih =>
    have bound := a.toNat_lt
    have small := b.toNat_lt
    have last := c.toNat_lt
    rw [encode, decode, value_symbol (by omega), value_symbol (by omega), value_symbol (by omega), value_symbol (by omega), ih]
    simp only [Option.bind_eq_bind, Option.bind_some]
    rw [ofNat_toNat a (by omega), ofNat_toNat b (by omega), ofNat_toNat c (by omega)]
    rfl

end Library.Base64
