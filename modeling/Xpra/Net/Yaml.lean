import Mathlib.Data.List.Basic

/-! YAML values as the packet parser delivers them, and the conversions of
`net/packet.rs`. A conversion never fails: a value of another type reads as the
zero of the requested one. -/

namespace Xpra.Net

abbrev Bytes := List UInt8

/-- A parsed YAML node. A hash lists its entries; keys of any type may occur,
but the client only ever looks one up by a string. -/
inductive Yaml where
  | real (digits : String)
  | integer (value : Int64)
  | string (value : String)
  | boolean (value : Bool)
  | array (items : List Yaml)
  | hash (entries : List (Yaml × Yaml))
  | aliasTo (anchor : Nat)
  | null
  | badValue
  deriving Inhabited

namespace Yaml

def find (key : String) : List (Yaml × Yaml) → Option Yaml
  | [] => none
  | (.string name, value) :: rest => if name = key then some value else find key rest
  | _ :: rest => find key rest

end Yaml

def yamlU32 : Yaml → UInt32
  | .integer value => value.toUInt64.toUInt32
  | _ => 0

def yamlI32 : Yaml → Int32
  | .integer value => value.toInt32
  | _ => 0

def yamlU64 : Yaml → UInt64
  | .integer value => value.toUInt64
  | _ => 0

def yamlI64 : Yaml → Int64
  | .integer value => value
  | _ => 0

def yamlStr : Yaml → String
  | .string value => value
  | _ => ""

def yamlBool : Yaml → Bool
  | .boolean value => value
  -- some senders use 0/1 rather than a boolean
  | .integer value => value != 0
  | _ => false

/-- `yaml_bytes`: a string holds base64 with newlines allowed anywhere; text that
does not decode reads as no bytes. -/
def yamlBytes (decode : String → Option Bytes) : Yaml → Bytes
  | .string value => (decode (String.ofList (value.toList.filter (· != '\n')))).getD []
  | _ => []

def yamlHash : Yaml → String → Option Yaml
  | .hash entries, key => Yaml.find key entries
  | _, _ => none

def yamlHashBool (value : Yaml) (key : String) : Option Bool :=
  match yamlHash value key with
  | some (.boolean flag) => some flag
  | some (.integer number) => some (number != 0)
  | _ => none

/-- A non-negative integer survives the cast to an unsigned word of its width. -/
theorem toUInt64_toNat {value : Int64} (nonneg : 0 ≤ value.toInt) :
    (value.toUInt64.toNat : Int) = value.toInt := by
  have same : value.toUInt64.toNat = value.toBitVec.toNat := rfl
  have signed : value.toInt = value.toBitVec.toInt := rfl
  rw [same]
  rw [signed] at nonneg ⊢
  rw [BitVec.toInt_eq_toNat_cond] at nonneg ⊢
  have bound := value.toBitVec.isLt
  split at nonneg
  next small => simp only [small, if_true]
  next => omega

theorem toUInt64_toUInt32_toNat {value : Int64} (nonneg : 0 ≤ value.toInt) (small : value.toInt < 4294967296) :
    (value.toUInt64.toUInt32.toNat : Int) = value.toInt := by
  have wide := toUInt64_toNat nonneg
  rw [UInt64.toNat_toUInt32]
  omega

end Xpra.Net
