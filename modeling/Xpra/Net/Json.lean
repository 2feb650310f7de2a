import Mathlib.Data.List.Basic

/-! The values the client sends. Every outgoing packet is a JSON array whose
first item is the packet type. -/

namespace Xpra.Net

/-- Numbers are the integers that fit one of the source's integer types. -/
inductive Json where
  | null
  | bool (value : Bool)
  | number (value : Int)
  | string (value : String)
  | array (items : List Json)
  | object (fields : List (String × Json))
  deriving Inhabited

namespace Json

instance : Coe String Json := ⟨.string⟩
instance : Coe Bool Json := ⟨.bool⟩
instance : Coe Int Json := ⟨.number⟩
instance : Coe Nat Json := ⟨fun value => .number value⟩
instance : Coe UInt32 Json := ⟨fun value => .number value.toNat⟩
instance : Coe UInt64 Json := ⟨fun value => .number value.toNat⟩
instance : Coe Int32 Json := ⟨fun value => .number value.toInt⟩
instance : Coe Int64 Json := ⟨fun value => .number value.toInt⟩

abbrev Fields := List (String × Json)

def packetType : Json → String
  | .array (.string name :: _) => name
  | _ => ""

/-- Whether a packet is a `hello` that carries the key. -/
def helloHas (key : String) : Json → Bool
  | .array [.string "hello", .object fields] => fields.any fun field => field.1 == key
  | _ => false

end Json
end Xpra.Net
