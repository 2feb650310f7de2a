import Xpra.Net.Yaml

/-! A packet as the threads of the client see it, with the accessors of
`net/packet.rs`. An accessor that indexes past the end of the fields, or a hash
by a key it lacks, aborts the process: release builds are built with
`panic = "abort"`. -/

namespace Xpra.Net

inductive Panic where
  | index
  | missingKey
  | assertion
  | expect
  | bounds
  | capacity
  deriving DecidableEq, Repr

/-- The aborts a packet causes through its own fields: an index past their end,
a hash indexed by a missing key, a failed assertion about their number. The
others come from the platform (`expect`), from pixel arithmetic (`bounds`) and
from a buffer larger than any allocation (`capacity`). -/
def Panic.ofPacket : Panic → Bool
  | .index | .missingKey | .assertion => true
  | .expect | .bounds | .capacity => false

structure Packet where
  main : List Yaml
  /-- Out-of-band chunks by the index of the field each one belongs to. -/
  raw : UInt8 → Option Bytes := fun _ => none
  /-- Measured by the decode thread; not part of the wire format. -/
  decodeTimeUs : Option Int64 := none
  deriving Inhabited

namespace Packet

def len (packet : Packet) : Nat := packet.main.length

def field (packet : Packet) (index : Nat) : Except Panic Yaml :=
  match packet.main[index]? with
  | some value => .ok value
  | none => .error .index

/-- Every typed accessor converts one indexed field. -/
def read (convert : Yaml → α) (packet : Packet) (index : Nat) : Except Panic α :=
  convert <$> packet.field index

abbrev getU32 (packet : Packet) (index : Nat) : Except Panic UInt32 := packet.read yamlU32 index

abbrev getI32 (packet : Packet) (index : Nat) : Except Panic Int32 := packet.read yamlI32 index

abbrev getU64 (packet : Packet) (index : Nat) : Except Panic UInt64 := packet.read yamlU64 index

abbrev getI64 (packet : Packet) (index : Nat) : Except Panic Int64 := packet.read yamlI64 index

abbrev getStr (packet : Packet) (index : Nat) : Except Panic String := packet.read yamlStr index

abbrev getBool (packet : Packet) (index : Nat) : Except Panic Bool := packet.read yamlBool index

/-- Absent fields, absent keys and values of other types all read as `none`. -/
def getHashBool (packet : Packet) (index : Nat) (key : String) : Option Bool :=
  if index ≥ packet.len then none
  else (packet.main[index]?).bind fun value => yamlHashBool value key

/-- `get_bytes`: an out-of-band chunk is taken out of the packet, otherwise the
field's own base64 is decoded. -/
def getBytes (decode : String → Option Bytes) (packet : Packet) (index : UInt8) :
    Except Panic (Bytes × Packet) :=
  match packet.raw index with
  | some bytes => .ok (bytes, { packet with raw := fun i => if i = index then none else packet.raw i })
  | none => (fun value => (yamlBytes decode value, packet)) <$> packet.field index.toNat

/-- The field's value where it exists; only meaningful below `len`. -/
def get (packet : Packet) (index : Nat) : Yaml := packet.main.getD index .badValue

variable {packet : Packet} {index : Nat}

theorem field_of_lt (inside : index < packet.len) : packet.field index = .ok (packet.get index) := by
  have inside : index < packet.main.length := inside
  simp [field, get, inside]

theorem field_of_ge (outside : packet.len ≤ index) : packet.field index = .error .index := by
  have outside : packet.main.length ≤ index := outside
  simp [field, outside]

theorem read_of_lt (convert : Yaml → α) (inside : index < packet.len) :
    packet.read convert index = .ok (convert (packet.get index)) := by
  simp [read, field_of_lt inside, Functor.map, Except.map]

theorem read_of_ge (convert : Yaml → α) (outside : packet.len ≤ index) :
    packet.read convert index = .error .index := by
  simp [read, field_of_ge outside, Functor.map, Except.map]

theorem read_bind_ok {convert : Yaml → α} {rest : α → Except Panic β} {result : β} :
    (packet.read convert index >>= rest) = .ok result ↔
      index < packet.len ∧ rest (convert (packet.get index)) = .ok result := by
  by_cases inside : index < packet.len
  · simp [read_of_lt convert inside, inside, bind, Except.bind]
  · simp [read_of_ge convert (Nat.not_lt.mp inside), inside, bind, Except.bind]

theorem field_bind_ok {rest : Yaml → Except Panic β} {result : β} :
    (packet.field index >>= rest) = .ok result ↔ index < packet.len ∧ rest (packet.get index) = .ok result := by
  by_cases inside : index < packet.len
  · simp [field_of_lt inside, inside, bind, Except.bind]
  · simp [field_of_ge (Nat.not_lt.mp inside), inside, bind, Except.bind]

/-- `get_bytes` falls back on the field only without a chunk for it. -/
theorem getBytes_cases (decode : String → Option Bytes) (packet : Packet) (index : UInt8) :
    (packet.raw index = none ∧ packet.len ≤ index.toNat ∧ packet.getBytes decode index = .error .index) ∨
      (((packet.raw index).isSome ∨ index.toNat < packet.len) ∧
        ∃ bytes rest, packet.getBytes decode index = .ok (bytes, rest) ∧ rest.main = packet.main) := by
  cases chunk : packet.raw index with
  | some bytes =>
    exact .inr ⟨.inl rfl, bytes, { packet with raw := fun i => if i = index then none else packet.raw i },
      by simp [Packet.getBytes, chunk], rfl⟩
  | none =>
    by_cases inside : index.toNat < packet.len
    · exact .inr ⟨.inr inside, yamlBytes decode (packet.get index.toNat), packet,
        by simp [Packet.getBytes, chunk, Packet.field_of_lt inside, Functor.map, Except.map], rfl⟩
    · exact .inl ⟨rfl, Nat.not_lt.mp inside,
        by simp [Packet.getBytes, chunk, Packet.field_of_ge (Nat.not_lt.mp inside), Functor.map, Except.map]⟩

/-- `get_bytes` takes nothing out of a packet but the chunk. -/
theorem getBytes_ok {decode : String → Option Bytes} {chunk : UInt8} {bytes : Bytes} {rest : Packet}
    (taken : packet.getBytes decode chunk = .ok (bytes, rest)) :
    rest.main = packet.main ∧ rest.decodeTimeUs = packet.decodeTimeUs ∧
      bytes = (packet.raw chunk).getD (yamlBytes decode (packet.get chunk.toNat)) := by
  rw [getBytes] at taken
  split at taken
  next found =>
    cases taken
    simp [found]
  next absent =>
    by_cases inside : chunk.toNat < packet.len
    · simp only [field_of_lt inside, Functor.map, Except.map, Except.ok.injEq, Prod.mk.injEq] at taken
      obtain ⟨rfl, rfl⟩ := taken
      simp [absent]
    · simp [field_of_ge (Nat.not_lt.mp inside), Functor.map, Except.map] at taken

end Packet

theorem bind_ok {ε : Type} {first : Except ε α} {rest : α → Except ε β} {result : β}
    (done : (first >>= rest) = .ok result) : ∃ value, first = .ok value ∧ rest value = .ok result := by
  cases first with
  | error failure => cases done
  | ok value => exact ⟨value, rfl, done⟩

theorem map_ok {ε : Type} {convert : α → β} {first : Except ε α} {result : β}
    (done : (convert <$> first) = .ok result) : ∃ value, first = .ok value ∧ convert value = result := by
  cases first with
  | error failure => cases done
  | ok value =>
    cases done
    exact ⟨value, rfl, rfl⟩

/-- `yaml_hash_str`: unlike `yaml_hash_bool` this indexes the hash, so a missing
key aborts. -/
def yamlHashStr (value : Yaml) (key : String) : Except Panic String :=
  match value with
  | .hash entries => match Yaml.find key entries with
    | some found => .ok (yamlStr found)
    | none => .error .missingKey
  | _ => .ok ""

end Xpra.Net
