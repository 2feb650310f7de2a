import Xpra.Net.Packet
import Xpra.Net.Json
import Xpra.Library.Numeral

/-! The shared-memory area of `client/mmap.rs`. The server writes frames into it
and sends (offset, length) pairs; the client answers by moving `data_start`.
Sizes and offsets are 64-bit `usize` values with the wrapping arithmetic of
release builds. -/

namespace Xpra.Client
open Xpra.Net Library

def HEADER_SIZE : Nat := 8
def TOKEN_BYTES : Nat := 8
def MIN_SIZE : Nat := 64 * 1024 * 1024
def MAX_SIZE : Nat := 2 ^ 32 - 1

def USIZE : Nat := 2 ^ 64

/-- The largest buffer a `Vec` can be asked for. -/
def VEC_MAX : Nat := 2 ^ 63 - 1

/-- A mapping. Bytes beyond its size are never looked at. -/
structure Memory where
  size : Nat
  byte : Nat → UInt8

namespace Memory

def set (memory : Memory) (index : Nat) (value : UInt8) : Memory :=
  { memory with byte := fun i => if i = index then value else memory.byte i }

def slice (memory : Memory) (start count : Nat) : Bytes :=
  (List.range count).map fun i => memory.byte (start + i)

def store (memory : Memory) (index : Nat) (bytes : Bytes) : Memory :=
  { memory with byte := fun i =>
      if index ≤ i ∧ i < index + bytes.length then bytes.getD (i - index) 0 else memory.byte i }

/-- A new sparse file: it reads as zeros. -/
def zeros (size : Nat) : Memory := ⟨size, fun _ => 0⟩

@[simp] theorem slice_length (memory : Memory) (start count : Nat) :
    (memory.slice start count).length = count := by
  simp [slice]

end Memory

/-- The mapped area with the token it was announced with. `do_create` refuses
sizes outside the bounds. -/
structure MmapArea where
  memory : Memory
  path : String
  token : UInt64
  tokenIndex : Nat
  delete : Bool
  unlinked : Bool := false
  removals : Nat := 0
  /-- The values stored to `data_start` so far. -/
  released : List Nat := []
  lower : MIN_SIZE ≤ memory.size
  upper : memory.size ≤ MAX_SIZE

/-! ### Tokens -/

/-- `write_token`, one byte a turn, least significant first. -/
def writeToken (area : Memory) (value index : Nat) : (count : Nat) → Memory
  | 0 => area
  | count + 1 => writeToken (area.set index (UInt8.ofNat value)) (value / 256) (index + 1) count

/-- The loop of `read_token`, which gives up at a byte beyond the 16 it can
hold. -/
def readTokenLoop (area : Memory) (index count : Nat) : Option Nat :=
  (List.range count).foldlM (fun token i =>
    let byte := area.byte (index + i)
    if i ≥ 16 then if byte ≠ 0 then none else some token
    else some (token ||| byte.toNat <<< (8 * i))) 0

def readToken (area : Memory) (index count : Nat) : Option Nat :=
  if count = 0 ∨ index + count ≥ USIZE ∨ index + count > area.size then none
  else readTokenLoop area index count

/-- `str::parse::<u128>`: an optional plus sign, then decimal digits. -/
def parseU128 (text : String) : Option Nat :=
  let digits := match text.toList with
    | '+' :: rest => rest
    | chars => chars
  if digits = [] ∨ ¬ digits.all Char.isDigit then none
  else
    let value := digits.foldl (fun value digit => value * 10 + (digit.toNat - '0'.toNat)) 0
    if value < 2 ^ 128 then some value else none

def yamlU128 : Yaml → Option Nat
  | .integer value => if 0 ≤ value.toInt then some value.toInt.toNat else none
  -- a decimal beyond 64 bits is parsed as a real that keeps its digits
  | .real digits => parseU128 digits
  | .string text => parseU128 text
  | _ => none

def hashUsize (value : Yaml) (key : String) : Option Nat :=
  match yamlHash value key with
  | some (.integer number) => if 0 ≤ number.toInt then some number.toInt.toNat else none
  | _ => none

def lowerHex (value : Nat) : String := String.ofList (Nat.toDigits 16 value)

/-- `gen_token` on an area of the given size, with two draws of `random_u64`. -/
def genToken (memory : Memory) (first second : UInt64) : Memory × UInt64 × Nat :=
  let range := memory.size - HEADER_SIZE - TOKEN_BYTES + 1
  let index := HEADER_SIZE + second.toNat % range
  (writeToken memory first.toNat index TOKEN_BYTES, first, index)

theorem writeToken_size (area : Memory) (value index count : Nat) :
    (writeToken area value index count).size = area.size := by
  induction count generalizing area value index with
  | zero => rfl
  | succ count ih => rw [writeToken, ih]; rfl

/-- The file sizes that `do_create` settles for. -/
abbrev AreaSize := { size : Nat // MIN_SIZE ≤ size ∧ size ≤ MAX_SIZE }

/-- `MmapArea::create` with a file of its own making. -/
def MmapArea.create (path : String) (size : AreaSize) (first second : UInt64) : MmapArea where
  memory := (genToken (.zeros size.val) first second).1
  path := path
  delete := true
  token := first
  tokenIndex := (genToken (.zeros size.val) first second).2.2
  lower := by simp only [genToken, writeToken_size]; exact size.property.1
  upper := by simp only [genToken, writeToken_size]; exact size.property.2

namespace MmapArea

def caps (area : MmapArea) : Json :=
  .object [("file", area.path), ("size", area.memory.size), ("token", area.token),
    ("token_index", area.tokenIndex), ("token_bytes", TOKEN_BYTES)]

def unlink (area : MmapArea) : MmapArea :=
  if !area.delete || area.unlinked then area
  else { area with unlinked := true, removals := area.removals + 1 }

def checkServerCaps (area : MmapArea) (hello : Yaml) : Except String Bool :=
  match yamlHash hello "mmap" with
  | none => .ok false
  | some caps =>
    let description := (yamlHash caps "write").getD caps
    if (yamlHashBool description "enabled").getD true = false then .ok false
    else match (yamlHash description "token").bind yamlU128 with
      | none => .ok false
      | some token =>
        let index := (hashUsize description "token_index").getD 0
        let count := (hashUsize description "token_bytes").getD 128
        match readToken area.memory index count with
        | some found =>
          if found = token then .ok true
          else if found = 0 then .ok false
          else .error s!"token verification failed: expected {lowerHex token}, found {lowerHex found}"
        | none => .error s!"invalid token position: {count} bytes at {index}"

/-- `release`: one atomic store of the end of the last chunk, in the machine's
byte order. -/
def release (littleEndian : Bool) (area : MmapArea) (chunks : List (Nat × Nat)) : MmapArea :=
  match chunks.getLast? with
  | none => area
  | some (offset, length) =>
    let stop := (offset + length) % USIZE % 2 ^ 32
    { area with
      memory := area.memory.store 0 (if littleEndian then Numeral.toLittle 4 stop else Numeral.toBig 4 stop)
      released := area.released ++ [stop] }

end MmapArea

/-! ### Images -/

def parseChunk : Yaml → Option (Nat × Nat)
  | .array [.integer offset, .integer length] =>
    if 0 ≤ offset.toInt ∧ 0 ≤ length.toInt then some (offset.toInt.toNat, length.toInt.toNat) else none
  | _ => none

/-- `parse_chunks`; `debug` renders a YAML node in the error. -/
def parseChunks (debug : Yaml → String) : Yaml → Except String (List (Nat × Nat))
  | .array items => do
    let chunks ← items.mapM fun chunk => match parseChunk chunk with
      | some pair => .ok pair
      | none => .error s!"invalid mmap chunk {debug chunk}"
    if chunks = [] then .error "empty mmap chunk list" else .ok chunks
  | _ => .error "mmap draw packet without a chunk list"

/-- `copy_logical` from the chunk it has reached, with `skip` bytes of it to pass
over and `written` bytes of the destination filled. -/
def copyLogical (area : Memory) : List (Nat × Nat) → (skip : Nat) → (dst : Bytes) → (written : Nat) →
    Except Panic Bytes
  | [], _, dst, _ => .ok dst
  | (offset, length) :: chunks, skip, dst, written =>
    if skip ≥ length then copyLogical area chunks (skip - length) dst written
    else
      let start := (offset + skip) % USIZE
      let take := min (length - skip) (dst.length - written)
      if written + take ≤ dst.length ∧ start + take ≤ area.size then
        let dst := dst.take written ++ area.slice start take ++ dst.drop (written + take)
        if written + take = dst.length then .ok dst else copyLogical area chunks 0 dst (written + take)
      else .error .bounds

/-- The range check of `destride`'s loop over the chunks, with the bytes counted
so far. -/
def countAvailable (area : Memory) : List (Nat × Nat) → (available : Nat) → Except String Nat
  | [], available => .ok available
  | (offset, length) :: chunks, available =>
    if offset < HEADER_SIZE ∨ (if offset + length < USIZE then offset + length else USIZE - 1) > area.size then
      .error s!"mmap chunk ({offset}, {length}) is out of range"
    else countAvailable area chunks ((available + length) % USIZE)

def copyRows (area : Memory) (chunks : List (Nat × Nat)) (widthBytes stride : Nat) (out : Bytes)
    (rows : List Nat) : Except Panic Bytes :=
  rows.foldlM (fun out row =>
    let lo := row * widthBytes % USIZE
    let hi := (row + 1) * widthBytes % USIZE
    if lo ≤ hi ∧ hi ≤ out.length then do
      let copied ← copyLogical area chunks (row * stride % USIZE) ((out.take hi).drop lo) 0
      return out.take lo ++ copied ++ out.drop hi
    else .error .bounds) out

def destride (area : Memory) (chunks : List (Nat × Nat)) (w h rowstride : Nat) :
    Except Panic (Except String Bytes) :=
  if w = 0 ∨ h = 0 then .ok (.error s!"empty mmap draw packet: {w}x{h}")
  else if w * 4 ≥ USIZE then .ok (.error "mmap draw packet width overflows")
  else
    let widthBytes := w * 4
    let stride := if rowstride = 0 then widthBytes else rowstride
    if stride < widthBytes then .ok (.error s!"mmap rowstride {stride} is smaller than {w}x4 bytes")
    else match countAvailable area chunks 0 with
      | .error message => .ok (.error message)
      | .ok available =>
        let required := ((h - 1) * stride + widthBytes) % USIZE
        if available < required then
          .ok (.error (s!"mmap chunks are too small: {available} bytes for a {w}x{h} image with a stride " ++
            s!"of {stride} ({required} needed)"))
        else if widthBytes * h % USIZE > VEC_MAX then .error .capacity
        else .ok <$> copyRows area chunks widthBytes stride (List.replicate (widthBytes * h % USIZE) 0)
          (List.range h)

def MmapArea.readImage (area : MmapArea) (chunks : List (Nat × Nat)) (w h rowstride : Nat) :
    Except Panic (Except String Bytes) :=
  destride area.memory chunks w h rowstride

end Xpra.Client
