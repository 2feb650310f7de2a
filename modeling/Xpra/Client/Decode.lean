import Xpra.Client.State

/-! The decode thread: it takes draws from the UI thread's queue, one at a time,
and posts each one back with its pixels or with the reason it has none. -/

namespace Xpra.Client
open Xpra.Net

structure DecodeEnv where
  /-- The answer of the window's video decoder: a frame, no frame yet, or why
  there is none. -/
  h264 : Except String (Option Bytes) := .ok none
  /-- Microseconds on the monotonic clock, which 2^63 of them outlast. -/
  elapsed : Fin (2 ^ 63) := 0

/-! ### Draws from the shared area -/

/-- The chunk list rides in the options; older servers leave it in the data
field. -/
def mmapChunkList (packet : Packet) : Option Yaml :=
  ((packet.main[10]?).bind fun options => yamlHash options "chunks").or packet.main[7]?

def mmapChunks (host : Host) (packet : Packet) : Except String (List (Nat × Nat)) :=
  match mmapChunkList packet with
  | some list => parseChunks host.debug list
  | none => .error "mmap draw packet without a chunk list"

def mmapRowstride (packet : Packet) : Nat := ((packet.main[9]?.map yamlI32).getD 0).toInt.toNat

def mmapRgbFormat (packet : Packet) : Except Panic String :=
  match packet.main[10]? with
  | some options => yamlHashStr options "rgb_format"
  | none => .ok ""

def readMmapPixels (host : Host) (packet : Packet) (area : MmapArea) (chunks : List (Nat × Nat)) :
    Except Panic (Except String Bytes) := do
  let rgbFormat ← mmapRgbFormat packet
  if rgbFormat ≠ "" ∧ startsWith rgbFormat "BGR" = false then
    return .error s!"unsupported mmap pixel format {host.quote rgbFormat}"
  else
    let w ← packet.getI32 4
    let h ← packet.getI32 5
    area.readImage chunks w.toInt.toNat h.toInt.toNat (mmapRowstride packet)

def readMmapDraw (host : Host) (packet : Packet) (area : MmapArea) :
    Except Panic (Except String Bytes × MmapArea) :=
  match mmapChunks host packet with
  | .error message => .ok (.error message, area)
  | .ok chunks => do
    let pixels ← readMmapPixels host packet area chunks
    return (pixels, area.release host.littleEndian chunks)

/-! ### The loop -/

/-- A frame, no frame yet, or the reason for none. -/
abbrev Decoded := Except String (Option Bytes)

/-- One draw, up to the result; the area is the one the thread holds. -/
def decodeDraw (host : Host) (env : DecodeEnv) (area : Option MmapArea) (packet : Packet) :
    Except Panic (Decoded × Option MmapArea) := do
  let _wid ← packet.getI64 1
  let _w ← packet.getI32 4
  let _h ← packet.getI32 5
  let coding ← packet.getStr 6
  let data ← if coding = "mmap" then .ok [] else Prod.fst <$> packet.getBytes host.base64 7
  let _seq ← packet.getI64 8
  if coding = "h264" then
    return (if host.windows then env.h264 else .error "h264 decoding is only supported on Windows", area)
  else if coding = "mmap" then
    match area with
    | some area =>
      let (pixels, area) ← readMmapDraw host packet area
      return (some <$> pixels, some area)
    | none => return (.error "received an mmap draw without an mmap area", none)
  else return (some <$> decodePixels host coding data, area)

def decodedPacket (env : DecodeEnv) (packet : Packet) : Decoded → Packet
  | .error message => { main := (packet.main.set 0 (.string "decoding-failed")).set 7 (.string message) }
  | .ok pixels => {
      main := packet.main.set 0 (.string "draw-decoded")
      raw := fun index => if index = 7 then some (pixels.getD []) else none
      decodeTimeUs := some (Int64.ofNat env.elapsed) }

def endsStream (packet : Packet) : Bool :=
  let packetType := yamlStr (packet.get 0)
  packetType = "lost-window" || packetType = "eos"

/-- One turn of the loop on the packet it received: nothing to post, or a result. -/
def decodeTurn (host : Host) (env : DecodeEnv) (area : Option MmapArea) (packet : Packet) :
    Except Panic (Option Decoded × Option MmapArea) := do
  let _packetType ← packet.getStr 0
  if endsStream packet then
    if host.windows then
      let _key ← packet.getU64 1
      return (none, area)
    else return (none, area)
  else
    let (result, area) ← decodeDraw host env area packet
    return (some result, area)

end Xpra.Client
