import Xpra.Net.Packet
import Xpra.Library.Numeral

/-! The packet stream of `net/io.rs`: eight header bytes, then the payload.
Out-of-band chunks precede the main packet they belong to. -/

namespace Xpra.Net

inductive ErrorKind where
  | unexpectedEof
  | invalidData
  | connectionAborted
  | connectionReset
  | other
  deriving DecidableEq, Repr

structure IoError where
  kind : ErrorKind
  message : String
  deriving DecidableEq, Repr

def invalidData (message : String) : IoError := ⟨.invalidData, message⟩

def eof : IoError := ⟨.unexpectedEof, "failed to fill whole buffer"⟩

def hex (value : Nat) : String := "0x" ++ String.ofList (Nat.toDigits 16 value)

/-- `Read::read_exact` on the bytes the peer has sent before closing its end. -/
def readExact (count : Nat) (stream : Bytes) : Except IoError (Bytes × Bytes) :=
  if count ≤ stream.length then .ok (stream.take count, stream.drop count) else .error eof

def LZ4_FLAG : UInt8 := 0x10
def FLAGS_YAML : UInt8 := 0x4
def MAX_CHUNKS : Nat := 4
def MAX_CHUNK_INDEX : UInt8 := 16

abbrev Chunks := UInt8 → Option Bytes

def Chunks.insert (chunks : Chunks) (index : UInt8) (payload : Bytes) : Chunks :=
  fun i => if i = index then some payload else chunks i

structure RawPacket where
  payload : Bytes
  chunks : Chunks

/-- Only lz4 is accepted; `lz4` is the size-prepended block decoder. -/
def decompress (lz4 : Bytes → Except String Bytes) (compression : UInt8) (payload : Bytes) :
    Except IoError Bytes :=
  if compression &&& LZ4_FLAG = 0 then
    .error (invalidData ("unsupported compression flag: " ++ hex compression.toNat))
  else match lz4 payload with
    | .ok data => .ok data
    | .error reason => .error (invalidData s!"lz4 decompression failed: {reason}")

def payloadSize (header : Bytes) : Nat :=
  (List.range 4).foldl (fun size i => size * 0x100 + (header.getD (i + 4) 0).toNat) 0

/-- The body of `read_packet`'s loop, entered with the chunks kept so far and
the number of chunks received, dropped ones included. The count bounds the loop:
the fourth chunk is refused. -/
def readPacketLoop (lz4 : Bytes → Except String Bytes) (chunks : Chunks) (received : Nat) (stream : Bytes) :
    Except IoError (RawPacket × Bytes) := do
  let (header, stream) ← readExact 8 stream
  if header.getD 0 0 ≠ 0x50 then
    throw (invalidData s!"invalid packet header byte: {header.getD 0 0}")
  let index := header.getD 3 0
  let compression := header.getD 2 0
  if index ≥ MAX_CHUNK_INDEX then
    throw (invalidData s!"invalid chunk index: {index}")
  let (payload, stream) ← readExact (payloadSize header) stream
  if index = 0 then
    if header.getD 1 0 &&& FLAGS_YAML = 0 then
      throw (invalidData s!"unsupported packet encoding: {header.getD 1 0}")
    if compression ≠ 0 then
      let data ← decompress lz4 compression payload
      return (⟨data, chunks⟩, stream)
    return (⟨payload, chunks⟩, stream)
  if bounded : received + 1 ≥ MAX_CHUNKS then
    throw (invalidData s!"too many chunks: {received + 1}")
  else if (chunks index).isSome then
    throw (invalidData s!"duplicate chunk at index {index}")
  else if compression ≠ 0 then
    match decompress lz4 compression payload with
    | .ok data => readPacketLoop lz4 (chunks.insert index data) (received + 1) stream
    -- a chunk that cannot be decompressed is dropped, but stays counted
    | .error _ => readPacketLoop lz4 chunks (received + 1) stream
  else readPacketLoop lz4 (chunks.insert index payload) (received + 1) stream
termination_by MAX_CHUNKS - received

def readPacket (lz4 : Bytes → Except String Bytes) (stream : Bytes) : Except IoError (RawPacket × Bytes) :=
  readPacketLoop lz4 (fun _ => none) 0 stream

def readPackets (lz4 : Bytes → Except String Bytes) : Nat → Bytes → Except IoError (List RawPacket × Bytes)
  | 0, stream => .ok ([], stream)
  | count + 1, stream => do
    let (packet, stream) ← readPacket lz4 stream
    let (packets, stream) ← readPackets lz4 count stream
    return (packet :: packets, stream)

def makeHeader (data : Bytes) : Bytes :=
  ([0x50, 0x4, 0, 0] : Bytes) ++
    (List.range 4).map fun i => UInt8.ofNat ((data.length >>> (8 * (3 - i))) &&& 0xff)

/-- What a `write_all` on the connection comes to: everything is handed over, or
the write fails after some prefix. -/
inductive WriteOutcome where
  | written
  | failed (accepted : Nat) (error : IoError)

/-- The write half of a connection. `outcome` says what becomes of each
`write_all` in turn. -/
structure Sink where
  outcome : Nat → WriteOutcome
  calls : Nat := 0
  wire : Bytes := []

def Sink.writeAll (sink : Sink) (data : Bytes) : Except IoError Unit × Sink :=
  match sink.outcome sink.calls with
  | .written => (.ok (), { sink with calls := sink.calls + 1, wire := sink.wire ++ data })
  | .failed accepted error =>
    (.error error, { sink with calls := sink.calls + 1, wire := sink.wire ++ data.take accepted })

def writePacket (sink : Sink) (data : Bytes) : Except IoError Unit × Sink :=
  sink.writeAll (makeHeader data ++ data)

def writePackets (sink : Sink) (payloads : List Bytes) : Sink :=
  payloads.foldl (fun sink data => (writePacket sink data).2) sink

end Xpra.Net
