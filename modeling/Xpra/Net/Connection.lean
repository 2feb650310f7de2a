import Xpra.Library.Reader
import Xpra.Net.Websocket

/-! `read_packet` on a connection whose reads return what has come so far
(`net/connection.rs`), down to the reads it is made of. -/

namespace Xpra.Net
open Library

/-- `Read::read` of a connection, until it fails. -/
abbrev ReadFn (σ : Type) := Nat → σ → Except Failure (Bytes × σ)

namespace Connection

variable {σ : Type} (read : ReadFn σ) (lz4 : Bytes → Except String Bytes)

/-- `Read::read_exact`. -/
def readExact (count : Nat) (stream : σ) : Except Failure (Bytes × σ) := Reader.readExact read (.io eof) count stream

def readPacketLoop (chunks : Chunks) (received : Nat) (stream : σ) : Except Failure (RawPacket × σ) := do
  let (header, stream) ← readExact read 8 stream
  if header.getD 0 0 ≠ 0x50 then
    throw (.io (invalidData s!"invalid packet header byte: {header.getD 0 0}"))
  let index := header.getD 3 0
  let compression := header.getD 2 0
  if index ≥ MAX_CHUNK_INDEX then
    throw (.io (invalidData s!"invalid chunk index: {index}"))
  let (payload, stream) ← readExact read (payloadSize header) stream
  if index = 0 then
    if header.getD 1 0 &&& FLAGS_YAML = 0 then
      throw (.io (invalidData s!"unsupported packet encoding: {header.getD 1 0}"))
    if compression ≠ 0 then
      match decompress lz4 compression payload with
      | .ok data => return (⟨data, chunks⟩, stream)
      | .error error => throw (.io error)
    return (⟨payload, chunks⟩, stream)
  if bounded : received + 1 ≥ MAX_CHUNKS then
    throw (.io (invalidData s!"too many chunks: {received + 1}"))
  else if (chunks index).isSome then
    throw (.io (invalidData s!"duplicate chunk at index {index}"))
  else if compression ≠ 0 then
    match decompress lz4 compression payload with
    | .ok data => readPacketLoop (chunks.insert index data) (received + 1) stream
    | .error _ => readPacketLoop chunks (received + 1) stream
  else readPacketLoop (chunks.insert index payload) (received + 1) stream
termination_by MAX_CHUNKS - received

def readPacket (stream : σ) : Except Failure (RawPacket × σ) := readPacketLoop read lz4 (fun _ => none) 0 stream

def readPackets : Nat → σ → Except Failure (List RawPacket × σ)
  | 0, stream => .ok ([], stream)
  | count + 1, stream => do
    let (packet, stream) ← readPacket read lz4 stream
    let (packets, stream) ← readPackets count stream
    return (packet :: packets, stream)

/-- `Connection::Tcp` and its like: what has come is handed out piece by piece, as it
came. -/
def plain : ReadFn (List Bytes) := fun size pieces =>
  match pieces with
  | [] => .ok ([], [])
  | piece :: pieces => .ok (piece.take size, if size < piece.length then piece.drop size :: pieces else pieces)

/-- `Connection::WebSocket` and `Connection::WebSocketTls`. -/
def websocket : ReadFn WebSocketStream := fun size stream =>
  match stream.read size with
  | .error cause => .error (.panic cause)
  | .ok (.error error, _) => .error (.io error)
  | .ok (.ok bytes, stream) => .ok (bytes, stream)

end Connection
end Xpra.Net
