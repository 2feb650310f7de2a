import Xpra.Net.Io

/-! The WebSocket stream of `net/websocket.rs`: one frame per write, and a read
side that reassembles fragmented messages and answers pings on the way. -/

namespace Xpra.Net

def OPCODE_CONTINUATION : UInt8 := 0x0
def OPCODE_TEXT : UInt8 := 0x1
def OPCODE_BINARY : UInt8 := 0x2
def OPCODE_CLOSE : UInt8 := 0x8
def OPCODE_PING : UInt8 := 0x9
def OPCODE_PONG : UInt8 := 0xA

def ISIZE_MAX : Nat := 2 ^ 63 - 1

abbrev MaskKey := { key : Bytes // key.length = 4 }

/-- `*b ^= mask_key[i % 4]` over a payload; masking and unmasking are the same
loop. -/
def xorMask (key payload : Bytes) : Bytes := payload.mapIdx fun i byte => byte ^^^ key.getD (i % 4) 0

def frameBytes (opcode : UInt8) (payload : Bytes) (maskKey : MaskKey) : Bytes :=
  let len := payload.length
  let length :=
    if len ≤ 125 then [0x80 ||| UInt8.ofNat len]
    else if len ≤ 0xFFFF then (0x80 ||| 126) :: Library.Numeral.toBig 2 len
    else (0x80 ||| 127) :: Library.Numeral.toBig 8 len
  (0x80 ||| opcode) :: length ++ maskKey.val ++ xorMask maskKey.val payload

structure Frame where
  fin : Bool
  opcode : UInt8
  payload : Bytes
  deriving DecidableEq, Repr

/-- A read fails with an I/O error or takes the process down. -/
inductive Failure where
  | io (error : IoError)
  | panic (cause : Panic)
  deriving DecidableEq, Repr

def receive (count : Nat) (input : Bytes) : Except Failure (Bytes × Bytes) :=
  match readExact count input with
  | .ok read => .ok read
  | .error error => .error (.io error)

def readLength (short : Nat) (input : Bytes) : Except Failure (Nat × Bytes) := do
  if short = 126 then
    let (ext, input) ← receive 2 input
    return (Library.Numeral.big ext, input)
  else if short = 127 then
    let (ext, input) ← receive 8 input
    return (Library.Numeral.big ext, input)
  else return (short, input)

def readMask (masked : Bool) (input : Bytes) : Except Failure (Option Bytes × Bytes) := do
  if masked then
    let (key, input) ← receive 4 input
    return (some key, input)
  else return (none, input)

def unmask : Option Bytes → Bytes → Bytes
  | some key, payload => xorMask key payload
  | none, payload => payload

/-- One turn of `fill_buffer`'s loop up to the dispatch on the opcode. -/
def readFrame (input : Bytes) : Except Failure (Frame × Bytes) := do
  let (header, input) ← receive 2 input
  let fin := header.getD 0 0 &&& 0x80 != 0
  let opcode := header.getD 0 0 &&& 0x0F
  let masked := header.getD 1 0 &&& 0x80 != 0
  let (len, input) ← readLength (header.getD 1 0 &&& 0x7F).toNat input
  let (maskKey, input) ← readMask masked input
  -- the buffer is allocated before anything is known about the bytes behind it
  if len > ISIZE_MAX then throw (.panic .capacity)
  else
    let (payload, input) ← receive len input
    return (⟨fin, opcode, unmask maskKey payload⟩, input)

/-- One clone of a connected stream. `input` is what the peer has still to
deliver; `masks` and `outcome` say which masking key each frame sent gets and
what the transport makes of it. -/
structure WebSocketStream where
  input : Bytes
  masks : Nat → MaskKey
  outcome : Nat → Option IoError
  /-- Every frame handed to `write_frame`, in order. -/
  frames : List Bytes := []
  readBuf : Bytes := []
  readPos : Nat := 0

namespace WebSocketStream

def sendFrame (stream : WebSocketStream) (opcode : UInt8) (payload : Bytes) :
    Except IoError Unit × WebSocketStream :=
  let call := stream.frames.length
  let sent := { stream with frames := stream.frames ++ [frameBytes opcode payload (stream.masks call)] }
  match stream.outcome call with
  | none => (.ok (), sent)
  | some error => (.error error, sent)

@[simp] theorem sendFrame_input (stream : WebSocketStream) (opcode : UInt8) (payload : Bytes) :
    (stream.sendFrame opcode payload).2.input = stream.input := by
  simp only [sendFrame]
  split <;> rfl

end WebSocketStream

theorem receive_shorter {count : Nat} {input data rest : Bytes}
    (read : receive count input = .ok (data, rest)) : rest.length + count = input.length := by
  simp only [receive, readExact] at read
  split at read
  next pair taken =>
    split at taken
    next enough =>
      cases taken
      cases read
      simp only [List.length_drop]
      omega
    next => cases taken
  next => cases read

private theorem readLength_shorter {short len : Nat} {input rest : Bytes}
    (read : readLength short input = .ok (len, rest)) : rest.length ≤ input.length := by
  unfold readLength at read
  split at read
  · obtain ⟨⟨ext, after⟩, taken, done⟩ := bind_ok read
    cases done
    have := receive_shorter taken
    omega
  · split at read
    · obtain ⟨⟨ext, after⟩, taken, done⟩ := bind_ok read
      cases done
      have := receive_shorter taken
      omega
    · cases read; exact Nat.le_refl _

private theorem readMask_shorter {masked : Bool} {key : Option Bytes} {input rest : Bytes}
    (read : readMask masked input = .ok (key, rest)) : rest.length ≤ input.length := by
  unfold readMask at read
  split at read
  · obtain ⟨⟨bytes, after⟩, taken, done⟩ := bind_ok read
    cases done
    have := receive_shorter taken
    omega
  · cases read; exact Nat.le_refl _

/-- Every frame takes at least its two header bytes off the input. -/
theorem readFrame_shorter {input rest : Bytes} {frame : Frame}
    (read : readFrame input = .ok (frame, rest)) : rest.length < input.length := by
  unfold readFrame at read
  obtain ⟨⟨header, afterHeader⟩, header_read, read⟩ := bind_ok read
  obtain ⟨⟨len, afterLength⟩, length_read, read⟩ := bind_ok read
  obtain ⟨⟨key, afterMask⟩, mask_read, read⟩ := bind_ok read
  have first := receive_shorter header_read
  have second := readLength_shorter length_read
  have third := readMask_shorter mask_read
  dsimp only at read
  by_cases huge : len > ISIZE_MAX
  · rw [if_pos huge] at read
    cases read
  · rw [if_neg huge] at read
    obtain ⟨⟨payload, afterPayload⟩, payload_read, read⟩ := bind_ok read
    have fourth := receive_shorter payload_read
    cases read
    dsimp only
    omega

namespace WebSocketStream

/-- `fill_buffer`'s loop with the fragments gathered so far. The outer failure
aborts the process; the inner one is the `Err` the caller sees. -/
def fillLoop (message : Bytes) (stream : WebSocketStream) :
    Except Panic (Except IoError Unit × WebSocketStream) :=
  match _taken : readFrame stream.input with
  | .error (.panic cause) => .error cause
  -- the end of the input was reached in the middle of a read
  | .error (.io error) => .ok (.error error, { stream with input := [] })
  | .ok (frame, rest) =>
    let stream' := { stream with input := rest }
    if frame.opcode = OPCODE_PING then
      match stream'.sendFrame OPCODE_PONG frame.payload with
      | (.error error, sent) => .ok (.error error, sent)
      | (.ok (), _) => fillLoop message (stream'.sendFrame OPCODE_PONG frame.payload).2
    else if frame.opcode = OPCODE_PONG then fillLoop message stream'
    else if frame.opcode = OPCODE_CLOSE then
      .ok (.error ⟨.connectionAborted, "websocket closed by peer"⟩, stream')
    else if frame.opcode = OPCODE_CONTINUATION ∨ frame.opcode = OPCODE_TEXT ∨ frame.opcode = OPCODE_BINARY then
      if frame.fin then
        .ok (.ok (), { stream' with readBuf := message ++ frame.payload, readPos := 0 })
      else fillLoop (message ++ frame.payload) stream'
    else
      .ok (.error (invalidData ("unsupported websocket opcode " ++ hex frame.opcode.toNat)), stream')
termination_by stream.input.length
decreasing_by
  all_goals
    have := readFrame_shorter _taken
    simpa using this

def fillBuffer (stream : WebSocketStream) : Except Panic (Except IoError Unit × WebSocketStream) :=
  stream.fillLoop []

/-- The copy out of the buffer that ends every successful `read`. -/
def drain (stream : WebSocketStream) (size : Nat) : Bytes × WebSocketStream :=
  let available := stream.readBuf.drop stream.readPos
  let n := min available.length size
  (available.take n, { stream with readPos := stream.readPos + n })

/-- `Read::read` into a buffer of `size` bytes. -/
def read (stream : WebSocketStream) (size : Nat) :
    Except Panic (Except IoError Bytes × WebSocketStream) :=
  if stream.readPos ≥ stream.readBuf.length then
    match stream.fillBuffer with
    | .error cause => .error cause
    | .ok (.error error, filled) => .ok (.error error, filled)
    | .ok (.ok (), filled) => let (bytes, drained) := filled.drain size; .ok (.ok bytes, drained)
  else let (bytes, drained) := stream.drain size; .ok (.ok bytes, drained)

def reads (stream : WebSocketStream) : List Nat → Except Panic (List (Except IoError Bytes) × WebSocketStream)
  | [] => .ok ([], stream)
  | size :: sizes => do
    let (result, stream) ← stream.read size
    let (results, stream) ← stream.reads sizes
    return (result :: results, stream)

end WebSocketStream
end Xpra.Net
