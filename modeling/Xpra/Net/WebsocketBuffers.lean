import Xpra.Net.Websocket

/-! `fill_buffer` with every buffer it asks for: the payload of each frame, the copy of
it that a pong is built in, and the message the fragments are gathered in. A request
for more than `isize::MAX` bytes takes the process down. -/

namespace Xpra.Net

/-- How a `Vec` picks its new capacity when it has to grow, which the standard library
leaves open. -/
structure Growth where
  next : (capacity required : Nat) → Nat
  enough : ∀ capacity required, required ≤ next capacity required

/-- The capacity of a `Vec` after it has been extended to `required` bytes. -/
def Growth.extend (growth : Growth) (capacity required : Nat) : Except Panic Nat :=
  if required ≤ capacity then .ok capacity
  else if growth.next capacity required > ISIZE_MAX then .error .capacity
  else .ok (growth.next capacity required)

namespace WebSocketStream

/-- Where the loop of `fill_buffer` stands: the fragments gathered, the capacity they are
kept in, and the stream. -/
structure Position where
  message : Bytes
  capacity : Nat
  stream : WebSocketStream

inductive Turn where
  | again (position : Position)
  | done (result : Except IoError Unit) (stream : WebSocketStream)

/-- One turn of the loop. -/
def turn (growth : Growth) (position : Position) : Except Panic Turn :=
  match readFrame position.stream.input with
  | .error (.panic cause) => .error cause
  | .error (.io error) => .ok (.done (.error error) { position.stream with input := [] })
  | .ok (frame, rest) =>
    let stream := { position.stream with input := rest }
    if frame.opcode = OPCODE_PING then
      -- room for the pong's header and mask besides the payload
      if frame.payload.length + 14 > ISIZE_MAX then .error .capacity
      else match stream.sendFrame OPCODE_PONG frame.payload with
        | (.error error, sent) => .ok (.done (.error error) sent)
        | (.ok (), sent) => .ok (.again { position with stream := sent })
    else if frame.opcode = OPCODE_PONG then .ok (.again { position with stream })
    else if frame.opcode = OPCODE_CLOSE then
      .ok (.done (.error ⟨.connectionAborted, "websocket closed by peer"⟩) stream)
    else if frame.opcode = OPCODE_CONTINUATION ∨ frame.opcode = OPCODE_TEXT ∨ frame.opcode = OPCODE_BINARY then
      match growth.extend position.capacity (position.message ++ frame.payload).length with
      | .error cause => .error cause
      | .ok capacity =>
        if frame.fin then
          .ok (.done (.ok ()) { stream with readBuf := position.message ++ frame.payload, readPos := 0 })
        else .ok (.again ⟨position.message ++ frame.payload, capacity, stream⟩)
    else .ok (.done (.error (invalidData ("unsupported websocket opcode " ++ hex frame.opcode.toNat))) stream)

variable {growth : Growth} {position next : Position}

/-- Every turn that is followed by another takes a frame off the input. -/
theorem turn_shorter (going : turn growth position = .ok (.again next)) :
    next.stream.input.length < position.stream.input.length := by
  unfold turn at going
  split at going
  · cases going
  · cases going
  next frame rest taken =>
    have behind : next.stream.input = rest := by
      simp only [sendFrame] at going
      grind
    rw [behind]
    exact readFrame_shorter taken

/-- The loop from any position. -/
def turns (growth : Growth) (position : Position) : Except Panic (Except IoError Unit × WebSocketStream) :=
  match _taken : turn growth position with
  | .error cause => .error cause
  | .ok (.done result stream) => .ok (result, stream)
  | .ok (.again next) => turns growth next
termination_by position.stream.input.length
decreasing_by exact turn_shorter _taken

/-- `fill_buffer`, whose `Vec::new` has no capacity yet. -/
def fillBufferIn (growth : Growth) (stream : WebSocketStream) : Except Panic (Except IoError Unit × WebSocketStream) :=
  turns growth ⟨[], 0, stream⟩

end WebSocketStream
end Xpra.Net
