import Xpra.Net.Websocket

/-! Two clones of one `WebSocketStream` writing at once: the UI thread sends
packets, the reader thread answers pings. `write_frame` hands a frame over in as
many underlying writes as it takes; over TLS it holds the session's lock
meanwhile (`net/tls.rs`), over TCP there is nothing to hold. -/

namespace Xpra.Net.Writers

inductive Transport where
  | tcp
  | tls
  deriving DecidableEq, Repr

inductive Writer where
  | ui
  | reader
  deriving DecidableEq, Repr

def Writer.other : Writer → Writer
  | .ui => .reader
  | .reader => .ui

def Writer.opcode : Writer → UInt8
  | .ui => OPCODE_BINARY
  | .reader => OPCODE_PONG

/-- Where a thread is in its `write_frame`. -/
inductive Call where
  | idle
  | waiting (frame : Bytes)
  | writing (frame : Bytes) (offset : Nat)
  deriving DecidableEq, Repr

structure State where
  calls : Writer → Call := fun _ => .idle
  lock : Option Writer := none
  /-- Every frame handed to `write_frame` so far. -/
  handed : List Bytes := []
  /-- The bytes the transport has taken, in order. -/
  out : Bytes := []

def State.enter (state : State) (writer : Writer) (call : Call) : State :=
  { state with calls := fun w => if w = writer then call else state.calls w }

inductive Event where
  | send (writer : Writer) (payload : Bytes) (mask : MaskKey)
  | acquire (writer : Writer)
  /-- An underlying write returned `Ok(count)`. -/
  | accept (writer : Writer) (count : Nat)
  | wouldBlock (writer : Writer)
  | finish (writer : Writer)

inductive Blocked where
  | blocked
  deriving DecidableEq, Repr

def step (transport : Transport) (event : Event) (state : State) : Except Blocked State :=
  match event with
  | .send writer payload mask =>
    match state.calls writer with
    | .idle =>
      let frame := frameBytes writer.opcode payload mask
      let handed := { state with handed := state.handed ++ [frame] }
      match transport with
      | .tcp => .ok (handed.enter writer (.writing frame 0))
      | .tls => .ok (handed.enter writer (.waiting frame))
    | _ => .error .blocked
  | .acquire writer =>
    match state.calls writer, state.lock with
    | .waiting frame, none => .ok ({ state with lock := some writer }.enter writer (.writing frame 0))
    | _, _ => .error .blocked
  | .accept writer count =>
    match state.calls writer with
    | .writing frame offset =>
      if 0 < count ∧ offset + count ≤ frame.length then
        .ok ({ state with out := state.out ++ (frame.drop offset).take count }.enter writer
          (.writing frame (offset + count)))
      else .error .blocked
    | _ => .error .blocked
  | .wouldBlock writer =>
    match transport, state.calls writer with
    | .tls, .writing frame offset => if offset < frame.length then .ok state else .error .blocked
    | _, _ => .error .blocked
  | .finish writer =>
    match state.calls writer with
    | .writing frame offset =>
      if offset = frame.length then .ok ({ state with lock := none }.enter writer .idle) else .error .blocked
    | _ => .error .blocked

end Xpra.Net.Writers
