import Xpra.Client.System

/-! Video on the decode thread (`client/mediafoundation.rs` and `start_draw_decode_loop`):
a window whose draws are coded in H.264 has a decoder of its own, and behind it a processor
that turns its frames into pixels. The answers of Media Foundation come with each draw. The
arithmetic is that of a release build. -/

namespace Xpra.Client.Video
open Xpra.Net

/-- What the video processor has been set to. -/
structure Processor where
  /-- Which of the decoder's output types its input is, and whether at full range. -/
  input : Option (Nat × Bool) := none
  output : Option (UInt32 × UInt32) := none
  deriving DecidableEq, Repr

/-- How far `ensure_processor` gets where it sets the processor up. -/
inductive Setup where
  | done
  | noInput (message : String)
  | noOutput (message : String)
  | notStreaming (message : String)

/-- What `decoder_process_output` returns, short of asking for more input. -/
inductive DecoderOutput where
  | streamChange (nv12 : Except String Unit)
  /-- With the answers of the processor; what it puts out may be of any length. -/
  | frame (setup : Setup) (converted : Except String Bytes)
  | failed (message : String)

/-- The answers during one draw. -/
structure VideoEnv where
  created : Except String Unit := .ok ()
  /-- `configure_decoder`. -/
  configured : Except String Unit := .ok ()
  /-- `make_input_sample`. -/
  sample : Except String Unit := .ok ()
  /-- `ProcessInput`. -/
  input : Except String Unit := .ok ()
  /-- The outputs, until the decoder asks for more input. -/
  outputs : List DecoderOutput := []

structure InputSample where
  data : Bytes
  sampleTime : Int64
  deriving DecidableEq, Repr

structure H264Decoder where
  started : Bool := false
  /-- The samples made. -/
  frame : Int64 := 0
  vpDirty : Bool := true
  outW : UInt32 := 0
  outH : UInt32 := 0
  fullRange : Bool := true
  /-- How often the decoder's output type has been set. -/
  types : Nat := 0
  processor : Processor := {}
  /-- The samples it has taken, in order. -/
  fed : List InputSample := []
  deriving DecidableEq, Repr

structure Frame where
  pixels : Bytes
  /-- Which of the decoder's output types it came in. -/
  source : Nat
  /-- The processor that it came out of. -/
  processor : Processor
  deriving DecidableEq, Repr

namespace H264Decoder

variable (decoder : H264Decoder) (w h : UInt32)

def ensureProcessor (setup : Setup) : H264Decoder × Except String Unit :=
  if decoder.vpDirty = false ∧ decoder.outW = w ∧ decoder.outH = h then (decoder, .ok ())
  else
    let taken := { decoder with processor.input := some (decoder.types, decoder.fullRange) }
    let sized := { taken with processor.output := some (w, h) }
    match setup with
    | .noInput message => (decoder, .error message)
    | .noOutput message => (taken, .error message)
    | .notStreaming message => (sized, .error message)
    | .done => ({ sized with outW := w, outH := h, vpDirty := false }, .ok ())

def convertToBgra (memory : Bytes) : Frame :=
  let want := (w * h * 4).toNat
  let avail := min memory.length want
  { pixels := memory.take avail ++ List.replicate (want - avail) 0, source := decoder.types, processor := decoder.processor }

/-- The loop over the decoder's output; only the last frame is kept. -/
def drain : List DecoderOutput → H264Decoder → Option Frame → H264Decoder × Except String (Option Frame)
  | [], decoder, latest => (decoder, .ok latest)
  | .failed message :: _, decoder, _ => (decoder, .error message)
  | .streamChange (.error message) :: _, decoder, _ => (decoder, .error message)
  | .streamChange (.ok ()) :: outputs, decoder, latest =>
    drain outputs { decoder with types := decoder.types + 1, vpDirty := true } latest
  | .frame setup converted :: outputs, decoder, _ =>
    match decoder.ensureProcessor w h setup, converted with
    | (decoder, .error message), _ => (decoder, .error message)
    | (decoder, .ok ()), .error message => (decoder, .error message)
    | (decoder, .ok ()), .ok memory => drain outputs decoder (some (decoder.convertToBgra w h memory))

/-- An absent range is the one before. -/
def ranged (fullRange : Option Bool) : H264Decoder :=
  if fullRange.any (· ≠ decoder.fullRange) then { decoder with fullRange := fullRange.getD decoder.fullRange, vpDirty := true }
  else decoder

def start (env : VideoEnv) : H264Decoder × Except String Unit :=
  if decoder.started then (decoder, .ok ())
  else match env.configured with
    | .error message => (decoder, .error message)
    | .ok () => ({ decoder with types := decoder.types + 1, started := true }, .ok ())

def feed (env : VideoEnv) (data : Bytes) : H264Decoder × Except String Unit :=
  match env.sample with
  | .error message => (decoder, .error message)
  | .ok () =>
    let made := { decoder with frame := decoder.frame + 1 }
    match env.input with
    | .error message => (made, .error message)
    | .ok () => ({ made with fed := made.fed ++ [{ data, sampleTime := decoder.frame * 166667 }] }, .ok ())

def decode (env : VideoEnv) (data : Bytes) (fullRange : Option Bool) : H264Decoder × Except String (Option Frame) :=
  if w = 0 ∨ h = 0 then (decoder, .error "invalid zero frame size")
  else match (decoder.ranged fullRange).start env with
    | (decoder, .error message) => (decoder, .error message)
    | (decoder, .ok ()) => match decoder.feed env data with
      | (decoder, .error message) => (decoder, .error message)
      | (decoder, .ok ()) => drain w h env.outputs decoder none

end H264Decoder

/-! ### The thread -/

structure Thread where
  decoders : UInt64 → Option H264Decoder := fun _ => none
  area : Option MmapArea := none

structure ThreadEnv where
  video : VideoEnv := {}
  elapsed : Fin (2 ^ 63) := 0

variable (host : Host) (env : ThreadEnv) (thread : Thread) (packet : Packet)

def setDecoder (key : UInt64) (decoder : Option H264Decoder) : Thread :=
  { thread with decoders := fun other => if other = key then decoder else thread.decoders other }

/-- A decoder that fails stays. -/
def decodeVideo (key : UInt64) (w h : Int32) (data : Bytes) : Except String (Option Frame) × Thread :=
  let decode (decoder : H264Decoder) : Except String (Option Frame) × Thread :=
    let (decoder, result) := decoder.decode (max w 0).toUInt32 (max h 0).toUInt32 env.video data (packet.getHashBool 10 "full-range")
    (result, setDecoder thread key (some decoder))
  match thread.decoders key, env.video.created with
  | some decoder, _ => decode decoder
  | none, .error message => (.error message, thread)
  | none, .ok () => decode {}

def draw : Except Panic (Decoded × Thread) := do
  let wid ← packet.getI64 1
  let w ← packet.getI32 4
  let h ← packet.getI32 5
  let coding ← packet.getStr 6
  let data ← if coding = "mmap" then .ok [] else Prod.fst <$> packet.getBytes host.base64 7
  let _seq ← packet.getI64 8
  if coding = "h264" then
    if host.windows then
      let (result, thread) := decodeVideo env thread packet wid.toUInt64 w h data
      return (Option.map Frame.pixels <$> result, thread)
    else return (.error "h264 decoding is only supported on Windows", thread)
  else if coding = "mmap" then
    match thread.area with
    | some area =>
      let (pixels, area) ← readMmapDraw host packet area
      return (some <$> pixels, { thread with area := some area })
    | none => return (.error "received an mmap draw without an mmap area", thread)
  else return (some <$> decodePixels host coding data, thread)

/-- One turn of the loop on the packet it received. -/
def turn : Except Panic (Option Decoded × Thread) := do
  let _packetType ← packet.getStr 0
  if endsStream packet then
    if host.windows then
      let key ← packet.getU64 1
      return (none, setDecoder thread key none)
    else return (none, thread)
  else
    let (result, thread) ← draw host env thread packet
    return (some result, thread)

/-! ### The client with its decoders -/

structure Session where
  system : System
  decoders : UInt64 → Option H264Decoder := fun _ => none

namespace Session

inductive Event where
  | client (event : Client.Event)
  /-- A turn of the decode thread. -/
  | decode (env : ThreadEnv)

def ofThread : Client.Event → Bool
  | .decode _ => true
  | _ => false

/-- The area is the client's; the decoders are the thread's own. -/
def decodeThread (session : Session) : Thread := { decoders := session.decoders, area := session.system.client.area }

def decode (session : Session) : Except Stop Session :=
  match session.system.client.decodeSender with
  | [] => .error .blocked
  | packet :: rest => match turn host env session.decodeThread packet with
    | .error cause => .error (.panic cause)
    | .ok (result, thread) => .ok {
        system := { session.system with client := { session.system.client with
          decodeSender := rest
          area := thread.area
          proxy := session.system.client.proxy ++ (result.map (decodedPacket { elapsed := env.elapsed } packet)).toList } }
        decoders := thread.decoders }

def step (event : Event) (session : Session) : Except Stop Session :=
  match event with
  | .client event =>
    if ofThread event then .error .blocked
    else match System.step host event session.system with
      | .ok system => .ok { session with system }
      | .error stop => .error stop
  | .decode env => decode host env session

abbrev run (events : List Event) (session : Session) : Except Stop Session :=
  Library.Machine.run (step host) events session

end Session

end Xpra.Client.Video
