import Xpra.Client.AudioWorker
import Xpra.Client.Jitter
import Xpra.Client.Pcm

/-! The playback pipeline of the audio thread (`client/windows_audio.rs`, with
`opus_packet_frames` of `client/audio.rs`): Opus packets go in, samples for the sound
device come out. The answers of Media Foundation and of WASAPI come with each call. The
playback rate is a floating-point number that nothing here reads. -/

namespace Xpra.Client.Playback
open Xpra.Net Checked

/-- The frames at 48 kHz that one Opus packet stands for. -/
def opusPacketFrames : Bytes → Option Nat
  | [] => none
  | toc :: rest => do
    let config := (toc >>> 3).toNat
    let frameCount ← match (toc &&& 3).toNat with
      | 0 => some 1
      | 1 | 2 => some 2
      | _ => rest.head?.bind fun second =>
        let count := (second &&& 0x3f).toNat
        if count = 0 then none else some count
    let perFrame :=
      if config ≥ 16 then 120 * 2 ^ (config % 4)
      else if config ≥ 12 then 480 * 2 ^ (config % 2)
      else [480, 960, 1920, 2880].getD (config % 4) 0
    let total := perFrame * frameCount
    if total ≤ SAMPLE_RATE * 120 / 1000 then some total else none

/-! ### The decoder -/

/-- What `process_output` returns, short of asking for more input. -/
inductive DecoderOutput where
  | streamChange
  | pcm (samples : List Int16)
  | failed (message : String)

structure DecoderEnv where
  /-- `make_input_sample` and `ProcessInput`. -/
  input : Except String Unit := .ok ()
  /-- The outputs, until the transform asks for more input. -/
  outputs : List DecoderOutput := []

structure InputSample where
  data : Bytes
  timestamp100ns : Int64
  duration100ns : Int64

structure OpusDecoder where
  channels : UInt8
  preSkipFrames : Nat
  nextTime100ns : Int64 := 0
  /-- Every sample handed to the transform, in order. -/
  fed : List InputSample := []

/-- `a.saturating_add(b)`. -/
def saturatingAdd64 (a b : Int64) : Int64 :=
  let sum := a.toInt + b.toInt
  if sum < -2 ^ 63 then -2 ^ 63 else if 2 ^ 63 ≤ sum then 2 ^ 63 - 1 else a + b

/-- The loop over `process_output`. -/
def drain : List DecoderOutput → Except String (List Int16)
  | [] => .ok []
  | .streamChange :: _ => .error "Opus decoder changed its PCM output format"
  | .failed message :: _ => .error message
  | .pcm samples :: outputs => (samples ++ ·) <$> drain outputs

namespace OpusDecoder

def inputSample (decoder : OpusDecoder) (frames : Nat) (data : Bytes) (timestampNs durationNs : Option Int64) : InputSample where
  data
  duration100ns := ((durationNs.filter fun duration => 0 < duration).map (· / 100)).getD
    (Int64.ofNat (frames * 10000000 / SAMPLE_RATE))
  timestamp100ns := ((timestampNs.filter fun timestamp => 0 ≤ timestamp).map (· / 100)).getD decoder.nextTime100ns

def decode (env : DecoderEnv) (decoder : OpusDecoder) (data : Bytes) (timestampNs durationNs : Option Int64) :
    Except String (OpusDecoder × List Int16) :=
  match opusPacketFrames data with
  | none => .error "invalid Opus packet duration"
  | some frames => do
    let sample := decoder.inputSample frames data timestampNs durationNs
    env.input
    let result ← drain env.outputs
    let channels := decoder.channels.toNat
    let skip := if decoder.preSkipFrames ≠ 0 ∧ result ≠ [] then min (result.length / channels) decoder.preSkipFrames else 0
    let decoder := { decoder with
      preSkipFrames := decoder.preSkipFrames - skip
      nextTime100ns := saturatingAdd64 sample.timestamp100ns sample.duration100ns
      fed := decoder.fed ++ [sample] }
    return (decoder, result.drop (skip * channels))

end OpusDecoder

/-! ### The pipeline -/

structure OutputError where
  invalidated : Bool
  message : String

/-- What the sound device answers during one turn. -/
structure DeviceEnv where
  padding : Except OutputError UInt32 := .ok 0
  /-- The locked buffer; what is in it before it is written is arbitrary. -/
  buffer : Except OutputError (Nat → Int16) := .ok fun _ => 0
  release : Except OutputError Unit := .ok ()
  start : Except OutputError Unit := .ok ()
  stopAndReset : Except OutputError Unit := .ok ()
  paddingAfter : Except OutputError UInt32 := .ok 0
  setRate : Except OutputError Unit := .ok ()

structure Pipeline extends Client.Pipeline where
  channels : UInt8
  decoder : OpusDecoder
  /-- The size of the device's buffer. -/
  bufferFrames : UInt32
  pcm : PcmBuffer
  jitter : AdaptiveJitter
  playing : Bool := false
  /-- Every sample released to the device, in order. -/
  rendered : List Int16 := []

def latencyMs (pcm : PcmBuffer) : UInt32 := UInt32.ofNat (pcm.frames * 1000 / SAMPLE_RATE)

namespace Pipeline

/-- `decoder` and `output` are the answers of the platform, the latter with the size of
the device's buffer. -/
def new (sequence : UInt64) (header : OpusHeader) (nowMs : UInt64) (decoder : Except String Unit)
    (output : Except String UInt32) : Except String Pipeline := do
  if 2 < header.channels then
    .error s!"Windows Opus playback currently supports mono/stereo, not {header.channels} channels"
  else
    decoder
    let bufferFrames ← output
    return {
      sequence
      channels := header.channels
      decoder := { channels := header.channels, preSkipFrames := header.preSkip }
      bufferFrames
      pcm := .new header.channels
      jitter := .new nowMs }

variable (checks : Bool) (fade : PcmBuffer.Fade)

def packetDurationMs (data : Bytes) (durationNs : Option Int64) : UInt32 :=
  match durationNs.filter fun duration => 0 < duration with
  | some duration => (duration / 1000000).toUInt64.toUInt32
  | none => match opusPacketFrames data with
    | some frames => UInt32.ofNat (frames * 1000 / SAMPLE_RATE)
    | none => 20

def decodePacket (env : DecoderEnv) (pipeline : Pipeline) (data : Bytes) (timestampNs durationNs : Option Int64)
    (arrivalMs : UInt64) : Except Fault (Except String Pipeline) :=
  let jitter := pipeline.jitter.observePacket arrivalMs (packetDurationMs data durationNs)
  match pipeline.decoder.decode env data timestampNs durationNs with
  | .error message => .ok (.error message)
  | .ok (decoder, samples) => do
    let (pcm, _) ← (pipeline.pcm.push samples).enforceHardCap fade
    return .ok { pipeline with decoder, pcm, jitter }

variable (env : DeviceEnv) (pipeline : Pipeline)

def availableFrames : Except OutputError UInt32 := (saturatingSub32 pipeline.bufferFrames ·) <$> env.padding

/-- A call that can fail half-way returns the pipeline as it is then. -/
abbrev Attempt (α : Type) := Pipeline × Except OutputError α

def writeFrames (frames : Nat) : Except Fault (Attempt Unit) :=
  if frames = 0 then .ok (pipeline, .ok ())
  else match env.buffer with
    | .error error => .ok (pipeline, .error error)
    | .ok memory => do
      let samples := (List.range (frames * pipeline.channels.toNat)).map memory
      let (pcm, samples, written) ← pipeline.pcm.popInto samples frames
      -- what the queue could not fill is silence
      let samples := if written < frames then
          samples.take (written * pipeline.channels.toNat) ++
            List.replicate (samples.length - written * pipeline.channels.toNat) 0
        else samples
      match env.release with
      | .error error => return ({ pipeline with pcm }, .error error)
      | .ok () => return ({ pipeline with pcm, rendered := pipeline.rendered ++ samples }, .ok ())

def startPlaying : Except Fault (Attempt Unit) :=
  match availableFrames env pipeline with
  | .error error => .ok (pipeline, .error error)
  | .ok available => do
    let (pipeline, wrote) ← writeFrames env pipeline (min available.toNat (pipeline.pcm.frames % 2 ^ 32))
    match wrote, env.start with
    | .error error, _ | .ok (), .error error => return (pipeline, .error error)
    | .ok (), .ok () => return ({ pipeline with playing := true }, .ok ())

def keepPlaying (nowMs : UInt64) : Except Fault (Attempt Unit) :=
  match availableFrames env pipeline with
  | .error error => .ok (pipeline, .error error)
  | .ok available =>
    if available ≠ 0 ∧ pipeline.pcm.frames < available.toNat then
      match env.stopAndReset with
      | .error error => .ok (pipeline, .error error)
      | .ok () => do
        let jitter ← pipeline.jitter.underrun checks nowMs
        return ({ pipeline with playing := false, jitter }, .ok ())
    else writeFrames env pipeline available.toNat

def feedDevice (nowMs : UInt64) : Except Fault (Attempt Unit) :=
  if pipeline.playing then keepPlaying checks env pipeline nowMs
  else if pipeline.jitter.targetMs ≤ latencyMs pipeline.pcm then startPlaying env pipeline
  else .ok (pipeline, .ok ())

def paddingMs (padding : UInt32) : UInt32 := UInt32.ofNat (padding.toNat * 1000 / SAMPLE_RATE)

/-- `a.saturating_add(b)`. -/
def saturatingAdd32 (a b : UInt32) : UInt32 := if a.toNat + b.toNat < 2 ^ 32 then a + b else 0xFFFFFFFF

def serviceOutput (nowMs : UInt64) : Except Fault (Attempt UInt32) := do
  let (pipeline, done) ← feedDevice checks env pipeline nowMs
  match done, env.paddingAfter, env.setRate with
  | .error error, _, _ | .ok (), .error error, _ | .ok (), .ok _, .error error => return (pipeline, .error error)
  | .ok (), .ok padding, .ok () => return (pipeline, .ok (saturatingAdd32 (latencyMs pipeline.pcm) (paddingMs padding)))

end Pipeline

/-! ### The turns of the thread -/

structure ServiceEnv where
  nowMs : UInt64
  device : DeviceEnv
  /-- A new output in the place of one that is gone, with the size of its buffer. -/
  rebuilt : Except String UInt32

/-- `service_output` up to what it measures. -/
def service (checks : Bool) (env : ServiceEnv) (pipeline : Pipeline) : Except Fault (Pipeline × Output) := do
  let (jitter, _) ← pipeline.jitter.updateStable checks env.nowMs
  let (pipeline, answer) ← Pipeline.serviceOutput checks env.device { pipeline with jitter } env.nowMs
  match answer with
  | .ok totalMs => return (pipeline, .total totalMs)
  | .error error =>
    if error.invalidated then
      match env.rebuilt with
      | .error message => return (pipeline, .invalidated (.error message))
      | .ok bufferFrames =>
        return ({ pipeline with bufferFrames, playing := false }, .invalidated (.ok (latencyMs pipeline.pcm)))
    else return (pipeline, .failed error.message)

/-- The total that is reported, or why the thread ends. -/
def measured : Output → Except String UInt32
  | .total totalMs | .invalidated (.ok totalMs) => .ok totalMs
  | .invalidated (.error error) => .error s!"failed to recover the audio output device: {error}"
  | .failed message => .error message

inductive Call where
  | decodePacket (data : Bytes) (timestampNs durationNs : Option Int64) (arrivalMs : UInt64) (env : DecoderEnv)
  | service (env : ServiceEnv)

/-- Why a pipeline is not used any more. -/
inductive Ending where
  | fault (fault : Fault)
  | failed (message : String)

/-- One call on the pipeline of a stream. After one that fails the thread ends. -/
def step (checks : Bool) (fade : PcmBuffer.Fade) (call : Call) (pipeline : Pipeline) : Except Ending Pipeline :=
  match call with
  | .decodePacket data timestampNs durationNs arrivalMs env =>
    match pipeline.decodePacket fade env data timestampNs durationNs arrivalMs with
    | .error fault => .error (.fault fault)
    | .ok (.error message) => .error (.failed message)
    | .ok (.ok pipeline) => .ok pipeline
  | .service env =>
    match service checks env pipeline with
    | .error fault => .error (.fault fault)
    | .ok (pipeline, output) => match measured output with
      | .error message => .error (.failed message)
      | .ok totalMs => .ok { pipeline with latencyReporter := (pipeline.latencyReporter.update totalMs).2 }

/-! ### The thread with its pipeline -/

structure CommandEnv where
  nowMs : UInt64
  /-- The transform and the output of a new pipeline. -/
  decoder : Except String Unit
  output : Except String UInt32
  decoded : DecoderEnv

structure Turn where
  pipeline : Option Pipeline
  posts : List LocalPost := []
  going : Bool := true

variable (pipeline : Option Pipeline)

def handleCommand (fade : PcmBuffer.Fade) (env : CommandEnv) (command : Command) : Except Fault Turn :=
  match command with
  | .reset _ => .ok { pipeline := none, posts := [.audioLatency 0] }
  | .configure sequence header _ =>
    match Pipeline.new sequence header env.nowMs env.decoder env.output with
    | .ok value => .ok { pipeline := some value, posts := [.audioLatency 0] }
    | .error error => .ok { pipeline, posts := [.audioWorkerFailed error], going := false }
  | .packet sequence data timestampNs durationNs arrivalMs =>
    match pipeline with
    | none => .ok { pipeline }
    | some current =>
      if sequence ≠ current.sequence then .ok { pipeline }
      else match current.decodePacket fade env.decoded data timestampNs durationNs arrivalMs with
        | .error fault => .error fault
        | .ok (.error error) => .ok { pipeline, posts := [.audioWorkerFailed error], going := false }
        | .ok (.ok current) => .ok { pipeline := some current }
  | .finish sequence =>
    if pipeline.any fun current => current.sequence = sequence then .ok { pipeline := none, posts := [.audioLatency 0] }
    else .ok { pipeline }

def serviceOutput (checks : Bool) (env : ServiceEnv) : Except Fault Turn :=
  match pipeline with
  | none => .ok { pipeline }
  | some current => do
    let (current, output) ← service checks env current
    match measured output with
    | .error error => return { pipeline := some current, posts := [.audioWorkerFailed error], going := false }
    | .ok totalMs =>
      let (report, latencyReporter) := current.latencyReporter.update totalMs
      return { pipeline := some { current with latencyReporter }, posts := (report.map .audioLatency).toList }

/-! ### The client with all of its audio thread -/

structure Session where
  system : System
  pipeline : Option Pipeline := none
  alive : Bool := true

/-- Why the thread or the client does not go on. -/
inductive Halt where
  | stop (stop : Stop)
  | fault (fault : Fault)

namespace Session

inductive Event where
  | client (event : Client.Event)
  | command (env : CommandEnv)
  | service (env : ServiceEnv)

variable (host : Host) (checks : Bool) (fade : PcmBuffer.Fade)

/-- The thread takes a command off the queue, or ends, and posts. -/
def turned (session : Session) (events : List Client.Event) (turn : Turn) : Except Halt Session :=
  match System.run host (events ++ turn.posts.map .post) session.system with
  | .ok system => .ok { system, pipeline := turn.pipeline, alive := turn.going }
  | .error stop => .error (.stop stop)

def step (event : Event) (session : Session) : Except Halt Session :=
  match event with
  | .client event =>
    if AudioSession.ofThread event then .error (.stop .blocked)
    else match System.step host event session.system with
      | .ok system => .ok { session with system }
      | .error stop => .error (.stop stop)
  | .command env => match session.system.client.audioWorker with
    | some { queue := command :: _, running, .. } =>
      if session.alive = false then .error (.stop .blocked)
      else match handleCommand session.pipeline fade env command with
        | .error fault => .error (.fault fault)
        | .ok turn => session.turned host [.audioTurn running turn.going] turn
    | _ => .error (.stop .blocked)
  | .service env =>
    if session.alive = false then .error (.stop .blocked)
    else match serviceOutput session.pipeline checks env with
      | .error fault => .error (.fault fault)
      | .ok turn =>
        let ending := match session.system.client.audioWorker with
          | some worker => if turn.going then [] else [.audioTurn worker.running false]
          | none => []
        session.turned host ending turn

abbrev run (events : List Event) (session : Session) : Except Halt Session :=
  Library.Machine.run (step host checks fade) events session

end Session
end Xpra.Client.Playback
