import Xpra.Client.Host

/-! Speaker forwarding as far as the UI thread sees it: the fields of
`audio-data` packets, the stream state and the bounded queue to the worker
(`client/audio.rs`, `client/windows_audio.rs`). -/

namespace Xpra.Client
open Xpra.Net Library

def CODEC : String := "opus"
def START_TARGET_MS : Nat := 120
def SYNC_THRESHOLD_MS : Nat := 40
def COMMAND_CAPACITY : Nat := 96

namespace Audio

def helloCapabilities : Json := .object [("async", true)]

def receiveCapabilities : Json :=
  .object [("decoders", .array [CODEC]), ("receive", true), ("encoders", .array []), ("send", false)]

def avSyncCapabilities : Json :=
  .object [("", true), ("enabled", true), ("delay.default", START_TARGET_MS), ("delay", START_TARGET_MS)]

def controlPacket (command : String) (argument : Json) : Json := .array ["audio-control", command, argument]

def asyncRequested (hello : Yaml) : Bool :=
  (((yamlHash hello "audio").bind fun audio => yamlHash audio "async").map yamlBool).getD false

def serverAvSyncEnabled (hello : Yaml) : Bool :=
  (((yamlHash hello "av-sync").bind fun av => (yamlHash av "enabled").or (yamlHash av "")).map yamlBool).getD false

def serverCanSendOpus (capabilities : Yaml) : Bool :=
  let send := ((yamlHash capabilities "send").map yamlBool).getD false
  let listed := match yamlHash capabilities "encoders" with
    | some (.array values) => values.any fun value => yamlStr value = CODEC
    | _ => false
  send && listed

end Audio

structure OpusHeader where
  version : UInt8
  channels : UInt8
  preSkip : Nat
  inputSampleRate : Nat
  outputGain : Int
  mappingFamily : UInt8
  deriving DecidableEq, Repr

def textBytes (text : String) : Bytes := text.toUTF8.toList

def OpusHeader.parse (data : Bytes) : Except String OpusHeader :=
  let byte (i : Nat) := data.getD i 0
  if data.length < 19 ∨ data.take 8 ≠ textBytes "OpusHead" then .error "invalid OpusHead signature or length"
  else if byte 8 &&& 0xf0 ≠ 0 then .error s!"unsupported OpusHead version {byte 8}"
  else if byte 9 = 0 then .error "OpusHead declares zero channels"
  else if byte 18 = 0 ∧ byte 9 > 2 then .error "Opus mapping family 0 only supports mono or stereo"
  else if byte 18 ≠ 0 ∧ data.length < 21 + (byte 9).toNat then .error "truncated mapped OpusHead"
  else
    let gain := Numeral.little [byte 16, byte 17]
    .ok { version := byte 8
          channels := byte 9
          preSkip := Numeral.little [byte 10, byte 11]
          inputSampleRate := Numeral.little [byte 12, byte 13, byte 14, byte 15]
          outputGain := if gain < 2 ^ 15 then gain else gain - 2 ^ 16
          mappingFamily := byte 18 }

structure AudioMetadata where
  sequence : Option UInt64 := none
  startOfStream : Bool := false
  endOfStream : Bool := false
  codec : Option String := none
  timestampNs : Option Int64 := none
  durationNs : Option Int64 := none

namespace AudioMetadata

def nonnegative : Option Yaml → Option Int64
  | some (.integer value) => if 0 ≤ value then some value else none
  | _ => none

def parse (value : Yaml) : AudioMetadata where
  sequence := (nonnegative (yamlHash value "sequence")).map Int64.toUInt64
  startOfStream := ((yamlHash value "start-of-stream").map yamlBool).getD false
  endOfStream := ((yamlHash value "end-of-stream").map yamlBool).getD false
  codec := ((yamlHash value "codec").map yamlStr).filter (· ≠ "")
  timestampNs := nonnegative (yamlHash value "timestamp")
  durationNs := nonnegative (yamlHash value "duration")

end AudioMetadata

structure IncomingAudio where
  codec : String
  data : Bytes
  metadata : AudioMetadata
  headers : List Bytes

/-- The fields of an `audio-data` packet. Too few of them are an error, not an
abort. -/
def IncomingAudio.parse (host : Host) (packet : Packet) : Except Panic (Except String IncomingAudio) :=
  if packet.len < 4 then .ok (.error "audio-data packet has fewer than four fields")
  else do
    let codec ← packet.getStr 1
    let (data, packet) ← packet.getBytes host.base64 2
    let metadata ← packet.field 3
    let headers := if packet.len > 4 then
        match packet.get 4 with
        | .array values => values.map (yamlBytes host.base64)
        | value => let header := yamlBytes host.base64 value; if header = [] then [] else [header]
      else []
    return .ok { codec, data, metadata := AudioMetadata.parse metadata, headers }

structure AudioProtocol where
  capabilitiesSent : Bool := false
  negotiated : Bool := false
  active : Bool := false
  sequence : UInt64 := 0
  headerSeen : Bool := false
  serverAvSync : Bool := false

namespace AudioProtocol

def acceptsSequence (protocol : AudioProtocol) : Option UInt64 → Bool
  | some sequence => !(decide (sequence < protocol.sequence))
  | none => true

def begin (host : Host) (protocol : AudioProtocol) (codec : String) (sequence : Option UInt64) :
    Except String (UInt64 × AudioProtocol) :=
  if codec ≠ CODEC then .error s!"unsupported audio codec {host.quote codec}"
  else if protocol.acceptsSequence sequence then
    let current := sequence.getD protocol.sequence
    .ok (current, { protocol with sequence := current, active := true, headerSeen := false })
  else .error s!"old audio sequence {sequence.getD 0} (current is {protocol.sequence})"

def finish (protocol : AudioProtocol) : AudioProtocol :=
  let next := if protocol.sequence.toNat + 1 < 2 ^ 64 then protocol.sequence + 1 else protocol.sequence
  { protocol with active := false, headerSeen := false, sequence := next }

end AudioProtocol

structure LatencyReporter where
  lastMs : Option UInt32 := none

/-- The total to report, when it has moved far enough. -/
def LatencyReporter.update (reporter : LatencyReporter) (total : UInt32) : Option UInt32 × LatencyReporter :=
  let moved : Bool := match reporter.lastMs with
    | some last => decide (max last.toNat total.toNat - min last.toNat total.toNat ≥ SYNC_THRESHOLD_MS)
    | none => true
  if moved then (some total, ⟨some total⟩) else (none, reporter)

inductive Command where
  | reset (sequence : UInt64)
  | configure (sequence : UInt64) (header : OpusHeader) (opusHead : Bytes)
  | packet (sequence : UInt64) (data : Bytes) (timestampNs durationNs : Option Int64) (arrivalMs : UInt64)
  | finish (sequence : UInt64)
  deriving DecidableEq, Repr

inductive EnqueueError where
  | full
  | stopped
  deriving DecidableEq, Repr

/-- The UI thread's handle of the worker thread. -/
structure AudioWorker where
  queue : List Command := []
  running : Bool := true
  connected : Bool := true

def AudioWorker.send (worker : AudioWorker) (command : Command) : Except EnqueueError Unit × AudioWorker :=
  if worker.running = false then (.error .stopped, worker)
  else if worker.connected = false then (.error .stopped, worker)
  else if worker.queue.length ≥ COMMAND_CAPACITY then (.error .full, worker)
  else (.ok (), { worker with queue := worker.queue ++ [command] })

end Xpra.Client
