import Xpra.Client.Audio
import Xpra.Client.Window
import Xpra.Net.Sha256

/-! The state of the client (`XpraClient` in `client/client.rs`), in the parts
its handlers work on. The channels to the other threads are held as the queues
behind them. -/

namespace Xpra.Client
open Xpra.Net

inductive ExitCode where
  | ok
  | connectionLost
  | failure
  | sshFailure
  | packetFailure
  | mmapTokenFailure
  | internalError
  | sslFailure
  | connectionFailed
  | authenticationFailed
  | argumentMismatch
  deriving DecidableEq, Repr

structure MonitorInfo where
  name : String
  primary : Bool
  geometry : Int32 × Int32 × UInt32 × UInt32
  refreshRateMillihertz : Option UInt32
  deriving DecidableEq, Repr

/-- What the platform answers while one event is handled. -/
structure Env where
  /-- Milliseconds since the client started. -/
  elapsed : Nat := 0
  createWindow : Except String WindowId := .error ""
  surface : Bool := true
  confine : Bool := true
  lock : Bool := true
  release : Bool := true
  /-- Whether the platform takes the decoded image of a cursor or an icon. -/
  image : Bool := true
  monitors : List MonitorInfo := []
  currentMonitor : Option (Int32 × Int32 × UInt32 × UInt32) := none
  innerSize : UInt32 × UInt32 := (1, 1)
  innerPosition : Option (Int32 × Int32) := none
  xpraPassword : Option String := none
  pinentry : Option String := none
  /-- The bytes behind the two `secure_hex` calls of an answered challenge. -/
  clientSalt : Bytes := []
  padding : Bytes := []

/-! ### The connection and the way out -/

def clientPacket (packetType message : String) : Packet :=
  { main := [.string packetType, .string message] }

structure Link where
  stream : Sink := { outcome := fun _ => .written }
  /-- User events posted to the UI thread and not yet delivered. -/
  proxy : List Packet := []
  startupComplete : Bool := false
  exitCode : Option ExitCode := none
  /-- Every packet handed to `write_packet`, in order. -/
  sent : List Json := []

namespace Link

def connectionLostCode (link : Link) : ExitCode :=
  if link.startupComplete then .connectionLost else .connectionFailed

def writeJson (host : Host) (link : Link) (packet : Json) : Link :=
  if link.exitCode.isSome then link
  else
    let handed := { link with sent := link.sent ++ [packet] }
    match writePacket link.stream (host.render packet) with
    | (.ok (), stream) => { handed with stream }
    | (.error error, stream) =>
      { handed with
        stream
        exitCode := some link.connectionLostCode
        proxy := link.proxy ++ [clientPacket "connection-lost" error.message] }

def quit (link : Link) (exitCode : ExitCode) : Link :=
  { link with exitCode := some (link.exitCode.getD exitCode) }

def writeAll (host : Host) (link : Link) (packets : List Json) : Link := packets.foldl (writeJson host) link

end Link

/-! ### Authentication -/

structure AuthDialog where
  window : WindowId
  prompt : String
  password : List Char := []

/-- A second hello: the salt it answers and how the response was computed. -/
structure Reply where
  serverSalt : Bytes
  clientSalt : String
  password : String
  response : String
  deriving DecidableEq, Repr

/-- What happened to the authentication, for the record. -/
inductive AuthEvent where
  | accepted (salt : Bytes) (digest saltDigest : String)
  | prompted
  | answered (reply : Reply)
  | cancelled
  deriving DecidableEq, Repr

structure Auth where
  username : Option String := none
  password : Option String := none
  softbufferCtx : Bool := false
  authDialog : Option AuthDialog := none
  pendingChallenge : Option Bytes := none
  pinentries : List String := []
  authLog : List AuthEvent := []

/-! ### Windows, draws, clipboard, sound -/

abbrev Table (κ α : Type) := κ → Option α

namespace Table

variable {κ α : Type} [DecidableEq κ]

def insert (table : Table κ α) (key : κ) (value : α) : Table κ α :=
  fun k => if k = key then some value else table k

def remove (table : Table κ α) (key : κ) : Table κ α := fun k => if k = key then none else table k

end Table

structure CustomCursor where
  rgba : Bytes
  width : Nat
  height : Nat
  hotspot : Nat × Nat

structure Modifiers where
  shift : Bool := false
  control : Bool := false
  alt : Bool := false

structure Display where
  windows : Table UInt64 XpraWindow := fun _ => none
  idMap : Table WindowId UInt64 := fun _ => none
  modifiers : Modifiers := {}
  currentCursor : Option CustomCursor := none
  monitors : List MonitorInfo := []
  desktopSize : Option (UInt32 × UInt32) := none
  pointerGrabbed : Option UInt64 := none

structure Draws where
  serverBackwardsCompatible : Bool := true
  /-- Packets sent to the decode thread and not yet received by it. -/
  decodeSender : List Packet := []
  /-- The shared area, which the decode thread holds a reference to as well. -/
  area : Option MmapArea := none
  /-- Whether the UI thread holds its reference. -/
  mmap : Bool := false
  checks : List (Except String Bool) := []

structure ClipboardSync where
  clipboard : Option (List String) := none
  clipboardEnabled : Bool := false
  lastClipboard : String := ""

structure Speaker where
  audioWorker : Option AudioWorker := none
  audioProtocol : AudioProtocol := {}
  audioSyncReporter : LatencyReporter := {}
  audioQueueWarned : Bool := false

structure XpraClient extends Link, Auth, Display, Draws, ClipboardSync, Speaker where
  helloSent : Bool := false
  serverVersion : String := ""
  lastClientLatencyMs : Int64 := -1
  logSink : Bool := false
  tray : Bool := false

namespace XpraClient

/-- The client of a session that starts. Both threads hold the area, if there is
one. -/
def new (stream : Sink) (username password : Option String) (area : Option MmapArea)
    (audioWorker : Option AudioWorker) : XpraClient :=
  { stream, username, password, area, mmap := area.isSome, audioWorker }

def writeJson (host : Host) (client : XpraClient) (packet : Json) : XpraClient :=
  { client with toLink := client.toLink.writeJson host packet }

def quit (client : XpraClient) (exitCode : ExitCode) : XpraClient :=
  { client with toLink := client.toLink.quit exitCode }

end XpraClient
end Xpra.Client
