import Xpra.Client.Decode
import Xpra.Client.Dispatch
import Xpra.Library.Machine

/-! The whole client: the reader, the UI thread, the decode thread and the small
threads that post to the UI thread. Every step is one turn of one of them, or
something the server or the user does. -/

namespace Xpra.Client
open Xpra.Net

/-! ### The reader thread -/

def parsePacket (host : Host) (raw : RawPacket) : Except String Packet :=
  match host.loadYaml raw.payload with
  | .error message => .error message
  | .ok [.array items] => .ok { main := items, raw := raw.chunks }
  | .ok [_] => .error "received invalid packet data type"
  | .ok _ => .error "too many items"

def connectionError (error : IoError) : String :=
  if error.kind = .unexpectedEof ∨ error.kind = .connectionReset then "connection closed by the server"
  else error.message

/-! ### Other threads -/

inductive LocalPost where
  | ping
  | log (level : Int64) (message : String)
  | clipboardChanged (text : String)
  | trayExit
  | audioLatency (totalMs : UInt32)
  | audioWorkerFailed (message : String)
  deriving DecidableEq, Repr

namespace LocalPost

def packet : LocalPost → Packet
  | ping => clientPacket "send-ping" ""
  | log level message => { main := [.string "send-log", .integer level, .string message] }
  | clipboardChanged text => clientPacket "clipboard-changed" text
  | trayExit => clientPacket "tray-exit" ""
  | audioLatency totalMs => { main := [.string "audio-latency", .integer totalMs.toUInt64.toInt64] }
  | audioWorkerFailed message => clientPacket "audio-worker-failed" message

def started (host : Host) (client : XpraClient) : LocalPost → Bool
  | ping => client.startupComplete
  | log _ _ => client.logSink
  | clipboardChanged _ => client.clipboard.isSome
  | trayExit => client.tray
  | audioLatency _ | audioWorkerFailed _ => host.windows

end LocalPost

/-- What a pinentry worker posts: the password, a cancel, or the prompt for the
dialog that stands in for it. -/
def pinentryPacket (prompt : String) : Except String (Option String) → Packet
  | .ok (some password) => clientPacket "challenge-password" password
  | .ok none => clientPacket "challenge-cancel" ""
  | .error _ => clientPacket "challenge-fallback-dialog" prompt

/-! ### Steps -/

inductive Event where
  /-- A turn of the reader, on what `read_packet` returned. -/
  | receive (read : Except IoError RawPacket)
  /-- The UI thread handles the next posted packet. -/
  | deliver (env : Env)
  | input (id : WindowId) (event : WindowEvent) (env : Env)
  | resumed (env : Env)
  | decode (env : DecodeEnv)
  | post (posted : LocalPost)
  | pinentry (prompt : String) (outcome : Except String (Option String))
  | serverWrites (index : Nat) (byte : UInt8)
  /-- The audio worker takes a command, or stops. -/
  | audioTurn (running connected : Bool)

inductive Stop where
  /-- The event cannot happen in this state. -/
  | blocked
  /-- A thread has aborted the process. -/
  | panic (cause : Panic)
  deriving DecidableEq, Repr

structure System where
  client : XpraClient
  readerEnded : Bool := false

namespace System

variable (host : Host) (system : System)

def ofClient (client : Except Panic XpraClient) : Except Stop System :=
  match client with
  | .ok client => .ok { system with client }
  | .error cause => .error (.panic cause)

def posted (packet : Packet) : System :=
  { system with client := { system.client with proxy := system.client.proxy ++ [packet] } }

def receive (read : Except IoError RawPacket) : Except Stop System :=
  if system.client.helloSent = false ∨ system.readerEnded = true then .error .blocked
  else match read with
    | .error error =>
      .ok { system.posted (clientPacket "connection-lost" (connectionError error)) with readerEnded := true }
    | .ok raw => match parsePacket host raw with
      | .error message => .ok { system.posted (clientPacket "invalid-packet" message) with readerEnded := true }
      | .ok packet => match packet.getStr 0 with
        | .error cause => .error (.panic cause)
        | .ok _ => .ok (system.posted packet)

def deliver (env : Env) : Except Stop System :=
  match system.client.proxy with
  | [] => .error .blocked
  | packet :: rest => system.ofClient (userEvent host env { system.client with proxy := rest } packet)

def decode (env : DecodeEnv) : Except Stop System :=
  match system.client.decodeSender with
  | [] => .error .blocked
  | packet :: rest => match decodeTurn host env system.client.area packet with
    | .error cause => .error (.panic cause)
    | .ok (result, area) => .ok { system with client := { system.client with
        decodeSender := rest
        area
        proxy := system.client.proxy ++ (result.map (decodedPacket env packet)).toList } }

def serverWrites (index : Nat) (byte : UInt8) : Except Stop System :=
  match system.client.area with
  | none => .error .blocked
  | some area =>
    .ok { system with client := { system.client with area := some { area with memory := area.memory.set index byte } } }

def audioTurn (running connected : Bool) : Except Stop System :=
  match system.client.audioWorker with
  | none => .error .blocked
  | some worker => .ok { system with client := { system.client with
      audioWorker := some { queue := worker.queue.tail, running, connected } } }

def step (event : Event) (system : System) : Except Stop System :=
  match event with
  | .receive read => system.receive host read
  | .deliver env => system.deliver host env
  | .input id event env => .ok { system with client := windowEvent host env system.client id event }
  | .resumed env => .ok { system with client := resumed host env system.client }
  | .decode env => system.decode host env
  | .post posted =>
    if posted.started host system.client then .ok (system.posted posted.packet) else .error .blocked
  | .pinentry prompt outcome =>
    if prompt ∈ system.client.pinentries then
      let client : XpraClient := { system.client with pinentries := system.client.pinentries.erase prompt }
      .ok ({ system with client }.posted (pinentryPacket prompt outcome))
    else .error .blocked
  | .serverWrites index byte => system.serverWrites index byte
  | .audioTurn running connected => system.audioTurn running connected

abbrev run (events : List Event) (system : System) : Except Stop System :=
  Library.Machine.run (step host) events system

/-- A client that has just been set up, and a connection that takes everything. -/
def plain : System := { client := .new { outcome := fun _ => .written } none none none none }

end System
end Xpra.Client
