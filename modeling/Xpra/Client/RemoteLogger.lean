import Xpra.Client.System

/-! The logger (`client/remote_logging.rs`): every record is printed, and those from `Info`
up also go to the server, once its hello has asked for them. -/

namespace Xpra.Client.RemoteLogger
open Xpra.Net

/-- The levels of `log`, the most severe first. -/
inductive Level where
  | error
  | warn
  | info
  | debug
  | trace
  deriving DecidableEq, Repr

/-- A filter lets through the levels up to its number, and `off` is 0. -/
def Level.number : Level → Nat
  | error => 1
  | warn => 2
  | info => 3
  | debug => 4
  | trace => 5

def FORWARD_LEVEL : Level := .info

def pythonLevel : Level → Int64
  | .error => 40
  | .warn => 30
  | .info => 20
  | .debug => 10
  | .trace => 5

structure Record where
  level : Level
  message : String
  /-- Whether its thread is just forwarding another one. -/
  inForward : Bool := false
  deriving DecidableEq, Repr

def logPacket (level : Level) (message : String) : Packet where
  main := [.string "send-log", .integer (pythonLevel level), .string message]

/-! ### The client with its logger -/

structure Session where
  system : System
  printed : List Record := []

namespace Session

/-- The filter holds for the macros of `log` and for the local half of the logger. -/
def log (filter : Nat) (record : Record) (session : Session) : Session :=
  if filter < record.level.number then session
  else
    let session := { session with printed := session.printed ++ [record] }
    if FORWARD_LEVEL.number < record.level.number then session
    else if session.system.client.logSink = false then session
    else if record.inForward then session
    else { session with system := session.system.posted (logPacket record.level record.message) }

inductive Event where
  | client (event : Client.Event)
  | log (record : Record)

def ofLogger : Client.Event → Bool
  | .post (.log _ _) => true
  | _ => false

variable (host : Host) (filter : Nat)

def step (event : Event) (session : Session) : Except Stop Session :=
  match event with
  | .client event =>
    if ofLogger event then .error .blocked
    else match System.step host event session.system with
      | .ok system => .ok { session with system }
      | .error stop => .error stop
  | .log record => .ok (session.log filter record)

abbrev run (events : List Event) (session : Session) : Except Stop Session :=
  Library.Machine.run (step host filter) events session

end Session
end Xpra.Client.RemoteLogger
