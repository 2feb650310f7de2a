import Xpra.Client.App
import Xpra.Net.Ssh

/-! The command line of `main.rs`, and what `connect` does to the network. -/

namespace Xpra.Client
open Xpra.Net

/-! ### Operations on the network -/

/-- The checks that `tls::connect` leaves to the TLS library. -/
structure TlsConnector where
  acceptInvalidCerts : Bool := false
  acceptInvalidHostnames : Bool := false
  deriving DecidableEq, Repr

inductive Operation where
  | tcp (address : String)
  | socket (path : String)
  /-- The local `ssh` is started with these arguments. -/
  | ssh (arguments : List String)
  | handshake (hostname : String) (connector : TlsConnector)
  | websocket (address path : String)
  deriving DecidableEq, Repr

/-- What comes of an operation, and of what the TLS library does besides. -/
structure Network where
  answer : Operation → Except String Unit
  build : TlsConnector → Except String Unit
  nonblocking : Except String Unit

/-- The operations of an attempt to connect, in order, and what comes of it. -/
structure Dial (ε α : Type) where
  operations : List Operation
  outcome : Except ε α

namespace Dial

variable {ε φ α : Type}

instance : Monad (Dial ε) where
  pure value := { operations := [], outcome := .ok value }
  bind first next := match first.outcome with
    | .ok value => { next value with operations := first.operations ++ (next value).operations }
    | .error failure => { operations := first.operations, outcome := .error failure }

def fail (failure : ε) : Dial ε α := { operations := [], outcome := .error failure }

def mapError (change : ε → φ) (dial : Dial ε α) : Dial φ α := { dial with outcome := dial.outcome.mapError change }

def ofExcept (outcome : Except ε α) : Dial ε α := { operations := [], outcome }

def perform (network : Network) (operation : Operation) : Dial String Unit :=
  { operations := [operation], outcome := network.answer operation }

end Dial

/-! ### Connecting -/

/-- `tls::connect`. -/
def tlsConnect (network : Network) (hostname : String) (insecure : Bool) : Dial String Unit := do
  let connector : TlsConnector :=
    if insecure then { acceptInvalidCerts := true, acceptInvalidHostnames := true } else {}
  .ofExcept (network.build connector)
  .perform network (.handshake hostname connector)
  .ofExcept network.nonblocking

/-- `ssh::connect`. -/
def sshConnect (host : Host) (network : Network) (target : Target) : Dial String Unit := do
  let arguments ← .ofExcept (Ssh.arguments host.quote target.address target.username target.path)
  (Dial.perform network (.ssh arguments)).mapError fun e => s!"failed to launch ssh: {e}"

def connect (host : Host) (network : Network) (target : Target) (sslInsecure : Bool) : Dial (ExitCode × String) Unit :=
  if sslInsecure = true ∧ target.scheme ≠ .tls ∧ target.scheme ≠ .webSocketTls then
    .fail (.argumentMismatch, "--ssl-insecure only applies to ssl:// and wss:// connections")
  else
    let tcp := (Dial.perform network (.tcp target.address)).mapError fun e =>
      (ExitCode.connectionFailed, s!"failed to connect to {host.quote target.address}: {e}")
    let tls := (tlsConnect network (hostOnly target.address) sslInsecure).mapError fun e =>
      (ExitCode.sslFailure,
        s!"tls handshake failed: {e}" ++ if sslInsecure then "" else " (--ssl-insecure skips verification)")
    let websocket := (Dial.perform network (.websocket target.address target.path)).mapError fun e =>
      (ExitCode.connectionFailed, s!"websocket handshake failed: {e}")
    match target.scheme with
    | .tcp => tcp
    | .tls => do tcp; tls
    | .webSocket => do tcp; websocket
    | .webSocketTls => do tcp; tls; websocket
    | .ssh => (sshConnect host network target).mapError fun e => (.sshFailure, s!"ssh connection failed: {e}")
    | .socket =>
      if host.windows then
        .fail (.connectionFailed, "Unix-domain socket connections are not supported on this platform")
      else (Dial.perform network (.socket target.address)).mapError fun e =>
        (.connectionFailed, s!"failed to connect to Unix-domain socket {host.quote target.address}: {e}")

/-! ### Arguments -/

structure Options where
  target : Option String := none
  sslInsecure : Bool := false
  deriving DecidableEq, Repr

def HELP_OPTIONS : List String := ["-h", "--help"]
def VERSION_OPTION : String := "--version"
def SSL_INSECURE : String := "--ssl-insecure"

/-- `starts_with('-')`. -/
def dashed (arg : String) : Bool := arg.toList.head? = some '-'

def parseArg (quote : String → String) (options : Options) (arg : String) : Except String Options :=
  if arg ∈ HELP_OPTIONS ∨ arg = VERSION_OPTION then .ok options
  else if arg = SSL_INSECURE then .ok { options with sslInsecure := true }
  else if dashed arg then .error s!"unrecognized option {quote arg}"
  else match options.target with
    | some first => .error s!"more than one target: {quote first} and {quote arg}"
    | none => .ok { options with target := some arg }

def parseArgs (quote : String → String) (args : List String) : Except String Options :=
  (args.drop 1).foldlM (parseArg quote) {}

/-! ### The program -/

/-- What the platform has for the program once it is connected, or needs no connection
yet. -/
structure Startup where
  eventLoop : Except String Unit
  mmap : Option MmapArea
  stream : Sink
  audioWorker : Option AudioWorker

inductive Start where
  | exits (exitCode : ExitCode)
  | runs (app : App)

def startApp (startup : Startup) (sslInsecure : Bool) (session : Option (Target × String)) : Start :=
  match startup.eventLoop with
  | .error _ => .exits .internalError
  | .ok () =>
    let app := App.opening sslInsecure startup.mmap
    match session with
    | none => .runs app
    | some (target, typed) =>
      let client : XpraClient := .new startup.stream none none startup.mmap startup.audioWorker
      .runs { app with state := .session {
        target := typed
        connection := { attempt := 0, target, stream := startup.stream }
        system := { client } } }

/-- `run`, up to the event loop. -/
def run (host : Host) (network : Network) (startup : Startup) (args : List String) : List Operation × Start :=
  if (args.drop 1).any (· ∈ HELP_OPTIONS) then ([], .exits .ok)
  else if (args.drop 1).any (· = VERSION_OPTION) then ([], .exits .ok)
  else match parseArgs host.quote args with
    | .error _ => ([], .exits .argumentMismatch)
    | .ok options => match options.target with
      | none => ([], startApp startup options.sslInsecure none)
      | some typed => match parseTarget host.quote typed with
        | .error _ => ([], .exits .argumentMismatch)
        | .ok target =>
          let dial := connect host network target options.sslInsecure
          match dial.outcome with
          | .error (exitCode, _) => (dial.operations, .exits exitCode)
          | .ok () => (dial.operations, startApp startup options.sslInsecure (some (target, typed)))

/-- The worker thread of the dialog that calls `connect` in this step. -/
def App.connecting (event : AppEvent) (app : App) : Option ConnectWorker :=
  match event with
  | .connects index _ => (app.workers[index]?).filter fun worker => !worker.sent
  | _ => none

end Xpra.Client
