import Xpra.Client.App
import Xpra.Client.MmapFile

/-! The process of `main.rs`, from the creation of the shared area to its exit. The
application and the decode thread each hold the area; the file goes with the last of
them, unless the process ends first. -/

namespace Xpra.Client
open Xpra.Net

/-- Where `run` has got to on its way out. -/
inductive Shutdown where
  | running
  /-- `run_app` has returned, and with it the event loop is gone. -/
  | returned
  /-- The session and the channel to the decode thread are dropped. -/
  | disconnected
  /-- The application's own reference is dropped. -/
  | released
  | exited
  deriving DecidableEq, Repr

structure Process where
  app : App
  /-- The directory as the creation of the area has left it. -/
  created : Disk
  shutdown : Shutdown := .running
  decoding : Bool := true

inductive ProcessEvent where
  | app (event : AppEvent)
  | returns
  | dropSenders
  | dropArea
  /-- A turn of the decode thread when there is no event loop any more. -/
  | decode (env : DecodeEnv)
  /-- `process::exit`, which waits for no thread. -/
  | exit

namespace App

/-- The one area, which everyone refers to. -/
def area (app : App) : Option MmapArea :=
  match app.state with
  | .prompt _ => app.mmap
  | .session session => session.system.client.area

def withArea (app : App) (area : Option MmapArea) : App :=
  match app.state with
  | .prompt _ => { app with mmap := area }
  | .session session =>
    let client : XpraClient := { session.system.client with area }
    { app with state := .session { session with system := { session.system with client } } }

def decodeQueue (app : App) : List Packet :=
  match app.state with
  | .prompt _ => []
  | .session session => session.system.client.decodeSender

def withDecodeQueue (app : App) (decodeSender : List Packet) : App :=
  match app.state with
  | .prompt _ => app
  | .session session =>
    let client : XpraClient := { session.system.client with decodeSender }
    { app with state := .session { session with system := { session.system with client } } }

end App

namespace Process

variable (host : Host) (process : Process)

/-- The directory now: every removal that the area counts has taken its file away. -/
def disk : Disk :=
  match process.app.area with
  | none => process.created
  | some area => (List.replicate area.removals area.path).foldl Disk.remove process.created

def dropLast : Process := { process with app := process.app.withArea (process.app.area.map MmapArea.unlink) }

def decodeEnds : Process :=
  let process := { process with decoding := false }
  if process.shutdown = .released then process.dropLast else process

def decode (env : DecodeEnv) : Except Stop Process :=
  match process.app.decodeQueue with
  -- while there is a sender, `recv` waits
  | [] => if process.shutdown = .returned then .error .blocked else .ok process.decodeEnds
  | packet :: rest => match decodeTurn host env process.app.area packet with
    | .error cause => .error (.panic cause)
    | .ok (result, area) =>
      let process := { process with app := (process.app.withArea area).withDecodeQueue rest }
      -- `send_event` fails
      .ok (if result.isSome then process.decodeEnds else process)

def step (event : ProcessEvent) (process : Process) : Except Stop Process :=
  match event, process.shutdown with
  | .app event, .running => (fun app => { process with app }) <$> App.step host event process.app
  | .returns, .running => .ok { process with shutdown := .returned }
  | .dropSenders, .returned => .ok { process with shutdown := .disconnected }
  | .dropArea, .disconnected =>
    let process := { process with shutdown := .released }
    .ok (if process.decoding then process else process.dropLast)
  | .decode env, .returned | .decode env, .disconnected | .decode env, .released =>
    if process.decoding then process.decode host env else .error .blocked
  | .exit, .released => .ok { process with shutdown := .exited }
  | _, _ => .error .blocked

/-- `run`, from the creation of the area: with a connection that the command line asked
for, or with the dialog. -/
def start (setup : MmapSetup) (files : List String) (sslInsecure : Bool)
    (command : Option (String × Connection × Option AudioWorker)) : Process :=
  let (area, created) := createArea host setup { files }
  let app := App.opening sslInsecure area
  match command with
  | none => { app, created }
  | some (target, connection, audioWorker) =>
    let client : XpraClient := .new connection.stream none none area audioWorker
    { app := { app with state := .session { target, connection, system := { client } } }, created }

abbrev run (events : List ProcessEvent) (process : Process) : Except Stop Process :=
  Library.Machine.run (step host) events process

end Process
end Xpra.Client
