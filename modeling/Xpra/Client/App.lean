import Xpra.Client.ConnectDialog
import Xpra.Client.System

/-! The application handler of `main.rs`: the connection dialog, the worker threads
that connect for it, and the session that takes its place. -/

namespace Xpra.Client
open Xpra.Net

structure Connection where
  attempt : Nat
  target : Target
  stream : Sink

abbrev Outcome := Except (ExitCode × String) Connection

structure ConnectWorker where
  attempt : Nat
  target : Target
  /-- Whether the outcome is on the channel and only the event is still to be posted. -/
  sent : Bool := false
  deriving DecidableEq, Repr

/-- `connect`, with what came of the connection itself. -/
def ConnectWorker.connect (worker : ConnectWorker) (sslInsecure : Bool) (made : Except (ExitCode × String) Sink) : Outcome :=
  if sslInsecure = true ∧ worker.target.scheme ≠ .tls ∧ worker.target.scheme ≠ .webSocketTls then
    .error (.argumentMismatch, "--ssl-insecure only applies to ssl:// and wss:// connections")
  else (fun stream => { attempt := worker.attempt, target := worker.target, stream }) <$> made

structure Session where
  target : String
  connection : Connection
  system : System

inductive AppState where
  | prompt (dialog : Option ConnectDialog)
  | session (session : Session)

structure App where
  state : AppState := .prompt none
  context : Bool := false
  mmap : Option MmapArea := none
  sslInsecure : Bool := false
  pending : Option ConnectDetails := none
  /-- The attempt whose outcome is received next. -/
  connectRx : Option Nat := none
  exitCode : Option ExitCode := none
  exiting : Bool := false
  started : Bool := false
  /-- The user events posted before there is a session. -/
  proxy : List Packet := []
  workers : List ConnectWorker := []
  /-- The outcomes sent so far, each on the channel of its attempt. -/
  results : Table Nat Outcome := fun _ => none
  attempts : List ConnectDetails := []

def CONNECT_RESULT : String := "connect-result"

inductive AppEvent where
  | resumed (env : Env) (shown : Except String WindowId)
  | input (id : WindowId) (event : WindowEvent) (pointed : Control → Bool) (env : Env)
  | deliver (env : Env) (audioWorker : Option AudioWorker)
  /-- A worker's `connect` returns, and it sends what it returned. -/
  | connects (index : Nat) (made : Except (ExitCode × String) Sink)
  /-- It posts the event for it, and ends. -/
  | posts (index : Nat)
  | session (event : Event)

def ConnectDialog.windowEvent (dialog : ConnectDialog) (event : WindowEvent) (pointed : Control → Bool) :
    ConnectAction × ConnectDialog :=
  match event with
  | .modifiersChanged shift _ _ => (.none, { dialog with shift })
  | .mouseInput pressed button => dialog.handleMouse pressed button pointed
  | .keyboardInput event isSynthetic => if isSynthetic then (.none, dialog) else dialog.handleKey event
  | .closeRequested => (.cancel, dialog)
  | _ => (.none, dialog)

namespace App

variable (host : Host) (app : App)

def dialog : Option ConnectDialog :=
  match app.state with
  | .prompt dialog => dialog
  | .session _ => none

def updateDialog (update : ConnectDialog → ConnectDialog) : App :=
  match app.state with
  | .prompt (some dialog) => { app with state := .prompt (some (update dialog)) }
  | _ => app

def quit (exitCode : ExitCode) : App := { app with exitCode := some (app.exitCode.getD exitCode), exiting := true }

/-- `exit_code`: what the process exits with. -/
def finalExitCode : ExitCode :=
  match app.state with
  | .session session => (session.system.client.exitCode.or app.exitCode).getD .ok
  | .prompt _ => app.exitCode.getD .ok

def showDialog (shown : Except String WindowId) : App :=
  match shown with
  | .ok window => { app with context := true, state := .prompt (some { window }) }
  | .error _ => app.quit .internalError

def startConnect (details : ConnectDetails) : App :=
  match parseTarget host.quote details.uri with
  | .error message => app.updateDialog fun dialog => dialog.setError message
  | .ok target =>
    let app := app.updateDialog fun dialog => dialog.setConnecting details.uri
    { app with
      connectRx := some app.attempts.length
      pending := some details
      workers := app.workers ++ [{ attempt := app.attempts.length, target }]
      attempts := app.attempts ++ [details] }

def handleDialogEvent (id : WindowId) (event : WindowEvent) (pointed : Control → Bool) : App :=
  match app.dialog with
  | none => app
  | some dialog =>
    if dialog.window ≠ id then app
    else
      let (action, dialog) := dialog.windowEvent event pointed
      let app := { app with state := .prompt (some dialog) }
      match action with
      | .none => app
      | .cancel => app.quit .ok
      | .connect details => app.startConnect host details

/-- `start_session`, with the new client's own startup. -/
def startSession (env : Env) (audioWorker : Option AudioWorker) (connection : Connection) (details : ConnectDetails) : App :=
  let client : XpraClient := .new connection.stream details.username details.password app.mmap audioWorker
  let client : XpraClient := { client with softbufferCtx := app.context, proxy := app.proxy }
  { app with
    context := false
    proxy := []
    state := .session { target := details.uri, connection, system := { client := Client.resumed host env client } } }

def finishConnect (env : Env) (audioWorker : Option AudioWorker) : App :=
  let taken := { app with connectRx := none, pending := none }
  match app.connectRx, app.pending with
  | some attempt, some details => match app.results attempt with
    | some (.ok connection) => taken.startSession host env audioWorker connection details
    | some (.error (_, message)) => taken.updateDialog fun dialog => dialog.setError message
    | none => taken
  | _, _ => taken

/-- `user_event` while there is no session. -/
def userEvent (env : Env) (audioWorker : Option AudioWorker) (packet : Packet) : App :=
  if packet.len > 0 ∧ yamlStr (packet.get 0) = CONNECT_RESULT then app.finishConnect host env audioWorker else app

def posted (packet : Packet) : App :=
  match app.state with
  | .prompt _ => { app with proxy := app.proxy ++ [packet] }
  | .session session => { app with state := .session { session with system := session.system.posted packet } }

def onSession (session : Session) (event : Event) : Except Stop App :=
  (fun system => { app with state := .session { session with system } }) <$> System.step host event session.system

def step (event : AppEvent) (app : App) : Except Stop App :=
  match event with
  -- the event loop calls it once
  | .resumed env shown => if app.started then .error .blocked else
    let app := { app with started := true }
    match app.state with
    | .session session => app.onSession host session (.resumed env)
    | .prompt (some _) => .ok app
    | .prompt none => .ok (app.showDialog shown)
  | .input id event pointed env => match app.state with
    | .session session => app.onSession host session (.input id event env)
    | .prompt _ => .ok (app.handleDialogEvent host id event pointed)
  | .deliver env audioWorker => match app.state with
    | .session session => app.onSession host session (.deliver env)
    | .prompt _ => match app.proxy with
      | [] => .error .blocked
      | packet :: rest => .ok ({ app with proxy := rest }.userEvent host env audioWorker packet)
  | .connects index made => match app.workers[index]? with
    | some worker =>
      if worker.sent then .error .blocked
      else .ok { app with
        workers := app.workers.set index { worker with sent := true }
        results := app.results.insert worker.attempt (worker.connect app.sslInsecure made) }
    | none => .error .blocked
  | .posts index => match app.workers[index]? with
    | some worker =>
      if worker.sent then .ok ({ app with workers := app.workers.eraseIdx index }.posted (clientPacket CONNECT_RESULT ""))
      else .error .blocked
    | none => .error .blocked
  | .session event => match app.state, event with
    | .session session, .receive _ | .session session, .decode _ | .session session, .post _ | .session session, .pinentry _ _
    | .session session, .serverWrites _ _ | .session session, .audioTurn _ _ => app.onSession host session event
    | _, _ => .error .blocked

/-- No target on the command line. -/
def opening (sslInsecure : Bool) (mmap : Option MmapArea) : App := { sslInsecure, mmap }

abbrev run (events : List AppEvent) (app : App) : Except Stop App := Library.Machine.run (step host) events app

end App
end Xpra.Client
