import Xpra.Client.App

/-! Connection attempts. The dialog's status, the pending details, the channel and the
event that announces the outcome all stand for one attempt at a time. -/

namespace Xpra.Proofs.ConnectAttempts
open Xpra.Net Xpra.Client Library

variable {host : Host}

/-! ### The dialog -/

section Dialog
variable {dialog : ConnectDialog}

theorem windowEvent_frozen (connecting : dialog.connecting = true) (event : WindowEvent) (pointed : Control → Bool) :
    dialog.windowEvent event pointed = (.cancel, dialog) ∨
      ∃ shift, dialog.windowEvent event pointed = (.none, { dialog with shift }) := by
  have idle : (ConnectAction.none, dialog) = (.none, { dialog with shift := dialog.shift }) := rfl
  cases event with
  | modifiersChanged shift => exact .inr ⟨shift, rfl⟩
  | mouseInput pressed button =>
    rw [ConnectDialog.windowEvent, ConnectDialog.handleMouse, ConnectDialog.click, if_pos connecting]
    split
    · exact .inr ⟨_, idle⟩
    · cases pointed .cancelButton with
      | true => exact .inl rfl
      | false => exact .inr ⟨_, idle⟩
  | keyboardInput event isSynthetic =>
    rw [ConnectDialog.windowEvent, ConnectDialog.handleKey, ConnectDialog.key, if_pos connecting]
    split
    · exact .inr ⟨_, idle⟩
    · split
      · exact .inr ⟨_, idle⟩
      · split
        · exact .inl rfl
        · exact .inr ⟨_, idle⟩
  | closeRequested => exact .inl rfl
  | _ => exact .inr ⟨_, idle⟩

def Open (dialog : ConnectDialog) : Prop := dialog.connecting = false

theorem submit_open : Open dialog.submit.2 := by
  have rejected (message : String) (focus : Focus) : Open (dialog.reject message focus).2 := rfl
  rw [ConnectDialog.submit]
  simp only []
  repeat' split
  all_goals first | exact rejected _ _ | rfl

theorem setProtocol_open (opened : Open dialog) (index : Fin PROTOCOLS.length) : Open (dialog.setProtocol index) := by
  rw [ConnectDialog.setProtocol]
  split <;> exact opened

theorem stepOrProtocol_open (opened : Open dialog) (delta : Int) : Open (dialog.stepOrProtocol delta) := by
  rw [ConnectDialog.stepOrProtocol]
  split
  · exact opened
  · exact setProtocol_open opened _

theorem updateField_open (opened : Open dialog) (update : String → String) : Open (dialog.updateField update) := by
  rw [ConnectDialog.updateField]
  split <;> exact opened

theorem key_open (opened : Open dialog) (event : KeyEvent) : Open (dialog.key event).2 := by
  have closed : ¬ dialog.connecting = true := by
    rw [opened]
    decide
  have cleared : Open { dialog with status := .none } := rfl
  rw [ConnectDialog.key, if_neg closed]
  split
  · split <;> exact opened
  · repeat' split
    · exact opened
    · exact opened
    · exact submit_open
  · exact opened
  · exact stepOrProtocol_open opened 1
  · exact stepOrProtocol_open opened (-1)
  · exact updateField_open cleared _
  · split
    · split
      · exact opened
      · exact opened
      · exact submit_open
    · split
      · exact opened
      · exact updateField_open cleared _

theorem click_open (opened : Open dialog) (pointed : Control → Bool) : Open (dialog.click pointed).2 := by
  have closed : ¬ dialog.connecting = true := by
    rw [opened]
    decide
  rw [ConnectDialog.click, if_neg closed]
  split
  · simp only []
    split
    · exact setProtocol_open opened _
    · exact opened
  · split
    · exact opened
    · split
      · exact opened
      · split
        · exact opened
        · split
          · exact submit_open
          · exact opened

theorem windowEvent_open (opened : Open dialog) (event : WindowEvent) (pointed : Control → Bool) :
    Open (dialog.windowEvent event pointed).2 := by
  cases event with
  | mouseInput pressed button =>
    rw [ConnectDialog.windowEvent, ConnectDialog.handleMouse]
    split
    · exact opened
    · exact click_open opened pointed
  | keyboardInput event isSynthetic =>
    rw [ConnectDialog.windowEvent, ConnectDialog.handleKey]
    split
    · exact opened
    · split
      · exact opened
      · exact key_open opened event
  | _ => exact opened

end Dialog

/-! ### The attempt under way -/

/-- The attempts whose outcome has not been taken in yet. -/
def inFlight (app : App) : Nat :=
  app.workers.length + match app.state with
    | .prompt _ => app.proxy.countP fun packet => yamlStr (packet.get 0) = CONNECT_RESULT
    | .session _ => 0

/-- An outcome is of the attempt whose channel it is on. -/
def Sent (attempt : Nat) (target : Target) (app : App) : Prop :=
  ∃ outcome, app.results attempt = some outcome ∧
    ∀ connection, outcome = .ok connection → connection.attempt = attempt ∧ connection.target = target

inductive Stage (attempt : Nat) (target : Target) (app : App) : Prop where
  | connecting (workers : app.workers = [{ attempt, target }]) (queue : app.proxy = [])
  | sent (workers : app.workers = [{ attempt, target, sent := true }]) (queue : app.proxy = [])
      (result : Sent attempt target app)
  | posted (workers : app.workers = []) (queue : app.proxy = [clientPacket CONNECT_RESULT ""])
      (result : Sent attempt target app)

structure Idle (app : App) : Prop where
  pending : app.pending = none
  receiver : app.connectRx = none
  workers : app.workers = []
  queue : app.proxy = []
  opened : ∀ dialog, app.dialog = some dialog → Open dialog

/-- One attempt, which the dialog, the details and the channel are all about. -/
structure Waiting (host : Host) (app : App) (dialog : ConnectDialog) (details : ConnectDetails) (attempt : Nat)
    (target : Target) : Prop where
  frozen : dialog.connecting = true
  pending : app.pending = some details
  receiver : app.connectRx = some attempt
  own : app.attempts[attempt]? = some details
  parsed : parseTarget host.quote details.uri = .ok target
  stage : Stage attempt target app

inductive Phase (host : Host) (app : App) : Prop where
  | idle (dialog : Option ConnectDialog) (state : app.state = .prompt dialog) (idle : Idle app)
  | waiting (dialog : ConnectDialog) (details : ConnectDetails) (attempt : Nat) (target : Target)
      (state : app.state = .prompt (some dialog)) (waiting : Waiting host app dialog details attempt target)
  | session (session : Session) (state : app.state = .session session) (workers : app.workers = [])

theorem Phase.inFlight_le {app : App} (phase : Phase host app) : inFlight app ≤ 1 := by
  cases phase with
  | idle dialog state idle => simp [inFlight, state, idle.workers, idle.queue]
  | waiting dialog details attempt target state waiting =>
    have one : (app.proxy.countP fun packet => yamlStr (packet.get 0) = CONNECT_RESULT) ≤ app.proxy.length :=
      List.countP_le_length
    rw [inFlight, state]
    cases waiting.stage with
    | connecting workers queue => simp [workers, queue]
    | sent workers queue => simp [workers, queue]
    | posted workers queue => simpa [workers, queue] using one
  | session session state workers => simp [inFlight, state, workers]

theorem Phase.waiting_of_inFlight {app : App} (phase : Phase host app) (busy : inFlight app ≠ 0) :
    ∃ dialog details attempt target, app.state = .prompt (some dialog) ∧
      Waiting host app dialog details attempt target := by
  cases phase with
  | idle dialog state idle => simp [inFlight, state, idle.workers, idle.queue] at busy
  | waiting dialog details attempt target state waiting => exact ⟨dialog, details, attempt, target, state, waiting⟩
  | session session state workers => simp [inFlight, state, workers] at busy

/-! ### Turns -/

variable {app next : App} {dialog : ConnectDialog} {details : ConnectDetails} {attempt : Nat} {target : Target}

def Cancels (app : App) (event : AppEvent) : Prop :=
  ∃ id input pointed env dialog, event = .input id input pointed env ∧ app.state = .prompt (some dialog) ∧ dialog.window = id ∧
    (dialog.windowEvent input pointed).1 = .cancel

/-- What comes of an event of the dialog's window. An edit leaves the application as it
is but for the dialog; the other two go on from there. -/
inductive DialogTurn (host : Host) (app : App) (id : WindowId) (input : WindowEvent) (pointed : Control → Bool) : App → Prop where
  | ignored : DialogTurn host app id input pointed app
  | edited (dialog after : ConnectDialog) (here : app.dialog = some dialog) (own : dialog.window = id)
      (turned : dialog.windowEvent input pointed = (.none, after)) :
      DialogTurn host app id input pointed { app with state := .prompt (some after) }
  | cancelled (dialog after : ConnectDialog) (here : app.dialog = some dialog) (own : dialog.window = id)
      (turned : dialog.windowEvent input pointed = (.cancel, after)) :
      DialogTurn host app id input pointed (App.quit { app with state := .prompt (some after) } .ok)
  | connects (dialog after : ConnectDialog) (details : ConnectDetails) (here : app.dialog = some dialog)
      (own : dialog.window = id) (turned : dialog.windowEvent input pointed = (.connect details, after)) :
      DialogTurn host app id input pointed (App.startConnect host { app with state := .prompt (some after) } details)

theorem input_turn (host : Host) (app : App) (id : WindowId) (input : WindowEvent) (pointed : Control → Bool) :
    DialogTurn host app id input pointed (app.handleDialogEvent host id input pointed) := by
  rw [App.handleDialogEvent]
  split
  next => exact .ignored
  next dialog here =>
    split
    next => exact .ignored
    next own =>
      have same : dialog.window = id := by simpa using own
      rcases turned : dialog.windowEvent input pointed with ⟨action, after⟩
      cases action with
      | none => exact .edited dialog after here same turned
      | cancel => exact .cancelled dialog after here same turned
      | connect details => exact .connects dialog after details here same turned

theorem Waiting.of_same {after : App} {again : ConnectDialog} (waiting : Waiting host app dialog details attempt target)
    (frozen : again.connecting = true) (pending : after.pending = app.pending) (receiver : after.connectRx = app.connectRx)
    (attempts : after.attempts = app.attempts) (stage : Stage attempt target after) :
    Waiting host after again details attempt target :=
  ⟨frozen, pending.trans waiting.pending, receiver.trans waiting.receiver, attempts ▸ waiting.own, waiting.parsed, stage⟩

theorem Stage.of_same {after : App} (stage : Stage attempt target app) (workers : after.workers = app.workers)
    (queue : after.proxy = app.proxy) (results : after.results = app.results) : Stage attempt target after := by
  cases stage with
  | connecting here empty => exact .connecting (workers.trans here) (queue.trans empty)
  | sent here empty result => exact .sent (workers.trans here) (queue.trans empty) (by rwa [Sent, results])
  | posted here event result => exact .posted (workers.trans here) (queue.trans event) (by rwa [Sent, results])

/-- An input while an attempt is under way changes nothing, unless it cancels. -/
theorem input_frozen (host : Host) (state : app.state = .prompt (some dialog)) (frozen : dialog.connecting = true) (id : WindowId)
    (input : WindowEvent) (pointed : Control → Bool) (env : Env) :
    (∃ shift, app.handleDialogEvent host id input pointed = { app with state := .prompt (some { dialog with shift }) }) ∨
      (Cancels app (.input id input pointed env) ∧ app.handleDialogEvent host id input pointed = app.quit .ok) := by
  have same : { app with state := .prompt (some dialog) } = app := by rw [← state]
  rw [App.handleDialogEvent, App.dialog, state]
  simp only []
  split
  next => exact .inl ⟨dialog.shift, same.symm⟩
  next own =>
    rcases windowEvent_frozen frozen input pointed with cancels | ⟨shift, shifted⟩
    · refine .inr ⟨⟨id, input, pointed, env, dialog, rfl, state, by simpa using own, by rw [cancels]⟩, ?_⟩
      rw [cancels, same]
    · rw [shifted]
      exact .inl ⟨shift, rfl⟩

/-- Attempts know nothing of whether the application is starting or stopping. -/
theorem Phase.aside (phase : Phase host app) (exitCode : Option ExitCode) (exiting started : Bool) :
    Phase host { app with exitCode, exiting, started } := by
  cases phase with
  | idle dialog state idle => exact .idle dialog state ⟨idle.pending, idle.receiver, idle.workers, idle.queue, idle.opened⟩
  | waiting dialog details attempt target state waiting =>
    exact .waiting dialog details attempt target state
      (waiting.of_same waiting.frozen rfl rfl rfl (waiting.stage.of_same rfl rfl rfl))
  | session session state workers => exact .session session state workers

theorem quit_phase (phase : Phase host app) (code : ExitCode) : Phase host (app.quit code) := phase.aside _ true app.started

theorem started_phase (phase : Phase host app) : Phase host { app with started := true } := phase.aside app.exitCode app.exiting true

theorem idle_prompt (idle : Idle app) (opened : Open dialog) : Phase host { app with state := .prompt (some dialog) } := by
  refine .idle (some dialog) rfl ⟨idle.pending, idle.receiver, idle.workers, idle.queue, ?_⟩
  intro shown same
  cases same
  exact opened

theorem startConnect_phase (idle : Idle app) (state : app.state = .prompt (some dialog)) (details : ConnectDetails) :
    Phase host (app.startConnect host details) := by
  rw [App.startConnect]
  split
  next message _ =>
    rw [App.updateDialog, state]
    exact idle_prompt idle rfl
  next target parsed =>
    rw [App.updateDialog, state]
    refine .waiting (dialog.setConnecting details.uri) details app.attempts.length target rfl
      ⟨rfl, rfl, rfl, ?_, parsed, .connecting ?_ idle.queue⟩
    · simp
    · simp [idle.workers]

theorem input_phase (phase : Phase host app) (prompt : ∀ session, app.state ≠ .session session) (id : WindowId)
    (input : WindowEvent) (pointed : Control → Bool) : Phase host (app.handleDialogEvent host id input pointed) := by
  cases phase with
  | idle shown state idle =>
    have kept {dialog after : ConnectDialog} {action : ConnectAction} (here : app.dialog = some dialog)
        (turned : dialog.windowEvent input pointed = (action, after)) : Open after := by
      have opened := windowEvent_open (idle.opened dialog here) input pointed
      rwa [turned] at opened
    have turn := input_turn host app id input pointed
    generalize app.handleDialogEvent host id input pointed = handled at turn ⊢
    cases turn with
    | ignored => exact .idle shown state idle
    | edited dialog after here own turned => exact idle_prompt idle (kept here turned)
    | cancelled dialog after here own turned => exact quit_phase (idle_prompt idle (kept here turned)) .ok
    | connects dialog after details here own turned =>
      have again : Idle { app with state := .prompt (some after) } := by
        refine ⟨idle.pending, idle.receiver, idle.workers, idle.queue, ?_⟩
        intro shown same
        cases same
        exact kept here turned
      exact startConnect_phase again rfl details
  | waiting dialog details attempt target state waiting =>
    rcases input_frozen host state waiting.frozen id input pointed {} with ⟨shift, turned⟩ | ⟨-, quit⟩
    · rw [turned]
      exact .waiting { dialog with shift } details attempt target rfl
        (waiting.of_same waiting.frozen rfl rfl rfl (waiting.stage.of_same rfl rfl rfl))
    · rw [quit]
      exact quit_phase (.waiting dialog details attempt target state waiting) .ok
  | session session state => exact absurd state (prompt session)

theorem finishConnect_waiting (host : Host) (app : App) (pending : app.pending = some details)
    (receiver : app.connectRx = some attempt) (state : app.state = .prompt (some dialog)) (result : Sent attempt target app) (env : Env)
    (audioWorker : Option AudioWorker) :
    (∃ connection, app.results attempt = some (.ok connection) ∧ connection.attempt = attempt ∧
        connection.target = target ∧ app.finishConnect host env audioWorker =
          App.startSession host { app with connectRx := none, pending := none } env audioWorker connection details) ∨
      ∃ code message, app.results attempt = some (.error (code, message)) ∧
        app.finishConnect host env audioWorker =
          { app with connectRx := none, pending := none, state := .prompt (some (dialog.setError message)) } := by
  obtain ⟨outcome, sent, own⟩ := result
  rw [App.finishConnect, receiver, pending]
  simp only [sent]
  cases outcome with
  | ok connection =>
    obtain ⟨made, there⟩ := own connection rfl
    exact .inl ⟨connection, rfl, made, there, rfl⟩
  | error failure =>
    refine .inr ⟨failure.1, failure.2, rfl, ?_⟩
    simp only [App.updateDialog, state]

/-! ### Steps -/

/-- What a session gets to hear of an event. -/
def sessionEvent : AppEvent → Option Event
  | .resumed env _ => some (.resumed env)
  | .input id input _ env => some (.input id input env)
  | .deliver env _ => some (.deliver env)
  | .connects _ _ | .posts _ => none
  | .session event => match event with
    | .receive _ | .decode _ | .post _ | .pinentry _ _ | .serverWrites _ _ | .audioTurn _ _ => some event
    | _ => none

inductive Turn (host : Host) (app : App) : AppEvent → App → Prop where
  | shown (env : Env) (shown : Except String WindowId) (unstarted : app.started = false) (state : app.state = .prompt none) :
      Turn host app (.resumed env shown) ({ app with started := true }.showDialog shown)
  | resumed (env : Env) (shown : Except String WindowId) (dialog : ConnectDialog) (state : app.state = .prompt (some dialog)) :
      Turn host app (.resumed env shown) { app with started := true }
  | input (id : WindowId) (input : WindowEvent) (pointed : Control → Bool) (env : Env) (dialog : Option ConnectDialog)
      (state : app.state = .prompt dialog) :
      Turn host app (.input id input pointed env) (app.handleDialogEvent host id input pointed)
  | delivered (env : Env) (audioWorker : Option AudioWorker) (dialog : Option ConnectDialog)
      (state : app.state = .prompt dialog) (packet : Packet) (rest : List Packet) (queue : app.proxy = packet :: rest) :
      Turn host app (.deliver env audioWorker) ({ app with proxy := rest }.userEvent host env audioWorker packet)
  | connects (index : Nat) (made : Except (ExitCode × String) Sink) (worker : ConnectWorker)
      (running : app.workers[index]? = some worker) :
      Turn host app (.connects index made) { app with
        workers := app.workers.set index { worker with sent := true }
        results := app.results.insert worker.attempt (worker.connect app.sslInsecure made) }
  | posts (index : Nat) (worker : ConnectWorker) (running : app.workers[index]? = some worker) (sent : worker.sent = true) :
      Turn host app (.posts index)
        ({ app with workers := app.workers.eraseIdx index }.posted (clientPacket CONNECT_RESULT ""))
  | session (event : AppEvent) (session : Session) (system : System) (started : Bool) (state : app.state = .session session)
      (kept : app.started = true → started = true) (occurred : Event) (heard : sessionEvent event = some occurred)
      (stepped : System.step host occurred session.system = .ok system) :
      Turn host app event { app with started, state := .session { session with system } }

theorem onSession_turn {session : Session} {occurred : Event} {event : AppEvent} (started : Bool)
    (state : app.state = .session session) (kept : app.started = true → started = true)
    (moved : App.onSession host { app with started } session occurred = .ok next)
    (heard : sessionEvent event = some occurred) : Turn host app event next := by
  cases stepped : System.step host occurred session.system with
  | ok system =>
    have same : next = { app with started, state := .session { session with system } } := by
      simpa [App.onSession, stepped] using moved.symm
    rw [same]
    exact .session event session system started state kept occurred heard stepped
  | error stop => simp [App.onSession, stepped] at moved

theorem step_turn {event : AppEvent} (moved : App.step host event app = .ok next) : Turn host app event next := by
  cases event with
  | resumed env shown =>
    simp only [App.step] at moved
    split at moved
    next => cases moved
    next unstarted =>
      split at moved
      next session state => exact onSession_turn true state (fun _ => rfl) moved rfl
      next dialog state =>
        cases moved
        exact .resumed env shown dialog state
      next state =>
        cases moved
        exact .shown env shown (by simpa using unstarted) state
  | input id input pointed env =>
    simp only [App.step] at moved
    split at moved
    next session state => exact onSession_turn app.started state (fun same => same) moved rfl
    next dialog state =>
      cases moved
      exact .input id input pointed env dialog state
  | deliver env audioWorker =>
    simp only [App.step] at moved
    split at moved
    next session state => exact onSession_turn app.started state (fun same => same) moved rfl
    next dialog state =>
      split at moved
      next => cases moved
      next packet rest queue =>
        cases moved
        exact .delivered env audioWorker dialog state packet rest queue
  | connects index made =>
    simp only [App.step] at moved
    split at moved
    next worker running =>
      split at moved
      next => cases moved
      next =>
        cases moved
        exact .connects index made worker running
    next => cases moved
  | posts index =>
    simp only [App.step] at moved
    split at moved
    next worker running =>
      split at moved
      next sent =>
        cases moved
        exact .posts index worker running sent
      next => cases moved
    next => cases moved
  | session event =>
    simp only [App.step] at moved
    split at moved
    case h_7 => cases moved
    all_goals exact onSession_turn app.started ‹_› (fun same => same) moved rfl

theorem Stage.worker (stage : Stage attempt target app) {index : Nat} {worker : ConnectWorker}
    (running : app.workers[index]? = some worker) :
    index = 0 ∧ worker.attempt = attempt ∧ worker.target = target ∧ app.workers = [worker] ∧ app.proxy = [] ∧
      (worker.sent = true → Sent attempt target app) := by
  cases stage with
  | connecting workers queue =>
    rw [workers, List.getElem?_singleton] at running
    split at running
    next first =>
      cases running
      exact ⟨first, rfl, rfl, workers, queue, nofun⟩
    next => cases running
  | sent workers queue result =>
    rw [workers, List.getElem?_singleton] at running
    split at running
    next first =>
      cases running
      exact ⟨first, rfl, rfl, workers, queue, fun _ => result⟩
    next => cases running
  | posted workers => simp [workers] at running

theorem connect_own (worker : ConnectWorker) (sslInsecure : Bool) (made : Except (ExitCode × String) Sink)
    {connection : Connection} (connected : worker.connect sslInsecure made = .ok connection) :
    connection.attempt = worker.attempt ∧ connection.target = worker.target := by
  rw [ConnectWorker.connect] at connected
  split at connected
  next => cases connected
  next =>
    cases made with
    | error failure => cases connected
    | ok stream =>
      cases connected
      exact ⟨rfl, rfl⟩

theorem Phase.worker (phase : Phase host app) {index : Nat} {worker : ConnectWorker}
    (running : app.workers[index]? = some worker) :
    ∃ dialog details attempt target, app.state = .prompt (some dialog) ∧
      Waiting host app dialog details attempt target := by
  cases phase with
  | idle dialog state idle => simp [idle.workers] at running
  | waiting dialog details attempt target state waiting => exact ⟨dialog, details, attempt, target, state, waiting⟩
  | session session state workers => simp [workers] at running

theorem connects_phase (phase : Phase host app) {index : Nat} {worker : ConnectWorker}
    (made : Except (ExitCode × String) Sink) (running : app.workers[index]? = some worker) :
    Phase host { app with
      workers := app.workers.set index { worker with sent := true }
      results := app.results.insert worker.attempt (worker.connect app.sslInsecure made) } := by
  obtain ⟨dialog, details, attempt, target, state, waiting⟩ := phase.worker running
  obtain ⟨rfl, rfl, rfl, workers, queue, -⟩ := waiting.stage.worker running
  refine .waiting dialog details worker.attempt worker.target state
    (waiting.of_same waiting.frozen rfl rfl rfl (.sent ?_ queue ⟨worker.connect app.sslInsecure made, ?_, ?_⟩))
  · simp [workers]
  · simp [Table.insert]
  · exact fun connection connected => connect_own worker app.sslInsecure made connected

theorem posts_phase (phase : Phase host app) {index : Nat} {worker : ConnectWorker}
    (running : app.workers[index]? = some worker) (sent : worker.sent = true) :
    Phase host ({ app with workers := app.workers.eraseIdx index }.posted (clientPacket CONNECT_RESULT "")) := by
  obtain ⟨dialog, details, attempt, target, state, waiting⟩ := phase.worker running
  obtain ⟨rfl, rfl, rfl, workers, queue, result⟩ := waiting.stage.worker running
  simp only [App.posted, state]
  refine .waiting dialog details worker.attempt worker.target rfl
    (waiting.of_same waiting.frozen rfl rfl rfl (.posted ?_ ?_ (result sent)))
  · simp [workers]
  · simp [queue]

/-- Only the event of the attempt under way is delivered to the dialog. -/
theorem delivered_cases (phase : Phase host app) {shown : Option ConnectDialog} (prompt : app.state = .prompt shown)
    {packet : Packet} {rest : List Packet} (queue : app.proxy = packet :: rest) (env : Env)
    (audioWorker : Option AudioWorker) :
    ∃ dialog details attempt target, app.state = .prompt (some dialog) ∧
      Waiting host app dialog details attempt target ∧ app.workers = [] ∧
      ((∃ connection, app.results attempt = some (.ok connection) ∧ connection.attempt = attempt ∧
          connection.target = target ∧ App.userEvent host { app with proxy := rest } env audioWorker packet =
            App.startSession host { app with proxy := [], connectRx := none, pending := none } env audioWorker connection
              details) ∨
        ∃ code message, app.results attempt = some (.error (code, message)) ∧
          App.userEvent host { app with proxy := rest } env audioWorker packet =
            { app with
              proxy := []
              connectRx := none
              pending := none
              state := .prompt (some (dialog.setError message)) }) := by
  cases phase with
  | idle dialog state idle => cases idle.queue.symm.trans queue
  | waiting dialog details attempt target state waiting =>
    cases waiting.stage with
    | connecting workers none => cases none.symm.trans queue
    | sent workers none => cases none.symm.trans queue
    | posted workers one result =>
      cases one.symm.trans queue
      exact ⟨dialog, details, attempt, target, state, waiting, workers,
        finishConnect_waiting host { app with proxy := [] } waiting.pending waiting.receiver state result env audioWorker⟩
  | session session state => cases prompt.symm.trans state

theorem step_phase {event : AppEvent} (phase : Phase host app) (moved : App.step host event app = .ok next) :
    Phase host next := by
  cases step_turn moved with
  | shown env shown unstarted state =>
    have kept := started_phase phase
    cases phase with
    | idle _ _ idle =>
      cases shown with
      | ok window =>
        refine .idle (some { window }) rfl ⟨idle.pending, idle.receiver, idle.workers, idle.queue, ?_⟩
        intro dialog same
        cases same
        rfl
      | error message => exact quit_phase kept .internalError
    | waiting _ _ _ _ other => cases state.symm.trans other
    | session _ other => cases state.symm.trans other
  | resumed => exact started_phase phase
  | input id input pointed env dialog state => exact input_phase phase (by simp [state]) id input pointed
  | delivered env audioWorker shown prompt packet rest queue =>
    obtain ⟨dialog, details, attempt, target, state, waiting, workers,
      ⟨connection, -, -, -, began⟩ | ⟨code, message, -, failed⟩⟩ := delivered_cases phase prompt queue env audioWorker
    · rw [began]
      exact .session _ rfl workers
    · rw [failed]
      refine .idle (some (dialog.setError message)) rfl ⟨rfl, rfl, workers, rfl, ?_⟩
      intro shown same
      cases same
      rfl
  | connects index made worker running => exact connects_phase phase made running
  | posts index worker running sent => exact posts_phase phase running sent
  | session event session system started state =>
    cases phase with
    | session _ _ workers => exact .session { session with system } rfl workers
    | idle _ other => cases state.symm.trans other
    | waiting _ _ _ _ other => cases state.symm.trans other

theorem opening_phase (sslInsecure : Bool) (mmap : Option MmapArea) : Phase host (.opening sslInsecure mmap) :=
  .idle none rfl ⟨rfl, rfl, rfl, rfl, nofun⟩

/-! ### Before the session -/

theorem handleDialogEvent_prompt {shown : Option ConnectDialog} (state : app.state = .prompt shown) (id : WindowId)
    (input : WindowEvent) (pointed : Control → Bool) :
    ∃ dialog, (app.handleDialogEvent host id input pointed).state = .prompt dialog := by
  have turn := input_turn host app id input pointed
  generalize app.handleDialogEvent host id input pointed = handled at turn ⊢
  cases turn with
  | ignored => exact ⟨shown, state⟩
  | edited | cancelled => exact ⟨_, rfl⟩
  | connects =>
    rw [App.startConnect]
    split <;> exact ⟨_, rfl⟩

/-- Only the outcome of an attempt starts a session. -/
theorem step_prompt {event : AppEvent} {shown : Option ConnectDialog} (state : app.state = .prompt shown)
    (other : ∀ env audioWorker, event ≠ .deliver env audioWorker) (moved : App.step host event app = .ok next) :
    ∃ dialog, next.state = .prompt dialog := by
  cases step_turn moved with
  | shown env shown =>
    cases shown with
    | ok window => exact ⟨_, rfl⟩
    | error message => exact ⟨_, state⟩
  | resumed => exact ⟨_, state⟩
  | input id input pointed env => exact handleDialogEvent_prompt state id input pointed
  | delivered env audioWorker => exact absurd rfl (other env audioWorker)
  | connects => exact ⟨_, state⟩
  | posts =>
    rw [App.posted]
    simp only [state]
    exact ⟨_, rfl⟩
  | session _ _ _ _ running => cases state.symm.trans running

/-! ### Runs -/

/-- The session belongs to an attempt of the dialog's: its name, its credentials and
its connection are of that attempt. -/
def OfAttempt (host : Host) (app : App) (session : Session) : Prop :=
  ∃ details, app.attempts[session.connection.attempt]? = some details ∧
    parseTarget host.quote details.uri = .ok session.connection.target ∧ session.target = details.uri ∧
      session.system.client.username = details.username ∧ session.system.client.password = details.password

theorem resumed_credentials (env : Env) (client : XpraClient) :
    (Client.resumed host env client).username = client.username ∧
      (Client.resumed host env client).password = client.password := by
  rw [Client.resumed]
  simp only []
  split
  · exact ⟨rfl, rfl⟩
  · exact ⟨rfl, rfl⟩

theorem ofAttempt_startSession (env : Env) (audioWorker : Option AudioWorker) {connection : Connection}
    (own : app.attempts[connection.attempt]? = some details)
    (parsed : parseTarget host.quote details.uri = .ok connection.target) {session : Session}
    (began : (app.startSession host env audioWorker connection details).state = .session session) :
    OfAttempt host (app.startSession host env audioWorker connection details) session := by
  cases began
  exact ⟨details, own, parsed, rfl, (resumed_credentials env _).1, (resumed_credentials env _).2⟩

theorem own_attempt {event : AppEvent} (phase : Phase host app) (moved : App.step host event app = .ok next)
    {session : Session} (began : next.state = .session session) :
    (∃ before, app.state = .session before) ∨ OfAttempt host next session := by
  cases before : app.state with
  | session earlier => exact .inl ⟨earlier, rfl⟩
  | prompt shown =>
    right
    by_cases other : ∀ env audioWorker, event ≠ .deliver env audioWorker
    · obtain ⟨dialog, still⟩ := step_prompt before other moved
      cases began.symm.trans still
    · simp only [not_forall, ne_eq, not_not] at other
      obtain ⟨env, audioWorker, rfl⟩ := other
      cases step_turn moved with
      | delivered _ _ shown state packet rest queue =>
        obtain ⟨dialog, details, attempt, target, shown, waiting, workers,
          ⟨connection, -, made, there, started⟩ | ⟨code, message, -, failed⟩⟩ :=
            delivered_cases phase state queue env audioWorker
        · rw [started] at began ⊢
          refine ofAttempt_startSession env audioWorker ?_ ?_ began
          · rw [made]
            exact waiting.own
          · rw [there]
            exact waiting.parsed
        · rw [failed] at began
          cases began
      | session _ _ _ _ running => cases before.symm.trans running

structure Orderly (host : Host) (event : AppEvent) (app next : App) : Prop where
  single : inFlight app ≤ 1 ∧ inFlight next ≤ 1
  frozen : inFlight app ≠ 0 → ∀ id input pointed env, event = .input id input pointed env →
    (∃ dialog shift, app.state = .prompt (some dialog) ∧ next = { app with state := .prompt (some { dialog with shift }) }) ∨
      (Cancels app event ∧ next = app.quit .ok)
  fields : inFlight app ≠ 0 → ∀ after, next.dialog = some after →
    ∃ dialog, app.dialog = some dialog ∧ after.toFields = dialog.toFields
  own : ∀ session, next.state = .session session → (∃ before, app.state = .session before) ∨ OfAttempt host next session
  reopened : ∀ env audioWorker shown attempt code message, event = .deliver env audioWorker → app.state = .prompt shown →
    app.connectRx = some attempt → app.results attempt = some (.error (code, message)) →
    inFlight next = 0 ∧ ∃ dialog, app.dialog = some dialog ∧ next.dialog = some (dialog.setError message) ∧
      Open (dialog.setError message)

theorem waiting_fields {event : AppEvent} (waiting : Waiting host app dialog details attempt target)
    (state : app.state = .prompt (some dialog)) (moved : App.step host event app = .ok next) {after : ConnectDialog}
    (shown : next.dialog = some after) : after.toFields = dialog.toFields := by
  have here : app.dialog = some dialog := by rw [App.dialog, state]
  cases step_turn moved with
  | shown _ _ _ other => cases state.symm.trans other
  | resumed | connects =>
    cases here.symm.trans shown
    rfl
  | input id input pointed env =>
    rcases input_frozen host state waiting.frozen id input pointed env with ⟨shift, turned⟩ | ⟨-, quit⟩
    · rw [turned] at shown
      cases shown
      rfl
    · rw [quit] at shown
      cases here.symm.trans shown
      rfl
  | delivered env audioWorker _ prompt packet rest queue =>
    obtain ⟨found, details, attempt, target, again, waiting, -,
      ⟨connection, -, -, -, began⟩ | ⟨code, message, -, failed⟩⟩ :=
        delivered_cases (.waiting dialog details attempt target state waiting) prompt queue env audioWorker
    · rw [began] at shown
      cases shown
    · cases state.symm.trans again
      rw [failed] at shown
      cases shown
      rfl
  | posts =>
    simp only [App.posted, state] at shown
    cases shown
    rfl
  | session _ _ _ _ other => cases state.symm.trans other

theorem step_orderly {event : AppEvent} (phase : Phase host app) (moved : App.step host event app = .ok next) :
    Orderly host event app next := by
  refine ⟨⟨phase.inFlight_le, (step_phase phase moved).inFlight_le⟩, fun busy id input pointed env same => ?_,
    fun busy after shown => ?_, fun session state => own_attempt phase moved state,
    fun env audioWorker shown attempt code message same prompt receiver failure => ?_⟩
  · subst same
    obtain ⟨dialog, details, attempt, target, state, waiting⟩ := phase.waiting_of_inFlight busy
    cases step_turn moved with
    | input =>
      rcases input_frozen host state waiting.frozen id input pointed env with ⟨shift, turned⟩ | ⟨cancels, quit⟩
      · exact .inl ⟨dialog, shift, state, turned⟩
      · exact .inr ⟨cancels, quit⟩
    | session _ _ _ _ other => cases state.symm.trans other
  · obtain ⟨dialog, details, attempt, target, state, waiting⟩ := phase.waiting_of_inFlight busy
    exact ⟨dialog, by rw [App.dialog, state], waiting_fields waiting state moved shown⟩
  · subst same
    cases step_turn moved with
    | delivered _ _ _ _ packet rest queue =>
      obtain ⟨dialog, details, own, target, state, waiting, workers,
        ⟨connection, other, -, -, -⟩ | ⟨code', message', other, failed⟩⟩ :=
          delivered_cases phase prompt queue env audioWorker
      · cases waiting.receiver.symm.trans receiver
        cases failure.symm.trans other
      · cases waiting.receiver.symm.trans receiver
        cases failure.symm.trans other
        rw [failed]
        exact ⟨by simp [inFlight, workers], dialog, by rw [App.dialog, state], rfl, rfl⟩
    | session _ _ _ _ other => cases prompt.symm.trans other

/-- Whatever the user does while the workers run: one attempt is in flight at a time
and leaves the dialog only the cancel, a session is of the attempt that has made its
connection, and a failed attempt leaves the dialog open with its fields unchanged. -/
theorem attempts_orderly (host : Host) (sslInsecure : Bool) (mmap : Option MmapArea) (events : List AppEvent) :
    Machine.Along (App.step host)
      (fun event app => ∀ next, App.step host event app = .ok next → Orderly host event app next) events
      (.opening sslInsecure mmap) :=
  Machine.along_of_invariant (App.step host) (Phase host) (fun _ _ _ phase moved => step_phase phase moved)
    (fun _ _ phase _ moved => step_orderly phase moved) events (opening_phase sslInsecure mmap)

end Xpra.Proofs.ConnectAttempts
