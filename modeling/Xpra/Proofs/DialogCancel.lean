import Xpra.Proofs.ConnectAttempts

/-! Giving up in the connection dialog while a worker connects. The cancel leaves the
pending details and the channel as they are, so an outcome that is still delivered is
taken in. -/

namespace Xpra.Proofs.DialogCancel
open Xpra.Net Xpra.Client Library ConnectAttempts

variable {host : Host} {app next : App} {event : AppEvent}

def sent (app : App) : List Json :=
  match app.state with
  | .prompt _ => []
  | .session session => session.system.client.sent

/-- No session, nothing sent, and the exit code of a regular end. -/
structure Ended (app : App) : Prop where
  prompt : ∃ dialog, app.state = .prompt dialog
  silent : sent app = []
  code : app.finalExitCode = .ok

def Unanswered (event : AppEvent) (app : App) : Prop :=
  match event with
  | .deliver _ _ => app.proxy ≠ [] → ∀ attempt ∈ app.connectRx, ∀ outcome ∈ app.results attempt, outcome.isOk = false
  | _ => True

instance (event : AppEvent) (app : App) : Decidable (Unanswered event app) :=
  match event with
  | .deliver _ _ => inferInstanceAs (Decidable (app.proxy ≠ [] → _))
  | .resumed _ _ | .input _ _ _ _ | .connects _ _ | .posts _ | .session _ => .isTrue trivial

/-! ### The exit code -/

theorem startConnect_codes (details : ConnectDetails) :
    (app.startConnect host details).exitCode = app.exitCode ∧ (app.startConnect host details).started = app.started := by
  have updated (update : ConnectDialog → ConnectDialog) :
      (app.updateDialog update).exitCode = app.exitCode ∧ (app.updateDialog update).started = app.started := by
    rw [App.updateDialog]
    split <;> exact ⟨rfl, rfl⟩
  rw [App.startConnect]
  split
  · exact updated _
  · exact updated _

/-- An input leaves the exit code as it is, unless it cancels. -/
theorem input_codes (host : Host) (app : App) (id : WindowId) (input : WindowEvent) (pointed : Control → Bool) :
    (app.handleDialogEvent host id input pointed).started = app.started ∧
      ((app.handleDialogEvent host id input pointed).exitCode = app.exitCode ∨
        ∃ dialog, app.dialog = some dialog ∧
          (app.handleDialogEvent host id input pointed).exitCode = some (app.exitCode.getD .ok)) := by
  have turn := input_turn host app id input pointed
  generalize app.handleDialogEvent host id input pointed = handled at turn ⊢
  cases turn with
  | ignored | edited => exact ⟨rfl, .inl rfl⟩
  | cancelled dialog after here => exact ⟨rfl, .inr ⟨dialog, here, rfl⟩⟩
  | connects dialog after details =>
    rw [(startConnect_codes _).1, (startConnect_codes _).2]
    exact ⟨rfl, .inl rfl⟩

theorem userEvent_codes (host : Host) (app : App) (env : Env) (audioWorker : Option AudioWorker) (packet : Packet) :
    (app.userEvent host env audioWorker packet).exitCode = app.exitCode ∧
      (app.userEvent host env audioWorker packet).started = app.started := by
  rw [App.userEvent]
  split
  · rw [App.finishConnect]
    split
    · split
      · exact ⟨rfl, rfl⟩
      · rw [App.updateDialog]
        split <;> exact ⟨rfl, rfl⟩
      · exact ⟨rfl, rfl⟩
    · exact ⟨rfl, rfl⟩
  · exact ⟨rfl, rfl⟩

theorem posted_codes (packet : Packet) :
    (app.posted packet).exitCode = app.exitCode ∧ (app.posted packet).started = app.started := by
  rw [App.posted]
  split <;> exact ⟨rfl, rfl⟩

theorem step_exitCode {code : ExitCode} (out : app.exitCode = some code) (moved : App.step host event app = .ok next) :
    next.exitCode = some code := by
  cases step_turn moved with
  | shown env shown =>
    cases shown with
    | ok window => exact out
    | error message => simp [App.showDialog, App.quit, out]
  | resumed | connects | session => exact out
  | input id input pointed env dialog =>
    rcases (input_codes host app id input pointed).2 with same | ⟨-, -, same⟩
    · rw [same, out]
    · simp [same, out]
  | delivered => exact (userEvent_codes host _ _ _ _).1.trans out
  | posts => exact (posted_codes _).1.trans out

/-- A dialog that is shown has at most been cancelled. -/
structure Shown (app : App) : Prop where
  unstarted : app.started = false → app.state = .prompt none ∧ app.exitCode = none
  dialog : ∀ dialog, app.dialog = some dialog → app.exitCode = none ∨ app.exitCode = some .ok

theorem step_shown (phase : Phase host app) (shown : Shown app) (moved : App.step host event app = .ok next) :
    Shown next := by
  cases step_turn moved with
  | shown env window unstarted state =>
    have fresh := (shown.unstarted unstarted).2
    cases window with
    | ok window => exact ⟨Bool.noConfusion, fun _ _ => .inl fresh⟩
    | error message =>
      refine ⟨Bool.noConfusion, fun dialog here => ?_⟩
      have none : app.dialog = some dialog := here
      simp [App.dialog, state] at none
  | resumed => exact ⟨Bool.noConfusion, shown.dialog⟩
  | input id input pointed env =>
    cases here : app.dialog with
    | none =>
      have same : app.handleDialogEvent host id input pointed = app := by rw [App.handleDialogEvent, here]
      rwa [same]
    | some dialog =>
      obtain ⟨started, codes⟩ := input_codes host app id input pointed
      refine ⟨fun unstarted => ?_, fun _ _ => ?_⟩
      · have none := (shown.unstarted (started.symm.trans unstarted)).1
        simp [App.dialog, none] at here
      · rcases codes with same | ⟨-, -, same⟩
        · rw [same]
          exact shown.dialog dialog here
        · rcases shown.dialog dialog here with code | code <;> simp [same, code]
  | delivered env audioWorker dialog state packet rest queue =>
    obtain ⟨dialog, -, -, -, state, -⟩ := delivered_cases phase state queue env audioWorker
    have here : app.dialog = some dialog := by rw [App.dialog, state]
    have codes := userEvent_codes host { app with proxy := rest } env audioWorker packet
    refine ⟨fun unstarted => ?_, fun _ _ => ?_⟩
    · have none := (shown.unstarted (codes.2.symm.trans unstarted)).1
      cases state.symm.trans none
    · rw [codes.1]
      exact shown.dialog dialog here
  | connects => exact ⟨shown.unstarted, shown.dialog⟩
  | posts index worker running =>
    obtain ⟨dialog, -, -, -, state, -⟩ := phase.worker running
    rw [App.posted]
    simp only [state]
    refine ⟨fun unstarted => ?_, fun _ _ => shown.dialog dialog (by rw [App.dialog, state])⟩
    cases state.symm.trans (shown.unstarted unstarted).1
  | session _ session system started state kept =>
    refine ⟨fun unstarted => ?_, by intro _ same; cases same⟩
    have earlier : app.started = false := by
      cases before : app.started with
      | false => rfl
      | true => cases (kept before).symm.trans unstarted
    cases state.symm.trans (shown.unstarted earlier).1

/-! ### After the cancel -/

structure Cancelled (host : Host) (app : App) : Prop where
  phase : Phase host app
  prompt : ∃ dialog, app.state = .prompt dialog
  code : app.exitCode = some .ok

theorem Cancelled.ended (cancelled : Cancelled host app) : Ended app := by
  obtain ⟨dialog, state⟩ := cancelled.prompt
  exact ⟨⟨dialog, state⟩, by simp [sent, state], by simp [App.finalExitCode, state, cancelled.code]⟩

theorem Cancelled.step (cancelled : Cancelled host app) (unanswered : Unanswered event app)
    (moved : App.step host event app = .ok next) : Cancelled host next := by
  obtain ⟨shown, prompt⟩ := cancelled.prompt
  refine ⟨step_phase cancelled.phase moved, ?_, step_exitCode cancelled.code moved⟩
  by_cases other : ∀ env audioWorker, event ≠ .deliver env audioWorker
  · exact step_prompt prompt other moved
  · simp only [not_forall, ne_eq, not_not] at other
    obtain ⟨env, audioWorker, rfl⟩ := other
    cases step_turn moved with
    | delivered _ _ _ _ packet rest queue =>
      obtain ⟨dialog, details, attempt, target, state, waiting, -,
        ⟨connection, made, -, -, -⟩ | ⟨code, message, -, failed⟩⟩ :=
          delivered_cases cancelled.phase prompt queue env audioWorker
      · have failed := unanswered (by simp [queue]) attempt waiting.receiver _ made
        simp [Except.isOk, Except.toBool] at failed
      · rw [failed]
        exact ⟨_, rfl⟩
    | session _ _ _ _ running => cases prompt.symm.trans running

theorem Cancelled.unanswered {env : Env} {audioWorker : Option AudioWorker} (cancelled : Cancelled host app)
    (ends : ∀ next, App.step host (.deliver env audioWorker) app = .ok next → Ended next) :
    Unanswered (.deliver env audioWorker) app := by
  intro posted attempt receiver outcome sent
  obtain ⟨shown, prompt⟩ := cancelled.prompt
  obtain ⟨packet, rest, queue⟩ := List.exists_cons_of_ne_nil posted
  have moved : App.step host (.deliver env audioWorker) app =
      .ok ({ app with proxy := rest }.userEvent host env audioWorker packet) := by
    simp only [App.step, prompt, queue]
  obtain ⟨dialog, stays⟩ := (ends _ moved).prompt
  obtain ⟨found, details, own, target, -, waiting, -, ⟨connection, -, -, -, began⟩ | ⟨code, message, failed, -⟩⟩ :=
    delivered_cases cancelled.phase prompt queue env audioWorker
  · rw [began] at stays
    cases stays
  · cases waiting.receiver.symm.trans receiver
    cases sent.symm.trans failed
    rfl

/-- A cancelled dialog stays so unless a connection is delivered. -/
theorem ended_iff_unanswered (cancelled : Cancelled host app) :
    (∀ next, App.step host event app = .ok next → Ended next) ↔ Unanswered event app := by
  constructor
  · intro ends
    cases event with
    | deliver env audioWorker => exact cancelled.unanswered ends
    | _ => trivial
  · intro unanswered next moved
    exact (cancelled.step unanswered moved).ended

theorem cancelled_of_cancels (phase : Phase host app) (shown : Shown app) (cancels : Cancels app event)
    (moved : App.step host event app = .ok next) : Cancelled host next := by
  obtain ⟨id, input, pointed, env, dialog, rfl, state, own, gives⟩ := cancels
  have input' (env' : Env) (audioWorker : Option AudioWorker) : AppEvent.input id input pointed env ≠ .deliver env' audioWorker := by
    intro same
    cases same
  refine ⟨step_phase phase moved, step_prompt state input' moved, ?_⟩
  have here : app.dialog = some dialog := by rw [App.dialog, state]
  cases step_turn moved with
  | input =>
    have quit : (app.handleDialogEvent host id input pointed).exitCode = some (app.exitCode.getD .ok) := by
      rw [App.handleDialogEvent, here]
      simp only [own, ne_eq, not_true_eq_false, if_false, gives]
      rfl
    rcases shown.dialog dialog here with code | code <;> simp [quit, code]
  | session _ _ _ _ running => cases state.symm.trans running

/-- Once the user has cancelled there is no session and no hello, and the process exits
regularly, as long as no connection that has been made is delivered after all. -/
theorem cancel_holds_iff_unanswered (host : Host) (sslInsecure : Bool) (mmap : Option MmapArea)
    (earlier later : List AppEvent) (before cancelled : App) (cancel : AppEvent)
    (ran : App.run host earlier (.opening sslInsecure mmap) = .ok before) (cancels : Cancels before cancel)
    (moved : App.step host cancel before = .ok cancelled) :
    (Ended cancelled ∧ Machine.Along (App.step host)
        (fun event app => ∀ next, App.step host event app = .ok next → Ended next) later cancelled) ↔
      Machine.Along (App.step host) Unanswered later cancelled := by
  have start : Phase host (.opening sslInsecure mmap) ∧ Shown (.opening sslInsecure mmap) :=
    ⟨opening_phase sslInsecure mmap, fun _ => ⟨rfl, rfl⟩, nofun⟩
  obtain ⟨phase, shown⟩ := Machine.invariant (App.step host) (fun app => Phase host app ∧ Shown app)
    (fun _ _ _ holds stepped => ⟨step_phase holds.1 stepped, step_shown holds.1 holds.2 stepped⟩) start ran
  have after : Cancelled host cancelled := cancelled_of_cancels phase shown cancels moved
  have always : Machine.Along (App.step host) (fun _ _ => True) later cancelled :=
    .of_forall _ _ _ fun _ _ => trivial
  have iff := Machine.along_after_iff (App.step host) (Cancelled host) (fun _ _ next => Ended next)
    (fun event state next holds stepped ended => ?_) (fun _ _ _ holds => ended_iff_unanswered holds) always after
  · rw [iff]
    exact and_iff_right after.ended
  · exact ⟨step_phase holds.phase stepped, ended.prompt, step_exitCode holds.code stepped⟩

/-! ### Two runs -/

def press (key : Key) (text : Option String) : AppEvent :=
  .input 1 (.keyboardInput { pressed := true, key, text, scancode := none } false) (fun _ => false) {}

def asked : List AppEvent := [.resumed {} (.ok 1), press (.character "h") (some "h"), press (.named .enter) none]

def escape : AppEvent := press (.named .escape) none

def answered (made : Except (ExitCode × String) Sink) : List AppEvent := [.connects 0 made, .posts 0, .deliver {} none]

theorem cancel_holds_refused :
    ∃ before cancelled, App.run Host.plain asked (.opening false none) = .ok before ∧
      App.step Host.plain escape before = .ok cancelled ∧ Ended cancelled ∧
        Machine.Along (App.step Host.plain)
          (fun event app => ∀ next, App.step Host.plain event app = .ok next → Ended next)
          (answered (.error (.connectionFailed, "connection refused"))) cancelled := by
  refine ⟨_, _, rfl, rfl, (cancel_holds_iff_unanswered Host.plain false none asked _ _ _ escape rfl
    ⟨1, _, _, _, _, rfl, rfl, rfl, rfl⟩ rfl).mpr ?_⟩
  decide

/-- The worker succeeds right after the cancel: the session starts with its hello while
the event loop is about to end. -/
theorem cancelled_session_starts :
    ∃ before cancelled final, App.run Host.plain asked (.opening false none) = .ok before ∧ Cancels before escape ∧
      App.step Host.plain escape before = .ok cancelled ∧ cancelled.exiting = true ∧
      App.run Host.plain (answered (.ok { outcome := fun _ => .written })) cancelled = .ok final ∧
      (∃ session, final.state = .session session) ∧ (sent final).length = 1 := by
  refine ⟨_, _, _, rfl, ⟨1, _, _, _, _, rfl, rfl, rfl, rfl⟩, rfl, rfl, rfl, ⟨_, rfl⟩, rfl⟩

end Xpra.Proofs.DialogCancel
