import Xpra.Client.DialogPainting
import Xpra.Library.Unwinding

/-! What the dialogs give away of a password: its length. The pictures they draw, the
connections they lead to and the application's exit are the same whatever is typed. -/

namespace Xpra.Proofs.DialogSecrecy
open Xpra.Net Xpra.Client Library Library.Unwinding
open Checked (Fault)

/-! ### Without the password -/

def stars (count : Nat) : String := String.ofList (List.replicate count '*')

/-- How many characters of a text go into a password. -/
def typed (text : String) : Nat := text.toList.countP fun char => !isControl char

/-- The keys that do something else in a password field than being typed. -/
def editing (key : Key) : Bool :=
  match key with
  | .named .escape | .named .enter | .named .tab | .named .arrowDown | .named .arrowUp | .named .backspace => true
  | _ => false

/-- A key event as someone sees it who can count the characters but not read them. -/
def blotKey (event : KeyEvent) : KeyEvent :=
  { event with
    key := if editing event.key then event.key else .other
    text := event.text.map fun text => stars (typed text)
    scancode := none }

def blotInput (event : WindowEvent) : WindowEvent :=
  match event with
  | .keyboardInput event isSynthetic => .keyboardInput (blotKey event) isSynthetic
  | event => event

def maskDialog (dialog : ConnectDialog) : ConnectDialog := { dialog with password := stars dialog.password.length }

def maskDetails (details : ConnectDetails) : ConnectDetails := { details with password := none }

def maskAction (action : ConnectAction) : ConnectAction :=
  match action with
  | .connect details => .connect (maskDetails details)
  | action => action

def maskState (state : AppState) : AppState :=
  match state with
  | .prompt dialog => .prompt (dialog.map maskDialog)
  | .session session => .session session

def maskApp (app : App) : App :=
  { app with
    state := maskState app.state
    pending := app.pending.map maskDetails
    attempts := app.attempts.map maskDetails }

/-- What is typed while the focus is on the password is blotted out. -/
def blotDialog (event : WindowEvent) (dialog : ConnectDialog) : WindowEvent :=
  if dialog.focus = .password then blotInput event else event

def blotApp (event : AppEvent × Viewport) (app : App) : AppEvent × Viewport :=
  match event.1, app.dialog with
  | .input id input pointed env, some dialog => (.input id (blotDialog input dialog) pointed env, event.2)
  | _, _ => event

def maskAuth (dialog : AuthDialog) : AuthDialog := { dialog with password := List.replicate dialog.password.length '*' }

def maskClient (client : XpraClient) : XpraClient := { client with authDialog := client.authDialog.map maskAuth }

def blotAuth (event : WindowEvent × Env × Viewport) (_ : XpraClient) : WindowEvent × Env × Viewport := (blotInput event.1, event.2)

/-! ### Typing -/

@[simp] theorem length_stars (count : Nat) : (stars count).length = count := by simp [stars]

@[simp] theorem toList_stars (count : Nat) : (stars count).toList = List.replicate count '*' := by simp [stars]

theorem stars_push (count : Nat) : (stars count).push '*' = stars (count + 1) := by
  apply String.toList_inj.mp
  simp [List.replicate_succ']

/-- A field of 128 characters takes no more. -/
def push (field : String) (char : Char) : String := if field.length < 128 then field.push char else field

theorem typeInto_eq (text field : String) :
    ConnectDialog.typeInto false text field = (text.toList.filter fun char => !isControl char).foldl push field := by
  rw [ConnectDialog.typeInto, List.foldl_filter]
  congr 1
  funext field char
  cases control : isControl char with
  | true => simp
  | false => simp [push]

theorem length_foldl_push (chars : List Char) (field : String) :
    stars (chars.foldl push field).length = (List.replicate chars.length '*').foldl push (stars field.length) := by
  induction chars generalizing field with
  | nil => rfl
  | cons char chars ih =>
    have here : stars (push field char).length = push (stars field.length) '*' := by
      rw [push, push, length_stars]
      split
      next room => rw [stars_push, String.length_push]
      next full => exact Eq.refl (stars field.length)
    rw [List.foldl_cons, ih, here, List.length_cons, List.replicate_succ, List.foldl_cons]

theorem typeInto_stars (text field : String) :
    stars (ConnectDialog.typeInto false text field).length =
      ConnectDialog.typeInto false (stars (typed text)) (stars field.length) := by
  have all : (stars (typed text)).toList.filter (fun char => !isControl char) = List.replicate (typed text) '*' := by
    rw [toList_stars, List.filter_replicate_of_pos (by decide)]
  rw [typeInto_eq, length_foldl_push, typeInto_eq, all, typed, List.countP_eq_length_filter]

theorem backspace_stars (field : String) :
    stars (String.ofList field.toList.dropLast).length = String.ofList (stars field.length).toList.dropLast := by
  rw [toList_stars, List.dropLast_replicate]
  simp [stars, String.length_toList]

/-! ### The connection dialog -/

section ConnectDialog

variable (dialog : ConnectDialog)

theorem paint_mask (checks : Bool) (view : Viewport) : (maskDialog dialog).paint checks view = dialog.paint checks view := by
  have field : (maskDialog dialog).drawField checks view = dialog.drawField checks view := rfl
  have arrow : (maskDialog dialog).drawArrow checks view = dialog.drawArrow checks view := rfl
  have button : (maskDialog dialog).drawButton checks view = dialog.drawButton checks view := rfl
  have status : (maskDialog dialog).drawStatus checks view = dialog.drawStatus checks view := rfl
  have items : (maskDialog dialog).drawDropdown checks view = dialog.drawDropdown checks view := rfl
  have protocol : (maskDialog dialog).protocol = dialog.protocol := rfl
  have host : (maskDialog dialog).host = dialog.host := rfl
  have port : (maskDialog dialog).port = dialog.port := rfl
  have username : (maskDialog dialog).username = dialog.username := rfl
  have dropdown : (maskDialog dialog).dropdown = dialog.dropdown := rfl
  have password : (maskDialog dialog).password.length = dialog.password.length := length_stars _
  simp only [ConnectDialog.paint, field, arrow, button, status, items, protocol, host, port, username, dropdown, password]

theorem draw_mask (checks : Bool) (view : Viewport) : (maskDialog dialog).draw checks view = dialog.draw checks view := by
  rw [ConnectDialog.draw, ConnectDialog.draw, paint_mask]

def maskTurn (turn : ConnectAction × ConnectDialog) : ConnectAction × ConnectDialog := (maskAction turn.1, maskDialog turn.2)

theorem submit_mask : maskTurn (maskDialog dialog).submit = maskTurn dialog.submit := by
  have refused (message : String) (focus : Focus) :
      maskTurn ((maskDialog dialog).reject message focus) = maskTurn (dialog.reject message focus) := by
    simp [ConnectDialog.reject, maskTurn, maskAction, maskDialog]
  have host : (maskDialog dialog).host = dialog.host := rfl
  have port : (maskDialog dialog).port = dialog.port := rfl
  simp only [ConnectDialog.submit, host, port]
  by_cases empty : trim dialog.host = ""
  · simp only [if_pos empty, refused]
  rw [if_neg empty, if_neg empty]
  by_cases invalid : (trim dialog.host).toList.any isWhitespace ∨ '/' ∈ (trim dialog.host).toList ∨ '@' ∈ (trim dialog.host).toList
  · simp only [if_pos invalid, refused]
  rw [if_neg invalid, if_neg invalid]
  cases parseU16 (trim dialog.port) with
  | none => exact refused _ _
  | some number =>
    by_cases positive : number > 0
    · simp [positive, maskTurn, maskAction, maskDetails, maskDialog]
    · simp only [if_neg positive, refused]

theorem setProtocol_mask (index : Fin PROTOCOLS.length) :
    maskDialog ((maskDialog dialog).setProtocol index) = maskDialog (dialog.setProtocol index) := by
  have protocol : (maskDialog dialog).protocol = dialog.protocol := rfl
  simp only [ConnectDialog.setProtocol, protocol]
  by_cases same : index = dialog.protocol
  · simp [same, maskDialog]
  · simp [same, maskDialog]

theorem step_mask (delta : Int) : maskDialog ((maskDialog dialog).step delta) = maskDialog (dialog.step delta) := by
  simp [ConnectDialog.step, maskDialog]

theorem stepOrProtocol_mask (delta : Int) :
    maskDialog ((maskDialog dialog).stepOrProtocol delta) = maskDialog (dialog.stepOrProtocol delta) := by
  have focus : (maskDialog dialog).focus = dialog.focus := rfl
  have dropdown : (maskDialog dialog).dropdown = dialog.dropdown := rfl
  simp only [ConnectDialog.stepOrProtocol, focus, dropdown]
  by_cases free : dialog.focus ≠ .protocol ∧ dialog.dropdown = false
  · rw [if_pos free, if_pos free]
    exact step_mask dialog delta
  · rw [if_neg free, if_neg free]
    exact setProtocol_mask dialog _

/-- A field that is not the password changes in the same way; the password comes to the
same length. -/
theorem updateField_mask {update blotted : String → String}
    (secret : dialog.focus = .password → (blotted (stars dialog.password.length)).length = (update dialog.password).length)
    (open_ : dialog.focus ≠ .password → blotted = update) :
    maskDialog ((maskDialog dialog).updateField blotted) = maskDialog (dialog.updateField update) := by
  have focus : (maskDialog dialog).focus = dialog.focus := rfl
  simp only [ConnectDialog.updateField, focus]
  cases seen : dialog.focus with
  | password => simp [maskDialog, secret seen]
  | protocol | cancel | connect => simp [maskDialog]
  | host | port | username =>
    rw [open_ (by simp [seen])]
    simp [maskDialog]

/-- A key that is no editing key is typed, or it is Space on a control. -/
theorem key_plain {event : KeyEvent} (plain : editing event.key = false) (live : dialog.connecting = false) :
    dialog.key event =
      if event.key = .named .space ∧ dialog.focus.textField = false then
        match dialog.focus with
        | .protocol => (.none, { dialog with dropdown := !dialog.dropdown })
        | .cancel => (.cancel, dialog)
        | _ => dialog.submit
      else match event.text with
        | none => (.none, dialog)
        | some text =>
          (.none, { dialog with status := .none }.updateField (ConnectDialog.typeInto (dialog.focus == Focus.port) text)) := by
  rw [ConnectDialog.key, if_neg (by simp [live])]
  split
  case h_7 => rfl
  all_goals
    rename_i seen
    simp [seen, editing] at plain

theorem typed_mask (text : String) :
    maskDialog ({ maskDialog dialog with status := .none }.updateField
        (ConnectDialog.typeInto (dialog.focus == Focus.port) (if dialog.focus = Focus.password then stars (typed text) else text))) =
      maskDialog ({ dialog with status := .none }.updateField (ConnectDialog.typeInto (dialog.focus == Focus.port) text)) := by
  refine updateField_mask { dialog with status := .none } ?_ ?_
  · intro secret
    change dialog.focus = .password at secret
    have text_ : (dialog.focus == Focus.port) = false := by simp [secret]
    rw [if_pos secret, text_]
    simpa using (congrArg String.length (typeInto_stars text dialog.password)).symm
  · intro other
    rw [if_neg (by exact other)]

theorem key_frozen {event : KeyEvent} (frozen : dialog.connecting = true) :
    dialog.key event = (if event.key = .named .escape then .cancel else .none, dialog) := by
  rw [ConnectDialog.key, if_pos frozen]
  split
  next escape => simp [escape]
  next other => rw [if_neg other]

theorem of_editing {key : Key} (known : editing key = true) : key = .named .escape ∨ key = .named .enter ∨ key = .named .tab ∨
    key = .named .arrowDown ∨ key = .named .arrowUp ∨ key = .named .backspace := by
  rw [editing.eq_def] at known
  split at known
  all_goals simp at known ⊢

theorem blotKey_key {event : KeyEvent} (known : editing event.key = true) : (blotKey event).key = event.key := if_pos known

theorem editing_blotKey (event : KeyEvent) : editing (blotKey event).key = editing event.key := by
  cases known : editing event.key with
  | true => rw [blotKey_key known, known]
  | false =>
    have other : (blotKey event).key = .other := if_neg (by simp [known])
    rw [other]
    rfl

/-- The editing keys do to a masked dialog what they do to the dialog. -/
theorem key_editing {event seen : KeyEvent} (same : seen.key = event.key) (known : editing event.key = true)
    (live : dialog.connecting = false) : maskTurn ((maskDialog dialog).key seen) = maskTurn (dialog.key event) := by
  have connecting : (maskDialog dialog).connecting = false := live
  have backspaced := @updateField_mask { dialog with status := .none }
    (fun field => String.ofList field.toList.dropLast) (fun field => String.ofList field.toList.dropLast)
    (fun _ => by simpa using (congrArg String.length (backspace_stars dialog.password)).symm) fun _ => rfl
  obtain key | key | key | key | key | key := of_editing known
  all_goals simp only [ConnectDialog.key, live, connecting, same, key, if_false, Bool.false_eq_true]
  · cases shown : dialog.dropdown <;> simp [maskDialog, maskTurn, maskAction, shown]
  · cases shown : dialog.dropdown with
    | true => simp [maskDialog, maskTurn, maskAction, shown]
    | false =>
      by_cases leave : dialog.focus = .cancel
      · simp [maskDialog, maskTurn, maskAction, shown, leave]
      · have stay : ¬ (maskDialog dialog).focus = .cancel := leave
        have hidden : ¬ (maskDialog dialog).dropdown = true := by simp [maskDialog, shown]
        rw [if_neg hidden, if_neg stay, if_neg (by simp), if_neg leave]
        exact submit_mask dialog
  · exact Prod.ext rfl (step_mask { dialog with dropdown := false } (if dialog.shift then -1 else 1))
  · exact Prod.ext rfl (stepOrProtocol_mask dialog 1)
  · exact Prod.ext rfl (stepOrProtocol_mask dialog (-1))
  · exact Prod.ext rfl backspaced

theorem key_typed {event seen : KeyEvent} (plain : editing event.key = false) (live : dialog.connecting = false)
    (blotted : seen = if dialog.focus = .password then blotKey event else event) :
    maskTurn ((maskDialog dialog).key seen) = maskTurn (dialog.key event) := by
  have connecting : (maskDialog dialog).connecting = false := live
  have focus : (maskDialog dialog).focus = dialog.focus := rfl
  have plain' : editing seen.key = false := by
    subst blotted
    split
    · rw [editing_blotKey, plain]
    · exact plain
  have space : (seen.key = .named .space ∧ dialog.focus.textField = false) ↔
      (event.key = .named .space ∧ dialog.focus.textField = false) := by
    subst blotted
    split
    next secret => simp [secret, Focus.textField]
    next => rfl
  have text : seen.text = event.text.map fun text => if dialog.focus = Focus.password then stars (typed text) else text := by
    subst blotted
    split
    · rfl
    · simp
  rw [key_plain _ plain' connecting, key_plain _ plain live, focus, text]
  by_cases activates : event.key = .named .space ∧ dialog.focus.textField = false
  · rw [if_pos (space.mpr activates), if_pos activates]
    split
    · simp [maskTurn, maskAction, maskDialog]
    · simp [maskTurn, maskAction, maskDialog]
    · exact submit_mask dialog
  · rw [if_neg (mt space.mp activates), if_neg activates]
    cases event.text with
    | none => simp [maskTurn, maskDialog]
    | some text => exact Prod.ext rfl (typed_mask dialog text)

theorem key_mask (event : KeyEvent) :
    maskTurn ((maskDialog dialog).key (if dialog.focus = .password then blotKey event else event)) = maskTurn (dialog.key event) := by
  cases frozen : dialog.connecting with
  | true =>
    have connecting : (maskDialog dialog).connecting = true := frozen
    have escape : (if dialog.focus = .password then blotKey event else event).key = .named .escape ↔ event.key = .named .escape := by
      split
      · cases known : editing event.key with
        | true => rw [blotKey_key known]
        | false =>
          have other : event.key ≠ .named .escape := fun escape => by simp [escape, editing] at known
          simp [blotKey, known, other]
      · rfl
    rw [key_frozen _ connecting, key_frozen _ frozen]
    simp only [escape]
    simp [maskTurn, maskDialog]
  | false =>
    cases known : editing event.key with
    | true =>
      refine key_editing dialog ?_ known frozen
      split
      · exact blotKey_key known
      · rfl
    | false => exact key_typed dialog known frozen rfl

theorem click_mask (pointed : Control → Bool) : maskTurn ((maskDialog dialog).click pointed) = maskTurn (dialog.click pointed) := by
  have connecting : (maskDialog dialog).connecting = dialog.connecting := rfl
  have dropdown : (maskDialog dialog).dropdown = dialog.dropdown := rfl
  simp only [ConnectDialog.click, connecting, dropdown]
  cases frozen : dialog.connecting with
  | true => cases pointed .cancelButton <;> simp [maskTurn, maskDialog, maskAction]
  | false =>
    cases shown : dialog.dropdown with
    | true =>
      cases (List.finRange PROTOCOLS.length).find? fun index => pointed (.item index) with
      | none => simp [maskTurn, maskDialog, maskAction]
      | some index =>
        have closed (dialog : ConnectDialog) :
            maskDialog { dialog with dropdown := false } = { maskDialog dialog with dropdown := false } := rfl
        refine Prod.ext rfl ?_
        change maskDialog { (maskDialog dialog).setProtocol index with dropdown := false } =
          maskDialog { dialog.setProtocol index with dropdown := false }
        rw [closed, closed, setProtocol_mask]
    | false =>
      cases pointed (.field 0) with
      | true => simp [maskTurn, maskDialog, maskAction]
      | false =>
        cases [(1, Focus.host), (2, .port), (3, .username), (4, .password)].find? fun row => pointed (.field row.1) with
        | some row => simp [maskTurn, maskDialog, maskAction]
        | none =>
          cases pointed .cancelButton with
          | true => simp [maskTurn, maskDialog, maskAction]
          | false =>
            cases pointed .connectButton with
            | true =>
              simp only [Bool.false_eq_true, if_false, if_true]
              exact submit_mask { dialog with focus := .connect, dropdown := false }
            | false => simp [maskTurn, maskDialog, maskAction]

theorem windowEvent_mask (event : WindowEvent) (pointed : Control → Bool) :
    maskTurn ((maskDialog dialog).windowEvent (blotDialog event dialog) pointed) = maskTurn (dialog.windowEvent event pointed) := by
  have still : maskTurn (.none, maskDialog dialog) = maskTurn (.none, dialog) := by simp [maskTurn, maskDialog]
  have same (other : blotInput event = event) : blotDialog event dialog = event := by
    rw [blotDialog, other, ite_self]
  cases event with
  | keyboardInput event isSynthetic =>
    have blotted : blotDialog (.keyboardInput event isSynthetic) dialog =
        .keyboardInput (if dialog.focus = .password then blotKey event else event) isSynthetic := by
      rw [blotDialog]
      split
      · rfl
      · rfl
    have pressed : (if dialog.focus = .password then blotKey event else event).pressed = event.pressed := by
      split
      · rfl
      · rfl
    rw [blotted]
    cases isSynthetic with
    | true => exact still
    | false =>
      simp only [ConnectDialog.windowEvent, ConnectDialog.handleKey, pressed, Bool.false_eq_true, if_false]
      split
      · exact still
      · exact key_mask dialog event
  | mouseInput pressed button =>
    rw [same rfl]
    simp only [ConnectDialog.windowEvent, ConnectDialog.handleMouse]
    split
    · exact still
    · exact click_mask dialog pointed
  | modifiersChanged shift control alt =>
    rw [same rfl]
    simp [ConnectDialog.windowEvent, maskTurn, maskDialog]
  | closeRequested =>
    rw [same rfl]
    simp [ConnectDialog.windowEvent, maskTurn, maskDialog, maskAction]
  | focused | moved | resized | redrawRequested | cursorMoved | mouseWheel | other =>
    rw [same rfl]
    exact still

theorem redraws_blotDialog (event : WindowEvent) : ConnectDialog.redraws (blotDialog event dialog) = ConnectDialog.redraws event := by
  rw [blotDialog]
  split
  · cases event with
    | keyboardInput event isSynthetic => rfl
    | _ => rfl
  · rfl

end ConnectDialog

/-! ### The application -/

section App

variable (checks : Bool) (host : Host) (app : App)

theorem dialog_mask : (maskApp app).dialog = app.dialog.map maskDialog := by
  cases seen : app.state <;> simp [App.dialog, maskApp, maskState, seen]

theorem drawn_mask (view : Viewport) : (maskApp app).drawn checks view = app.drawn checks view := by
  rw [App.drawn, App.drawn, dialog_mask]
  cases app.dialog with
  | none => rfl
  | some dialog => simp [draw_mask]

theorem updateDialog_mask {update : ConnectDialog → ConnectDialog}
    (commutes : ∀ dialog, maskDialog (update dialog) = update (maskDialog dialog)) :
    maskApp (app.updateDialog update) = (maskApp app).updateDialog update := by
  cases seen : app.state with
  | session session => simp [App.updateDialog, maskApp, maskState, seen]
  | prompt dialog => cases dialog <;> simp [App.updateDialog, maskApp, maskState, seen, commutes]

theorem startConnect_mask (details : ConnectDetails) :
    maskApp (app.startConnect host details) = (maskApp app).startConnect host (maskDetails details) := by
  have uri : (maskDetails details).uri = details.uri := rfl
  have count : (maskApp app).attempts.length = app.attempts.length := List.length_map ..
  simp only [App.startConnect, uri]
  cases parseTarget host.quote details.uri with
  | error message => exact updateDialog_mask app fun _ => rfl
  | ok target =>
    have connecting := @updateDialog_mask app (fun dialog => dialog.setConnecting details.uri) fun _ => rfl
    simp only [← connecting]
    simp [maskApp]

/-- What an input leads to, once the dialog has dealt with it. -/
def acted (turn : ConnectAction × ConnectDialog) : App :=
  let app := { app with state := .prompt (some turn.2) }
  match turn.1 with
  | .none => app
  | .cancel => app.quit .ok
  | .connect details => app.startConnect host details

def shownTurn (view : Viewport) (redrawn : Bool) (turn : ConnectAction × ConnectDialog) :
    List (Except Fault (Option Picture)) :=
  let app := { app with state := .prompt (some turn.2) }
  (if redrawn then app.drawn checks view else []) ++
    match turn.1 with
    | .none | .cancel => []
    | .connect details => (app.startConnect host details).drawn checks view

theorem acted_mask (turn : ConnectAction × ConnectDialog) :
    maskApp (acted host app turn) = acted host (maskApp app) (maskTurn turn) := by
  obtain ⟨action, dialog⟩ := turn
  cases action with
  | none | cancel => rfl
  | connect details => exact startConnect_mask host _ details

theorem shownTurn_mask (view : Viewport) (redrawn : Bool) (turn : ConnectAction × ConnectDialog) :
    shownTurn checks host app view redrawn turn = shownTurn checks host (maskApp app) view redrawn (maskTurn turn) := by
  obtain ⟨action, dialog⟩ := turn
  have redraw : App.drawn checks view { app with state := .prompt (some dialog) } =
      App.drawn checks view { maskApp app with state := .prompt (some (maskDialog dialog)) } :=
    (drawn_mask checks _ view).symm
  cases action with
  | none | cancel => simp [shownTurn, maskTurn, maskAction, redraw]
  | connect details =>
    have again : (App.startConnect host { app with state := .prompt (some dialog) } details).drawn checks view =
        (App.startConnect host { maskApp app with state := .prompt (some (maskDialog dialog)) } (maskDetails details)).drawn checks view := by
      rw [← drawn_mask, startConnect_mask]
      rfl
    simp [shownTurn, maskTurn, maskAction, redraw, again]

theorem handleDialogEvent_eq {dialog : ConnectDialog} (state : app.dialog = some dialog) (id : WindowId) (event : WindowEvent)
    (pointed : Control → Bool) :
    app.handleDialogEvent host id event pointed =
      if dialog.window ≠ id then app else acted host app (dialog.windowEvent event pointed) := by
  simp only [App.handleDialogEvent, state]
  rfl

theorem maskApp_twice : maskApp (maskApp app) = maskApp app := by
  have details : maskDetails ∘ maskDetails = maskDetails := rfl
  have dialog : maskDialog ∘ maskDialog = maskDialog := by
    funext dialog
    simp [maskDialog]
  cases seen : app.state <;> simp [maskApp, maskState, seen, details, dialog]

theorem handleDialogEvent_mask {dialog : ConnectDialog} (state : app.dialog = some dialog) (id : WindowId) (event : WindowEvent)
    (pointed : Control → Bool) :
    maskApp ((maskApp app).handleDialogEvent host id (blotDialog event dialog) pointed) =
      maskApp (app.handleDialogEvent host id event pointed) := by
  have state' : (maskApp app).dialog = some (maskDialog dialog) := by rw [dialog_mask, state, Option.map_some]
  have window : (maskDialog dialog).window = dialog.window := rfl
  rw [handleDialogEvent_eq host _ state', handleDialogEvent_eq host _ state, window]
  split
  · exact maskApp_twice app
  · rw [acted_mask, acted_mask, maskApp_twice, windowEvent_mask]

/-- What there is to see at a step: the pictures, the connections that are being made,
and whether the application has ended. -/
structure Sight where
  pictures : List (Except Fault (Option Picture))
  workers : Option (List ConnectWorker)
  exitCode : Option (Option ExitCode)
  exiting : Option Bool

def sight (event : AppEvent × Viewport) (app : App) : List Sight :=
  let next := (App.promptStep host event app).toOption
  [{ pictures := app.pictures checks host event.2 event.1
     workers := next.map App.workers
     exitCode := next.map App.exitCode
     exiting := next.map App.exiting }]

/-- The outcome of a connection attempt, where it failed, is shown alike. -/
theorem finishConnect_mask (env : Env) (audioWorker : Option AudioWorker)
    (failed : ∀ attempt connection, app.connectRx = some attempt → app.pending.isSome → app.results attempt ≠ some (.ok connection)) :
    maskApp (app.finishConnect host env audioWorker) = (maskApp app).finishConnect host env audioWorker := by
  have rx : (maskApp app).connectRx = app.connectRx := rfl
  have results : (maskApp app).results = app.results := rfl
  have pending : (maskApp app).pending = app.pending.map maskDetails := rfl
  simp only [App.finishConnect, rx, results, pending]
  cases waiting : app.connectRx with
  | none => rfl
  | some attempt =>
    cases details : app.pending with
    | none => rfl
    | some details =>
      cases came : app.results attempt with
      | none => simp [came]; rfl
      | some outcome =>
        cases outcome with
        | ok connection => exact absurd came (failed attempt connection waiting (by simp [details]))
        | error failure =>
          simp only [Option.map_some, came]
          exact updateDialog_mask _ fun _ => rfl

theorem pictures_mask (event : AppEvent × Viewport) :
    app.pictures checks host event.2 event.1 =
      (maskApp app).pictures checks host (blotApp event app).2 (blotApp event app).1 := by
  obtain ⟨event, view⟩ := event
  cases event with
  | resumed env shown =>
    have started : (maskApp app).started = app.started := rfl
    have showing : (maskApp app).dialog.isSome = app.dialog.isSome := by rw [dialog_mask, Option.isSome_map]
    simp only [blotApp, App.pictures, started, showing]
    split
    · rfl
    · cases shown with
      | ok window => rfl
      | error message => exact (drawn_mask checks (app.quit .internalError) view).symm
  | input id event pointed env =>
    cases state : app.dialog with
    | none =>
      have state' : (maskApp app).dialog = none := by rw [dialog_mask, state, Option.map_none]
      simp [App.pictures, blotApp, state, state']
    | some dialog =>
      have state' : (maskApp app).dialog = some (maskDialog dialog) := by rw [dialog_mask, state, Option.map_some]
      have window : (maskDialog dialog).window = dialog.window := rfl
      have shown := shownTurn_mask checks host app view (ConnectDialog.redraws event) (dialog.windowEvent event pointed)
      have shown' := shownTurn_mask checks host (maskApp app) view (ConnectDialog.redraws event)
        ((maskDialog dialog).windowEvent (blotDialog event dialog) pointed)
      rw [maskApp_twice, windowEvent_mask, ← shown] at shown'
      simp only [App.pictures, blotApp, state, state', window, redraws_blotDialog]
      split
      · rfl
      · exact shown'.symm
  | deliver env audioWorker =>
    have proxy : (maskApp app).proxy = app.proxy := rfl
    have rx : (maskApp app).connectRx.bind (maskApp app).results = app.connectRx.bind app.results := rfl
    have pending : (maskApp app).pending.isSome = app.pending.isSome := Option.isSome_map
    simp only [blotApp, App.pictures, proxy, rx, pending]
    cases app.proxy with
    | nil => rfl
    | cons packet rest =>
      cases came : app.connectRx.bind app.results with
      | none => rfl
      | some outcome =>
        cases outcome with
        | ok connection => rfl
        | error failure =>
          by_cases reports : packet.len > 0 ∧ yamlStr (packet.get 0) = CONNECT_RESULT ∧ app.pending.isSome
          · simp only [if_pos reports, App.userEvent, if_pos (And.intro reports.1 reports.2.1)]
            have same := finishConnect_mask host { app with proxy := rest } env audioWorker fun attempt connection waiting _ made => by
              simp only at waiting made
              simp [waiting, made] at came
            rw [← drawn_mask, same]
            rfl
          · simp only [if_neg reports]
  | connects index made | posts index | session event => rfl

/-- Whether the dialog is still there. -/
def prompting (app : App) : Bool :=
  match app.state with
  | .prompt _ => true
  | .session _ => false

theorem prompting_mask : prompting (maskApp app) = prompting app := by
  cases seen : app.state <;> simp [prompting, maskApp, maskState, seen]

theorem promptStep_eq {event : AppEvent} {view : Viewport} (prompt : prompting app = true) :
    (App.promptStep host (event, view) app).toOption = (App.step host event app).toOption.filter prompting := by
  cases seen : app.state with
  | session session => simp [prompting, seen] at prompt
  | prompt dialog =>
    cases moved : App.step host event app with
    | error stop => simp [App.promptStep, seen, moved, Except.toOption]
    | ok next => cases after : next.state <;> simp [App.promptStep, seen, moved, after, prompting, Except.toOption, Option.filter]

theorem filter_alike {one other : Option App} (alike : one.map maskApp = other.map maskApp) :
    (one.filter prompting).map maskApp = (other.filter prompting).map maskApp := by
  cases one with
  | none => simp_all
  | some one =>
    cases other with
    | none => simp at alike
    | some other =>
      have alike : maskApp one = maskApp other := by simpa using alike
      have both : prompting one = prompting other := by rw [← prompting_mask, alike, prompting_mask]
      cases still : prompting other <;> simp [Option.filter, both, still, alike]

theorem deliver_mask (env : Env) (audioWorker : Option AudioWorker) (packet : Packet) :
    ((some (app.userEvent host env audioWorker packet)).filter prompting).map maskApp =
      ((some ((maskApp app).userEvent host env audioWorker packet)).filter prompting).map maskApp := by
  rw [App.userEvent, App.userEvent]
  split
  next reports =>
    by_cases failed : ∀ attempt connection, app.connectRx = some attempt → app.pending.isSome → app.results attempt ≠ some (.ok connection)
    · rw [← finishConnect_mask host app env audioWorker failed]
      exact filter_alike (congrArg some (maskApp_twice _).symm)
    · -- the session takes the place of the dialog
      push Not at failed
      obtain ⟨attempt, connection, waiting, details, came⟩ := failed
      obtain ⟨details, pending⟩ := Option.isSome_iff_exists.mp details
      have waiting' : (maskApp app).connectRx = some attempt := waiting
      have pending' : (maskApp app).pending = some (maskDetails details) := by
        rw [maskApp, pending, Option.map_some]
      have came' : (maskApp app).results attempt = some (.ok connection) := came
      simp [App.finishConnect, waiting, pending, came, waiting', pending', came', App.startSession, Option.filter, prompting]
  next => exact filter_alike (congrArg some (maskApp_twice app).symm)

/-- The event takes the masked application to the same place, as long as the dialog stays. -/
def Alike (event blotted : AppEvent) : Prop :=
  ((App.step host event app).toOption.filter prompting).map maskApp =
    ((App.step host blotted (maskApp app)).toOption.filter prompting).map maskApp

variable {app} {dialog : Option ConnectDialog}

theorem state_mask (seen : app.state = .prompt dialog) : (maskApp app).state = .prompt (dialog.map maskDialog) := by
  simp [maskApp, maskState, seen]

theorem resumed_alike (seen : app.state = .prompt dialog) (env : Env) (shown : Except String WindowId) :
    Alike host app (.resumed env shown) (.resumed env shown) := by
  have started : (maskApp app).started = app.started := rfl
  simp only [Alike, App.step, started, seen, state_mask seen]
  refine filter_alike ?_
  cases app.started with
  | true => rfl
  | false =>
    cases dialog with
    | some dialog => exact congrArg some (maskApp_twice { app with state := .prompt (some dialog), started := true }).symm
    | none =>
      have again := maskApp_twice (App.showDialog { app with state := .prompt none, started := true } shown)
      cases shown with
      | ok window => exact congrArg some again.symm
      | error message => exact congrArg some again.symm

theorem input_alike (seen : app.state = .prompt dialog) (id : WindowId) (event : WindowEvent) (pointed : Control → Bool) (env : Env)
    (view : Viewport) : Alike host app (.input id event pointed env) (blotApp (.input id event pointed env, view) app).1 := by
  have acts (input : WindowEvent) : App.step host (.input id input pointed env) app = .ok (app.handleDialogEvent host id input pointed) := by
    simp [App.step, seen]
  have acts' (input : WindowEvent) : App.step host (.input id input pointed env) (maskApp app) =
      .ok ((maskApp app).handleDialogEvent host id input pointed) := by
    simp [App.step, state_mask seen]
  cases state : app.dialog with
  | none =>
    have state' : (maskApp app).dialog = none := by rw [dialog_mask, state, Option.map_none]
    simp only [Alike, blotApp, state, acts, acts', App.handleDialogEvent, state']
    exact filter_alike (congrArg some (maskApp_twice app).symm)
  | some dialog =>
    simp only [Alike, blotApp, state, acts, acts']
    exact filter_alike (congrArg some (handleDialogEvent_mask host app state id event pointed).symm)

theorem delivered_alike (seen : app.state = .prompt dialog) (env : Env) (audioWorker : Option AudioWorker) :
    Alike host app (.deliver env audioWorker) (.deliver env audioWorker) := by
  cases queued : app.proxy with
  | nil =>
    have queued' : (maskApp app).proxy = [] := queued
    simp [Alike, App.step, seen, state_mask seen, queued, queued']
  | cons packet rest =>
    have queued' : (maskApp app).proxy = packet :: rest := queued
    have moved : App.step host (.deliver env audioWorker) app = .ok ({ app with proxy := rest }.userEvent host env audioWorker packet) := by
      simp [App.step, seen, queued]
    have moved' : App.step host (.deliver env audioWorker) (maskApp app) =
        .ok ({ maskApp app with proxy := rest }.userEvent host env audioWorker packet) := by
      simp [App.step, state_mask seen, queued']
    simp only [Alike, moved, moved']
    exact deliver_mask host { app with proxy := rest } env audioWorker packet

theorem connects_alike (index : Nat) (made : Except (ExitCode × String) Sink) : Alike host app (.connects index made) (.connects index made) := by
  have workers : (maskApp app).workers = app.workers := rfl
  simp only [Alike, App.step, workers]
  refine filter_alike ?_
  cases app.workers[index]? with
  | none => rfl
  | some worker =>
    cases sent : worker.sent with
    | true => simp [sent]
    | false =>
      simp only [sent, Bool.false_eq_true, if_false]
      exact congrArg some (maskApp_twice { app with
        workers := app.workers.set index { worker with sent := true }
        results := app.results.insert worker.attempt (worker.connect app.sslInsecure made) }).symm

theorem posts_alike (seen : app.state = .prompt dialog) (index : Nat) : Alike host app (.posts index) (.posts index) := by
  have workers : (maskApp app).workers = app.workers := rfl
  simp only [Alike, App.step, workers]
  refine filter_alike ?_
  cases app.workers[index]? with
  | none => rfl
  | some worker =>
    cases sent : worker.sent with
    | false => simp [sent]
    | true =>
      simp only [sent, if_true, App.posted, seen, state_mask seen]
      exact congrArg some (maskApp_twice { app with
        state := .prompt dialog
        workers := app.workers.eraseIdx index
        proxy := app.proxy ++ [clientPacket CONNECT_RESULT ""] }).symm

theorem step_alike (seen : app.state = .prompt dialog) (event : AppEvent) (view : Viewport) :
    Alike host app event (blotApp (event, view) app).1 := by
  cases event with
  | resumed env shown => exact resumed_alike host seen env shown
  | input id event pointed env => exact input_alike host seen id event pointed env view
  | deliver env audioWorker => exact delivered_alike host seen env audioWorker
  | connects index made => exact connects_alike host index made
  | posts index => exact posts_alike host seen index
  | session event => simp only [Alike, blotApp, App.step, seen, state_mask seen]

/-- A step of the dialog does without the password what it does with it. -/
theorem promptStep_masked (app : App) (event : AppEvent × Viewport) :
    masked maskApp (App.promptStep host event app) =
      masked maskApp (App.promptStep host (blotApp event app) (maskApp app)) := by
  obtain ⟨event, view⟩ := event
  have apart : blotApp (event, view) app = ((blotApp (event, view) app).1, view) := by
    rw [blotApp]
    split
    · rfl
    · rfl
  cases seen : app.state with
  | session session => simp [App.promptStep, blotApp, maskApp, maskState, seen, App.dialog]
  | prompt dialog =>
    have prompt : prompting app = true := by rw [prompting, seen]
    have prompt' : prompting (maskApp app) = true := by rw [prompting_mask, prompt]
    rw [masked, masked, promptStep_eq host app prompt, apart, promptStep_eq host (maskApp app) prompt']
    exact step_alike host seen event view

theorem keeps_secret : Keeps (App.promptStep host) maskApp blotApp (sight checks host) where
  shows event app := by
    have next := promptStep_masked host app event
    -- the rest of the sight is what the mask leaves of the next state
    have workers := congrArg (Option.map App.workers) next
    have exitCode := congrArg (Option.map App.exitCode) next
    have exiting := congrArg (Option.map App.exiting) next
    simp only [masked, Option.map_map] at workers exitCode exiting
    have same : App.workers ∘ maskApp = App.workers := rfl
    have same' : App.exitCode ∘ maskApp = App.exitCode := rfl
    have same'' : App.exiting ∘ maskApp = App.exiting := rfl
    rw [same] at workers
    rw [same'] at exitCode
    rw [same''] at exiting
    simp only [sight, ← pictures_mask checks host app event, workers, exitCode, exiting]
  follows event app := promptStep_masked host app event

end App

/-! ### The password dialog -/

section Auth

variable (checks : Bool) (host : Host) (client : XpraClient) (dialog : AuthDialog)

theorem authPaint_mask (view : Viewport) : (maskAuth dialog).draw checks view = dialog.draw checks view := by
  simp [AuthDialog.draw, AuthDialog.paint, maskAuth]

theorem handleKey_typed {event : KeyEvent} (pressed : event.pressed = true) (enter : event.key ≠ .named .enter)
    (escape : event.key ≠ .named .escape) (backspace : event.key ≠ .named .backspace) :
    dialog.handleKey event = (.none, match event.text with
      | some text => { dialog with password := dialog.password ++ text.toList.filter fun c => !isControl c }
      | none => dialog) := by
  rw [AuthDialog.handleKey, if_neg (by simp [pressed])]
  split
  next seen => exact absurd seen enter
  next seen => exact absurd seen escape
  next seen => exact absurd seen backspace
  next => cases event.text <;> rfl

theorem blotKey_ne {event : KeyEvent} {key : NamedKey} (other : event.key ≠ .named key) : (blotKey event).key ≠ .named key := by
  cases known : editing event.key with
  | true => rwa [blotKey_key known]
  | false => simp [blotKey, known]

theorem maskAuth_twice : maskAuth (maskAuth dialog) = maskAuth dialog := by simp [maskAuth]

theorem handleKey_mask (event : KeyEvent) :
    ((maskAuth dialog).handleKey (blotKey event)).1 = (dialog.handleKey event).1 ∧
      maskAuth ((maskAuth dialog).handleKey (blotKey event)).2 = maskAuth (dialog.handleKey event).2 := by
  have pressed : (blotKey event).pressed = event.pressed := rfl
  cases down : event.pressed with
  | false =>
    rw [AuthDialog.handleKey, AuthDialog.handleKey, pressed, if_pos down, if_pos down]
    exact ⟨rfl, maskAuth_twice dialog⟩
  | true =>
    by_cases special : event.key = .named .enter ∨ event.key = .named .escape ∨ event.key = .named .backspace
    · have key : (blotKey event).key = event.key := by
        apply blotKey_key
        obtain seen | seen | seen := special <;> simp [seen, editing]
      simp only [AuthDialog.handleKey, pressed, down, key]
      obtain seen | seen | seen := special <;> simp [seen, maskAuth]
    · simp only [not_or] at special
      rw [handleKey_typed _ down special.1 special.2.1 special.2.2,
        handleKey_typed _ (pressed.trans down) (blotKey_ne special.1) (blotKey_ne special.2.1) (blotKey_ne special.2.2)]
      refine ⟨rfl, ?_⟩
      cases entered : event.text with
      | none =>
        have entered' : (blotKey event).text = none := by simp [blotKey, entered]
        simp only [entered']
        exact maskAuth_twice dialog
      | some text =>
        have entered' : (blotKey event).text = some (stars (typed text)) := by simp [blotKey, entered]
        have all : (List.replicate (typed text) '*').filter (fun char => !isControl char) = List.replicate (typed text) '*' :=
          List.filter_replicate_of_pos (by decide)
        have count : (text.toList.filter fun char => !isControl char).length = typed text := List.countP_eq_length_filter.symm
        simp only [entered', maskAuth, toList_stars, all, count, List.length_append, List.length_replicate]

theorem handleKey_alike (event : KeyEvent) : ∃ action next blotted, dialog.handleKey event = (action, next) ∧
    (maskAuth dialog).handleKey (blotKey event) = (action, blotted) ∧ maskAuth next = maskAuth blotted := by
  obtain ⟨action, after⟩ := handleKey_mask dialog event
  exact ⟨(dialog.handleKey event).1, (dialog.handleKey event).2, ((maskAuth dialog).handleKey (blotKey event)).2, rfl,
    Prod.ext action rfl, after.symm⟩

theorem authPictures_mask (event : WindowEvent) (view : Viewport) :
    authPictures checks event view client = authPictures checks (blotInput event) view (maskClient client) := by
  cases opened : client.authDialog with
  | none => simp [authPictures, maskClient, opened]
  | some dialog =>
    have opened' : (maskClient client).authDialog = some (maskAuth dialog) := by simp [maskClient, opened]
    cases event with
    | keyboardInput event isSynthetic =>
      have pressed : (blotKey event).pressed = event.pressed := rfl
      simp only [authPictures, blotInput, opened, opened', pressed]
      split
      · rfl
      · obtain ⟨action, next, blotted, turn, turn', after⟩ := handleKey_alike dialog event
        simp only [turn, turn']
        cases action with
        | none => simp only [← authPaint_mask checks next, ← authPaint_mask checks blotted, after]
        | submit | cancel => rfl
    | redrawRequested => simp only [authPictures, blotInput, opened, opened', authPaint_mask]
    | _ => simp only [authPictures, blotInput, opened, opened']

theorem answerChallenge_authDialog (env : Env) (password : String) :
    (answerChallenge host env client password).authDialog = client.authDialog := by
  rw [answerChallenge]
  split
  · rfl
  · rfl

theorem authStep_mask (event : WindowEvent × Env × Viewport) :
    masked maskClient (authStep host event client) = masked maskClient (authStep host (blotAuth event client) (maskClient client)) := by
  obtain ⟨event, env, view⟩ := event
  have twice : maskClient (maskClient client) = maskClient client := by
    cases opened : client.authDialog <;> simp [maskClient, opened, maskAuth_twice]
  cases opened : client.authDialog with
  | none =>
    have opened' : (maskClient client).authDialog = none := by simp [maskClient, opened]
    simp [authStep, opened, opened']
  | some dialog =>
    have opened' : (maskClient client).authDialog = some (maskAuth dialog) := by simp [maskClient, opened]
    cases event with
    | keyboardInput event isSynthetic =>
      cases isSynthetic with
      | true =>
        simp only [authStep, blotAuth, blotInput, handleAuthDialogEvent, opened, opened', if_true]
        exact congrArg some twice.symm
      | false =>
        obtain ⟨action, next, blotted, turn, turn', after⟩ := handleKey_alike dialog event
        simp only [authStep, blotAuth, blotInput, handleAuthDialogEvent, opened, opened', turn, turn', Bool.false_eq_true, if_false]
        cases action with
        | none =>
          have same : maskClient { maskClient client with authDialog := some blotted } =
              maskClient { client with authDialog := some next } := by simp [maskClient, after]
          exact congrArg some same.symm
        | submit => simp [answerChallenge_authDialog]
        | cancel => rfl
    | closeRequested => simp [authStep, blotAuth, blotInput, handleAuthDialogEvent, cancelAuth, XpraClient.quit]
    | _ =>
      simp only [authStep, blotAuth, blotInput, handleAuthDialogEvent, opened, opened']
      exact congrArg some twice.symm

theorem auth_keeps_secret :
    Keeps (authStep host) maskClient blotAuth fun event client => [authPictures checks event.1 event.2.2 client] where
  shows event client := congrArg (fun pictures => [pictures]) (authPictures_mask checks client event.1 event.2.2)
  follows event client := authStep_mask host client event

end Auth

/-- Neither dialog gives away more of a password than its length. Two runs of the
application up to its session, which differ in the characters typed into the password
field only, draw the same pictures, make the same connections and end with the same exit
code. So do two runs of the password dialog, from its opening to Enter or Escape. -/
theorem password_unseen (checks : Bool) (host : Host) :
    (∀ (sslInsecure : Bool) (mmap : Option MmapArea) (first second : List (AppEvent × Viewport)),
      disclosed (App.promptStep host) blotApp first (.opening sslInsecure mmap) =
        disclosed (App.promptStep host) blotApp second (.opening sslInsecure mmap) →
      Machine.observed (App.promptStep host) (sight checks host) first (.opening sslInsecure mmap) =
        Machine.observed (App.promptStep host) (sight checks host) second (.opening sslInsecure mmap)) ∧
    ∀ (client : XpraClient) (first second : List (WindowEvent × Env × Viewport)),
      disclosed (authStep host) blotAuth first client = disclosed (authStep host) blotAuth second client →
      Machine.observed (authStep host) (fun event client => [authPictures checks event.1 event.2.2 client]) first client =
        Machine.observed (authStep host) (fun event client => [authPictures checks event.1 event.2.2 client]) second client :=
  ⟨fun _ _ _ _ same => (keeps_secret checks host).observed_eq rfl same,
    fun _ _ _ same => (auth_keeps_secret checks host).observed_eq rfl same⟩

def keyPress (text : String) : WindowEvent :=
  .keyboardInput { pressed := true, key := .character text, text := some text, scancode := none } false

def screen : Viewport := { innerWidth := 420, innerHeight := 270, px := id, roundedScale := 1, buffer := some 113400 }

/-- A click into the password field, and a password typed there. -/
def entering (password : List String) : List (AppEvent × Viewport) :=
  (.resumed {} (.ok 1), screen) ::
    (.input 1 (.mouseInput true .left) (fun control => control = .field 4) {}, screen) ::
    password.map fun text => (.input 1 (keyPress text) (fun _ => false) {}, screen)

def asking : XpraClient :=
  { XpraClient.new { outcome := fun _ => .written } none none none none with
    authDialog := some { window := 2, prompt := "Enter password" } }

theorem password_unseen_two :
    Machine.observed (App.promptStep Host.plain) (sight false Host.plain) (entering ["o"]) (.opening false none) =
      Machine.observed (App.promptStep Host.plain) (sight false Host.plain) (entering ["u"]) (.opening false none) ∧
    Machine.observed (authStep Host.plain) (fun event client => [authPictures false event.1 event.2.2 client])
        [(keyPress "o", {}, screen), (keyPress "n", {}, screen)] asking =
      Machine.observed (authStep Host.plain) (fun event client => [authPictures false event.1 event.2.2 client])
        [(keyPress "u", {}, screen), (keyPress "p", {}, screen)] asking :=
  ⟨(password_unseen false Host.plain).1 false none (entering ["o"]) (entering ["u"]) rfl,
    (password_unseen false Host.plain).2 asking _ _ rfl⟩

end Xpra.Proofs.DialogSecrecy
