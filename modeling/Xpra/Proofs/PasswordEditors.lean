import Xpra.Proofs.ConnectAttempts
import Xpra.Proofs.DialogTarget

/-! The two places a password is typed into. Both keep every character of the editing,
but the connection dialog trims its text when it is submitted. -/

namespace Xpra.Proofs.PasswordEditors
open Xpra.Net Xpra.Client

/-! ### Editing -/

/-- The keys that a dialog gives a meaning of its own. -/
def commands : List Key := [.named .enter, .named .escape, .named .backspace, .named .tab, .named .arrowUp, .named .arrowDown]

structure Types (event : KeyEvent) (typed : List Char) : Prop where
  pressed : event.pressed = true
  text : event.text = some (String.ofList typed)
  printable : ∀ char ∈ typed, isControl char = false
  plain : event.key ∉ commands

structure Presses (event : KeyEvent) (key : NamedKey) : Prop where
  pressed : event.pressed = true
  key : event.key = .named key

inductive Stroke
  | typed (event : KeyEvent) (text : List Char) (types : Types event text)
  | backspace (event : KeyEvent) (presses : Presses event .backspace)

namespace Stroke

def event : Stroke → KeyEvent
  | .typed event _ _ => event
  | .backspace event _ => event

def edit (text : List Char) : Stroke → List Char
  | .typed _ more _ => text ++ more
  | .backspace _ _ => text.dropLast

end Stroke

/-- What the strokes leave of all that was typed. -/
def remaining (strokes : List Stroke) : List Char := strokes.foldl Stroke.edit []

theorem remaining_concat (strokes : List Stroke) (stroke : Stroke) :
    remaining (strokes ++ [stroke]) = stroke.edit (remaining strokes) := by
  rw [remaining, List.foldl_append]
  rfl

/-! ### The connection dialog -/

/-- The keys go into the password field. -/
structure Editing (dialog : ConnectDialog) : Prop where
  focus : dialog.focus = .password
  idle : dialog.connecting = false
  closed : dialog.dropdown = false

theorem typeInto_short {text field : List Char} (printable : ∀ char ∈ text, isControl char = false)
    (short : (field ++ text).length ≤ 128) :
    ConnectDialog.typeInto false (String.ofList text) (String.ofList field) = String.ofList (field ++ text) := by
  rw [ConnectDialog.typeInto, String.toList_ofList]
  induction text generalizing field with
  | nil => rw [List.append_nil]; rfl
  | cons char text ih =>
    have room : (String.ofList field).length < (if false = true then 5 else 128) := by
      rw [String.length_ofList, if_neg Bool.false_ne_true]
      rw [List.length_append, List.length_cons] at short
      omega
    have pushed : (String.ofList field).push char = String.ofList (field ++ [char]) := by
      rw [String.ofList_append]
      rfl
    have kept : ¬ (isControl char = true ∨ false = true ∧ ¬ char.isDigit = true) := by
      simp [printable char List.mem_cons_self]
    rw [List.foldl_cons, if_neg kept, if_pos room, pushed, ih]
    · rw [List.append_assoc, List.singleton_append]
    · exact fun other member => printable other (List.mem_cons_of_mem char member)
    · rwa [List.append_assoc, List.singleton_append]

/-- A stroke edits the field as it edits the text, and nothing else that counts. -/
theorem handleKey_edits {dialog : ConnectDialog} (editing : Editing dialog) (stroke : Stroke) {text : List Char}
    (holds : dialog.password = String.ofList text) (short : (stroke.edit text).length ≤ 128) :
    Editing (dialog.handleKey stroke.event).2 ∧
      (dialog.handleKey stroke.event).2.password = String.ofList (stroke.edit text) := by
  obtain ⟨focus, idle, closed⟩ := editing
  cases stroke with
  | backspace event presses =>
    have pressed : event.pressed ≠ false := by simp [presses.pressed]
    have handled : (dialog.handleKey event).2 =
        { dialog with status := .none, password := String.ofList dialog.password.toList.dropLast } := by
      rw [ConnectDialog.handleKey, if_neg pressed, ConnectDialog.key, idle, presses.key]
      simp [ConnectDialog.updateField, focus]
    rw [Stroke.event, handled, holds, String.toList_ofList]
    exact ⟨⟨focus, rfl, closed⟩, rfl⟩
  | typed event typed types =>
    have pressed : event.pressed ≠ false := by simp [types.pressed]
    have handled : (dialog.handleKey event).2 =
        { dialog with status := .none, password := ConnectDialog.typeInto false (String.ofList typed) dialog.password } := by
      rw [ConnectDialog.handleKey, if_neg pressed, ConnectDialog.key, idle]
      have plain := types.plain
      simp only [commands, List.mem_cons, List.not_mem_nil, or_false, not_or] at plain
      obtain ⟨enter, escape, backspace, tab, up, down⟩ := plain
      rw [if_neg Bool.false_ne_true]
      split
      next command => exact absurd command escape
      next command => exact absurd command enter
      next command => exact absurd command tab
      next command => exact absurd command down
      next command => exact absurd command up
      next command => exact absurd command backspace
      next =>
        have field : ¬ (event.key = .named .space ∧ dialog.focus.textField = false) := by simp [focus, Focus.textField]
        rw [if_neg field, types.text]
        simp only [ConnectDialog.updateField, focus]
        rfl
    rw [Stroke.event, handled, holds, typeInto_short types.printable short]
    exact ⟨⟨focus, rfl, closed⟩, rfl⟩

def typeKeys (dialog : ConnectDialog) (strokes : List Stroke) : ConnectDialog :=
  strokes.foldl (fun dialog stroke => (dialog.handleKey stroke.event).2) dialog

theorem typeKeys_remaining {dialog : ConnectDialog} (editing : Editing dialog) (blank : dialog.password = "")
    {strokes : List Stroke} (short : ∀ part, part <+: strokes → (remaining part).length ≤ 128) :
    Editing (typeKeys dialog strokes) ∧ (typeKeys dialog strokes).password = String.ofList (remaining strokes) := by
  induction strokes using List.reverseRecOn with
  | nil => exact ⟨editing, blank⟩
  | append_singleton strokes stroke ih =>
    obtain ⟨editing, holds⟩ := ih fun part begins => short part (begins.trans (List.prefix_append strokes [stroke]))
    have bound := short (strokes ++ [stroke]) List.prefix_rfl
    rw [remaining_concat] at bound ⊢
    rw [typeKeys, List.foldl_append]
    exact handleKey_edits editing stroke holds bound

theorem enter_submits {dialog : ConnectDialog} (editing : Editing dialog) {enter : KeyEvent} (presses : Presses enter .enter) :
    dialog.handleKey enter = dialog.submit := by
  have pressed : enter.pressed ≠ false := by simp [presses.pressed]
  rw [ConnectDialog.handleKey, if_neg pressed, ConnectDialog.key, editing.idle, presses.key]
  simp [editing.closed, editing.focus]

/-- What the dialog hands over is the text without the white space around it. -/
theorem handed_password {dialog : ConnectDialog} (editing : Editing dialog) (blank : dialog.password = "")
    {strokes : List Stroke} (short : ∀ part, part <+: strokes → (remaining part).length ≤ 128)
    {enter : KeyEvent} (presses : Presses enter .enter) {details : ConnectDetails}
    (submitted : ((typeKeys dialog strokes).handleKey enter).1 = .connect details) :
    details.password = nonEmpty (String.ofList (remaining strokes)) := by
  obtain ⟨editing, holds⟩ := typeKeys_remaining editing blank short
  rw [enter_submits editing presses] at submitted
  rw [← holds]
  have accepted : (typeKeys dialog strokes).submit = (.connect details, (typeKeys dialog strokes).submit.2) := by
    rw [← submitted]
  obtain ⟨-, -, -, -, -, password⟩ := DialogTarget.submit_connect accepted
  exact password

/-! ### The built-in dialog -/

variable {host : Host} {env : Env}

def authenticate (host : Host) (env : Env) (client : XpraClient) (events : List KeyEvent) : XpraClient :=
  events.foldl (fun client event => handleAuthDialogEvent host env client (.keyboardInput event false)) client

variable {client : XpraClient} {dialog after : AuthDialog} {event : KeyEvent}

theorem builtIn_goes_on (open' : client.authDialog = some dialog) (handled : dialog.handleKey event = (.none, after)) :
    handleAuthDialogEvent host env client (.keyboardInput event false) = { client with authDialog := some after } := by
  rw [handleAuthDialogEvent, open']
  simp only [Bool.false_eq_true, if_false, handled]

theorem builtIn_submits (open' : client.authDialog = some dialog) (handled : dialog.handleKey event = (.submit, after)) :
    handleAuthDialogEvent host env client (.keyboardInput event false) =
      answerChallenge host env { client with authDialog := none } (String.ofList after.password) := by
  rw [handleAuthDialogEvent, open']
  simp only [Bool.false_eq_true, if_false, handled]

theorem builtIn_edits (open' : client.authDialog = some dialog) (stroke : Stroke) :
    handleAuthDialogEvent host env client (.keyboardInput stroke.event false) =
      { client with authDialog := some { dialog with password := stroke.edit dialog.password } } := by
  cases stroke with
  | backspace event presses =>
    have handled : dialog.handleKey event = (.none, { dialog with password := dialog.password.dropLast }) := by
      rw [AuthDialog.handleKey, presses.pressed, presses.key]
      rfl
    exact builtIn_goes_on open' handled
  | typed event typed types =>
    have plain := types.plain
    simp only [commands, List.mem_cons, List.not_mem_nil, or_false, not_or] at plain
    obtain ⟨enter, escape, backspace, -⟩ := plain
    have kept : typed.filter (fun char => !isControl char) = typed := by
      apply List.filter_eq_self.mpr
      intro char member
      rw [types.printable char member]
      rfl
    have handled : dialog.handleKey event = (.none, { dialog with password := dialog.password ++ typed }) := by
      rw [AuthDialog.handleKey, if_neg (by simp [types.pressed])]
      split
      next command => exact absurd command enter
      next command => exact absurd command escape
      next command => exact absurd command backspace
      next =>
        rw [types.text]
        simp only [String.toList_ofList, kept]
    exact builtIn_goes_on open' handled

theorem builtIn_remaining (open' : client.authDialog = some dialog)
    (blank : dialog.password = []) (strokes : List Stroke) :
    authenticate host env client (strokes.map Stroke.event) =
      { client with authDialog := some { dialog with password := remaining strokes } } := by
  induction strokes using List.reverseRecOn with
  | nil =>
    rw [remaining, List.foldl_nil, ← blank, ← open']
    rfl
  | append_singleton strokes stroke ih =>
    rw [remaining_concat, List.map_append, authenticate, List.foldl_append]
    rw [authenticate] at ih
    rw [ih]
    have opened : ({ client with authDialog := some { dialog with password := remaining strokes } } : XpraClient).authDialog =
      some { dialog with password := remaining strokes } := rfl
    exact builtIn_edits opened stroke

/-! ### The response -/

/-- A reply has been computed from this text. -/
def Answers (env : Env) (salt : Bytes) (before after : XpraClient) (text : List Char) : Prop :=
  after.authLog = before.authLog ++ [.answered (makeReply salt env.clientSalt (String.ofList text))]

variable {salt : Bytes}

theorem answerChallenge_log (pending : client.pendingChallenge = some salt) (password : String) :
    (answerChallenge host env client password).authLog = client.authLog ++ [.answered (makeReply salt env.clientSalt password)] := by
  rw [answerChallenge, pending]
  rfl

theorem builtIn_enter (pending : client.pendingChallenge = some salt) (open' : client.authDialog = some dialog)
    {enter : KeyEvent} (presses : Presses enter .enter) :
    Answers env salt client (handleAuthDialogEvent host env client (.keyboardInput enter false)) dialog.password := by
  have submits : dialog.handleKey enter = (.submit, dialog) := by
    rw [AuthDialog.handleKey, presses.pressed, presses.key]
    rfl
  have closed : ({ client with authDialog := none } : XpraClient).pendingChallenge = some salt := pending
  rw [builtIn_submits open' submits]
  exact answerChallenge_log closed _

theorem builtIn_answers (pending : client.pendingChallenge = some salt) (open' : client.authDialog = some dialog)
    (blank : dialog.password = []) (strokes : List Stroke) {enter : KeyEvent} (presses : Presses enter .enter) :
    Answers env salt client (authenticate host env client (strokes.map Stroke.event ++ [enter])) (remaining strokes) := by
  let edited : XpraClient := { client with authDialog := some { dialog with password := remaining strokes } }
  have typed : authenticate host env client (strokes.map Stroke.event) = edited := builtIn_remaining open' blank strokes
  have held : edited.pendingChallenge = some salt := pending
  have opened : edited.authDialog = some { dialog with password := remaining strokes } := rfl
  rw [authenticate] at typed
  rw [authenticate, List.foldl_append, typed]
  exact builtIn_enter held opened presses

theorem answers_iff (before : XpraClient) (password : String) (text : List Char)
    {next : XpraClient} (answered : next.authLog = before.authLog ++ [.answered (makeReply salt env.clientSalt password)]) :
    Answers env salt before next text ↔ password = String.ofList text := by
  rw [Answers, answered, List.append_cancel_left_eq, List.cons.injEq, AuthEvent.answered.injEq]
  constructor
  · rintro ⟨same, -⟩
    exact congrArg Reply.password same
  · rintro rfl
    exact ⟨rfl, rfl⟩

/-- Without a password to answer with, nothing is answered. -/
theorem showAuthDialog_silent (prompt : String) (text : List Char) : ¬ Answers env salt client (showAuthDialog env client prompt) text := by
  have quit (code : ExitCode) : ¬ Answers env salt client (client.quit code) text := by
    intro answers
    exact absurd (List.self_eq_append_right.mp answers) (List.cons_ne_nil _ _)
  rw [showAuthDialog]
  split
  · exact quit _
  · split
    · split
      · intro answers
        cases List.append_cancel_left answers
      · exact quit _
    · exact quit _

/-- What answers a challenge: the dialog's password, or else the environment's. -/
theorem findPassword_answers_iff (pending : client.pendingChallenge = some salt) (prompt : String) {text : List Char}
    (some' : text ≠ []) : Answers env salt client (findPassword host env client prompt) text ↔
      (client.password.filter (· ≠ "")).or env.xpraPassword = some (String.ofList text) := by
  have nonempty : String.ofList text ≠ "" := by simpa using some'
  rw [findPassword]
  split
  next password given =>
    rw [answers_iff _ _ _ (answerChallenge_log pending password), given]
    simp
  next none =>
    rw [none, Option.none_or]
    split
    next password given =>
      rw [answers_iff _ _ _ (answerChallenge_log pending password)]
      obtain ⟨set, -⟩ := Option.filter_eq_some_iff.mp given
      simp [set]
    next unset =>
      have other : env.xpraPassword ≠ some (String.ofList text) := by
        intro set
        rw [set] at unset
        simp [nonempty] at unset
      refine iff_of_false ?_ other
      dsimp only
      split
      · intro answers
        cases List.append_cancel_left answers
      · exact showAuthDialog_silent _ text

variable {app : App} {audioWorker : Option AudioWorker} {connection : Connection} {details : ConnectDetails} {session : Session}

/-- A challenge of the session is answered with the password that it was given. -/
theorem session_answers_iff (begun : (app.startSession host env audioWorker connection details).state = .session session)
    (prompt : String) {text : List Char} (some' : text ≠ []) :
    Answers env salt session.system.client
        (findPassword host env { session.system.client with pendingChallenge := some salt } prompt) text ↔
      (details.password.filter (· ≠ "")).or env.xpraPassword = some (String.ofList text) := by
  have password : session.system.client.password = details.password := by
    rw [App.startSession, AppState.session.injEq] at begun
    rw [← begun]
    exact (ConnectAttempts.resumed_credentials env _).2
  rw [← password]
  let challenged : XpraClient := { session.system.client with pendingChallenge := some salt }
  have held : challenged.pendingChallenge = some salt := rfl
  exact findPassword_answers_iff held prompt some'

/-- The two editors answer alike exactly when there is no white space at the ends of
what was typed, or nothing but white space that the environment's password repeats. -/
theorem same_password_iff {form : ConnectDialog} (editing : Editing form) (blank : form.password = "")
    {strokes : List Stroke} (some' : remaining strokes ≠ []) (short : ∀ part, part <+: strokes → (remaining part).length ≤ 128)
    {enter : KeyEvent} (presses : Presses enter .enter) (submitted : ((typeKeys form strokes).handleKey enter).1 = .connect details)
    (begun : (app.startSession host env audioWorker connection details).state = .session session) (prompt : String)
    (pending : client.pendingChallenge = some salt) (open' : client.authDialog = some dialog) (empty : dialog.password = []) :
    Answers env salt session.system.client
        (findPassword host env { session.system.client with pendingChallenge := some salt } prompt) (remaining strokes) ∧
      Answers env salt client (authenticate host env client (strokes.map Stroke.event ++ [enter])) (remaining strokes) ↔
    trim (String.ofList (remaining strokes)) = String.ofList (remaining strokes) ∨
      trim (String.ofList (remaining strokes)) = "" ∧ env.xpraPassword = some (String.ofList (remaining strokes)) := by
  have handed := handed_password editing blank short presses submitted
  have answers : Answers env salt session.system.client
      (findPassword host env { session.system.client with pendingChallenge := some salt } prompt) (remaining strokes) ↔ _ :=
    session_answers_iff begun prompt some'
  have both : Answers env salt client (authenticate host env client (strokes.map Stroke.event ++ [enter])) (remaining strokes) :=
    builtIn_answers pending open' empty strokes presses
  have nonempty : "" ≠ String.ofList (remaining strokes) := by simpa using Ne.symm some'
  rw [handed, nonEmpty] at answers
  refine (and_iff_left both).trans (answers.trans ?_)
  split
  next nothing => simp [nothing, nonempty]
  next kept => simp [kept, some']

/-! ### A space inside, a space at the end -/

def letter (char : Char) (printable : isControl char = false) : Stroke :=
  .typed ⟨true, .character (String.singleton char), some (String.ofList [char]), none⟩ [char]
    ⟨rfl, rfl, by simpa using printable, by simp [commands]⟩

def enterKey : KeyEvent := ⟨true, .named .enter, none, none⟩

def form : ConnectDialog := { window := 1, host := "host", focus := .password }

def filled (password : String) : ConnectDetails := { uri := "tcp://host:10000/", username := none, password := some password }

def made : Connection :=
  { attempt := 0, target := { scheme := .tcp, address := "host:10000", path := "", username := none },
    stream := { outcome := fun _ => .written } }

/-- A client of another session that shows the built-in dialog. -/
def prompted : XpraClient := { pendingChallenge := some [1], authDialog := some { window := 1, prompt := "Enter password" } }

theorem inner_space_kept :
    ∃ session : Session, (App.startSession Host.plain {} {} none made (filled "a b")).state = .session session ∧
      Answers {} [1] session.system.client
        (findPassword Host.plain {} { session.system.client with pendingChallenge := some [1] } "password") ['a', ' ', 'b'] ∧
      Answers {} [1] prompted (authenticate Host.plain {} prompted
        ([letter 'a' rfl, letter ' ' rfl, letter 'b' rfl].map Stroke.event ++ [enterKey])) ['a', ' ', 'b'] := by
  let strokes : List Stroke := [letter 'a' rfl, letter ' ' rfl, letter 'b' rfl]
  have short : ∀ part, part <+: strokes → (remaining part).length ≤ 128 := by
    intro part begins
    simp only [strokes, List.prefix_cons_iff, List.prefix_nil] at begins
    rcases begins with rfl | ⟨_, rfl, rfl | ⟨_, rfl, rfl | ⟨_, rfl, rfl⟩⟩⟩ <;> decide
  have submitted : ((typeKeys form strokes).handleKey enterKey).1 = .connect (filled "a b") := by decide +kernel
  obtain ⟨session, begun⟩ : ∃ session, (App.startSession Host.plain {} {} none made (filled "a b")).state = .session session :=
    ⟨_, rfl⟩
  refine ⟨session, begun, (same_password_iff ⟨rfl, rfl, rfl⟩ rfl (by decide) short ⟨rfl, rfl⟩ submitted begun "password" rfl rfl rfl).mpr ?_⟩
  exact .inl (by decide +kernel)

/-- With a space at the end, the two challenges are answered with different passwords. -/
theorem final_space_trimmed :
    ∃ session : Session, (App.startSession Host.plain {} {} none made (filled "a")).state = .session session ∧
      ((typeKeys form [letter 'a' rfl, letter ' ' rfl]).handleKey enterKey).1 = .connect (filled "a") ∧
      Answers {} [1] session.system.client
        (findPassword Host.plain {} { session.system.client with pendingChallenge := some [1] } "password") ['a'] ∧
      Answers {} [1] prompted (authenticate Host.plain {} prompted
        ([letter 'a' rfl, letter ' ' rfl].map Stroke.event ++ [enterKey])) ['a', ' '] := by
  obtain ⟨session, begun⟩ : ∃ session, (App.startSession Host.plain {} {} none made (filled "a")).state = .session session :=
    ⟨_, rfl⟩
  refine ⟨session, begun, by decide +kernel, ?_, ?_⟩
  · rw [session_answers_iff begun "password" (List.cons_ne_nil _ _)]
    rfl
  · exact builtIn_answers rfl rfl rfl [letter 'a' rfl, letter ' ' rfl] ⟨rfl, rfl⟩

end Xpra.Proofs.PasswordEditors
