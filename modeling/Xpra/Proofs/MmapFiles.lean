import Xpra.Client.Process
import Xpra.Proofs.ConnectAttempts
import Xpra.Proofs.DrawSteps

/-! The backing file of the shared area. A hello that the client handles while it holds
the area removes the file, and so does the last reference; the process does not wait
for the decode thread to let go of its own. -/

namespace Xpra.Proofs.MmapFiles
open Xpra.Net Xpra.Client Library Handlers DrawSteps ConnectAttempts

variable {host : Host}

/-! ### Creation -/

theorem remove_add {files : List String} {path : String} (new : path ∉ files) :
    (Disk.add { files } path).remove path = { files, removed := [path] } := by
  have others : files.filter (· ≠ path) = files := by
    rw [List.filter_eq_self]
    intro other member
    simpa using ne_of_mem_of_not_mem member new
  simp only [Disk.add, Disk.remove, List.filter_append, others]
  simp

inductive Made (files : List String) : Option MmapArea × Disk → Prop where
  | nothing (disk : Disk) (same : disk.files = files) (others : ∀ path ∈ disk.removed, path ∉ files) :
      Made files (none, disk)
  | existing (area : MmapArea) (fresh : backing area = ⟨area.path, false, false, 0⟩) : Made files (some area, { files })
  | own (area : MmapArea) (fresh : backing area = ⟨area.path, true, false, 0⟩) (new : area.path ∉ files) :
      Made files (some area, Disk.add { files } area.path)

def made (result : Except String MmapArea × Disk) : Option MmapArea × Disk := (result.1.toOption, result.2)

theorem made_unchanged (files : List String) (message : String) : Made files (made (.error message, { files })) :=
  .nothing _ rfl (by simp)

variable {setup : MmapSetup} {files : List String}

theorem mapFile_existing (path : String) (memory : Memory) :
    Made files (made (mapFile host setup { files } path true memory)) := by
  rw [mapFile]
  split
  · split
    · exact made_unchanged files _
    · exact .existing _ rfl
  · exact made_unchanged files _

theorem mapFile_own {path : String} (new : path ∉ files) (memory : Memory) :
    Made files (made (mapFile host setup (Disk.add { files } path) path false memory)) := by
  have removed (message : String) : Made files (made (failed (Disk.add { files } path) path true message)) := by
    rw [failed, if_pos rfl, remove_add new]
    exact .nothing _ rfl (by simpa [made] using new)
  rw [mapFile]
  split
  · split
    · exact removed _
    · exact .own _ rfl new
  · exact removed _

theorem createFile_made (path : String) : Made files (made (createFile host setup { files } path)) := by
  rw [createFile]
  simp only []
  split
  next => exact made_unchanged files _
  next new =>
    split
    next => exact made_unchanged files _
    next =>
      split
      next =>
        rw [failed, if_pos rfl, remove_add new]
        exact .nothing _ rfl (by simpa [made] using new)
      next => exact mapFile_own new _

theorem openFile_made (path : String) : Made files (made (openFile host setup { files } path)) := by
  rw [openFile]
  split
  · exact made_unchanged files _
  · split
    · exact made_unchanged files _
    · exact mapFile_existing path _

theorem createArea_made (host : Host) (setup : MmapSetup) (files : List String) :
    Made files (createArea host setup { files }) := by
  have done : Made files (made (doCreate host setup { files })) := by
    rw [doCreate]
    split
    · exact made_unchanged files _
    · split
      · split
        · exact openFile_made _
        · exact createFile_made _
      · split
        · exact made_unchanged files _
        · exact createFile_made _
  rw [createArea]
  split
  · exact .nothing _ rfl (by simp)
  · rcases result : doCreate host setup { files } with ⟨_ | area, disk⟩
    all_goals
      rw [result] at done
      exact done

/-! ### The area in a session -/

section Session
variable {system next : System} {event : Event}

def backingOf (system : System) : Option Backing := system.client.area.map backing

/-- The UI thread turns to a hello while the client holds the area. -/
def Greets (host : Host) (event : Event) (system : System) : Prop :=
  match event with
  | .deliver _ => system.client.proxy.head?.map (kindOf host) = some .hello ∧ system.client.mmap = true
  | _ => False

inductive Touches (greets : Prop) (before after : Option Backing) : Prop where
  | kept (other : ¬ greets) (same : after = before)
  | unlinked (greeted : greets) (gone : after = before.map Backing.unlink)

theorem hello_greeted {env : Env} {client after : XpraClient} {packet : Packet} (kind : kindOf host packet = .hello)
    (handled : userEvent host env client packet = .ok after) : Greeted host client (packet.get 1) after := by
  rw [userEvent_eq, kind] at handled
  obtain ⟨hello, asserted, handled⟩ := bind_ok handled
  rw [assertHello] at asserted
  split at asserted <;> cases asserted
  exact processHello_greeted client handled

/-- No other packet of the server's concerns the area. -/
theorem userEvent_area {env : Env} {client after : XpraClient} {packet : Packet} (other : kindOf host packet ≠ .hello)
    (handled : userEvent host env client packet = .ok after) : after.area = client.area := by
  cases userEvent_handled handled with
  | spared _ _ spares => exact congrArg Draws.area spares.draws
  | started _ same => rw [same]
  | clipped _ clips => exact congrArg Draws.area clips.draws
  | logged _ logs => exact congrArg Draws.area logs.draws
  | hello kind => exact absurd kind other
  | draw _ same => rw [same]
  | decoded _ acknowledges => exact congrArg Draws.area acknowledges.draws
  | failed _ acknowledges => exact congrArg Draws.area acknowledges.draws
  | ended _ _ _ draws =>
    have same := congrArg Draws.area draws
    exact same

theorem delivered_touches {env : Env} {packet : Packet} {rest : List Packet} {client : XpraClient}
    (queued : system.client.proxy = packet :: rest)
    (handled : userEvent host env { system.client with proxy := rest } packet = .ok client) :
    Touches (Greets host (.deliver env) system) (backingOf system) (client.area.map backing) := by
  have first : system.client.proxy.head?.map (kindOf host) = some (kindOf host packet) := by rw [queued]; rfl
  by_cases kind : kindOf host packet = .hello
  · have after := (hello_greeted kind handled).backing
    cases held : system.client.mmap with
    | true =>
      refine .unlinked ⟨first.trans (congrArg some kind), held⟩ ?_
      simp only [held, if_true] at after
      rw [backingOf, Option.map_map]
      exact after
    | false =>
      simp only [held, Bool.false_eq_true, if_false] at after
      refine .kept ?_ after
      intro greets
      cases held.symm.trans greets.2
  · have same := userEvent_area kind handled
    refine .kept ?_ (congrArg (Option.map backing) same)
    intro greets
    apply kind
    simpa [first] using greets.1

theorem system_touches (moved : System.step host event system = .ok next) :
    Touches (Greets host event system) (backingOf system) (backingOf next) := by
  cases Steps.step_of_moved moved with
  | delivered env packet rest client queued handled => exact delivered_touches queued handled
  | input id input env =>
    have spares : Spares host system.client (windowEvent host env system.client id input) := windowEvent_spares id input
    exact .kept not_false (congrArg (fun draws => draws.area.map backing) spares.draws)
  | resumed env =>
    have spares : Spares host system.client (resumed host env system.client) := resumed_spares
    exact .kept not_false (congrArg (fun draws => draws.area.map backing) spares.draws)
  | decoded env packet rest result area queued turned => exact .kept not_false (decodeTurn_kept turned).2
  | written index byte area mapped =>
    apply Touches.kept not_false
    rw [backingOf, backingOf, mapped]
    rfl
  | _ => exact .kept not_false rfl

end Session

/-! ### The area before and in the session -/

section App
variable {app next : App} {event : AppEvent}

def holding (app : App) : Option Backing := app.area.map backing

/-- The session of the application turns to a hello while it holds the area. -/
def Hails (host : Host) (event : AppEvent) (app : App) : Prop :=
  match event, app.state with
  | .deliver env _, .session session => Greets host (.deliver env) session.system
  | _, _ => False

theorem updateDialog_area (update : ConnectDialog → ConnectDialog) : (app.updateDialog update).area = app.area := by
  rw [App.updateDialog]
  split
  next state => simp only [App.area, state]
  next => rfl

theorem startConnect_area (details : ConnectDetails) : (app.startConnect host details).area = app.area := by
  rw [App.startConnect]
  split
  · exact updateDialog_area _
  · exact updateDialog_area _

theorem handleDialogEvent_area (id : WindowId) (input : WindowEvent) (pointed : Control → Bool) :
    (app.handleDialogEvent host id input pointed).area = app.area := by
  have shown {dialog : ConnectDialog} (after : ConnectDialog) (here : app.dialog = some dialog) :
      App.area { app with state := .prompt (some after) } = app.area := by
    cases state : app.state with
    | prompt => simp only [App.area, state]
    | session => simp [App.dialog, state] at here
  have turn := input_turn host app id input pointed
  generalize app.handleDialogEvent host id input pointed = handled at turn ⊢
  cases turn with
  | ignored => rfl
  | edited dialog after here => exact shown after here
  | cancelled dialog after here => exact shown after here
  | connects dialog after details here => exact (startConnect_area details).trans (shown after here)

theorem startSession_area {dialog : Option ConnectDialog} (state : app.state = .prompt dialog) (env : Env)
    (audioWorker : Option AudioWorker) (connection : Connection) (details : ConnectDetails) :
    (app.startSession host env audioWorker connection details).area = app.area := by
  have kept (client : XpraClient) : (resumed host env client).area = client.area := by
    have spares : Spares host client (resumed host env client) := resumed_spares
    exact congrArg (fun draws => draws.area) spares.draws
  simp only [App.area, App.startSession, state, kept]
  rfl

theorem delivered_area (host : Host) {dialog : Option ConnectDialog} (state : app.state = .prompt dialog) (env : Env)
    (audioWorker : Option AudioWorker) (packet : Packet) :
    (app.userEvent host env audioWorker packet).area = app.area := by
  rw [App.userEvent]
  split
  · rw [App.finishConnect]
    have taken : App.area { app with connectRx := none, pending := none } = app.area := rfl
    split
    · split
      · exact (startSession_area state env audioWorker _ _).trans taken
      · exact (updateDialog_area _).trans taken
      · exact taken
    · exact taken
  · rfl

theorem posted_area (app : App) (packet : Packet) : (app.posted packet).area = app.area := by
  rw [App.posted]
  split
  next state => simp only [App.area, state]
  next session state => simp only [App.area, System.posted, state]

theorem hails_iff {session : Session} {occurred : Event} (state : app.state = .session session)
    (heard : sessionEvent event = some occurred) : Hails host event app ↔ Greets host occurred session.system := by
  cases event with
  | deliver env audioWorker =>
    cases heard
    simp only [Hails, state]
  | resumed | input =>
    cases heard
    exact Iff.rfl
  | connects | posts => cases heard
  | session inner =>
    cases inner <;> cases heard <;> exact Iff.rfl

theorem app_touches (moved : App.step host event app = .ok next) :
    Touches (Hails host event app) (holding app) (holding next) := by
  cases ConnectAttempts.step_turn moved with
  | shown env shown unstarted state =>
    apply Touches.kept not_false
    cases shown with
    | ok window => simp only [holding, App.area, App.showDialog, state]
    | error message => rfl
  | resumed | connects => exact .kept not_false rfl
  | input id input pointed env =>
    exact .kept not_false (congrArg (Option.map backing) (handleDialogEvent_area id input pointed))
  | delivered env audioWorker dialog state packet rest queue =>
    have waits : App.state { app with proxy := rest } = .prompt dialog := state
    have same := delivered_area host waits env audioWorker packet
    apply Touches.kept _ (congrArg (Option.map backing) same)
    simp [Hails, state]
  | posts index =>
    have same := posted_area { app with workers := app.workers.eraseIdx index } (clientPacket CONNECT_RESULT "")
    exact .kept not_false (congrArg (Option.map backing) same)
  | session event session system started state kept occurred heard stepped =>
    have here : holding app = backingOf session.system := by rw [holding, App.area, state]; rfl
    rw [hails_iff state heard, here]
    exact system_touches stepped

end App

/-! ### The process -/

section Process
variable {process next : Process} {event : ProcessEvent}

def Removes (host : Host) (event : ProcessEvent) (process : Process) : Prop :=
  match event with
  | .app occurred => Hails host occurred process.app
  | _ => False

/-- No hello of the run is handled while the client holds the area. -/
abbrev Ungreeted (host : Host) (events : List ProcessEvent) (process : Process) : Prop :=
  Machine.Along (Process.step host) (fun event now => ¬ Removes host event now) events process

/-- Neither the application nor the decode thread refers to the area any more. -/
def Dropped (process : Process) : Prop :=
  process.decoding = false ∧ (process.shutdown = .released ∨ process.shutdown = .exited)

@[simp] theorem withArea_area (app : App) (area : Option MmapArea) : (app.withArea area).area = area := by
  rw [App.withArea]
  split
  next state => simp only [App.area, state]
  next => rfl

@[simp] theorem withDecodeQueue_area (app : App) (queue : List Packet) : (app.withDecodeQueue queue).area = app.area := by
  rw [App.withDecodeQueue]
  split
  next state => rfl
  next state => simp only [App.area, state]

theorem dropLast_unlinks (process : Process) :
    holding process.dropLast.app = (holding process.app).map Backing.unlink := by
  simp only [holding, Process.dropLast, withArea_area, Option.map_map]
  exact congrArg (fun both => process.app.area.map both) (funext backing_unlink)

/-- What a step does to the references and to the file. -/
inductive Passes (host : Host) (event : ProcessEvent) (process next : Process) : Prop where
  | touched (same : Dropped next ↔ Dropped process)
      (touches : Touches (Removes host event process) (holding process.app) (holding next.app))
  | dropped (held : ¬ Dropped process) (gone : Dropped next) (other : ¬ Removes host event process)
      (unlinked : holding next.app = (holding process.app).map Backing.unlink)

theorem decodeEnds_passes {now : Process} (other : ¬ Removes host event process) (decoding : process.decoding = true)
    (alive : process.shutdown ≠ .exited) (shutdown : now.shutdown = process.shutdown)
    (same : holding now.app = holding process.app) : Passes host event process now.decodeEnds := by
  have held : ¬ Dropped process := by
    rintro ⟨ended, -⟩
    cases decoding.symm.trans ended
  rw [Process.decodeEnds]
  simp only []
  split
  next released =>
    refine .dropped held ⟨rfl, .inl released⟩ other ?_
    rw [dropLast_unlinks, same]
  next waiting =>
    have holds : ¬ Dropped { now with decoding := false } := by
      rintro ⟨-, released | exited⟩
      · exact waiting released
      · exact alive (shutdown.symm.trans exited)
    exact .touched (iff_of_false holds held) (.kept other same)

theorem decode_passes {env : DecodeEnv} (other : ¬ Removes host event process) (decoding : process.decoding = true)
    (alive : process.shutdown ≠ .exited) (moved : process.decode host env = .ok next) :
    next.created = process.created ∧ Passes host event process next := by
  have ends_created (process : Process) : process.decodeEnds.created = process.created := by
    rw [Process.decodeEnds]
    simp only []
    split <;> rfl
  rw [Process.decode] at moved
  split at moved
  next =>
    split at moved
    next => cases moved
    next =>
      cases moved
      exact ⟨ends_created process, decodeEnds_passes other decoding alive rfl rfl⟩
  next packet rest queue =>
    split at moved
    next => cases moved
    next result area turned =>
      have same : holding ((process.app.withArea area).withDecodeQueue rest) = holding process.app := by
        simpa [holding] using (decodeTurn_kept turned).2
      cases moved
      split
      next => exact ⟨ends_created _, decodeEnds_passes other decoding alive rfl same⟩
      next => exact ⟨rfl, .touched Iff.rfl (.kept other same)⟩

theorem process_passes (moved : Process.step host event process = .ok next) :
    next.created = process.created ∧ Passes host event process next := by
  simp only [Process.step] at moved
  split at moved
  next occurred running =>
    cases stepped : App.step host occurred process.app with
    | error => simp [stepped] at moved
    | ok app =>
      rw [stepped] at moved
      cases moved
      exact ⟨rfl, .touched Iff.rfl (app_touches stepped)⟩
  next running =>
    cases moved
    exact ⟨rfl, .touched (by simp [Dropped, running]) (.kept not_false rfl)⟩
  next returned =>
    cases moved
    exact ⟨rfl, .touched (by simp [Dropped, returned]) (.kept not_false rfl)⟩
  next disconnected =>
    have held : ¬ Dropped process := by simp [Dropped, disconnected]
    cases moved
    split
    next decoding => exact ⟨rfl, .touched (by simp [Dropped, decoding]) (.kept not_false rfl)⟩
    next ended =>
      refine ⟨rfl, .dropped held ⟨by simpa [Process.dropLast] using ended, .inl rfl⟩ not_false ?_⟩
      rw [dropLast_unlinks]
  iterate 3
    next here =>
      split at moved
      next decoding => exact decode_passes not_false decoding (by simp [here]) moved
      next => cases moved
  next released =>
    cases moved
    exact ⟨rfl, .touched (by simp [Dropped, released]) (.kept not_false rfl)⟩
  next => cases moved

/-! ### The file over a run -/

theorem unlink_unlink (file : Backing) : file.unlink.unlink = file.unlink := by
  simp only [Backing.unlink]
  split
  next => rfl
  next => simp

variable {file : Option Backing} {created : Disk}

theorem unlinked_twice : (file.map Backing.unlink).map Backing.unlink = file.map Backing.unlink := by
  rw [Option.map_map]
  exact congrArg (fun both => file.map both) (funext unlink_unlink)

/-- Nothing but the last reference has removed the file. -/
structure Untouched (file : Option Backing) (created : Disk) (process : Process) : Prop where
  created : process.created = created
  held : ¬ Dropped process → holding process.app = file
  dropped : Dropped process → holding process.app = file.map Backing.unlink

/-- The file is gone, if it was the client's own. -/
structure Gone (file : Option Backing) (created : Disk) (process : Process) : Prop where
  created : process.created = created
  unlinked : holding process.app = file.map Backing.unlink

theorem Untouched.step (untouched : Untouched file created process) (other : ¬ Removes host event process)
    (moved : Process.step host event process = .ok next) : Untouched file created next := by
  obtain ⟨same, passes⟩ := process_passes moved
  refine ⟨same.trans untouched.created, fun holds => ?_, fun gone => ?_⟩
  · cases passes with
    | touched dropped touches =>
      have here := untouched.held (fun gone => holds (dropped.mpr gone))
      cases touches with
      | kept _ kept => exact kept.trans here
      | unlinked removes => exact absurd removes other
    | dropped _ gone => exact absurd gone holds
  · cases passes with
    | touched dropped touches =>
      have here := untouched.dropped (dropped.mp gone)
      cases touches with
      | kept _ kept => exact kept.trans here
      | unlinked removes => exact absurd removes other
    | dropped held _ _ unlinked => rw [unlinked, untouched.held held]

theorem Gone.step (gone : Gone file created process) (moved : Process.step host event process = .ok next) :
    Gone file created next := by
  obtain ⟨same, passes⟩ := process_passes moved
  refine ⟨same.trans gone.created, ?_⟩
  cases passes with
  | touched _ touches =>
    cases touches with
    | kept _ kept => exact kept.trans gone.unlinked
    | unlinked _ unlinked => rw [unlinked, gone.unlinked, unlinked_twice]
  | dropped _ _ _ unlinked => rw [unlinked, gone.unlinked, unlinked_twice]

theorem Untouched.removes (untouched : Untouched file created process) (removes : Removes host event process)
    (moved : Process.step host event process = .ok next) : Gone file created next := by
  obtain ⟨same, passes⟩ := process_passes moved
  refine ⟨same.trans untouched.created, ?_⟩
  cases passes with
  | touched _ touches =>
    cases touches with
    | kept other => exact absurd removes other
    | unlinked _ unlinked =>
      rw [unlinked]
      by_cases dropped : Dropped process
      · rw [untouched.dropped dropped, unlinked_twice]
      · rw [untouched.held dropped]
  | dropped _ _ other => exact absurd removes other

theorem final_file {events : List ProcessEvent} {final : Process} (untouched : Untouched file created process)
    (ran : Process.run host events process = .ok final) (exited : final.shutdown = .exited) :
    (final.decoding = false ∨ ¬ Ungreeted host events process → Gone file created final) ∧
      (final.decoding = true → Ungreeted host events process →
        final.created = created ∧ holding final.app = file) := by
  have quiet (along : Ungreeted host events process) : Untouched file created final :=
    Machine.invariant_along (Process.step host) (Untouched file created)
      (fun event now next other untouched moved => untouched.step other moved) along untouched ran
  refine ⟨fun lets => ?_, fun decoding along => ?_⟩
  · by_cases along : Ungreeted host events process
    · have ended := lets.resolve_right (not_not_intro along)
      exact ⟨(quiet along).created, (quiet along).dropped ⟨ended, .inr exited⟩⟩
    · exact Machine.latched_of_not_along (Process.step host) (Untouched file created) (Gone file created)
        (fun event now next other untouched moved => untouched.step other moved)
        (fun event now next removes untouched moved => untouched.removes (not_not.mp removes) moved)
        (fun event now next gone moved => gone.step moved) along untouched ran
  · refine ⟨(quiet along).created, (quiet along).held ?_⟩
    rintro ⟨ended, -⟩
    cases decoding.symm.trans ended

def diskOf (created : Disk) (file : Option Backing) : Disk :=
  match file with
  | none => created
  | some file => (List.replicate file.removals file.path).foldl Disk.remove created

theorem disk_eq (process : Process) : process.disk = diskOf process.created (holding process.app) := by
  rw [Process.disk, holding]
  cases process.app.area with
  | none => rfl
  | some area => rfl

/-- What is expected of the backing file when the process has ended. -/
structure Tidied (files : List String) (area : Option MmapArea) (final : Process) : Prop where
  own : ∀ held, area = some held → held.delete = true → final.disk.files = files ∧ final.disk.removed = [held.path]
  failed : area = none → final.disk.files = files
  others : ∀ path ∈ files, path ∉ final.disk.removed

theorem start_untouched (host : Host) (setup : MmapSetup) (files : List String) (sslInsecure : Bool)
    (command : Option (String × Connection × Option AudioWorker)) :
    Untouched ((createArea host setup { files }).1.map backing) (createArea host setup { files }).2
      (.start host setup files sslInsecure command) := by
  cases command with
  | none => exact ⟨rfl, fun _ => rfl, nofun⟩
  | some session => exact ⟨rfl, fun _ => rfl, nofun⟩

theorem tidied_iff {files : List String} {made : Option MmapArea × Disk} (created : Made files made) {final : Process}
    {lets : Prop} (gone : lets → final.disk = diskOf made.2 ((made.1.map backing).map Backing.unlink))
    (kept : ¬ lets → final.disk = diskOf made.2 (made.1.map backing)) :
    Tidied files made.1 final ↔ ∀ area, made.1 = some area → area.delete = true → lets := by
  cases created with
  | nothing disk same others =>
    have disk : final.disk = disk := by
      by_cases here : lets
      · exact gone here
      · exact kept here
    have nothing (held : MmapArea) : none ≠ some held := (Option.some_ne_none held).symm
    refine ⟨fun _ held same => absurd same (nothing held), fun _ =>
      ⟨fun held same => absurd same (nothing held), fun _ => ?_, fun path there removed => ?_⟩⟩
    · rw [disk, same]
    · rw [disk] at removed
      exact others path removed there
  | existing area fresh =>
    have spared : area.delete = false := congrArg Backing.delete fresh
    have disk : final.disk = { files } := by
      by_cases here : lets
      · simpa [fresh, Backing.unlink, diskOf] using gone here
      · simpa [fresh, diskOf] using kept here
    have foreign (held : MmapArea) (same : some area = some held) (own : held.delete = true) : False := by
      cases same
      cases spared.symm.trans own
    refine ⟨fun _ held same own => (foreign held same own).elim, fun _ => ⟨fun held same own => (foreign held same own).elim,
      fun none => absurd none (Option.some_ne_none area), fun path there removed => ?_⟩⟩
    rw [disk] at removed
    cases removed
  | own area fresh new =>
    have own : area.delete = true := congrArg Backing.delete fresh
    constructor
    · intro tidied held same _
      cases same
      by_contra here
      have removed := (tidied.own area rfl own).2
      have still : final.disk = Disk.add { files } area.path := by simpa [fresh, diskOf] using kept here
      rw [still] at removed
      cases removed
    · intro all
      have disk : final.disk = { files, removed := [area.path] } := by
        rw [← remove_add new]
        simpa [fresh, Backing.unlink, diskOf] using gone (all area rfl own)
      refine ⟨fun held same _ => ?_, fun none => absurd none (Option.some_ne_none area), fun path there removed => ?_⟩
      · cases same
        exact ⟨congrArg Disk.files disk, congrArg Disk.removed disk⟩
      · simp only [disk, List.mem_singleton] at removed
        exact new (removed ▸ there)

/-- Every run that ends leaves the directory as it was, unless it exits before the
decode thread has ended and without a hello. -/
theorem files_tidied_iff (host : Host) (setup : MmapSetup) (files : List String) (sslInsecure : Bool)
    (command : Option (String × Connection × Option AudioWorker)) {events : List ProcessEvent} {final : Process}
    (ran : Process.run host events (.start host setup files sslInsecure command) = .ok final)
    (exited : final.shutdown = .exited) :
    Tidied files (createArea host setup { files }).1 final ↔
      ∀ area, (createArea host setup { files }).1 = some area → area.delete = true →
        final.decoding = false ∨ ¬ Ungreeted host events (.start host setup files sslInsecure command) := by
  obtain ⟨gone, kept⟩ := final_file (start_untouched host setup files sslInsecure command) ran exited
  refine tidied_iff (createArea_made host setup files) (fun lets => ?_) (fun holds => ?_)
  · have after := gone lets
    rw [disk_eq, after.created, after.unlinked]
  · obtain ⟨decoding, along⟩ := not_or.mp holds
    obtain ⟨same, file⟩ := kept (by simpa using decoding) (not_not.mp along)
    rw [disk_eq, same, file]

/-! ### Two runs -/

def tmp : MmapSetup := { joined := fun name => .ok ("/tmp/" ++ name), hex := "00" }

def closed : List ProcessEvent :=
  [.app (.resumed {} (.ok 1)), .app (.input 1 .closeRequested (fun _ => false) {}), .returns, .dropSenders]

def started : Process := .start Host.plain tmp ["/tmp/notes"] false none

theorem files_tidied_joined :
    ∃ final, Process.run Host.plain (closed ++ [.decode {}, .dropArea, .exit]) started = .ok final ∧
      Tidied ["/tmp/notes"] (createArea Host.plain tmp { files := ["/tmp/notes"] }).1 final := by
  have ends : ∃ final, Process.run Host.plain (closed ++ [.decode {}, .dropArea, .exit]) started = .ok final ∧
      final.shutdown = .exited ∧ final.decoding = false := ⟨_, rfl, rfl, rfl⟩
  obtain ⟨final, ran, exited, ended⟩ := ends
  exact ⟨final, ran, (files_tidied_iff Host.plain tmp ["/tmp/notes"] false none ran exited).mpr fun _ _ _ => .inl ended⟩

/-- The process exits before the decode thread has noticed that the channel is closed. -/
theorem exit_leaves_file :
    ∃ final, Process.run Host.plain (closed ++ [.dropArea, .exit]) started = .ok final ∧ final.shutdown = .exited ∧
      final.disk.files = ["/tmp/notes", "/tmp/xpra-00.mmap"] ∧
      ¬ Tidied ["/tmp/notes"] (createArea Host.plain tmp { files := ["/tmp/notes"] }).1 final := by
  refine ⟨_, rfl, rfl, rfl, fun tidied => ?_⟩
  have same := (tidied.own _ rfl rfl).1
  exact absurd same (by decide)

end Process

end Xpra.Proofs.MmapFiles
