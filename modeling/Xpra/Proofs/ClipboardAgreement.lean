import Xpra.Library.Mirror
import Xpra.Proofs.ClipboardEcho

/-! The two memories of the clipboard. The UI thread keeps the text it would serve, the
clipboard thread the text it has last seen, and each tells the other of its changes.
They agree again once everything has arrived, unless a text of the server's and a
local copy cross on the way. -/

namespace Xpra.Proofs.ClipboardAgreement
open Xpra.Net Xpra.Client Library ClipboardSteps ClipboardEcho

variable {host : Host}

/-! ### The two copies -/

/-- The UI thread's text, and the reports on their way to it. -/
def uiSide (side : ClipboardSteps.Side) (thread : Option ClipboardThread) : Mirror.Side String :=
  { value := side.sync.lastClipboard, incoming := side.changes ++ reporting thread }

/-- The clipboard thread's text, which it reads off the clipboard when it starts, and
the texts on their way to it. -/
def threadSide (side : ClipboardSteps.Side) (thread : Option ClipboardThread) (contents : Option String) :
    Mirror.Side String where
  value := match thread with
    | some thread => thread.last
    | none => contents.getD ""
  incoming := side.sync.clipboard.getD []

/-- There has been a text to serve, or a first one is on its way. -/
def Begun (synced : Prop) (side : ClipboardSteps.Side) (thread : Option ClipboardThread) : Prop :=
  synced ∨ side.sync.lastClipboard ≠ "" ∨ (uiSide side thread).incoming ≠ []

/-- From the first text on the two copies end up the same. -/
structure Settling (synced : Prop) (side : ClipboardSteps.Side) (thread : Option ClipboardThread)
    (contents : Option String) (polled : Bool) : Prop where
  agree : Begun synced side thread → Mirror.Agree (uiSide side thread) (threadSide side thread contents)
  waiting : Begun synced side thread → thread = none → side.sync.clipboard.getD [] ≠ []
  seen : polled = true → ∀ running text, thread = some running → contents = some text → text ≠ "" → text = running.last
  reports : ∀ text ∈ (uiSide side thread).incoming, text ≠ ""
  opened : side.sync.clipboard = none → thread = none ∧ side.changes = []

theorem settling_fresh (contents : Option String) :
    Settling False { changes := [], offers := [], sync := {} } none contents false :=
  have fresh : ¬ Begun False { changes := [], offers := [], sync := {} } none := by simp [Begun, uiSide, reporting]
  ⟨fun begun => absurd begun fresh, fun begun => absurd begun fresh, nofun, by simp [uiSide, reporting],
    fun _ => ⟨rfl, rfl⟩⟩

namespace Settling

variable {synced : Prop} {side after : ClipboardSteps.Side} {thread : Option ClipboardThread}
  {contents received : Option String} {polled : Bool}

/-! ### The UI thread -/

theorem arrive {text : String} {rest : List String} (settling : Settling synced side thread contents polled)
    (head : side.changes = text :: rest) (offers : List String) :
    Settling synced { changes := rest, offers, sync := { side.sync with lastClipboard := text } } thread contents polled := by
  have incoming : (uiSide side thread).incoming = text :: (rest ++ reporting thread) := by simp [uiSide, head]
  have begun : Begun synced side thread := .inr (.inr (by simp [incoming]))
  refine ⟨fun _ => (settling.agree begun).receive incoming, fun _ => settling.waiting begun, settling.seen,
    fun other member => ?_, fun closed => ?_⟩
  · apply settling.reports other
    rw [incoming]
    exact List.mem_cons_of_mem text member
  · obtain ⟨-, none⟩ := settling.opened closed
    simp [head] at none

theorem move (settling : Settling synced side thread contents polled) (moved : SideMove received side after)
    (enabled : side.sync.clipboard.isSome → side.sync.clipboardEnabled = true)
    (uncrossed : ∀ text, received = some text → side.sync.clipboardEnabled = true → side.sync.clipboard.isSome ∧
      ∀ other, (uiSide side thread).incoming.getLast? = some other → other = text) :
    Settling synced after thread contents polled := by
  cases moved with
  | idle => exact settling
  | opened closed =>
    obtain ⟨unstarted, none⟩ := settling.opened closed
    refine ⟨fun begun => ?_, fun begun => ?_, settling.seen, settling.reports, nofun⟩
    all_goals exact absurd (by rw [closed]; rfl) (settling.waiting begun unstarted)
  | toggled => exact ⟨settling.agree, settling.waiting, settling.seen, settling.reports, settling.opened⟩
  | taken text brought enabled =>
    obtain ⟨opened, last⟩ := uncrossed text brought enabled
    obtain ⟨queue, queued⟩ := Option.isSome_iff_exists.mp opened
    refine ⟨fun _ => ?_, fun _ _ => by simp [queued], settling.seen, settling.reports, by simp [queued]⟩
    have agree : Mirror.Agree { uiSide side thread with value := text }
        { threadSide side thread contents with incoming := (threadSide side thread contents).incoming ++ [text] } :=
      Mirror.agree_of_change last
    simpa [uiSide, threadSide, queued] using agree
  | skipped text rest head known =>
    have opened : side.sync.clipboard.isSome := by
      by_contra closed
      have none := (settling.opened (by simpa using closed)).2
      simp [head] at none
    have reported : text ≠ "" := settling.reports text (by simp [uiSide, head])
    have same : text = side.sync.lastClipboard := by
      rcases known with disabled | empty | same
      · simp [enabled opened] at disabled
      · exact absurd empty reported
      · exact same
    have arrived := settling.arrive head side.offers
    rwa [same] at arrived
  | offered text rest head _ sent _ => exact settling.arrive head (side.offers ++ sent)

/-! ### The clipboard thread -/

theorem start (settling : Settling synced side none contents polled) (opened : side.sync.clipboard.isSome) :
    Settling synced side (some { last := contents.getD "" }) contents true := by
  refine ⟨settling.agree, nofun, ?_, settling.reports, fun closed => by simp [closed] at opened⟩
  intro _ running text same here _
  cases same
  simp [here]

theorem set {running : ClipboardThread} {text : String} {rest : List String}
    (settling : Settling synced side (some running) contents polled) (silent : reporting (some running) = [])
    (queued : side.sync.clipboard = some (text :: rest)) :
    Settling synced { side with sync := { side.sync with clipboard := some rest } }
      (some { last := text, phase := .draining }) (some text) polled := by
  have same : uiSide { side with sync := { side.sync with clipboard := some rest } }
      (some { last := text, phase := .draining }) = uiSide side (some running) := by
    rw [uiSide, uiSide, silent]
    rfl
  have incoming : (threadSide side (some running) contents).incoming = text :: rest := by simp [threadSide, queued]
  refine ⟨fun begun => ?_, nofun, ?_, ?_, nofun⟩
  · rw [Begun, same] at begun
    rw [same]
    exact ((settling.agree begun).symm.receive incoming).symm
  · intro _ turned other same here _
    cases same
    cases here
    rfl
  · rw [same]
    exact settling.reports

/-- The thread goes on in its loop, and what it is about to report is on its way
already. -/
theorem turn {running : ClipboardThread} {phase : ClipboardPhase} {changes : List String}
    (settling : Settling synced side (some running) contents polled)
    (same : uiSide { side with changes } (some { running with phase }) = uiSide side (some running)) :
    Settling synced { side with changes } (some { running with phase }) contents polled := by
  refine ⟨fun begun => ?_, nofun, ?_, ?_, fun closed => nomatch (settling.opened closed).1⟩
  · rw [Begun, same] at begun
    rw [same]
    exact settling.agree begun
  · intro polled turned text started here filled
    cases started
    exact settling.seen polled running text rfl here filled
  · rw [same]
    exact settling.reports

theorem read {running : ClipboardThread} {text : String} (settling : Settling synced side (some running) contents polled)
    (silent : reporting (some running) = []) (here : contents = some text) (filled : text ≠ "")
    (uncrossed : ∀ other, (side.sync.clipboard.getD []).getLast? = some other → other = text) :
    Settling synced side (some { last := text, phase := .reporting text }) contents true := by
  have reports := settling.reports
  rw [uiSide, silent] at reports
  refine ⟨fun _ => ?_, nofun, ?_, ?_, fun closed => nomatch (settling.opened closed).1⟩
  · have agree : Mirror.Agree { threadSide side (some running) contents with value := text }
        { uiSide side (some running) with incoming := (uiSide side (some running)).incoming ++ [text] } :=
      Mirror.agree_of_change uncrossed
    rw [uiSide, silent] at agree
    have agree := agree.symm
    simpa [uiSide, threadSide, reporting] using agree
  · intro _ turned other same found _
    cases same
    rw [here] at found
    cases found
    rfl
  · intro other member
    rcases List.mem_append.mp member with earlier | last
    · exact reports other (by simpa using earlier)
    · cases List.mem_singleton.mp last
      exact filled

theorem known {running : ClipboardThread} {phase : ClipboardPhase}
    (settling : Settling synced side (some running) contents polled)
    (found : ∀ text, contents = some text → text = "" ∨ text = running.last)
    (same : uiSide side (some { running with phase }) = uiSide side (some running)) :
    Settling synced side (some { running with phase }) contents true := by
  obtain ⟨agree, waiting, -, reports, opened⟩ := settling.turn same
  refine ⟨agree, waiting, ?_, reports, opened⟩
  intro _ turned text started here filled
  cases started
  exact (found text here).resolve_left filled

/-- A thread that has not started reads the copy when it does; the texts that wait
for it decide all the same. -/
theorem copy (settling : Settling synced side thread contents polled) (text : Option String) :
    Settling synced side thread text false := by
  refine ⟨fun begun => ?_, settling.waiting, nofun, settling.reports, settling.opened⟩
  have agree := settling.agree begun
  cases thread with
  | some running => exact agree
  | none =>
    obtain ⟨other, last⟩ : ∃ other, (side.sync.clipboard.getD []).getLast? = some other := by
      rw [← Option.isSome_iff_exists, List.getLast?_isSome]
      exact settling.waiting begun rfl
    have settled (contents : Option String) : (threadSide side none contents).settled = other := by
      simp [Mirror.Side.settled, threadSide, last]
    rw [Mirror.Agree, settled] at agree
    rwa [Mirror.Agree, settled]

end Settling

/-! ### Steps -/

variable {desktop next : Desktop}

/-- Syncing stays enabled once the clipboard thread is there, and a text that is set is
on the clipboard. -/
def Undisturbed (event : DesktopEvent) (desktop : Desktop) : Prop :=
  (desktop.client.clipboard.isSome → desktop.client.clipboardEnabled = true) ∧ ∀ succeeds, event = .set succeeds → succeeds = true

/-- No text sets off while another one comes the other way, and none is taken up before
the clipboard thread is there. -/
def Uncrossed (host : Host) (event : DesktopEvent) (desktop : Desktop) : Prop :=
  match event with
  | .other event => ∀ text ∈ takenText host event desktop.system, desktop.client.clipboardEnabled = true →
      desktop.client.clipboard.isSome ∧
        ∀ other ∈ (changes host desktop.client.proxy ++ reporting desktop.thread).getLast?, other = text
  | .poll => ∀ thread ∈ desktop.thread, ∀ text ∈ desktop.contents, text ≠ thread.last →
      ∀ other ∈ desktop.queue.getLast?, other = text
  | _ => True

instance : DecidablePred (∀ succeeds, · = DesktopEvent.set succeeds → succeeds = true)
  | .set true => .isTrue (by simp)
  | .set false => .isFalse (by simp)
  | .other _ | .start | .drained | .timeout | .poll | .report | .copy _ => .isTrue nofun

instance (event : DesktopEvent) (desktop : Desktop) : Decidable (Undisturbed event desktop) :=
  inferInstanceAs (Decidable (_ ∧ _))

instance (event : DesktopEvent) (desktop : Desktop) : Decidable (Uncrossed host event desktop) :=
  match event with
  | .other _ => inferInstanceAs (Decidable (∀ text ∈ takenText _ _ _, _))
  | .poll => inferInstanceAs (Decidable (∀ thread ∈ desktop.thread, _))
  | .start | .set _ | .drained | .timeout | .report | .copy _ => .isTrue trivial

def Settles (synced : Prop) (host : Host) (desktop : Desktop) : Prop :=
  Settling synced (side host desktop.client) desktop.thread desktop.contents desktop.polled

theorem Settles.start {synced : Prop} (settles : Settles synced host desktop) (moved : desktop.start = .ok next) :
    Settles synced host next := by
  rw [Desktop.start] at moved
  split at moved
  next _ unstarted opened =>
    cases moved
    rw [Settles, unstarted] at settles
    have opened : desktop.client.clipboard.isSome = true := by simp [opened]
    exact Settling.start settles opened
  next => cases moved

theorem Settles.set {synced : Prop} (settles : Settles synced host desktop) (moved : desktop.set true = .ok next) :
    Settles synced host next := by
  rw [Desktop.set] at moved
  split at moved
  next thread text rest started queued =>
    split at moved
    next idle =>
      cases moved
      rw [Settles, started] at settles
      have silent : reporting (some thread) = [] := by
        rcases idle with waiting | draining
        · exact reporting_of_phase waiting fun _ => rfl
        · exact reporting_of_phase draining fun _ => rfl
      exact Settling.set settles silent queued
    next => cases moved
  next => cases moved

theorem silent_uiSide {running : ClipboardThread} {phase : ClipboardPhase} (side : ClipboardSteps.Side)
    (before : reporting (some running) = []) (after : reporting (some { running with phase }) = []) :
    uiSide side (some { running with phase }) = uiSide side (some running) := by
  rw [uiSide, uiSide, before, after]

theorem Settles.waits {synced : Prop} (settles : Settles synced host desktop) (waits : Waits desktop next) :
    Settles synced host next := by
  obtain ⟨thread, phase, started, before, after, rfl⟩ := waits
  rw [Settles, started] at settles
  exact Settling.turn settles (silent_uiSide _ before after)

theorem Settles.poll {synced : Prop} (settles : Settles synced host desktop) (uncrossed : Uncrossed host .poll desktop)
    (moved : desktop.poll = .ok next) : Settles synced host next := by
  obtain ⟨thread, started, silent, rfl⟩ := poll_reads moved
  rw [Settles, started] at settles
  rcases poll_cases thread desktop.contents with ⟨found, known⟩ | ⟨text, here, filled, new, reported⟩
  · rw [known]
    exact Settling.known settles found (silent_uiSide _ silent rfl)
  · rw [reported]
    exact Settling.read settles silent here filled (uncrossed thread started text here new)

theorem Settles.report {synced : Prop} (settles : Settles synced host desktop) (moved : desktop.report = .ok next) :
    Settles synced host next := by
  rw [Desktop.report] at moved
  split at moved
  next last text started =>
    cases moved
    rw [Settles, started] at settles
    rw [Settles, Desktop.client, reported_side]
    have same : uiSide { side host desktop.client with changes := changes host desktop.client.proxy ++ [text] }
        (some { last }) = uiSide (side host desktop.client) (some { last, phase := .reporting text }) := by
      simp [uiSide, reporting, side]
    exact Settling.turn settles same
  next => cases moved

theorem step_settles {synced : Prop} {event : DesktopEvent} (undisturbed : Undisturbed event desktop)
    (genuine : GenuineStep host event desktop) (uncrossed : Uncrossed host event desktop) (settles : Settles synced host desktop)
    (moved : Desktop.step host event desktop = .ok next) : Settles synced host next := by
  cases event with
  | other event =>
    obtain ⟨system, rfl, move⟩ := other_move (genuine event rfl) moved
    exact Settling.move settles move undisturbed.1 uncrossed
  | start => exact settles.start moved
  | set succeeds =>
    cases succeeds with
    | true => exact settles.set moved
    | false => exact nomatch undisturbed.2 false rfl
  | drained => exact settles.waits (drained_waits moved)
  | timeout => exact settles.waits (timeout_waits moved)
  | poll => exact settles.poll uncrossed moved
  | report => exact settles.report moved
  | copy text =>
    cases moved
    exact Settling.copy settles text

/-! ### Runs -/

theorem Settles.begun {desktop : Desktop} (settles : Settles False host desktop)
    (served : desktop.client.lastClipboard ≠ "") : Settles True host desktop := by
  have begun : Begun False (side host desktop.client) desktop.thread := .inr (.inl served)
  exact ⟨fun _ => settles.agree begun, fun _ => settles.waiting begun, settles.seen, settles.reports, settles.opened⟩

/-- Nothing is on its way in either direction, and the clipboard thread has polled, and
reported what it found, since the last local copy. -/
structure Quiet (host : Host) (desktop : Desktop) : Prop where
  changes : changes host desktop.client.proxy = []
  reported : reporting desktop.thread = []
  queue : desktop.queue = []
  polled : desktop.polled = true

instance (desktop : Desktop) : Decidable (Quiet host desktop) :=
  decidable_of_iff (changes host desktop.client.proxy = [] ∧ reporting desktop.thread = [] ∧ desktop.queue = [] ∧
      desktop.polled = true)
    ⟨fun ⟨changes, reported, queue, polled⟩ => ⟨changes, reported, queue, polled⟩,
      fun quiet => ⟨quiet.changes, quiet.reported, quiet.queue, quiet.polled⟩⟩

theorem Settles.quiet {desktop : Desktop} (settles : Settles True host desktop) (quiet : Quiet host desktop)
    {text : String} (here : desktop.contents = some text) (filled : text ≠ "") : desktop.client.lastClipboard = text := by
  have begun : Begun True (side host desktop.client) desktop.thread := .inl trivial
  cases started : desktop.thread with
  | none => exact absurd quiet.queue (settles.waiting begun started)
  | some running =>
    have agree := settles.agree begun
    have arrived : (uiSide (side host desktop.client) desktop.thread).incoming = [] := by
      simp [uiSide, side, quiet.changes, quiet.reported]
    have last := agree.quiet arrived quiet.queue
    simp only [uiSide, threadSide, started] at last
    exact last.trans (settles.seen quiet.polled running text started here filled).symm

/-- Where no text crosses another one, the text the client would serve is the one on
the clipboard, whenever everything has arrived and something has been synced before. -/
theorem served_text_is_clipboard_uncrossed (host : Host) (stream : Sink) (username password : Option String)
    (area : Option MmapArea) (audioWorker : Option AudioWorker) (contents : Option String)
    (earlier later : List DesktopEvent) (synced final : Desktop)
    (undisturbed : Machine.Along (Desktop.step host) Undisturbed (earlier ++ later)
      (.opening stream username password area audioWorker contents))
    (genuine : Machine.Along (Desktop.step host) (GenuineStep host) (earlier ++ later)
      (.opening stream username password area audioWorker contents))
    (uncrossed : Machine.Along (Desktop.step host) (Uncrossed host) (earlier ++ later)
      (.opening stream username password area audioWorker contents))
    (begun : Desktop.run host earlier (.opening stream username password area audioWorker contents) = .ok synced)
    (served : synced.client.lastClipboard ≠ "") (ran : Desktop.run host later synced = .ok final)
    (quiet : Quiet host final) (text : String) (here : final.contents = some text) (filled : text ≠ "") :
    final.client.lastClipboard = text := by
  have fine := (Machine.along_and (Desktop.step host)).mpr
    ⟨undisturbed, (Machine.along_and (Desktop.step host)).mpr ⟨genuine, uncrossed⟩⟩
  obtain ⟨first, second⟩ := (Machine.along_append (Desktop.step host)).mp fine
  have start : Settles False host (.opening stream username password area audioWorker contents) := settling_fresh contents
  have keeps (holds : Prop) (event : DesktopEvent) (before after : Desktop)
      (fine : Undisturbed event before ∧ GenuineStep host event before ∧ Uncrossed host event before)
      (settles : Settles holds host before) (moved : Desktop.step host event before = .ok after) :
      Settles holds host after :=
    step_settles fine.1 fine.2.1 fine.2.2 settles moved
  have middle := Machine.invariant_along (Desktop.step host) (Settles False host) (keeps False) first start begun
  have settles := Machine.invariant_along (Desktop.step host) (Settles True host) (keeps True) (second synced begun)
    (middle.begun served) ran
  exact settles.quiet quiet here filled

theorem served_text_is_clipboard_uncrossed_copied :
    ∃ final, Desktop.run clipboardHost (copied "b" ++ [.report, .other (.deliver {})]) fresh = .ok final ∧
      final.contents = some "b" ∧ final.client.lastClipboard = "b" := by
  have undisturbed : Machine.Along (Desktop.step clipboardHost) Undisturbed
      ((copied "b" ++ [.report, .other (.deliver {})]) ++ []) fresh := by decide +kernel
  have uncrossed : Machine.Along (Desktop.step clipboardHost) (Uncrossed clipboardHost)
      ((copied "b" ++ [.report, .other (.deliver {})]) ++ []) fresh := by decide +kernel
  exact ⟨_, rfl, rfl, served_text_is_clipboard_uncrossed clipboardHost { outcome := fun _ => .written } none none none none
    none _ [] _ _ undisturbed (.of_forall _ _ _ genuine_clipboardHost) uncrossed rfl (by decide) rfl
    ⟨rfl, rfl, rfl, rfl⟩ "b" rfl (by decide)⟩

def crossing : List DesktopEvent :=
  copied "b" ++ [token [97], .report, .other (.deliver {}), .set true, .drained, .other (.deliver {}), .timeout, .poll]

/-- A token with the server's text arrives before the report of the local copy does:
each of the two takes over the text of the other. -/
theorem crossed_texts_stay_apart :
    ∃ final, Machine.Along (Desktop.step clipboardHost) Undisturbed crossing fresh ∧
      Desktop.run clipboardHost crossing fresh = .ok final ∧ Quiet clipboardHost final ∧
      final.contents = some "a" ∧ final.client.lastClipboard = "b" := by
  have undisturbed : Machine.Along (Desktop.step clipboardHost) Undisturbed crossing fresh := by decide +kernel
  have shown : ∃ final ∈ (Desktop.run clipboardHost crossing fresh).toOption, Quiet clipboardHost final ∧
      final.contents = some "a" ∧ final.client.lastClipboard = "b" := by decide +kernel
  obtain ⟨final, ran, apart⟩ := shown
  exact ⟨final, undisturbed, ran_of_toOption ran, apart⟩

end Xpra.Proofs.ClipboardAgreement
