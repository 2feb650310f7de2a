import Xpra.Proofs.ClipboardSteps

/-! No text goes back and forth: what the client offers to the server has been put on
the clipboard by a local application, once for every offer. A text that the client
itself has put there is the clipboard thread's last one, so no poll reports it. -/

namespace Xpra.Proofs.ClipboardEcho
open Xpra.Net Xpra.Client Library ClipboardSteps

variable {host : Host} {desktop next : Desktop}

def reporting : Option ClipboardThread → List String
  | some { phase := .reporting text, .. } => [text]
  | _ => []

/-- The offers that have been made, and those to come from the reports under way. -/
def pending (host : Host) (desktop : Desktop) : List String :=
  (side host desktop.client).offers ++ (side host desktop.client).changes ++ reporting desktop.thread

structure Echoless (host : Host) (desktop : Desktop) : Prop where
  copied : (pending host desktop).Sublist desktop.copies
  /-- A text the next poll would report is one more copy of a local application. -/
  fresh : ∀ thread text, desktop.thread = some thread → desktop.contents = some text → text ≠ thread.last →
    desktop.ours = false ∧ (pending host desktop ++ [text]).Sublist desktop.copies

theorem SideMove.sublist {received : Option String} {before after : Side} (move : SideMove received before after) (tail : List String) :
    (after.offers ++ after.changes ++ tail).Sublist (before.offers ++ before.changes ++ tail) := by
  cases move with
  | idle | opened | toggled | taken => exact .refl _
  | skipped text rest head =>
    rw [head]
    exact ((List.sublist_cons_self text rest).append_left before.offers).append_right tail
  | offered text rest head enabled sent once =>
    rw [head, List.append_assoc before.offers sent rest]
    refine (List.Sublist.append_left ?_ before.offers).append_right tail
    rcases once with rfl | rfl
    · exact List.sublist_cons_self text rest
    · exact .refl _

theorem Echoless.other {system : System} {received : Option String} (echoless : Echoless host desktop)
    (move : SideMove received (side host desktop.client) (side host system.client)) :
    Echoless host { desktop with system } := by
  refine ⟨(SideMove.sublist move _).trans echoless.copied, fun thread text started here new => ?_⟩
  obtain ⟨local', copied⟩ := echoless.fresh thread text started here new
  exact ⟨local', ((SideMove.sublist move _).append_right [text]).trans copied⟩

theorem Echoless.start (echoless : Echoless host desktop) (moved : desktop.start = .ok next) : Echoless host next := by
  rw [Desktop.start] at moved
  split at moved
  next unstarted _ =>
    cases moved
    refine ⟨?_, fun thread text started here new => ?_⟩
    · have copied := echoless.copied
      rwa [pending, unstarted] at copied
    · cases started
      have here : desktop.contents = some text := here
      simp [here] at new
  next => cases moved

theorem Echoless.set {succeeds : Bool} (echoless : Echoless host desktop) (moved : desktop.set succeeds = .ok next) :
    Echoless host next := by
  rw [Desktop.set] at moved
  split at moved
  next thread text rest started queued =>
    split at moved
    next idle =>
      have none : reporting desktop.thread = [] := by
        rw [started]
        rcases thread with ⟨last, phase⟩
        rcases idle with rfl | rfl <;> rfl
      have copied := echoless.copied
      rw [pending, none] at copied
      cases moved
      cases succeeds with
      | true =>
        refine ⟨copied, fun thread other started here new => ?_⟩
        cases started
        cases here
        exact absurd rfl new
      | false =>
        refine ⟨copied, fun after other same here new => ?_⟩
        cases same
        have fresh := echoless.fresh thread other started here new
        rwa [pending, none] at fresh
    next => cases moved
  next => cases moved

theorem Echoless.turn {thread : ClipboardThread} {phase : ClipboardPhase} (echoless : Echoless host desktop)
    (started : desktop.thread = some thread) (before : reporting (some thread) = [])
    (after : reporting (some { thread with phase }) = []) (polled : Bool) :
    Echoless host { desktop with thread := some { thread with phase }, polled } := by
  have copied := echoless.copied
  rw [pending, started, before] at copied
  refine ⟨by rwa [pending, after], fun turned text same here new => ?_⟩
  cases same
  have fresh := echoless.fresh thread text started here new
  rw [pending, started, before] at fresh
  rwa [pending, after]

theorem reporting_of_phase {thread : ClipboardThread} {phase : ClipboardPhase} (at_ : thread.phase = phase)
    (silent : ∀ last, reporting (some { last, phase }) = []) : reporting (some thread) = [] := by
  cases at_
  exact silent thread.last

/-- The thread goes from one phase to another, and reports in neither. -/
def Waits (desktop next : Desktop) : Prop :=
  ∃ thread phase, desktop.thread = some thread ∧ reporting (some thread) = [] ∧ reporting (some { thread with phase }) = [] ∧
    next = { desktop with thread := some { thread with phase } }

theorem drained_waits (moved : desktop.drained = .ok next) : Waits desktop next := by
  rw [Desktop.drained] at moved
  split at moved
  next thread started _ =>
    split at moved
    next draining =>
      cases moved
      exact ⟨thread, .waiting, started, reporting_of_phase draining fun _ => rfl, rfl, rfl⟩
    next => cases moved
  next => cases moved

theorem timeout_waits (moved : desktop.timeout = .ok next) : Waits desktop next := by
  rw [Desktop.timeout] at moved
  split at moved
  next thread started _ =>
    split at moved
    next waiting =>
      cases moved
      exact ⟨thread, .polling, started, reporting_of_phase waiting fun _ => rfl, rfl, rfl⟩
    next => cases moved
  next => cases moved

theorem poll_reads (moved : desktop.poll = .ok next) :
    ∃ thread, desktop.thread = some thread ∧ reporting (some thread) = [] ∧
      next = { desktop with thread := some (thread.poll desktop.contents), polled := true } := by
  rw [Desktop.poll] at moved
  split at moved
  next thread started =>
    split at moved
    next polling =>
      cases moved
      exact ⟨thread, started, reporting_of_phase polling fun _ => rfl, rfl⟩
    next => cases moved
  next => cases moved

theorem Echoless.waits (echoless : Echoless host desktop) (waits : Waits desktop next) : Echoless host next := by
  obtain ⟨thread, phase, started, before, after, rfl⟩ := waits
  exact echoless.turn started before after desktop.polled

theorem Echoless.poll (echoless : Echoless host desktop) (moved : desktop.poll = .ok next) : Echoless host next := by
  obtain ⟨thread, started, silent, rfl⟩ := poll_reads moved
  rcases poll_cases thread desktop.contents with ⟨-, known⟩ | ⟨text, contents, -, new, reported⟩
  · rw [known]
    exact echoless.turn started silent rfl true
  · -- the report is the one more copy
    obtain ⟨-, copied⟩ := echoless.fresh thread text started contents new
    rw [pending, started, silent, List.append_nil] at copied
    rw [reported]
    refine ⟨copied, fun turned other same here another => ?_⟩
    cases same
    have here : desktop.contents = some other := here
    rw [contents] at here
    cases here
    exact absurd rfl another

theorem Echoless.report (echoless : Echoless host desktop) (moved : desktop.report = .ok next) : Echoless host next := by
  rw [Desktop.report] at moved
  split at moved
  next last text started =>
    cases moved
    have posted : pending host { desktop with
        system := desktop.system.posted (clientPacket "clipboard-changed" text)
        thread := some { last } } = pending host desktop := by
      rw [pending, pending, Desktop.client, reported_side, started]
      simp [side, reporting, Desktop.client]
    refine ⟨?_, fun turned other same here new => ?_⟩
    · rw [posted]
      exact echoless.copied
    · cases same
      rw [posted]
      exact echoless.fresh _ other started here new
  next => cases moved

theorem Echoless.copy (echoless : Echoless host desktop) (text : Option String) : Echoless host (desktop.copy text) := by
  have kept : (pending host desktop).Sublist (desktop.copy text).copies := by
    apply echoless.copied.trans
    rw [Desktop.copy]
    split
    · exact List.sublist_append_left _ _
    · exact .refl _
  refine ⟨kept, fun thread other started here _ => ⟨rfl, ?_⟩⟩
  have started : desktop.thread = some thread := started
  have running : desktop.thread.isSome = true := by simp [started]
  cases here
  simp only [Desktop.copy, running, if_true, Option.toList_some]
  exact echoless.copied.append_right [other]

theorem step_echoless {event : DesktopEvent} (genuine : GenuineStep host event desktop) (echoless : Echoless host desktop)
    (moved : Desktop.step host event desktop = .ok next) : Echoless host next := by
  cases event with
  | other event =>
    obtain ⟨system, rfl, move⟩ := other_move (genuine event rfl) moved
    exact echoless.other move
  | start => exact echoless.start moved
  | set succeeds => exact echoless.set moved
  | drained => exact echoless.waits (drained_waits moved)
  | timeout => exact echoless.waits (timeout_waits moved)
  | poll => exact echoless.poll moved
  | report => exact echoless.report moved
  | copy text =>
    cases moved
    exact echoless.copy text

theorem echoless_opening (stream : Sink) (username password : Option String) (area : Option MmapArea)
    (audioWorker : Option AudioWorker) (contents : Option String) :
    Echoless host (.opening stream username password area audioWorker contents) :=
  ⟨List.nil_sublist _, nofun⟩

/-- A text that a poll reports has just been found on the clipboard, where the client
has not put it. -/
def ReportsCopies (host : Host) (event : DesktopEvent) (desktop : Desktop) : Prop :=
  ∀ next last text, event = .poll → Desktop.step host event desktop = .ok next →
    next.thread = some { last, phase := .reporting text } → desktop.contents = some text ∧ desktop.ours = false

theorem reportsCopies_of_echoless {event : DesktopEvent} (echoless : Echoless host desktop) :
    ReportsCopies host event desktop := by
  rintro next last text rfl moved reports
  obtain ⟨thread, started, -, rfl⟩ := poll_reads moved
  rcases poll_cases thread desktop.contents with ⟨-, known⟩ | ⟨found, contents, -, new, reported⟩
  · simp [known] at reports
  · simp only [reported, Option.some.injEq, ClipboardThread.mk.injEq, ClipboardPhase.reporting.injEq] at reports
    obtain ⟨-, rfl⟩ := reports
    exact ⟨contents, (echoless.fresh thread found started contents new).1⟩

/-- Whatever crosses on the way between the two threads: the texts offered to the
server are, in their order, texts that local applications have copied since the
clipboard thread started, and no poll reports a text that the client itself has put on
the clipboard. -/
theorem offers_are_local_copies (host : Host) (stream : Sink) (username password : Option String)
    (area : Option MmapArea) (audioWorker : Option AudioWorker) (contents : Option String)
    (events : List DesktopEvent) (final : Desktop)
    (genuine : Machine.Along (Desktop.step host) (GenuineStep host) events
      (.opening stream username password area audioWorker contents))
    (ran : Desktop.run host events (.opening stream username password area audioWorker contents) = .ok final) :
    (offers final.client.toLink).Sublist final.copies ∧
      Machine.Along (Desktop.step host) (ReportsCopies host) events
        (.opening stream username password area audioWorker contents) := by
  have start : Echoless host (.opening stream username password area audioWorker contents) :=
    echoless_opening stream username password area audioWorker contents
  refine ⟨?_, ?_⟩
  · have echoless := Machine.invariant_along (Desktop.step host) (Echoless host)
      (fun _ _ _ genuine echoless moved => step_echoless genuine echoless moved) genuine start ran
    refine List.Sublist.trans ?_ echoless.copied
    rw [pending, List.append_assoc]
    exact List.sublist_append_left _ _
  · exact Machine.Along.of_invariant_along (Desktop.step host) (Echoless host)
      (fun _ _ _ genuine echoless moved => step_echoless genuine echoless moved)
      (fun _ _ _ echoless => reportsCopies_of_echoless echoless) genuine start

theorem offers_are_local_copies_once :
    ∃ final, Desktop.run clipboardHost (copied "b" ++ [.report, .other (.deliver {})]) fresh = .ok final ∧
      offers final.client.toLink = ["b"] ∧ (offers final.client.toLink).Sublist final.copies := by
  have genuine : Machine.Along (Desktop.step clipboardHost) (GenuineStep clipboardHost)
      (copied "b" ++ [.report, .other (.deliver {})]) fresh :=
    .of_forall _ _ _ genuine_clipboardHost
  exact ⟨_, rfl, rfl, (offers_are_local_copies clipboardHost { outcome := fun _ => .written } none none none none none
    _ _ genuine rfl).1⟩

/-- The server sends a text, which is put on the clipboard for it, and asks for the
client's. -/
def askedBack : List DesktopEvent := started ++ [token [97], .other (.deliver {}), .set true, request, .other (.deliver {})]

def returnedText : Json → Option String
  | .array [.string "clipboard-contents", _, _, _, _, _, .string text] => some text
  | _ => none

/-- It gets its own text back, though no local application has copied anything. -/
theorem request_returns_the_servers_text :
    Machine.Along (Desktop.step clipboardHost) (GenuineStep clipboardHost) askedBack fresh ∧
      ∃ final, Desktop.run clipboardHost askedBack fresh = .ok final ∧ final.contents = some "a" ∧ final.ours = true ∧
        final.copies = [] ∧ final.client.sent.filterMap returnedText = ["a"] := by
  refine ⟨.of_forall _ _ _ genuine_clipboardHost, ?_⟩
  have shown : ∃ final ∈ (Desktop.run clipboardHost askedBack fresh).toOption, final.contents = some "a" ∧ final.ours = true ∧
      final.copies = [] ∧ final.client.sent.filterMap returnedText = ["a"] := by decide +kernel
  obtain ⟨final, ran, returned⟩ := shown
  exact ⟨final, ran_of_toOption ran, returned⟩

end Xpra.Proofs.ClipboardEcho
