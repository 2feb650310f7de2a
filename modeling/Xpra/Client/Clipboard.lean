import Xpra.Client.System

/-! The clipboard thread of `client/clipboard.rs`, and the client on a desktop whose
clipboard it shares with the local applications. -/

namespace Xpra.Client
open Xpra.Net

inductive ClipboardPhase where
  /-- In `recv_timeout`. -/
  | waiting
  /-- A text has been set; `try_recv` tells whether there are more. -/
  | draining
  | polling
  | reporting (text : String)
  deriving DecidableEq, Repr

structure ClipboardThread where
  last : String
  phase : ClipboardPhase := .waiting

/-- `apply_set`, with what the platform made of it and the text on the clipboard. -/
def ClipboardThread.applySet (thread : ClipboardThread) (succeeds : Bool) (contents : Option String) (text : String) :
    ClipboardThread × Option String :=
  if succeeds then ({ thread with last := text }, some text) else (thread, contents)

def ClipboardThread.poll (thread : ClipboardThread) : Option String → ClipboardThread
  | some text =>
    if text ≠ "" ∧ text ≠ thread.last then { last := text, phase := .reporting text }
    else { thread with phase := .waiting }
  | none => { thread with phase := .waiting }

structure Desktop where
  system : System
  /-- The clipboard thread, once it has read the clipboard for the first time. -/
  thread : Option ClipboardThread := none
  /-- What `get_contents` reads; nothing while something other than text is there. -/
  contents : Option String := none
  ours : Bool := false
  /-- The texts local applications have put there since the thread started. -/
  copies : List String := []
  polled : Bool := false

inductive DesktopEvent where
  | other (event : Event)
  /-- The thread seeds `last`. -/
  | start
  | set (succeeds : Bool)
  | drained
  | timeout
  | poll
  | report
  /-- A local application copies a text, or something else. -/
  | copy (text : Option String)

namespace Desktop

variable (desktop : Desktop)

def client : XpraClient := desktop.system.client

def queue : List String := desktop.client.clipboard.getD []

def start : Except Stop Desktop :=
  match desktop.thread, desktop.client.clipboard with
  | none, some _ => .ok { desktop with thread := some { last := desktop.contents.getD "" }, polled := true }
  | _, _ => .error .blocked

def set (succeeds : Bool) : Except Stop Desktop :=
  match desktop.thread, desktop.client.clipboard with
  | some thread, some (text :: rest) =>
    if thread.phase = .waiting ∨ thread.phase = .draining then
      let (thread, contents) := thread.applySet succeeds desktop.contents text
      .ok { desktop with
        system := { desktop.system with client := { desktop.client with clipboard := some rest } }
        thread := some { thread with phase := .draining }
        contents
        ours := succeeds || desktop.ours }
    else .error .blocked
  | _, _ => .error .blocked

def drained : Except Stop Desktop :=
  match desktop.thread, desktop.queue with
  | some thread, [] =>
    if thread.phase = .draining then .ok { desktop with thread := some { thread with phase := .waiting } }
    else .error .blocked
  | _, _ => .error .blocked

def timeout : Except Stop Desktop :=
  match desktop.thread, desktop.queue with
  | some thread, [] =>
    if thread.phase = .waiting then .ok { desktop with thread := some { thread with phase := .polling } }
    else .error .blocked
  | _, _ => .error .blocked

def poll : Except Stop Desktop :=
  match desktop.thread with
  | some thread =>
    if thread.phase = .polling then .ok { desktop with thread := some (thread.poll desktop.contents), polled := true }
    else .error .blocked
  | none => .error .blocked

def report : Except Stop Desktop :=
  match desktop.thread with
  | some { last, phase := .reporting text } =>
    .ok { desktop with
      system := desktop.system.posted (clientPacket "clipboard-changed" text)
      thread := some { last } }
  | _ => .error .blocked

def copy (text : Option String) : Desktop :=
  { desktop with
    contents := text
    ours := false
    copies := if desktop.thread.isSome then desktop.copies ++ text.toList else desktop.copies
    polled := false }

def step (host : Host) (event : DesktopEvent) (desktop : Desktop) : Except Stop Desktop :=
  match event with
  | .other (.post (.clipboardChanged _)) => .error .blocked
  | .other event => (fun system => { desktop with system }) <$> System.step host event desktop.system
  | .start => desktop.start
  | .set succeeds => desktop.set succeeds
  | .drained => desktop.drained
  | .timeout => desktop.timeout
  | .poll => desktop.poll
  | .report => desktop.report
  | .copy text => .ok (desktop.copy text)

def opening (stream : Sink) (username password : Option String) (area : Option MmapArea)
    (audioWorker : Option AudioWorker) (contents : Option String) : Desktop :=
  { system := { client := .new stream username password area audioWorker }, contents }

abbrev run (host : Host) (events : List DesktopEvent) (desktop : Desktop) : Except Stop Desktop :=
  Library.Machine.run (step host) events desktop

end Desktop
end Xpra.Client
