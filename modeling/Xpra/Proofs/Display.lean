import Xpra.Proofs.Handlers
import Xpra.Proofs.Steps

/-! What the handlers leave alone of the display. Apart from those of the packets about
windows, draws and the cursor, no handler of a packet touches it. -/

namespace Xpra.Proofs.Display
open Xpra.Net Xpra.Client Library Handlers Steps

variable {host : Host} {env : Env} {client next : XpraClient} {packet : Packet}

/-! ### Sound -/

theorem reportAudioLatency_display (totalMs : UInt32) : (reportAudioLatency host client totalMs).toDisplay = client.toDisplay := by
  rw [reportAudioLatency]
  split
  next => rfl
  next =>
    dsimp only
    split <;> rfl

theorem disableAudio_display : (disableAudio host client).toDisplay = client.toDisplay := by
  rw [disableAudio]
  split <;> rfl

theorem enqueueAudio_display (command : Command) (critical : Bool) :
    (enqueueAudio host client command critical).2.toDisplay = client.toDisplay := by
  rw [enqueueAudio]
  split
  next => exact disableAudio_display
  next worker _ =>
    dsimp only
    split
    next => rfl
    next => exact disableAudio_display
    next =>
      split
      next => exact disableAudio_display
      next => rfl

theorem enqueued_display {command : Command} {critical went : Bool} (queued : enqueueAudio host client command critical = (went, next)) :
    next.toDisplay = client.toDisplay := by
  have same : (enqueueAudio host client command critical).2.toDisplay = client.toDisplay := enqueueAudio_display command critical
  rwa [queued] at same

theorem stopAudioStream_display (tellServer : Bool) : (stopAudioStream host client tellServer).toDisplay = client.toDisplay := by
  rw [stopAudioStream]
  dsimp only
  split
  next queued => exact enqueued_display queued
  next after queued =>
    refine reportAudioLatency_display 0 |>.trans ?_
    rw [← enqueued_display queued]
    split <;> rfl

theorem endAudioStream_display : (endAudioStream host client).toDisplay = client.toDisplay := by
  rw [endAudioStream]
  split
  next queued => exact enqueued_display queued
  next queued =>
    have same := enqueued_display queued
    exact (reportAudioLatency_display 0).trans same

theorem processOpusBuffer_display (data : Bytes) (timestampNs durationNs : Option Int64) :
    (processOpusBuffer host env client data timestampNs durationNs).2.toDisplay = client.toDisplay := by
  rw [processOpusBuffer]
  dsimp only
  split
  next =>
    split
    next => exact stopAudioStream_display true
    next =>
      split
      next queued => exact enqueued_display queued
      next queued =>
        have same := enqueued_display queued
        exact same
  next =>
    split
    next => rfl
    next =>
      split
      next => rfl
      next => exact enqueueAudio_display _ _

theorem buffered_display {data : Bytes} {timestampNs durationNs : Option Int64} {went : Bool}
    (taken : processOpusBuffer host env client data timestampNs durationNs = (went, next)) : next.toDisplay = client.toDisplay := by
  have same : (processOpusBuffer host env client data timestampNs durationNs).2.toDisplay = client.toDisplay :=
    processOpusBuffer_display data timestampNs durationNs
  rwa [taken] at same

theorem processOpusHeaders_display {headers : List Bytes} {went : Bool} (taken : processOpusHeaders host env headers client = (went, next)) :
    next.toDisplay = client.toDisplay := by
  induction headers generalizing client with
  | nil =>
    cases taken
    rfl
  | cons header headers ih =>
    rw [processOpusHeaders] at taken
    split at taken
    next here =>
      cases taken
      exact buffered_display here
    next here => exact (ih taken).trans (buffered_display here)

theorem beginAudioStream_display {incoming : IncomingAudio} {went : Bool} (began : beginAudioStream host client incoming = (went, next)) :
    next.toDisplay = client.toDisplay := by
  rw [beginAudioStream] at began
  split at began
  next =>
    cases began
    exact stopAudioStream_display true
  next =>
    split at began
    next stopped queued =>
      cases began
      have same := enqueued_display queued
      exact same
    next middle queued =>
      cases began
      have same := enqueued_display queued
      exact (reportAudioLatency_display 0).trans same

theorem playAudio_display (incoming : IncomingAudio) : (playAudio host env client incoming).toDisplay = client.toDisplay := by
  rw [playAudio]
  split
  next => exact endAudioStream_display
  next =>
    split
    next => exact stopAudioStream_display true
    next =>
      split
      next headers => exact processOpusHeaders_display headers
      next headers =>
        split
        next => exact processOpusHeaders_display headers
        next => exact (processOpusBuffer_display _ _ _).trans (processOpusHeaders_display headers)

theorem processAudioData_display (returned : processAudioData host env client packet = .ok next) : next.toDisplay = client.toDisplay := by
  rw [processAudioData] at returned
  split at returned
  next =>
    cases returned
    rfl
  next =>
    obtain ⟨parsed, -, returned⟩ := bind_ok returned
    split at returned
    next =>
      cases returned
      rfl
    next =>
      split at returned
      next =>
        cases returned
        rfl
      next =>
        split at returned
        next =>
          split at returned
          next began =>
            cases returned
            exact beginAudioStream_display began
          next began =>
            cases returned
            exact (playAudio_display _).trans (beginAudioStream_display began)
        next =>
          split at returned
          next =>
            cases returned
            rfl
          next =>
            cases returned
            exact playAudio_display _

theorem processAudioCapabilities_display (capabilities : Yaml) :
    (processAudioCapabilities host client capabilities).toDisplay = client.toDisplay := by
  rw [processAudioCapabilities]
  split
  next => rfl
  next =>
    split
    next => rfl
    next => exact reportAudioLatency_display 0

/-! ### The other handlers -/

theorem answerAsyncAudio_display (hello : Yaml) : (answerAsyncAudio host client hello).toDisplay = client.toDisplay := by
  rw [answerAsyncAudio]
  split <;> rfl

theorem processMmapCaps_display (hello : Yaml) : (processMmapCaps client hello).toDisplay = client.toDisplay := by
  rw [processMmapCaps]
  split
  next => rfl
  next =>
    split
    next => rfl
    next =>
      dsimp only
      split <;> rfl

theorem processHello_display {hello : Yaml} (returned : processHello host client hello = .ok next) :
    next.toDisplay = client.toDisplay := by
  rw [processHello.eq_def] at returned
  dsimp only at returned
  split at returned
  next =>
    split at returned
    next => cases returned
    next =>
      cases returned
      rw [answerAsyncAudio_display, ← @processMmapCaps_display client]
      simp only [apply_ite XpraClient.toDisplay, ite_self]
      split <;> split <;> rfl
  next =>
    cases returned
    exact processMmapCaps_display _

theorem answerChallenge_display (password : String) : (answerChallenge host env client password).toDisplay = client.toDisplay := by
  rw [answerChallenge]
  split <;> rfl

theorem showAuthDialog_display (prompt : String) : (showAuthDialog env client prompt).toDisplay = client.toDisplay := by
  rw [showAuthDialog]
  split
  next => rfl
  next =>
    split
    next => split <;> rfl
    next => rfl

theorem findPassword_display (prompt : String) : (findPassword host env client prompt).toDisplay = client.toDisplay := by
  rw [findPassword]
  split
  next => exact answerChallenge_display _
  next =>
    split
    next => exact answerChallenge_display _
    next =>
      dsimp only
      split
      next => rfl
      next => exact showAuthDialog_display _

theorem processChallenge_display (returned : processChallenge host env client packet = .ok next) :
    next.toDisplay = client.toDisplay := by
  rw [processChallenge] at returned
  split at returned
  next =>
    cases returned
    rfl
  next =>
    obtain ⟨⟨salt, rest⟩, -, returned⟩ := bind_ok returned
    obtain ⟨-, returned⟩ := Packet.read_bind_ok.mp returned
    dsimp only at returned
    generalize (if rest.len ≥ 5 then yamlStr (rest.get 4) else "xor") = saltDigest at returned
    split at returned
    next =>
      cases returned
      rfl
    next =>
      split at returned
      next =>
        cases returned
        rfl
      next =>
        cases returned
        exact findPassword_display _

theorem handleAuthDialogEvent_display (event : WindowEvent) :
    (handleAuthDialogEvent host env client event).toDisplay = client.toDisplay := by
  rw [handleAuthDialogEvent.eq_def]
  split
  next => rfl
  next =>
    split
    next => rfl
    next =>
      split
      next => rfl
      next =>
        split
        next => rfl
        next => exact answerChallenge_display _
        next => rfl
  next => rfl

theorem receivedText_display {received : Except Panic (Option String)} (returned : (do
    match ← received with
    | some text => return setLocalClipboard client text
    | none => return client) = .ok next) : next.toDisplay = client.toDisplay := by
  obtain ⟨text, -, returned⟩ := bind_ok returned
  cases text <;> cases returned <;> rfl

theorem clipboardToken_display (returned : processClipboardToken host client packet = .ok next) : next.toDisplay = client.toDisplay := by
  rw [processClipboardToken] at returned
  split at returned
  next => cases returned; rfl
  next =>
    split at returned
    next => exact receivedText_display returned
    next => cases returned; rfl

theorem clipboardContents_display (returned : processClipboardContents host client packet = .ok next) :
    next.toDisplay = client.toDisplay := by
  rw [processClipboardContents] at returned
  split at returned
  next => cases returned; rfl
  next =>
    split at returned
    next => exact receivedText_display returned
    next => cases returned; rfl

theorem debugField_display (returned : debugField host client packet = .ok next) : next.toDisplay = client.toDisplay := by
  rw [debugField] at returned
  split at returned
  next =>
    obtain ⟨_, -, rfl⟩ := map_ok returned
    rfl
  next => cases returned; rfl

theorem processWindowMoveResize_display (returned : processWindowMoveResize client packet = .ok next) :
    next.toDisplay = client.toDisplay := by
  obtain ⟨-, returned⟩ := Packet.read_bind_ok.mp returned
  split at returned
  next => cases returned; rfl
  next =>
    iterate 4 obtain ⟨-, returned⟩ := Packet.read_bind_ok.mp returned
    cases returned
    rfl

theorem processNotifyShow_display (returned : processNotifyShow host client packet = .ok next) : next.toDisplay = client.toDisplay := by
  iterate 3 obtain ⟨-, returned⟩ := Packet.read_bind_ok.mp returned
  split at returned
  next =>
    obtain ⟨-, returned⟩ := Packet.read_bind_ok.mp returned
    cases returned
    rfl
  next => cases returned; rfl

theorem processWindowIcon_display (returned : processWindowIcon host client packet = .ok next) : next.toDisplay = client.toDisplay := by
  iterate 2 obtain ⟨-, returned⟩ := Packet.read_bind_ok.mp returned
  split at returned
  next => cases returned; rfl
  next =>
    obtain ⟨_, -, returned⟩ := bind_ok returned
    cases returned
    rfl

theorem clipboardRequest_display (returned : processClipboardRequest host client packet = .ok next) :
    next.toDisplay = client.toDisplay := by
  iterate 2 obtain ⟨-, returned⟩ := Packet.read_bind_ok.mp returned
  cases returned
  split <;> rfl

theorem clipboardChanged_display (returned : processClipboardChanged host client packet = .ok next) :
    next.toDisplay = client.toDisplay := by
  rw [processClipboardChanged] at returned
  split at returned
  next => cases returned; rfl
  next =>
    obtain ⟨-, returned⟩ := Packet.read_bind_ok.mp returned
    split at returned <;> cases returned <;> rfl

theorem processDisconnect_display (returned : processDisconnect client packet = .ok next) : next.toDisplay = client.toDisplay := by
  obtain ⟨info, -, returned⟩ := bind_ok returned
  cases returned
  split
  next => rfl
  next => split <;> rfl

theorem connectionLost_display (returned : processConnectionLost client packet = .ok next) : next.toDisplay = client.toDisplay := by
  rw [processConnectionLost] at returned
  split at returned
  next =>
    obtain ⟨-, returned⟩ := Packet.read_bind_ok.mp returned
    cases returned
    rfl
  next => cases returned; rfl

theorem sendScroll_display (wid : UInt64) (sign : Ordering) (forward backward : Int) (x y : Int32) :
    (sendScroll host client wid sign forward backward x y).toDisplay = client.toDisplay := by
  cases sign <;> rfl

/-- The kinds of packets whose handlers change the display. -/
def displayKinds : List Kind := [.newWindow, .newOverrideRedirect, .lostWindow, .pointerGrab, .pointerUngrab, .cursor, .windowMetadata,
  .drawDecoded]

theorem doProcessPacket_display {kind : Kind} (other : kind ∉ displayKinds)
    (returned : doProcessPacket host env client kind packet = .ok next) : next.toDisplay = client.toDisplay := by
  cases kind with
  | newWindow | newOverrideRedirect | lostWindow | pointerGrab | pointerUngrab | cursor | windowMetadata | drawDecoded =>
    exact absurd (by decide) other
  | hello =>
    obtain ⟨hello, -, returned⟩ := bind_ok returned
    exact processHello_display returned
  | audioCapabilities =>
    cases returned
    split
    next => exact processAudioCapabilities_display _
    next => rfl
  | audioData => exact processAudioData_display returned
  | audioLatency =>
    obtain ⟨total, -, rfl⟩ := map_ok returned
    exact reportAudioLatency_display total
  | audioWorkerFailed =>
    obtain ⟨message, -, rfl⟩ := map_ok returned
    exact disableAudio_display
  | challenge => exact processChallenge_display returned
  | challengePassword =>
    obtain ⟨password, -, rfl⟩ := map_ok returned
    exact answerChallenge_display password
  | challengeFallbackDialog =>
    obtain ⟨prompt, -, rfl⟩ := map_ok returned
    exact showAuthDialog_display prompt
  | clipboardToken => exact clipboardToken_display returned
  | clipboardContents => exact clipboardContents_display returned
  | encodings | settingChange => exact debugField_display returned
  | windowMoveResize => exact processWindowMoveResize_display returned
  | notifyShow => exact processNotifyShow_display returned
  | windowIcon => exact processWindowIcon_display returned
  | clipboardRequest => exact clipboardRequest_display returned
  | clipboardChanged => exact clipboardChanged_display returned
  | disconnect => exact processDisconnect_display returned
  | connectionLost => exact connectionLost_display returned
  | eos =>
    cases returned
    rw [forwardToDecoder]
    split <;> rfl
  | raiseWindow | notifyClose | ping | setClipboardEnabled | invalidPacket =>
    obtain ⟨-, returned⟩ := Packet.read_bind_ok.mp returned
    cases returned
    rfl
  | initiateMoveresize | bell | sendLog =>
    iterate 2 obtain ⟨-, returned⟩ := Packet.read_bind_ok.mp returned
    cases returned
    rfl
  | drawFailed =>
    iterate 5 obtain ⟨-, returned⟩ := Packet.read_bind_ok.mp returned
    cases returned
    rfl
  | pingEcho =>
    obtain ⟨-, returned⟩ := Packet.read_bind_ok.mp returned
    cases returned
    split <;> rfl
  | _ =>
    cases returned
    rfl

/-! ### Views of the windows -/

section Views

variable {α : Type} {view : XpraWindow → α}

/-- The windows are the same ones, as far as the view goes. -/
def SameView (view : XpraWindow → α) (client next : XpraClient) : Prop :=
  ∀ wid, (next.windows wid).map view = (client.windows wid).map view

namespace SameView

theorem of_display (same : next.toDisplay = client.toDisplay) : SameView view client next :=
  fun wid => by rw [congrArg Client.Display.windows same]

theorem trans {last : XpraClient} (first : SameView view client next) (second : SameView view next last) : SameView view client last :=
  fun wid => (second wid).trans (first wid)

/-- One window changes, though not in the view. -/
theorem of_insert {wid : UInt64} {window changed : XpraWindow} (held : client.windows wid = some window)
    (windows : next.windows = client.windows.insert wid changed) (same : view changed = view window) : SameView view client next := by
  intro other
  rw [windows, Table.insert]
  split
  next here => rw [here, held, Option.map_some, Option.map_some, same]
  next => rfl

theorem gone (same : SameView view client next) {wid : UInt64} : next.windows wid = none ↔ client.windows wid = none := by
  rw [← Option.map_eq_none_iff (f := view), same, Option.map_eq_none_iff]

theorem held (same : SameView view client next) {wid : UInt64} {window : XpraWindow} (held : next.windows wid = some window) :
    ∃ before, client.windows wid = some before ∧ view before = view window :=
  Option.map_eq_some_iff.mp ((same wid).symm.trans (by rw [held]; rfl))

end SameView

theorem releasePointerGrab_view (blind : ∀ window grab, view { window with grab } = view window) :
    SameView view client (releasePointerGrab env client) := by
  rw [releasePointerGrab]
  split
  next => exact .of_display rfl
  next wid _ =>
    dsimp only
    split
    next window held =>
      split
      next => exact .of_insert held rfl (blind window .none)
      next => exact fun _ => rfl
    next => exact fun _ => rfl

theorem processPointerGrab_view (blind : ∀ window grab, view { window with grab } = view window) :
    SameView view client (processPointerGrab env client packet) := by
  rw [processPointerGrab]
  split
  next => exact .of_display rfl
  next =>
    dsimp only
    split
    next => exact .of_display rfl
    next =>
      have released : SameView view client (if client.pointerGrabbed.isSome then releasePointerGrab env client else client) := by
        split
        next => exact releasePointerGrab_view blind
        next => exact .of_display rfl
      split
      next => exact released
      next window held =>
        split
        next => exact released.trans (.of_insert held rfl (blind window _))
        next => exact released

theorem releasePointerGrab_cursor : (releasePointerGrab env client).currentCursor = client.currentCursor := by
  rw [releasePointerGrab]
  split
  next => rfl
  next =>
    dsimp only
    split
    next => split <;> rfl
    next => rfl

theorem processPointerGrab_cursor : (processPointerGrab env client packet).currentCursor = client.currentCursor := by
  rw [processPointerGrab]
  split
  next => rfl
  next =>
    dsimp only
    split
    next => rfl
    next =>
      have released : (if client.pointerGrabbed.isSome then releasePointerGrab env client else client).currentCursor =
          client.currentCursor := by
        split
        next => exact releasePointerGrab_cursor
        next => rfl
      split
      next => exact released
      next => split <;> exact released

end Views

end Xpra.Proofs.Display
