import Xpra.Proofs.Ordinary

/-! What a handler leaves alone. Apart from the few that draws, hellos and
passwords concern, a handler changes neither the authentication nor the queue of
draws, and sends nothing that belongs to them. -/

namespace Xpra.Proofs.Handlers
open Xpra.Net Xpra.Client Library

variable {host : Host}
variable (env : Env) (client : XpraClient) (packet : Packet)

/-! ### Sound -/

theorem sendAudioControl_ordinary (command : String) (argument : Json) :
    Ordinary host client (sendAudioControl host client command argument) :=
  (Frame.refl client).write (by simp [Plain, Audio.controlPacket, Json.packetType]) rfl

theorem reportAudioLatency_ordinary (totalMs : UInt32) :
    Ordinary host client (reportAudioLatency host client totalMs) := by
  rw [reportAudioLatency]
  split
  · exact .refl client
  · dsimp only
    split
    · exact (sendAudioControl_ordinary _ _ _).after rfl rfl
    · exact .of_same rfl rfl

theorem disableAudio_ordinary : Ordinary host client (disableAudio host client) := by
  rw [disableAudio]
  split
  · exact .refl client
  · have stopped : Ordinary host client (sendAudioControl host client "stop" client.audioProtocol.sequence) :=
      sendAudioControl_ordinary client "stop" _
    dsimp only
    refine stopped.trans (.before (.after (sendAudioControl_ordinary _ "new-sequence" _) rfl rfl) rfl rfl)

theorem enqueueAudio_ordinary (command : Command) (critical : Bool) :
    Ordinary host client (enqueueAudio host client command critical).2 := by
  rw [enqueueAudio]
  split
  · exact disableAudio_ordinary client
  next worker running =>
    have failed (worker : AudioWorker) :
        Ordinary host client (disableAudio host { client with audioWorker := some worker }) :=
      (disableAudio_ordinary _).after rfl rfl
    dsimp only
    split
    · exact .of_same rfl rfl
    · exact failed _
    · split
      · exact failed _
      · exact .of_same rfl rfl

private theorem enqueued {command : Command} {critical went : Bool} {next : XpraClient}
    (queued : enqueueAudio host client command critical = (went, next)) : Ordinary host client next := by
  have ordinary : Ordinary host client (enqueueAudio host client command critical).2 :=
    enqueueAudio_ordinary client command critical
  rwa [queued] at ordinary

theorem stopAudioStream_ordinary (tellServer : Bool) : Ordinary host client (stopAudioStream host client tellServer) := by
  rw [stopAudioStream]
  dsimp only
  split
  next middle queued => exact enqueued client queued
  next middle queued =>
    apply (enqueued client queued).trans
    have told : Ordinary host middle
        (if tellServer then sendAudioControl host middle "stop" client.audioProtocol.sequence else middle) := by
      split
      · exact sendAudioControl_ordinary _ _ _
      · exact .refl middle
    exact told.trans (.trans (.after (sendAudioControl_ordinary _ "new-sequence" _) rfl rfl)
      (.after (reportAudioLatency_ordinary _ _) rfl rfl))

theorem processOpusBuffer_ordinary (data : Bytes) (timestampNs durationNs : Option Int64) :
    Ordinary host client (processOpusBuffer host env client data timestampNs durationNs).2 := by
  rw [processOpusBuffer]
  dsimp only
  split
  · split
    · exact stopAudioStream_ordinary client true
    · split
      next middle queued => exact enqueued client queued
      next middle queued => exact (enqueued client queued).before rfl rfl
  · split
    · exact .refl client
    · split
      · exact .refl client
      · exact enqueueAudio_ordinary client _ _

theorem processOpusHeaders_ordinary (headers : List Bytes) :
    Ordinary host client (processOpusHeaders host env headers client).2 := by
  induction headers generalizing client with
  | nil => exact .refl client
  | cons header rest ih =>
    have first : Ordinary host client (processOpusBuffer host env client header none none).2 :=
      processOpusBuffer_ordinary env client header none none
    rw [processOpusHeaders]
    split
    next middle stopped => rwa [stopped] at first
    next middle going =>
      rw [going] at first
      exact first.trans (ih middle)

theorem beginAudioStream_ordinary (incoming : IncomingAudio) :
    Ordinary host client (beginAudioStream host client incoming).2 := by
  rw [beginAudioStream]
  split
  · exact stopAudioStream_ordinary client true
  · split
    next middle queued => exact (enqueued _ queued).after rfl rfl
    next middle queued =>
      exact .trans (.after (enqueued _ queued) rfl rfl) (.after (reportAudioLatency_ordinary _ _) rfl rfl)

theorem playAudio_ordinary (incoming : IncomingAudio) : Ordinary host client (playAudio host env client incoming) := by
  rw [playAudio]
  split
  · rw [endAudioStream]
    dsimp only
    split
    next middle queued => exact enqueued client queued
    next middle queued =>
      have restarted : Ordinary host middle
          (sendAudioControl host { middle with audioProtocol := middle.audioProtocol.finish } "new-sequence"
            middle.audioProtocol.finish.sequence) :=
        (sendAudioControl_ordinary _ "new-sequence" _).after rfl rfl
      exact (enqueued client queued).trans (restarted.trans (reportAudioLatency_ordinary _ _))
  · split
    · exact stopAudioStream_ordinary client true
    · have headers : Ordinary host client (processOpusHeaders host env incoming.headers client).2 :=
        processOpusHeaders_ordinary env client incoming.headers
      split
      next middle stopped => rwa [stopped] at headers
      next middle going =>
        rw [going] at headers
        split
        · exact headers
        · exact headers.trans (processOpusBuffer_ordinary _ _ _ _ _)

theorem processAudioData_keeps : Returns (Ordinary host client) (processAudioData host env client packet) := by
  rw [processAudioData]
  split
  · exact .ok (.refl client)
  · refine .bind fun result => ?_
    cases result with
    | error message => exact .pure (.refl client)
    | ok incoming =>
      dsimp only
      split
      · exact .pure (.refl client)
      · split
        · have begun : Ordinary host client (beginAudioStream host client incoming).2 :=
            beginAudioStream_ordinary client incoming
          split
          next middle stopped =>
            rw [stopped] at begun
            exact .pure begun
          next middle going =>
            rw [going] at begun
            exact .pure (begun.trans (playAudio_ordinary _ _ _))
        · split
          · exact .pure (.refl client)
          · exact .pure (playAudio_ordinary _ _ _)

theorem processAudioCapabilities_ordinary (capabilities : Yaml) :
    Ordinary host client (processAudioCapabilities host client capabilities) := by
  rw [processAudioCapabilities]
  split
  · exact .refl client
  · split
    · exact .refl client
    · exact .trans (.after (sendAudioControl_ordinary _ "start" _) rfl rfl)
        (.after (reportAudioLatency_ordinary _ _) rfl rfl)

/-! ### Windows -/

/-- Closes the goal that a packet is an ordinary one by looking at its type. -/
theorem sent_silent {packet : Json} (fine : Plain packet ∧ Soundless packet) : Silent host client (client.writeJson host packet) :=
  (Frame.refl client).write fine rfl

theorem sendPointerButton_silent (wid : UInt64) (button : Int) (pressed : Bool) (x y : Int32) :
    Silent host client (sendPointerButton host client wid button pressed x y) :=
  sent_silent client (by simp [Plain, Soundless, Json.packetType])

theorem sendWindowMap_silent (wid : UInt64) (x y : Int32) (w h : UInt32) :
    Silent host client (sendWindowMap host env client wid x y w h) :=
  sent_silent client (by simp [Plain, Soundless, Json.packetType])

theorem processNewCommon_silent (overrideRedirect : Bool) :
    Returns (Silent host client) (processNewCommon host env client packet overrideRedirect) := by
  refine .bind fun wid => .bind fun x => .bind fun y => .bind fun w => .bind fun h => .bind fun metadata => ?_
  split
  · exact .pure (.refl client)
  · split
    · exact .error _
    · refine .bind fun window => .pure ?_
      split
      · exact .of_same rfl rfl
      · exact (sendWindowMap_silent _ _ _ _ _ _ _).after rfl rfl

theorem processWindowMoveResize_silent : Returns (Silent host client) (processWindowMoveResize client packet) := by
  refine .bind fun wid => ?_
  split
  · exact .pure (.refl client)
  · exact .bind fun _ => .bind fun _ => .bind fun _ => .bind fun _ => .pure (.refl client)

theorem releasePointerGrab_silent : Silent host client (releasePointerGrab env client) := by
  rw [releasePointerGrab]
  split
  · exact .refl client
  · dsimp only
    split
    · split <;> exact .of_same rfl rfl
    · exact .of_same rfl rfl

theorem processPointerGrab_silent : Silent host client (processPointerGrab env client packet) := by
  rw [processPointerGrab]
  split
  · exact .refl client
  · dsimp only
    split
    · exact .refl client
    · have released : Silent host client
          (if client.pointerGrabbed.isSome then releasePointerGrab env client else client) := by
        split
        · exact releasePointerGrab_silent env client
        · exact .refl client
      split
      · exact released
      · split
        · exact released.before rfl rfl
        · exact released

theorem processLostWindow_silent : Returns (Silent host client) (processLostWindow env client packet) := by
  refine .bind fun wid => ?_
  have released : Silent host client
      (if client.pointerGrabbed = some wid then releasePointerGrab env client else client) := by
    split
    · exact releasePointerGrab_silent env client
    · exact .refl client
  dsimp only
  split
  · exact .pure (released.before rfl rfl)
  · exact .pure released

theorem processWindowMetadata_silent : Returns (Silent host client) (processWindowMetadata client packet) := by
  refine .bind fun wid => .bind fun metadata => ?_
  split
  · exact .pure (.of_same rfl rfl)
  · exact .pure (.refl client)

theorem processCursor_silent : Returns (Silent host client) (processCursor host env client packet) := by
  rw [processCursor]
  split
  · exact .ok (.of_same rfl rfl)
  · split
    · exact .ok (.refl client)
    · refine .bind fun xhot => .bind fun yhot => .bind fun data => ?_
      dsimp only
      split
      · exact .pure (.refl client)
      · refine .pure ?_
        split
        · exact .of_same rfl rfl
        · exact .refl client

theorem processWindowIcon_silent : Returns (Silent host client) (processWindowIcon host client packet) := by
  refine .bind fun wid => .bind fun encoding => ?_
  split
  · exact .pure (.refl client)
  · exact .bind fun _ => .pure (.refl client)

theorem processNotifyShow_silent : Returns (Silent host client) (processNotifyShow host client packet) := by
  refine .bind fun _ => .bind fun _ => .bind fun _ => ?_
  split
  · exact .bind fun _ => .pure (.refl client)
  · exact .pure (.refl client)

theorem sendScroll_silent (wid : UInt64) (sign : Ordering) (forward backward : Int) (x y : Int32) :
    Silent host client (sendScroll host client wid sign forward backward x y) := by
  cases sign with
  | eq => exact .refl client
  | lt => exact (sendPointerButton_silent _ _ _ _ _ _).trans (sendPointerButton_silent _ _ _ _ _ _)
  | gt => exact (sendPointerButton_silent _ _ _ _ _ _).trans (sendPointerButton_silent _ _ _ _ _ _)

theorem handleWindowEvent_silent (wid : UInt64) (event : WindowEvent) :
    Silent host client (handleWindowEvent host env client wid event) := by
  have resized : Silent host client (handleWindowEvent host env client wid .moved) := by
    simp only [handleWindowEvent]
    split
    · exact .refl client
    · exact (sent_silent _ (by simp [Plain, Soundless, Json.packetType])).after rfl rfl
  cases event with
  | focused isFocused =>
    simp only [handleWindowEvent]
    split
    · exact sent_silent _ (by simp [Plain, Soundless, Json.packetType])
    · exact .refl client
  | moved => exact resized
  | resized => exact resized
  | cursorMoved px py =>
    simp only [handleWindowEvent]
    split
    · exact .refl client
    · exact (sent_silent _ (by simp [Plain, Soundless, Json.packetType])).after rfl rfl
  | mouseInput pressed button =>
    simp only [handleWindowEvent]
    split
    · exact .refl client
    · exact sendPointerButton_silent _ _ _ _ _ _
  | mouseWheel dx dy =>
    simp only [handleWindowEvent]
    split
    · exact .refl client
    · exact (sendScroll_silent _ _ _ _ _ _ _).trans (sendScroll_silent _ _ _ _ _ _ _)
  | modifiersChanged shift control alt => exact .of_same rfl rfl
  | keyboardInput event isSynthetic => exact sent_silent _ (by simp [Plain, Soundless, Json.packetType])
  | closeRequested => exact sent_silent _ (by simp [Plain, Soundless, Json.packetType])
  | redrawRequested => exact .refl client
  | other => exact .refl client

/-! ### The session -/

theorem processClipboardRequest_silent : Returns (Silent host client) (processClipboardRequest host client packet) := by
  refine .bind fun requestId => .bind fun target => .pure ?_
  split
  · exact sent_silent _ (by simp [Plain, Soundless, Json.packetType])
  · exact sent_silent _ (by simp [Plain, Soundless, Json.packetType])

theorem processDisconnect_silent : Returns (Silent host client) (processDisconnect client packet) := by
  refine .bind fun info => .pure ?_
  split
  · exact (Frame.refl client).quit _ rfl
  · split <;> exact (Frame.refl client).quit _ rfl

theorem processConnectionLost_silent : Returns (Silent host client) (processConnectionLost client packet) := by
  rw [processConnectionLost]
  split
  · exact .bind fun _ => .pure ((Frame.refl client).quit _ rfl)
  · exact .ok ((Frame.refl client).quit _ rfl)

/-! ### The hello -/

def helloCheck (hello : Yaml) : List (Except String Bool) :=
  match client.area with
  | some area => if client.mmap then [area.checkServerCaps hello] else []
  | none => []

structure Backing where
  path : String
  delete : Bool
  unlinked : Bool
  removals : Nat
  deriving DecidableEq, Repr

def backing (area : MmapArea) : Backing :=
  { path := area.path, delete := area.delete, unlinked := area.unlinked, removals := area.removals }

/-- The file is removed unless it is not the client's own or already gone. -/
def Backing.unlink (backing : Backing) : Backing :=
  if !backing.delete || backing.unlinked then backing
  else { backing with unlinked := true, removals := backing.removals + 1 }

theorem backing_unlink (area : MmapArea) : backing area.unlink = (backing area).unlink := by
  rw [MmapArea.unlink, Backing.unlink, backing, backing]
  split <;> rfl

/-- What a server's hello leaves of the state: all but the capabilities, the
checks of the area and the backing file. -/
structure Greeted (host : Host) (client : XpraClient) (hello : Yaml) (next : XpraClient) : Prop where
  link : Moves host Plain client.toLink next.toLink
  auth : next.toAuth = client.toAuth
  decodeSender : next.decodeSender = client.decodeSender
  checks : next.checks = client.checks ++ helloCheck client hello
  memory : next.area.map MmapArea.memory = client.area.map MmapArea.memory
  backing : next.area.map backing =
    client.area.map fun area => if client.mmap = true then (backing area).unlink else backing area
  clipboard : next.toClipboardSync = client.toClipboardSync ∨
    client.clipboard = none ∧
      next.toClipboardSync = { client.toClipboardSync with clipboard := some [], clipboardEnabled := true }

theorem unlink_memory (area : MmapArea) : area.unlink.memory = area.memory := by
  rw [MmapArea.unlink]
  split <;> rfl

theorem processMmapCaps_greeted (hello : Yaml) : Greeted host client hello (processMmapCaps client hello) := by
  rw [processMmapCaps]
  split
  next absent => exact ⟨.refl, rfl, rfl, by simp [helloCheck, absent], rfl, by simp [absent], .inl rfl⟩
  next area held =>
    split
    next dropped => exact ⟨.refl, rfl, rfl, by simp [helloCheck, held, dropped], rfl, by simp [dropped], .inl rfl⟩
    next offered =>
      have memory : (some area.unlink).map MmapArea.memory = client.area.map MmapArea.memory := by
        simp [held, unlink_memory]
      have unlinked : (some area.unlink).map backing = client.area.map fun area =>
          if client.mmap = true then (backing area).unlink else backing area := by
        simp [held, backing_unlink, Bool.eq_true_of_not_eq_false offered]
      have checks : client.checks ++ [area.checkServerCaps hello] = client.checks ++ helloCheck client hello := by
        simp [helloCheck, held, Bool.eq_true_of_not_eq_false offered]
      dsimp only
      split
      · exact ⟨.refl, rfl, rfl, checks, memory, unlinked, .inl rfl⟩
      · exact ⟨.refl, rfl, rfl, checks, memory, unlinked, .inl rfl⟩
      · exact ⟨.quit _ .refl, rfl, rfl, checks, memory, unlinked, .inl rfl⟩

theorem answerAsyncAudio_ordinary (hello : Yaml) : Ordinary host client (answerAsyncAudio host client hello) := by
  rw [answerAsyncAudio]
  split
  · have sent : Ordinary host client
        ({ client with audioProtocol := { client.audioProtocol with
            serverAvSync := Audio.serverAvSyncEnabled hello } }.writeJson host
          (.array ["audio-capabilities", Audio.receiveCapabilities])) :=
      ((Frame.refl _).write (by simp [Plain, Json.packetType]) rfl).after rfl rfl
    exact sent.before rfl rfl
  · exact .refl client

theorem Greeted.ordinary {hello : Yaml} {next last : XpraClient} (greeted : Greeted host client hello next)
    (ordinary : Ordinary host next last) : Greeted host client hello last where
  link := greeted.link.trans ordinary.link
  auth := ordinary.auth.trans greeted.auth
  decodeSender := (congrArg Draws.decodeSender ordinary.draws).trans greeted.decodeSender
  checks := by rw [ordinary.draws]; exact greeted.checks
  memory := by rw [ordinary.draws]; exact greeted.memory
  backing := by rw [ordinary.draws]; exact greeted.backing
  clipboard := by rw [ordinary.clipboard]; exact greeted.clipboard

theorem processMmapCaps_clipboard (hello : Yaml) :
    (processMmapCaps client hello).toClipboardSync = client.toClipboardSync := by
  rw [processMmapCaps]
  split
  · rfl
  · split
    · rfl
    · dsimp only
      split <;> rfl

/-- The first hello of a server with a clipboard starts the clipboard thread. -/
theorem Greeted.opened {hello : Yaml} {next : XpraClient} (greeted : Greeted host client hello next)
    (same : next.toClipboardSync = client.toClipboardSync) (serverClipboard : Bool) :
    Greeted host client hello (if serverClipboard && next.clipboard.isNone then
      { next with clipboard := some [], clipboardEnabled := true } else next) := by
  split
  next opens =>
    have closed : client.clipboard = none := by
      rw [← same]
      simpa using (Bool.and_eq_true_iff.mp opens).2
    exact ⟨greeted.link, greeted.auth, greeted.decodeSender, greeted.checks, greeted.memory,
      greeted.backing, .inr ⟨closed, by rw [← same]⟩⟩
  next => exact greeted

theorem processHello_greeted {hello : Yaml} {next : XpraClient} (returned : processHello host client hello = .ok next) :
    Greeted host client hello next := by
  have checked : Greeted host client hello (processMmapCaps client hello) := processMmapCaps_greeted client hello
  have same := processMmapCaps_clipboard client hello
  cases hello with
  | hash entries =>
    simp only [processHello] at returned
    split at returned
    next => cases returned
    next version _ =>
      cases returned
      refine Greeted.ordinary client (.opened client ?_ ?_ _) (answerAsyncAudio_ordinary _ _)
      -- what the hello says about versions and logs concerns none of this
      · repeat' split
        all_goals exact ⟨checked.link, checked.auth, checked.decodeSender, checked.checks, checked.memory, checked.backing,
          checked.clipboard⟩
      · repeat' split
        all_goals exact same
  | _ =>
    cases returned
    exact checked

/-! ### Draws -/

def ackOf (backwardsCompatible : Bool) (packet : Packet) (time : Int) (message : String) : Json :=
  drawAckPacket backwardsCompatible (yamlU64 (packet.get 8)) (yamlU64 (packet.get 1)) (yamlU32 (packet.get 4))
    (yamlU32 (packet.get 5)) time message

/-- One acknowledgement is handed over, in the layout of the server's mode, and
nothing else of the connection changes. -/
structure Acknowledges (host : Host) (client next : XpraClient) (packet : Packet) (time : Int) : Prop where
  link : ∃ message, next.toLink =
    client.toLink.writeJson host (ackOf client.serverBackwardsCompatible packet time message)
  auth : next.toAuth = client.toAuth
  draws : next.toDraws = client.toDraws
  clipboard : next.toClipboardSync = client.toClipboardSync
  speaker : next.toSpeaker = client.toSpeaker

def Acking (packet : Json) : Prop := packet.packetType = "window-draw-ack" ∨ packet.packetType = "window-ack"

theorem Acking.ne {packet : Json} (acking : Acking packet) {other : String} (first : "window-draw-ack" ≠ other)
    (second : "window-ack" ≠ other) : packet.packetType ≠ other := by
  rcases acking with type | type <;> rw [type] <;> assumption

theorem Acknowledges.moves {client next : XpraClient} {packet : Packet} {time : Int}
    (acknowledges : Acknowledges host client next packet time) : Moves host Acking client.toLink next.toLink := by
  obtain ⟨message, written⟩ := acknowledges.link
  rw [written]
  refine .write .refl ?_
  rw [ackOf, drawAckPacket]
  split
  · exact .inl rfl
  · exact .inr rfl

theorem processDrawDecoded_ok {next : XpraClient} (returned : processDrawDecoded host client packet = .ok next) :
    Acknowledges host client next packet
      (if (client.windows (yamlU64 (packet.get 1))).isNone then -1 else (packet.decodeTimeUs.getD 0).toInt) := by
  rw [processDrawDecoded] at returned
  iterate 6 obtain ⟨-, returned⟩ := Packet.read_bind_ok.mp returned
  obtain ⟨⟨pixels, rest⟩, taken, returned⟩ := bind_ok returned
  obtain ⟨kept, timed, -⟩ := Packet.getBytes_ok taken
  obtain ⟨-, returned⟩ := Packet.read_bind_ok.mp returned
  have same : rest.get 8 = packet.get 8 := by simp [Packet.get, kept]
  simp only [same, timed] at returned
  split at returned
  next gone =>
    cases returned
    rw [gone]
    exact ⟨⟨_, rfl⟩, rfl, rfl, rfl, rfl⟩
  next window present =>
    rw [present]
    -- painted or not, the draw is acknowledged
    split at returned <;> obtain ⟨painted, -, returned⟩ := bind_ok returned <;> cases returned
    · exact ⟨⟨_, rfl⟩, rfl, rfl, rfl, rfl⟩
    · exact ⟨⟨_, rfl⟩, rfl, rfl, rfl, rfl⟩

theorem processDrawFailed_ok {next : XpraClient} (returned : processDrawFailed host client packet = .ok next) :
    Acknowledges host client next packet (-1) := by
  rw [processDrawFailed] at returned
  iterate 5 obtain ⟨-, returned⟩ := Packet.read_bind_ok.mp returned
  cases returned
  exact ⟨⟨_, rfl⟩, rfl, rfl, rfl, rfl⟩

/-! ### The clipboard -/

def clipboardKinds : List Kind := [.setClipboardEnabled, .clipboardToken, .clipboardContents, .clipboardChanged]

def AboutText (packet : Json) : Prop :=
  packet.packetType = "clipboard-data" ∨ packet.packetType = "clipboard-request"

structure Clips (host : Host) (client next : XpraClient) : Prop where
  link : Moves host AboutText client.toLink next.toLink
  auth : next.toAuth = client.toAuth
  draws : next.toDraws = client.toDraws
  speaker : next.toSpeaker = client.toSpeaker

theorem clipboardText_clips {result : Except Panic (Option String)} {next : XpraClient}
    (returned : (do
      match ← result with
      | some text => return setLocalClipboard client text
      | none => return client) = .ok next) : Clips host client next := by
  obtain ⟨text, -, returned⟩ := bind_ok returned
  cases text <;> cases returned <;> exact ⟨.refl, rfl, rfl, rfl⟩

theorem clipboard_clips {kind : Kind} {next : XpraClient} (about : kind ∈ clipboardKinds)
    (returned : doProcessPacket host env client kind packet = .ok next) : Clips host client next := by
  simp only [clipboardKinds, List.mem_cons, List.not_mem_nil, or_false] at about
  rcases about with rfl | rfl | rfl | rfl
  · obtain ⟨enabled, -, returned⟩ := bind_ok returned
    cases returned
    exact ⟨.refl, rfl, rfl, rfl⟩
  · simp only [doProcessPacket, processClipboardToken] at returned
    split at returned
    · cases returned
      exact ⟨.refl, rfl, rfl, rfl⟩
    · split at returned
      · exact clipboardText_clips client returned
      · cases returned
        exact ⟨.write .refl (.inr rfl), rfl, rfl, rfl⟩
  · simp only [doProcessPacket, processClipboardContents] at returned
    split at returned
    · cases returned
      exact ⟨.refl, rfl, rfl, rfl⟩
    · split at returned
      · exact clipboardText_clips client returned
      · cases returned
        exact ⟨.refl, rfl, rfl, rfl⟩
  · simp only [doProcessPacket, processClipboardChanged] at returned
    split at returned
    · cases returned
      exact ⟨.refl, rfl, rfl, rfl⟩
    · obtain ⟨text, -, returned⟩ := bind_ok returned
      split at returned <;> cases returned
      · exact ⟨.refl, rfl, rfl, rfl⟩
      · exact ⟨.write .refl (.inl rfl), rfl, rfl, rfl⟩

/-! ### The log -/

def Logging (packet : Json) : Prop := packet.packetType = "logging-event"

instance (packet : Json) : Decidable (Logging packet) := inferInstanceAs (Decidable (packet.packetType = "logging-event"))

theorem Logging.ne {packet : Json} (logging : Logging packet) {other : String} (differs : "logging-event" ≠ other) :
    packet.packetType ≠ other := by
  rw [show packet.packetType = _ from logging]
  exact differs

structure Logs (host : Host) (client next : XpraClient) : Prop where
  link : Moves host Logging client.toLink next.toLink
  auth : next.toAuth = client.toAuth
  draws : next.toDraws = client.toDraws
  clipboard : next.toClipboardSync = client.toClipboardSync
  speaker : next.toSpeaker = client.toSpeaker

theorem sendLog_logs : Returns (Logs host client) (sendLog host env client packet) :=
  .bind fun _ => .bind fun _ => .pure ⟨.write .refl rfl, rfl, rfl, rfl, rfl⟩

/-! ### The dispatch -/

/-- The arms that are not ordinary: those of the hello, of the start of the session,
of the challenge, of draws, of the clipboard and of the log, and the two that the decode
thread hears of. -/
def specialKinds : List Kind := [.hello, .challenge, .challengePassword, .challengeCancel, .challengeFallbackDialog,
  .draw, .drawDecoded, .drawFailed, .lostWindow, .eos, .startupComplete, .sendLog] ++ clipboardKinds

def audioKinds : List Kind := [.audioCapabilities, .audioData, .audioLatency, .audioWorkerFailed]

theorem doProcessPacket_silent (kind : Kind) (ordinary : kind ∉ specialKinds) (other : kind ∉ audioKinds) :
    Returns (Silent host client) (doProcessPacket host env client kind packet) := by
  have debugged : Returns (Silent host client) (debugField host client packet) := by
    rw [debugField]
    split
    · exact .map fun _ => .refl client
    · exact .ok (.refl client)
  cases kind with
  | hello | challenge | challengePassword | challengeCancel | challengeFallbackDialog | draw | drawDecoded | drawFailed
  | lostWindow | eos | startupComplete | sendLog | setClipboardEnabled | clipboardToken | clipboardContents | clipboardChanged =>
    simp [specialKinds, clipboardKinds] at ordinary
  | audioCapabilities | audioData | audioLatency | audioWorkerFailed => simp [audioKinds] at other
  | encodings => exact debugged
  | settingChange => exact debugged
  | newWindow => exact processNewCommon_silent _ _ _ _
  | newOverrideRedirect => exact processNewCommon_silent _ _ _ _
  | windowMoveResize => exact processWindowMoveResize_silent _ _
  | initiateMoveresize => exact .bind fun _ => .bind fun _ => .pure (.refl client)
  | raiseWindow => exact .bind fun _ => .pure (.refl client)
  | pointerGrab => exact .ok (processPointerGrab_silent _ _ _)
  | pointerUngrab => exact .ok (releasePointerGrab_silent _ _)
  | bell => exact .bind fun _ => .bind fun _ => .pure (.refl client)
  | cursor => exact processCursor_silent _ _ _
  | notifyShow => exact processNotifyShow_silent _ _
  | notifyClose => exact .bind fun _ => .pure (.refl client)
  | windowIcon => exact processWindowIcon_silent _ _
  | windowMetadata => exact processWindowMetadata_silent _ _
  | ping => exact .bind fun _ => .pure (sent_silent _ (by simp [Plain, Soundless, Json.packetType]))
  | sendPing => exact .ok (sent_silent _ (by simp [Plain, Soundless, Json.packetType]))
  | pingEcho =>
    refine .bind fun _ => .pure ?_
    split
    · exact .of_same rfl rfl
    · exact .refl client
  | clipboardRequest => exact processClipboardRequest_silent _ _
  | trayExit => exact .ok ((sent_silent _ (by simp [Plain, Soundless, Json.packetType])).quit _ rfl)
  | disconnect => exact processDisconnect_silent _ _
  | connectionLost => exact processConnectionLost_silent _ _
  | invalidPacket => exact .bind fun _ => .pure ((Frame.refl client).quit _ rfl)
  | showDesktop | pointerPosition | serverEvent | clipboardContentsNone | clipboardPendingRequests | unhandled =>
    exact .ok (.refl client)

theorem doProcessPacket_keeps (kind : Kind) (ordinary : kind ∉ specialKinds) :
    Returns (Ordinary host client) (doProcessPacket host env client kind packet) := by
  by_cases sound : kind ∈ audioKinds
  · simp only [audioKinds, List.mem_cons, List.not_mem_nil, or_false] at sound
    rcases sound with rfl | rfl | rfl | rfl
    · refine .ok ?_
      split
      · exact processAudioCapabilities_ordinary _ _
      · exact .refl client
    · exact processAudioData_keeps _ _ _
    · exact .map fun _ => reportAudioLatency_ordinary _ _
    · exact .map fun _ => disableAudio_ordinary _
  · exact (doProcessPacket_silent env client packet kind ordinary sound).mono fun _ => Frame.ordinary

theorem listed_of_kind {packet : Packet} {kind : Kind} (handled : kindOf host packet = kind)
    (known : kind ≠ .unhandled) : (yamlStr (packet.get 0), kind) ∈ windowsPacketTypes ++ packetTypes := by
  have found (types : List (String × Kind)) (name : String) (arm : (types.lookup name).getD .unhandled = kind) :
      (name, kind) ∈ types := by
    cases listed : types.lookup name with
    | none => exact absurd (by simpa [listed] using arm.symm) known
    | some same =>
      obtain ⟨before, after, rfl, -⟩ := List.lookup_eq_some_iff.mp listed
      simp [listed] at arm
      simp [arm]
  rw [kindOf, Kind.parse] at handled
  cases windows : host.windows with
  | true => exact found _ _ (by simpa [windows] using handled)
  | false => exact List.mem_append_right _ (found _ _ (by simpa [windows] using handled))

/-- What is dropped for want of a type has no arm of its own. -/
theorem userEvent_eq : userEvent host env client packet = doProcessPacket host env client (kindOf host packet) packet := by
  by_cases known : kindOf host packet = .unhandled
  · rw [known, userEvent, known]
    split
    · rfl
    · split <;> rfl
  · have named : yamlStr (packet.get 0) ≠ "" := by
      intro empty
      have listed := listed_of_kind rfl known
      simp [empty, windowsPacketTypes, packetTypes] at listed
    have long : packet.len ≠ 0 := by
      intro none
      have empty : packet.main = [] := List.length_eq_zero_iff.mp none
      exact named (by simp [Packet.get, empty, yamlStr])
    rw [userEvent, if_neg long, if_neg named]

end Xpra.Proofs.Handlers
