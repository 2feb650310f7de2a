import Xpra.Proofs.Handlers
import Xpra.Proofs.Steps

/-! What has nothing to do with sound. Apart from five arms of the dispatch and the
worker's own turns, no step touches the speaker, and none sends a packet about it. -/

namespace Xpra.Proofs.Sound
open Xpra.Net Xpra.Client Handlers Steps

variable {host : Host} {env : Env} {client next : XpraClient}

/-! ### Handlers -/

theorem sendHello_muted (reply : Option (String × String × String)) : Muted host client (sendHello host client reply) :=
  (Frame.refl client).write (by simp [helloPacket, Soundless, Json.packetType]) rfl

theorem answerChallenge_muted (password : String) : Muted host client (answerChallenge host env client password) := by
  rw [answerChallenge]
  split
  · exact .refl client
  · exact (sendHello_muted _).after rfl rfl

theorem showAuthDialog_muted (prompt : String) : Muted host client (showAuthDialog env client prompt) := by
  have quits : Muted host client (client.quit .authenticationFailed) := (Frame.refl client).quit _ rfl
  rw [showAuthDialog]
  split
  · exact quits
  · split
    · split
      · exact .of_same rfl rfl
      · exact quits
    · exact quits

theorem cancelAuth_muted : Muted host client (cancelAuth client) :=
  ((Frame.refl _).quit .authenticationFailed rfl).after rfl rfl

theorem findPassword_muted (prompt : String) : Muted host client (findPassword host env client prompt) := by
  rw [findPassword]
  split
  · exact answerChallenge_muted _
  · split
    · exact answerChallenge_muted _
    · dsimp only
      split
      · exact .of_same rfl rfl
      · exact showAuthDialog_muted _

theorem processChallenge_muted (packet : Packet) : Returns (Muted host client) (processChallenge host env client packet) := by
  have quits : Muted host client (client.quit .authenticationFailed) := (Frame.refl client).quit _ rfl
  rw [processChallenge]
  split
  · exact .ok (.refl client)
  · refine .bind fun taken => .bind fun digest => ?_
    dsimp only
    repeat' split
    all_goals first | exact .pure quits | exact .pure ((findPassword_muted _).after rfl rfl)

theorem handleAuthDialogEvent_muted (event : WindowEvent) : Muted host client (handleAuthDialogEvent host env client event) := by
  cases event with
  | closeRequested => exact cancelAuth_muted
  | keyboardInput event isSynthetic =>
    simp only [handleAuthDialogEvent]
    split
    · exact .refl client
    · split
      · exact .refl client
      · split
        · exact .of_same rfl rfl
        · exact (answerChallenge_muted _).after rfl rfl
        · exact cancelAuth_muted.after rfl rfl
  | _ => exact .refl client

theorem clips_muted (clips : Clips host client next) : Muted host client next := by
  refine ⟨clips.link.mono fun packet about => ?_, clips.speaker⟩
  rcases about with type | type <;> simp [Soundless, type]

theorem logs_muted (logs : Logs host client next) : Muted host client next :=
  ⟨logs.link.mono fun _ logging => ⟨logging.ne (by decide), logging.ne (by decide)⟩, logs.speaker⟩

theorem acknowledges_muted {packet : Packet} {time : Int} (acknowledges : Acknowledges host client next packet time) :
    Muted host client next :=
  ⟨acknowledges.moves.mono fun _ acking => ⟨acking.ne (by decide) (by decide), acking.ne (by decide) (by decide)⟩,
    acknowledges.speaker⟩

theorem forwardToDecoder_muted (packet : Packet) : Muted host client (forwardToDecoder host client packet) := by
  rw [forwardToDecoder]
  split
  · exact .of_same rfl rfl
  · exact .refl client

theorem processMmapCaps_muted (hello : Yaml) : Muted host client (processMmapCaps client hello) := by
  rw [processMmapCaps]
  split
  · exact .refl client
  · split
    · exact .refl client
    · dsimp only
      split
      · exact .of_same rfl rfl
      · exact .of_same rfl rfl
      · exact ((Frame.refl _).quit _ rfl).after rfl rfl

/-- The last thing a hello is looked at for is sound. -/
theorem processHello_cases {hello : Yaml} (returned : processHello host client hello = .ok next) :
    ∃ middle, Muted host client middle ∧ (next = middle ∨ next = answerAsyncAudio host middle hello) := by
  have checked : Muted host client (processMmapCaps client hello) := processMmapCaps_muted hello
  cases hello with
  | hash entries =>
    simp only [processHello] at returned
    split at returned
    next => cases returned
    next version _ =>
      cases returned
      refine ⟨_, ?_, .inr rfl⟩
      repeat' split
      all_goals exact checked.before rfl rfl
  | _ =>
    cases returned
    exact ⟨_, checked, .inl rfl⟩

/-- Sound is neither changed nor spoken of. -/
structure Apart (client next : XpraClient) : Prop where
  sent : ∃ packets, next.sent = client.sent ++ packets ∧ ∀ packet ∈ packets, Soundless packet
  speaker : next.toSpeaker = client.toSpeaker

theorem Apart.of_same (sent : next.sent = client.sent) (speaker : next.toSpeaker = client.toSpeaker) : Apart client next :=
  ⟨⟨[], by rw [sent, List.append_nil], by simp⟩, speaker⟩

theorem Apart.trans {last : XpraClient} (left : Apart client next) (right : Apart next last) : Apart client last := by
  obtain ⟨packets, sent, soundless⟩ := left.sent
  obtain ⟨later, more, others⟩ := right.sent
  refine ⟨⟨packets ++ later, by rw [more, sent, List.append_assoc], ?_⟩, right.speaker.trans left.speaker⟩
  intro packet member
  exact (List.mem_append.mp member).elim (soundless packet) (others packet)

theorem Apart.of_muted (muted : Muted host client next) : Apart client next := ⟨muted.link.effect.sent, muted.kept⟩

theorem doProcessPacket_apart (packet : Packet) {kind : Kind} (other : kind ∉ audioKinds) (unwelcoming : kind ≠ .hello) :
    Returns (Apart client) (doProcessPacket host env client kind packet) := by
  by_cases started : kind = .startupComplete
  · subst started
    exact .ok (.of_same rfl rfl)
  have weakened (muted : Returns (Muted host client) (doProcessPacket host env client kind packet)) :
      Returns (Apart client) (doProcessPacket host env client kind packet) := muted.mono fun _ => Apart.of_muted
  refine weakened ?_
  by_cases special : kind ∈ specialKinds
  · simp only [specialKinds, List.mem_append, List.mem_cons, List.not_mem_nil, or_false, or_assoc] at special
    rcases special with rfl | rfl | rfl | rfl | rfl | rfl | rfl | rfl | rfl | rfl | rfl | rfl | about
    · exact absurd rfl unwelcoming
    · exact processChallenge_muted packet
    · exact .map fun _ => answerChallenge_muted _
    · exact .ok cancelAuth_muted
    · exact .map fun _ => showAuthDialog_muted _
    · exact .ok (.of_same rfl rfl)
    · exact fun next returned => acknowledges_muted (processDrawDecoded_ok client packet returned)
    · exact fun next returned => acknowledges_muted (processDrawFailed_ok client packet returned)
    · intro next returned
      obtain ⟨middle, lost, rfl⟩ := map_ok returned
      exact (processLostWindow_silent env client packet middle lost).muted.trans (forwardToDecoder_muted packet)
    · exact .ok (forwardToDecoder_muted packet)
    · exact absurd rfl started
    · exact fun next returned => logs_muted (sendLog_logs env client packet next returned)
    · exact fun next returned => clips_muted (clipboard_clips env client packet about returned)
  · exact (doProcessPacket_silent env client packet kind special other).mono fun _ => Frame.muted

theorem windowEvent_muted (host : Host) (env : Env) (client : XpraClient) (id : WindowId) (event : WindowEvent) : Muted host client (windowEvent host env client id event) := by
  rw [windowEvent]
  split
  · exact handleAuthDialogEvent_muted event
  · split
    · exact (handleWindowEvent_silent env client _ event).muted
    · exact .refl client

theorem resumed_muted (host : Host) (env : Env) (client : XpraClient) : Muted host client (resumed host env client) := by
  rw [resumed]
  dsimp only
  split
  · exact .of_same rfl rfl
  · exact (sendHello_muted none).after rfl rfl

/-! ### Steps -/

variable {event : Event} {system after : System}

/-- What the UI thread takes up next. -/
def heard (host : Host) (event : Event) (system : System) : Option Kind :=
  match event with
  | .deliver _ => system.client.proxy.head?.map (kindOf host)
  | _ => none

def soundKinds : List Kind := .hello :: audioKinds

/-- A step handles a packet about sound, is a turn of the worker's, or leaves sound
alone. -/
inductive SoundStep (host : Host) (system : System) : Event → System → Prop where
  | handled (env : Env) (packet : Packet) (rest : List Packet) (client : XpraClient) (queued : system.client.proxy = packet :: rest)
      (kind : kindOf host packet ∈ soundKinds)
      (returned : doProcessPacket host env { system.client with proxy := rest } (kindOf host packet) packet = .ok client) :
      SoundStep host system (.deliver env) { system with client }
  | turned (running connected : Bool) (worker : AudioWorker) (held : system.client.audioWorker = some worker) :
      SoundStep host system (.audioTurn running connected) { system with client := { system.client with
        audioWorker := some { queue := worker.queue.tail, running, connected } } }
  | apart (event : Event) (next : System) (unheard : ∀ kind ∈ heard host event system, kind ∉ soundKinds)
      (other : ∀ running connected, event ≠ .audioTurn running connected) (apart : Apart system.client next.client) :
      SoundStep host system event next

theorem soundStep_of_moved (moved : System.step host event system = .ok after) : SoundStep host system event after := by
  cases step_of_moved moved with
  | delivered env packet rest client queued handled =>
    rw [userEvent_eq] at handled
    by_cases sound : kindOf host packet ∈ soundKinds
    · exact .handled env packet rest client queued sound handled
    · have other : kindOf host packet ∉ audioKinds := fun member => sound (List.mem_cons_of_mem _ member)
      have unwelcoming : kindOf host packet ≠ .hello := fun same => sound (same ▸ List.mem_cons_self)
      have apart := doProcessPacket_apart packet other unwelcoming client handled
      refine .apart _ _ ?_ nofun ⟨apart.sent, apart.speaker⟩
      simpa [heard, queued] using sound
  | audio running connected worker held => exact .turned running connected worker held
  | lost | invalid | received | posted | answered | decoded | written => exact .apart _ _ nofun nofun (.of_same rfl rfl)
  | input id input env => exact .apart _ _ nofun nofun (.of_muted (windowEvent_muted host env system.client id input))
  | resumed env => exact .apart _ _ nofun nofun (.of_muted (resumed_muted host env system.client))

end Xpra.Proofs.Sound
