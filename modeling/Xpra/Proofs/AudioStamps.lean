import Xpra.Proofs.AudioStream

/-! The stamps of the audio packets. What the worker is given goes under the number of
the stream, and it has come in a packet that is not stamped with an older one. -/

namespace Xpra.Proofs.AudioStamps
open Xpra.Net Xpra.Client Library Handlers Sound AudioMoves AudioStream

/-! ### Headers and payloads -/

/-- A header or a payload, and the number it is given to the worker under. -/
inductive Gives : Command → UInt64 → Bytes → Prop where
  | header (sequence : UInt64) (header : OpusHeader) (opusHead : Bytes) : Gives (.configure sequence header opusHead) sequence opusHead
  | payload (sequence : UInt64) (data : Bytes) (timestampNs durationNs : Option Int64) (arrivalMs : UInt64) :
      Gives (.packet sequence data timestampNs durationNs arrivalMs) sequence data

/-- The buffers of a packet. -/
def Brings (incoming : IncomingAudio) (data : Bytes) : Prop := data ∈ incoming.headers ∨ data = incoming.data

section Packets
variable {host : Host} {env : Env} {client : XpraClient} {command : Command} {sequence : UInt64} {data buffer : Bytes}

theorem mem_queued {sent : Command} {critical : Bool} (member : command ∈ queued host client sent critical) : command = sent := by
  rw [queued] at member
  split at member
  next => exact List.mem_singleton.mp member
  next => cases member

theorem stop_gives (member : command ∈ stopCommands host client) : ¬ Gives command sequence data := by
  intro gives
  cases mem_queued member
  cases gives

theorem begin_gives {incoming : IncomingAudio} (member : command ∈ beginCommands host client incoming) :
    ¬ Gives command sequence data := by
  rw [beginCommands] at member
  split at member
  next => exact stop_gives member
  next =>
    intro gives
    cases mem_queued member
    cases gives

theorem buffer_gives {timestampNs durationNs : Option Int64} (member : command ∈ opusBufferCommands host env client buffer timestampNs durationNs)
    (gives : Gives command sequence data) : sequence = client.audioProtocol.sequence ∧ data = buffer := by
  rw [opusBufferCommands] at member
  split at member
  next =>
    split at member
    next => exact absurd gives (stop_gives member)
    next =>
      cases mem_queued member
      cases gives
      exact ⟨rfl, rfl⟩
  next =>
    split at member
    next => cases member
    next =>
      split at member
      next => cases member
      next =>
        cases mem_queued member
        cases gives
        exact ⟨rfl, rfl⟩

/-- As long as the stream goes on, its number stays. -/
theorem enqueueAudio_sequence {sent : Command} {critical : Bool} {next : XpraClient}
    (went : enqueueAudio host client sent critical = (true, next)) : next.audioProtocol = client.audioProtocol := by
  rw [enqueueAudio] at went
  split at went
  next => cases went
  next =>
    dsimp only at went
    split at went
    next =>
      cases went
      rfl
    next => cases went
    next => split at went <;> cases went

theorem buffer_sequence {timestampNs durationNs : Option Int64} {next : XpraClient}
    (went : processOpusBuffer host env client buffer timestampNs durationNs = (true, next)) :
    next.audioProtocol.sequence = client.audioProtocol.sequence := by
  rw [processOpusBuffer] at went
  dsimp only at went
  split at went
  next =>
    split at went
    next => cases went
    next =>
      split at went
      next => cases went
      next middle queued =>
        cases went
        exact (congrArg AudioProtocol.sequence (enqueueAudio_sequence queued) : middle.audioProtocol.sequence = _)
  next =>
    split at went
    next =>
      cases went
      rfl
    next =>
      split at went
      next =>
        cases went
        rfl
      next => exact congrArg AudioProtocol.sequence (enqueueAudio_sequence went)

theorem headers_sequence {headers : List Bytes} {next : XpraClient} (went : processOpusHeaders host env headers client = (true, next)) :
    next.audioProtocol.sequence = client.audioProtocol.sequence := by
  induction headers generalizing client with
  | nil =>
    cases went
    rfl
  | cons header headers ih =>
    rw [processOpusHeaders] at went
    split at went
    next => cases went
    next middle here => rw [ih went, buffer_sequence here]

theorem headers_give {headers : List Bytes} (member : command ∈ opusHeadersCommands host env headers client)
    (gives : Gives command sequence data) : sequence = client.audioProtocol.sequence ∧ data ∈ headers := by
  induction headers generalizing client with
  | nil => cases member
  | cons header headers ih =>
    rw [opusHeadersCommands] at member
    rcases List.mem_append.mp member with first | later
    · obtain ⟨same, rfl⟩ := buffer_gives first gives
      exact ⟨same, List.mem_cons_self⟩
    · split at later
      next => cases later
      next middle here =>
        obtain ⟨same, among⟩ := ih later
        exact ⟨same.trans (buffer_sequence here), List.mem_cons_of_mem _ among⟩

theorem play_gives {incoming : IncomingAudio} (member : command ∈ playCommands host env client incoming)
    (gives : Gives command sequence data) : sequence = client.audioProtocol.sequence ∧ Brings incoming data := by
  rw [playCommands] at member
  split at member
  next => exact absurd gives (stop_gives member)
  next =>
    split at member
    next => exact absurd gives (stop_gives member)
    next =>
      rcases List.mem_append.mp member with headers | payload
      · obtain ⟨same, among⟩ := headers_give headers gives
        exact ⟨same, .inl among⟩
      · split at payload
        next => cases payload
        next middle here =>
          split at payload
          next => cases payload
          next =>
            obtain ⟨same, rfl⟩ := buffer_gives payload gives
            exact ⟨same.trans (headers_sequence here), .inr rfl⟩

/-- A packet that starts a stream gives it its stamp. -/
theorem begun_sequence {incoming : IncomingAudio} {next : XpraClient} (began : beginAudioStream host client incoming = (true, next)) :
    next.audioProtocol.sequence = incoming.metadata.sequence.getD client.audioProtocol.sequence := by
  rw [beginAudioStream] at began
  split at began
  next => cases began
  next current protocol started =>
    split at began
    next => cases began
    next middle queued =>
      cases began
      rw [reportAudioLatency_protocol]
      dsimp only
      rw [enqueueAudio_sequence queued]
      rw [AudioProtocol.begin] at started
      split at started
      next => cases started
      next =>
        split at started
        next =>
          cases started
          rfl
        next => cases started

/-- The stamp of a packet that has brought what goes under a number. -/
def OwnStamp (incoming : IncomingAudio) (sequence : UInt64) : Prop :=
  incoming.metadata.sequence = none ∨ incoming.metadata.sequence = some sequence

def LaterStamp (incoming : IncomingAudio) (sequence : UInt64) : Prop :=
  incoming.metadata.startOfStream = false ∧ ∃ stamp, incoming.metadata.sequence = some stamp ∧ sequence < stamp

/-- The check against the current number comes first, and only a start changes the number. -/
theorem audio_gives {incoming : IncomingAudio} (member : command ∈ audioCommands host env client incoming)
    (gives : Gives command sequence data) :
    Brings incoming data ∧ (OwnStamp incoming sequence ∨ LaterStamp incoming sequence) := by
  rw [audioCommands] at member
  split at member
  next => cases member
  next accepted =>
    split at member
    next =>
      rcases List.mem_append.mp member with start | later
      · exact absurd gives (begin_gives start)
      · split at later
        next => cases later
        next middle began =>
          obtain ⟨same, brought⟩ := play_gives later gives
          refine ⟨brought, .inl ?_⟩
          rw [begun_sequence began] at same
          rw [OwnStamp, same]
          cases incoming.metadata.sequence with
          | none => exact .inl rfl
          | some stamp => exact .inr rfl
    next continues =>
      split at member
      next => cases member
      next =>
        obtain ⟨rfl, brought⟩ := play_gives member gives
        refine ⟨brought, ?_⟩
        cases stamped : incoming.metadata.sequence with
        | none => exact .inl (.inl stamped)
        | some stamp =>
          have fresh : client.audioProtocol.sequence ≤ stamp := by
            simpa [AudioProtocol.acceptsSequence, stamped] using accepted
          rcases UInt64.le_iff_lt_or_eq.mp fresh with later | same
          · exact .inr ⟨Bool.eq_false_of_not_eq_true continues, stamp, stamped, later⟩
          · exact .inl (.inr (same ▸ stamped))

end Packets

/-! ### Runs -/

/-- The packet of audio that a step takes up. -/
def Handles (host : Host) (event : Event) (system : System) (incoming : IncomingAudio) : Prop :=
  ∃ env packet rest, event = .deliver env ∧ system.client.proxy = packet :: rest ∧ kindOf host packet = .audioData ∧
    IncomingAudio.parse host packet = .ok (.ok incoming)

/-- Every header and every payload that a step gives to the worker has come in a packet
whose stamp suits the number it goes under. -/
def Stamped (suits : IncomingAudio → UInt64 → Prop) (host : Host) (event : Event) (system : System) : Prop :=
  ∀ command ∈ commands host event system, ∀ sequence data, Gives command sequence data →
    ∃ incoming, Handles host event system incoming ∧ Brings incoming data ∧ suits incoming sequence

theorem step_stamped (host : Host) (event : Event) (system : System) :
    Stamped (fun incoming sequence => OwnStamp incoming sequence ∨ LaterStamp incoming sequence) host event system := by
  intro command member sequence data gives
  cases event with
  | deliver env =>
    cases queued : system.client.proxy with
    | nil => simp [commands, queued] at member
    | cons packet rest =>
      simp only [commands, queued] at member
      split at member
      next kind =>
        rw [audioDataCommands] at member
        split at member
        next => cases member
        next =>
          split at member
          next incoming parsed =>
            exact ⟨incoming, ⟨env, packet, rest, rfl, queued, kind, parsed⟩, audio_gives member gives⟩
          next => cases member
      next => cases member
  | _ => cases member

/-- In every run, what a step adds to the worker's queue are its commands, and nothing in
them comes from a packet with an older stamp. -/
theorem audio_keeps_stamps (host : Host) (events : List Event) (system : System) :
    Machine.Along (System.step host) (fun event system =>
      Stamped (fun incoming sequence => OwnStamp incoming sequence ∨ LaterStamp incoming sequence) host event system ∧
        ∀ next, System.step host event system = .ok next → Enqueues host event system next) events system := by
  apply Machine.Along.of_forall
  intro event system
  exact ⟨step_stamped host event system, fun next moved => (step_advance moved).enqueues⟩

/-! ### A stamp that is ahead -/

def aheadText : Bytes := textOf "[audio-data, opus, \x27\x27, \x7bsequence: 5\x7d]"

def ahead : List Yaml := [.string "audio-data", .string "opus", .string "", .hash [(.string "sequence", .integer 5)]]

def listener : Host := { Host.plain with
  windows := true
  loadYaml := fun payload => match ((aheadText, ahead) :: spoken).lookup payload with
    | some items => .ok [.array items]
    | none => .error "invalid utf-8 sequence" }

/-- The stream has begun without a stamp, and a header that is stamped 5 is there. -/
def opening : List Event :=
  [.resumed {}, arrives helloText fun _ => none, .deliver {}, arrives offerText fun _ => none, .deliver {},
    arrives startText fun _ => none, .deliver {}, arrives aheadText (carrying opusHead)]

def aheadPacket : Packet := { main := ahead, raw := carrying opusHead }

def aheadIncoming : IncomingAudio := { codec := "opus", data := opusHead, metadata := { sequence := some 5 }, headers := [] }

theorem ahead_parsed : IncomingAudio.parse listener aheadPacket = .ok (.ok aheadIncoming) := rfl

/-- The header goes under the number of the stream that is playing. -/
theorem ahead_given (client : XpraClient) {queue : List Command} (negotiated : client.audioProtocol.negotiated = true)
    (active : client.audioProtocol.active = true) (low : client.audioProtocol.sequence < 5)
    (held : client.audioWorker = some { queue }) (room : queue.length < COMMAND_CAPACITY) (env : Env) :
    .configure client.audioProtocol.sequence opusHeader opusHead ∈ audioDataCommands listener env client aheadPacket := by
  have accepted : client.audioProtocol.acceptsSequence aheadIncoming.metadata.sequence = true := by
    simpa [AudioProtocol.acceptsSequence, aheadIncoming] using UInt64.le_of_lt low
  have taken (command : Command) : AudioWorker.send { queue } command = (.ok (), { queue := queue ++ [command] }) := by
    simp [AudioWorker.send, Nat.not_le.mpr room]
  have sent : (enqueueAudio listener client (.configure client.audioProtocol.sequence opusHeader opusHead) true).1 = true := by
    simp only [enqueueAudio, held, taken]
  have buffered : opusBufferCommands listener env client opusHead none none =
      [.configure client.audioProtocol.sequence opusHeader opusHead] := by
    simp only [opusBufferCommands, opusHead_marked, if_true, opusHead_parsed, queued, sent]
  have played : playCommands listener env client aheadIncoming = opusBufferCommands listener env client opusHead none none := rfl
  have started : aheadIncoming.metadata.startOfStream = false := rfl
  rw [audioDataCommands, ahead_parsed]
  simp [negotiated, held, audioCommands, accepted, started, active, played, buffered]

theorem opening_reaches : ∃ system, System.run listener opening listening = .ok system ∧
    system.client.proxy = [aheadPacket] ∧ system.client.audioWorker = some { queue := [.reset 0] } ∧
    system.client.audioProtocol =
      { capabilitiesSent := true, negotiated := true, active := true, sequence := 0, headerSeen := false, serverAvSync := true } :=
  ⟨_, rfl, rfl, rfl, rfl⟩

/-- Under the number 0 the worker is given a header that is stamped 5. -/
theorem stamp_ahead_played :
    ¬ Machine.Along (System.step listener) (Stamped OwnStamp listener) (opening ++ [.deliver {}]) listening := by
  intro along
  obtain ⟨system, reached, proxy, worker, protocol⟩ := opening_reaches
  obtain ⟨stamped, -⟩ := ((Machine.along_append (System.step listener)).mp along).2 system reached
  have kind : kindOf listener aheadPacket = .audioData := rfl
  have taken : commands listener (.deliver {}) system = audioDataCommands listener {} { system.client with proxy := [] } aheadPacket := by
    rw [commands, proxy]
    exact if_pos kind
  have given : .configure system.client.audioProtocol.sequence opusHeader opusHead ∈ commands listener (.deliver {}) system := by
    have negotiated : system.client.audioProtocol.negotiated = true := by rw [protocol]
    have active : system.client.audioProtocol.active = true := by rw [protocol]
    have low : system.client.audioProtocol.sequence < 5 := by
      rw [protocol]
      decide
    rw [taken]
    exact ahead_given { system.client with proxy := [] } negotiated active low worker (by decide) {}
  obtain ⟨incoming, ⟨env, packet, rest, -, queued, -, parsed⟩, -, own⟩ := stamped _ given _ _ (.header _ _ _)
  rw [proxy] at queued
  cases queued
  rw [ahead_parsed] at parsed
  cases parsed
  rw [protocol] at own
  revert own
  simp [OwnStamp, aheadIncoming]

end Xpra.Proofs.AudioStamps
