import Xpra.Library.Utf8
import Xpra.Proofs.AudioMoves

/-! The streams of audio that the worker is given. Its commands come in streams, one
after the other: a reset, a header, packets and an end, all with the sequence number
of the stream. The numbers grow, and once the worker is given up nothing is said of
sound any more. -/

namespace Xpra.Proofs.AudioStream
open Xpra.Net Xpra.Client Library Handlers Sound AudioMoves

/-! ### Streams of commands -/

def Boundary : Command → Prop
  | .reset _ | .finish _ => True
  | .configure _ _ _ | .packet _ _ _ _ _ => False

/-- The commands since the last reset, which had this number. -/
def Current (sequence : UInt64) (log stream : List Command) : Prop :=
  (∃ earlier, log = earlier ++ .reset sequence :: stream) ∧ ∀ command ∈ stream, ¬ Boundary command

def Begun (sequence : UInt64) (log : List Command) : Prop := ∃ stream, Current sequence log stream

def Opened (sequence : UInt64) (log : List Command) : Prop :=
  ∃ stream, Current sequence log stream ∧ ∃ header opusHead, .configure sequence header opusHead ∈ stream

/-- Wherever there is a packet, the commands before it have opened its stream. -/
def InStreams (log : List Command) : Prop :=
  ∀ before sequence data timestampNs durationNs arrivalMs,
    before ++ [.packet sequence data timestampNs durationNs arrivalMs] <+: log → Opened sequence before

section Streams
variable {sequence : UInt64} {log stream : List Command} {command : Command}

theorem Current.snoc (current : Current sequence log stream) (inner : ¬ Boundary command) :
    Current sequence (log ++ [command]) (stream ++ [command]) := by
  obtain ⟨⟨earlier, rfl⟩, inside⟩ := current
  refine ⟨⟨earlier, by simp⟩, fun other member => ?_⟩
  rcases List.mem_append.mp member with before | last
  · exact inside other before
  · rwa [List.mem_singleton.mp last]

theorem Begun.snoc (begun : Begun sequence log) (inner : ¬ Boundary command) : Begun sequence (log ++ [command]) := by
  obtain ⟨stream, current⟩ := begun
  exact ⟨stream ++ [command], current.snoc inner⟩

theorem Opened.snoc (opened : Opened sequence log) (inner : ¬ Boundary command) : Opened sequence (log ++ [command]) := by
  obtain ⟨stream, current, header, opusHead, member⟩ := opened
  exact ⟨stream ++ [command], current.snoc inner, header, opusHead, List.mem_append_left _ member⟩

theorem begun_reset (sequence : UInt64) (log : List Command) : Begun sequence (log ++ [.reset sequence]) :=
  ⟨[], ⟨log, rfl⟩, nofun⟩

theorem Begun.configured (begun : Begun sequence log) (header : OpusHeader) (opusHead : Bytes) :
    Opened sequence (log ++ [.configure sequence header opusHead]) := by
  obtain ⟨stream, current⟩ := begun
  exact ⟨_, current.snoc id, header, opusHead, List.mem_append_right _ (List.mem_singleton_self _)⟩

theorem InStreams.snoc (streams : InStreams log)
    (fine : ∀ sequence data timestampNs durationNs arrivalMs,
      command = .packet sequence data timestampNs durationNs arrivalMs → Opened sequence log) : InStreams (log ++ [command]) := by
  intro before sequence data timestampNs durationNs arrivalMs found
  rcases List.prefix_concat_iff.mp found with whole | earlier
  · obtain ⟨rfl, last⟩ := List.append_inj' whole rfl
    exact fine sequence data timestampNs durationNs arrivalMs (List.cons.inj last).1.symm
  · exact streams before sequence data timestampNs durationNs arrivalMs earlier

end Streams

/-! ### What holds in between -/

def newSequence (value : UInt64) : Json := Audio.controlPacket "new-sequence" value

/-- Each number is above the one before, as far as there are any above it. -/
def Rising (sent : List Json) : Prop :=
  sent.Pairwise fun earlier later =>
    ∀ first second, earlier = newSequence first → later = newSequence second → first < second ∨ first.toNat + 1 = 2 ^ 64

/-- What holds even while a stream is being set up or taken down. -/
structure Lawful (start : UInt64) (client : XpraClient) (log : List Command) : Prop where
  since : start ≤ client.audioProtocol.sequence
  streams : InStreams log
  given : client.audioWorker = none → client.audioProtocol.negotiated = false
  announced : ∀ value, newSequence value ∈ client.sent → value ≤ client.audioProtocol.sequence
  rising : Rising client.sent

structure Orderly (start : UInt64) (client : XpraClient) (log : List Command) : Prop extends Lawful start client log where
  begun : client.audioWorker.isSome → client.audioProtocol.active = true → Begun client.audioProtocol.sequence log
  opened : client.audioWorker.isSome → client.audioProtocol.headerSeen = true → Opened client.audioProtocol.sequence log

/-- Of the protocol, what these are about. -/
def stage (protocol : AudioProtocol) : UInt64 × Bool × Bool × Bool :=
  (protocol.sequence, protocol.active, protocol.headerSeen, protocol.negotiated)

structure Aside (client next : XpraClient) : Prop where
  stage : stage next.audioProtocol = stage client.audioProtocol
  worker : next.audioWorker = client.audioWorker
  sent : ∃ packets, next.sent = client.sent ++ packets ∧ ∀ packet ∈ packets, ∀ value, packet ≠ newSequence value

section Between
variable {host : Host} {start : UInt64} {client next : XpraClient} {log : List Command}

theorem newSequence_injective {first second : UInt64} (same : newSequence first = newSequence second) : first = second := by
  have number : (first.toNat : Int) = second.toNat := by simpa [newSequence, Audio.controlPacket] using same
  exact UInt64.toNat_inj.mp (Int.ofNat_inj.mp number)

namespace Aside

theorem refl (client : XpraClient) : Aside client client := ⟨rfl, rfl, [], by simp, by simp⟩

theorem trans {last : XpraClient} (left : Aside client next) (right : Aside next last) : Aside client last := by
  obtain ⟨packets, sent, fine⟩ := left.sent
  obtain ⟨later, more, others⟩ := right.sent
  refine ⟨right.stage.trans left.stage, right.worker.trans left.worker, packets ++ later, by simp [more, sent], ?_⟩
  intro packet member
  rcases List.mem_append.mp member with first | last
  · exact fine packet first
  · exact others packet last

theorem before {last : XpraClient} (aside : Aside client next) (same : AudioStream.stage last.audioProtocol = AudioStream.stage next.audioProtocol)
    (worker : last.audioWorker = next.audioWorker) (sent : last.sent = next.sent) : Aside client last :=
  ⟨same.trans aside.stage, worker.trans aside.worker, by rw [sent]; exact aside.sent⟩

theorem write (host : Host) (client : XpraClient) {packet : Json} (other : ∀ value, packet ≠ newSequence value) :
    Aside client (client.writeJson host packet) := by
  refine ⟨rfl, rfl, ?_⟩
  rcases writeJson_cases host client.toLink packet with ⟨-, same⟩ | ⟨-, handed, -⟩
  · exact ⟨[], by rw [XpraClient.writeJson, same, List.append_nil], by simp⟩
  · exact ⟨[packet], handed, by simpa using other⟩

theorem control (host : Host) (client : XpraClient) {command : String} (other : command ≠ "new-sequence") (argument : Json) :
    Aside client (sendAudioControl host client command argument) := by
  refine .write host client fun value same => other ?_
  have fields : command = "new-sequence" ∧ argument = .number value.toNat := by
    simpa [newSequence, Audio.controlPacket] using same
  exact fields.1

theorem of_apart (apart : Apart client next) : Aside client next := by
  obtain ⟨packets, sent, soundless⟩ := apart.sent
  refine ⟨by rw [apart.speaker], by rw [apart.speaker], packets, sent, ?_⟩
  rintro _ member value rfl
  exact (soundless _ member).1 rfl

theorem report (host : Host) (client : XpraClient) (totalMs : UInt32) : Aside client (reportAudioLatency host client totalMs) := by
  rw [reportAudioLatency]
  split
  · exact .refl client
  · dsimp only
    split
    · have updated : Aside client { client with audioSyncReporter := (client.audioSyncReporter.update totalMs).2 } :=
        ⟨rfl, rfl, [], by simp, by simp⟩
      exact updated.trans (.control host _ (by decide : "sync" ≠ "new-sequence") _)
    · exact ⟨rfl, rfl, [], by simp, by simp⟩

theorem restart (host : Host) (client : XpraClient) (audioSyncReporter : LatencyReporter) (totalMs : UInt32) :
    Aside client (reportAudioLatency host { client with audioSyncReporter } totalMs) := by
  have reset : Aside client { client with audioSyncReporter } := (Aside.refl client).before rfl rfl rfl
  exact reset.trans (.report host _ totalMs)

end Aside

theorem Rising.append {sent packets : List Json} (rising : Rising sent) (other : ∀ packet ∈ packets, ∀ value, packet ≠ newSequence value) :
    Rising (sent ++ packets) := by
  refine List.pairwise_append.mpr ⟨rising, ?_, ?_⟩
  · exact List.pairwise_of_forall_mem_list fun _ _ later member _ second _ same => absurd same (other later member second)
  · exact fun _ _ later member _ second _ same => absurd same (other later member second)

theorem Rising.snoc {sent : List Json} (rising : Rising sent) {value : UInt64}
    (above : ∀ first, newSequence first ∈ sent → first < value ∨ first.toNat + 1 = 2 ^ 64) : Rising (sent ++ [newSequence value]) := by
  refine List.pairwise_append.mpr ⟨rising, List.pairwise_singleton _ _, ?_⟩
  rintro earlier member later last first second rfl same
  rw [← newSequence_injective ((List.mem_singleton.mp last).symm.trans same)]
  exact above first member

theorem Lawful.aside (lawful : Lawful start client log) (aside : Aside client next) : Lawful start next log := by
  obtain ⟨packets, sent, other⟩ := aside.sent
  have sequence : next.audioProtocol.sequence = client.audioProtocol.sequence := congrArg Prod.fst aside.stage
  have negotiated : next.audioProtocol.negotiated = client.audioProtocol.negotiated := congrArg (fun view => view.2.2.2) aside.stage
  refine ⟨by rw [sequence]; exact lawful.since, lawful.streams, ?_, ?_, ?_⟩
  · rw [aside.worker, negotiated]
    exact lawful.given
  · intro value member
    rw [sent] at member
    rw [sequence]
    rcases List.mem_append.mp member with earlier | later
    · exact lawful.announced value earlier
    · exact absurd rfl (other _ later value)
  · rw [sent]
    exact lawful.rising.append other

theorem Orderly.aside (orderly : Orderly start client log) (aside : Aside client next) : Orderly start next log := by
  have sequence : next.audioProtocol.sequence = client.audioProtocol.sequence := congrArg Prod.fst aside.stage
  have active : next.audioProtocol.active = client.audioProtocol.active := congrArg (fun view => view.2.1) aside.stage
  have header : next.audioProtocol.headerSeen = client.audioProtocol.headerSeen := congrArg (fun view => view.2.2.1) aside.stage
  refine ⟨orderly.toLawful.aside aside, ?_, ?_⟩
  · rw [aside.worker, active, sequence]
    exact orderly.begun
  · rw [aside.worker, header, sequence]
    exact orderly.opened

theorem finish_sequence (protocol : AudioProtocol) : protocol.sequence ≤ protocol.finish.sequence ∧
    (protocol.sequence < protocol.finish.sequence ∨ protocol.sequence.toNat + 1 = 2 ^ 64) := by
  rw [AudioProtocol.finish]
  dsimp only
  rw [UInt64.le_iff_toNat_le, UInt64.lt_iff_toNat_lt]
  have bound := protocol.sequence.toNat_lt
  split
  next room =>
    have next : (protocol.sequence + 1).toNat = protocol.sequence.toNat + 1 := by
      rw [UInt64.toNat_add]
      exact Nat.mod_eq_of_lt room
    omega
  next full => omega

theorem writeJson_sent (host : Host) (link : Link) (packet : Json) :
    (link.writeJson host packet).sent = link.sent ∨ (link.writeJson host packet).sent = link.sent ++ [packet] := by
  rcases writeJson_cases host link packet with ⟨-, same⟩ | ⟨-, handed, -⟩
  · exact .inl (by rw [same])
  · exact .inr handed

/-- A stream is over, and the server is told the next number. -/
theorem Lawful.finish (host : Host) (lawful : Lawful start client log) :
    Orderly start (sendAudioControl host { client with audioProtocol := client.audioProtocol.finish } "new-sequence"
      client.audioProtocol.finish.sequence) log := by
  obtain ⟨grown, above⟩ := finish_sequence client.audioProtocol
  have highest (first : UInt64) (member : newSequence first ∈ client.sent) :
      first < client.audioProtocol.finish.sequence ∨ first.toNat + 1 = 2 ^ 64 := by
    have below := lawful.announced first member
    rcases above with above | full
    · exact .inl (UInt64.lt_of_le_of_lt below above)
    · rw [UInt64.le_iff_toNat_le] at below grown
      rw [UInt64.lt_iff_toNat_lt]
      omega
  have sent : (sendAudioControl host { client with audioProtocol := client.audioProtocol.finish } "new-sequence"
        client.audioProtocol.finish.sequence).sent = client.sent ∨
      (sendAudioControl host { client with audioProtocol := client.audioProtocol.finish } "new-sequence"
        client.audioProtocol.finish.sequence).sent = client.sent ++ [newSequence client.audioProtocol.finish.sequence] :=
    writeJson_sent host client.toLink _
  refine ⟨⟨UInt64.le_trans lawful.since grown, lawful.streams, lawful.given, ?_, ?_⟩, nofun, nofun⟩
  · intro value member
    have listed : newSequence value ∈ client.sent ∨ value = client.audioProtocol.finish.sequence := by
      rcases sent with same | same
      · exact .inl (same ▸ member)
      · rw [same] at member
        exact (List.mem_append.mp member).imp id fun last => newSequence_injective (List.mem_singleton.mp last)
    rcases listed with earlier | rfl
    · exact UInt64.le_trans (lawful.announced value earlier) grown
    · exact UInt64.le_refl _
  · rcases sent with same | same
    · rw [same]
      exact lawful.rising
    · rw [same]
      exact lawful.rising.snoc highest

end Between

/-! ### The handlers -/

/-- What a handler does that gets these commands into the queue. -/
structure Turn (client next : XpraClient) (commands : List Command) : Prop where
  filled : Filled client next commands
  orderly : ∀ start log, Orderly start client log → Orderly start next (log ++ commands)

section Handlers
variable {host : Host} {env : Env} {start : UInt64} {client next : XpraClient} {log commands : List Command}

theorem Turn.of_aside (aside : Aside client next) : Turn client next [] := by
  refine ⟨fun after held => ⟨after, by rw [← aside.worker, held], by simp⟩, fun start log orderly => ?_⟩
  rw [List.append_nil]
  exact orderly.aside aside

theorem Turn.refl (client : XpraClient) : Turn client client [] := .of_aside (.refl client)

theorem Turn.trans {last : XpraClient} {later : List Command} (left : Turn client next commands) (right : Turn next last later) :
    Turn client last (commands ++ later) := by
  constructor
  · intro after held
    obtain ⟨middle, between, rfl⟩ := right.filled after held
    obtain ⟨before, first, rfl⟩ := left.filled middle between
    exact ⟨before, first, by rw [List.append_assoc]⟩
  · intro start log orderly
    rw [← List.append_assoc]
    exact right.orderly start _ (left.orderly start log orderly)

theorem Turn.before {last : XpraClient} (turn : Turn client next commands) (aside : Aside next last) : Turn client last commands := by
  have whole := turn.trans (.of_aside aside)
  rwa [List.append_nil] at whole

theorem disableAudio_orderly (host : Host) (lawful : Lawful start client log) : Orderly start (disableAudio host client) log := by
  rw [disableAudio]
  split
  next none =>
    have gone : client.audioWorker = .none := Option.isNone_iff_eq_none.mp none
    exact ⟨lawful, fun there => by simp [gone] at there, fun there => by simp [gone] at there⟩
  next =>
    have stopped := lawful.aside (.control host client (by decide : "stop" ≠ "new-sequence") client.audioProtocol.sequence)
    have finished := stopped.finish host
    refine ⟨⟨finished.since, finished.streams, fun _ => rfl, finished.announced, finished.rising⟩, ?_, ?_⟩
    all_goals
      intro held
      cases held

theorem disableAudio_turn (host : Host) (client : XpraClient) : Turn client (disableAudio host client) [] := by
  refine ⟨fun after held => ?_, fun start log orderly => ?_⟩
  · rw [disableAudio_worker] at held
    cases held
  · rw [List.append_nil]
    exact disableAudio_orderly host orderly.toLawful

theorem Lawful.enqueued (lawful : Lawful start client log) {command : Command} (worker : AudioWorker)
    (fine : ∀ sequence data timestampNs durationNs arrivalMs,
      command = .packet sequence data timestampNs durationNs arrivalMs → Opened sequence log) :
    Lawful start { client with audioWorker := some worker } (log ++ [command]) :=
  ⟨lawful.since, lawful.streams.snoc fine, nofun, lawful.announced, lawful.rising⟩

/-- The numbers may go up before the worker hears of it. -/
theorem Lawful.raised (lawful : Lawful start client log) {sequence : UInt64} (higher : client.audioProtocol.sequence ≤ sequence)
    (active headerSeen : Bool) :
    Lawful start { client with audioProtocol := { client.audioProtocol with sequence, active, headerSeen } } log :=
  ⟨UInt64.le_trans lawful.since higher, lawful.streams, lawful.given,
    fun value member => UInt64.le_trans (lawful.announced value member) higher, lawful.rising⟩

/-- A stream is ended on the worker's side and then on the client's. -/
theorem finishStream_orderly (host : Host) (orderly : Orderly start client log) (worker : AudioWorker) (tellServer fresh : Bool) :
    Orderly start (finishStream host client worker tellServer fresh) (log ++ [.finish client.audioProtocol.sequence]) := by
  have enqueued : Lawful start { client with
      audioWorker := some { worker with queue := worker.queue ++ [.finish client.audioProtocol.sequence] } }
      (log ++ [.finish client.audioProtocol.sequence]) := orderly.toLawful.enqueued _ nofun
  have closed {told : XpraClient} (lawful : Lawful start told (log ++ [.finish client.audioProtocol.sequence])) :
      Orderly start (reportAudioLatency host (if fresh then { sendAudioControl host
        { told with audioProtocol := told.audioProtocol.finish } "new-sequence" told.audioProtocol.finish.sequence with
          audioSyncReporter := {} } else sendAudioControl host
        { told with audioProtocol := told.audioProtocol.finish } "new-sequence" told.audioProtocol.finish.sequence) 0)
        (log ++ [.finish client.audioProtocol.sequence]) := by
    cases fresh with
    | true => exact (lawful.finish host).aside (.restart host _ {} 0)
    | false => exact (lawful.finish host).aside (.report host _ 0)
  cases tellServer with
  | true => exact closed (enqueued.aside (.control host _ (by decide : "stop" ≠ "new-sequence") _))
  | false => exact closed enqueued

/-- Every move keeps the order, of which it is a part. -/
theorem move_orderly (move : Move host client commands next) (orderly : Orderly start client log) :
    Orderly start next (log ++ commands) := by
  cases move with
  | full worker held =>
    rw [List.append_nil]
    exact orderly.aside ((Aside.refl client).before rfl rfl rfl)
  | begin worker held sequence higher =>
    have restarted := Aside.restart host { client with
      audioProtocol := { client.audioProtocol with sequence, active := true, headerSeen := false }
      audioWorker := some { worker with queue := worker.queue ++ [.reset sequence] } } {} 0
    refine Orderly.aside ?_ restarted
    exact ⟨(orderly.toLawful.raised higher true false).enqueued _ nofun, fun _ _ => begun_reset sequence log, nofun⟩
  | configure worker held active header opusHead =>
    have begun := orderly.begun (by rw [held]; rfl) active
    have enqueued : Lawful start { client with
        audioWorker := some { worker with queue := worker.queue ++ [.configure client.audioProtocol.sequence header opusHead] } }
        (log ++ [.configure client.audioProtocol.sequence header opusHead]) := orderly.toLawful.enqueued _ nofun
    exact ⟨⟨enqueued.since, enqueued.streams, nofun, enqueued.announced, enqueued.rising⟩,
      fun _ _ => begun.snoc id, fun _ _ => begun.configured header opusHead⟩
  | packet worker held active seen data timestampNs durationNs arrivalMs =>
    have begun := orderly.begun (by rw [held]; rfl) active
    have opened := orderly.opened (by rw [held]; rfl) seen
    refine ⟨orderly.toLawful.enqueued _ ?_, fun _ _ => begun.snoc id, fun _ _ => opened.snoc id⟩
    intro sequence _ _ _ _ same
    cases same
    exact opened
  | finish worker held tellServer fresh => exact finishStream_orderly host orderly worker tellServer fresh

theorem played_orderly (played : Played host client commands next) (orderly : Orderly start client log) :
    Orderly start next (log ++ commands) := by
  induction played generalizing log with
  | done client =>
    rw [List.append_nil]
    exact orderly
  | lost client held sequence active headerSeen higher =>
    rw [List.append_nil]
    exact disableAudio_orderly host (orderly.toLawful.raised higher active headerSeen)
  | move move _ ih =>
    rw [← List.append_assoc]
    exact ih (move_orderly move orderly)

theorem Turn.of_played (played : Played host client commands next) : Turn client next commands :=
  ⟨played.filled, fun _ _ orderly => played_orderly played orderly⟩

theorem processAudioData_stale (env : Env) (client : XpraClient) {packet : Packet} {incoming : IncomingAudio} (parsed : IncomingAudio.parse host packet = .ok (.ok incoming))
    (refused : client.audioProtocol.acceptsSequence incoming.metadata.sequence = false) :
    processAudioData host env client packet = .ok client ∧ audioDataCommands host env client packet = [] := by
  rw [processAudioData, audioDataCommands, parsed]
  constructor
  · split
    · rfl
    · simp only [refused, Bool.not_false, if_true, bind, Except.bind, pure, Except.pure]
  · split
    · rfl
    · simp only [audioCommands, refused, Bool.not_false, if_true]

theorem processAudioCapabilities_turn (host : Host) (client : XpraClient) (capabilities : Yaml) :
    Turn client (processAudioCapabilities host client capabilities) [] := by
  rw [processAudioCapabilities]
  split
  · exact .refl client
  next there =>
    split
    · exact .refl client
    · have agreed : Turn client { client with audioProtocol := { client.audioProtocol with negotiated := true } } [] := by
        refine ⟨fun after held => ⟨after, held, by simp⟩, fun start log orderly => ?_⟩
        rw [List.append_nil]
        refine ⟨⟨orderly.since, orderly.streams, fun gone => ?_, orderly.announced, orderly.rising⟩, orderly.begun, orderly.opened⟩
        have gone : client.audioWorker = none := gone
        simp [gone] at there
      exact agreed.before ((Aside.control host _ (by decide : "start" ≠ "new-sequence") _).trans (.restart host _ {} 0))

theorem answerAsyncAudio_aside (host : Host) (client : XpraClient) (hello : Yaml) : Aside client (answerAsyncAudio host client hello) := by
  rw [answerAsyncAudio]
  split
  · have noted : Aside client { client with
        audioProtocol := { client.audioProtocol with serverAvSync := Audio.serverAvSyncEnabled hello } } :=
      (Aside.refl client).before rfl rfl rfl
    refine (noted.trans (.write host _ fun value same => ?_)).before rfl rfl rfl
    have named : "audio-capabilities" = "audio-control" := congrArg Json.packetType same
    exact absurd named (by decide)
  · exact .refl client

theorem processHello_aside {hello : Yaml} (returned : processHello host client hello = .ok next) : Aside client next := by
  obtain ⟨middle, muted, rfl | rfl⟩ := processHello_cases returned
  · exact .of_apart (.of_muted muted)
  · exact .trans (.of_apart (.of_muted muted)) (answerAsyncAudio_aside host middle hello)

/-! ### Without a worker -/

/-- Nothing is said of sound when there is no worker, and nothing is enqueued. -/
theorem doProcessPacket_silenced (client : XpraClient) (gone : client.audioWorker = none) (off : client.audioProtocol.negotiated = false) (packet : Packet)
    (kind : Kind) : Returns (Apart client) (doProcessPacket host env client kind packet) := by
  have refl : Apart client client := .of_same rfl rfl
  by_cases sound : kind ∈ soundKinds
  · simp only [soundKinds, audioKinds, List.mem_cons, List.not_mem_nil, or_false] at sound
    rcases sound with rfl | rfl | rfl | rfl | rfl
    · intro next returned
      obtain ⟨hello, -, returned⟩ := bind_ok returned
      obtain ⟨middle, muted, rfl | rfl⟩ := processHello_cases returned
      · exact .of_muted muted
      · have silent : middle.audioWorker = none := by rw [show middle.toSpeaker = client.toSpeaker from muted.kept]; exact gone
        rw [answerAsyncAudio, silent]
        simpa using Apart.of_muted muted
    · refine .ok ?_
      split
      · rw [processAudioCapabilities, gone]
        exact refl
      · exact refl
    · rw [doProcessPacket, processAudioData, off]
      exact .ok refl
    · refine .map fun total => ?_
      rw [reportAudioLatency, off]
      exact refl
    · refine .map fun message => ?_
      rw [disableAudio, gone]
      exact refl
  · have other : kind ∉ audioKinds := fun member => sound (List.mem_cons_of_mem _ member)
    have unwelcoming : kind ≠ .hello := fun same => sound (same ▸ List.mem_cons_self)
    exact doProcessPacket_apart packet other unwelcoming

end Handlers

/-! ### Steps -/

section Steps
variable {host : Host} {event : Event} {system next : System}

/-- What is in the queue before a step adds to it. -/
def waiting (event : Event) (worker : AudioWorker) : List Command :=
  match event with
  | .audioTurn _ _ => worker.queue.tail
  | _ => worker.queue

/-- The commands of a step are what it adds to the queue. -/
def Enqueues (host : Host) (event : Event) (system next : System) : Prop :=
  ∀ after, next.client.audioWorker = some after →
    ∃ before, system.client.audioWorker = some before ∧ after.queue = waiting event before ++ commands host event system

structure Advance (host : Host) (event : Event) (system next : System) : Prop where
  enqueues : Enqueues host event system next
  orderly : ∀ start log, Orderly start system.client log → Orderly start next.client (log ++ commands host event system)

theorem Advance.of_turn {given : List Command} (enqueued : commands host event system = given) (same : ∀ worker, waiting event worker = worker.queue)
    (turn : Turn system.client next.client given) : Advance host event system next := by
  constructor
  · intro after held
    obtain ⟨before, there, rfl⟩ := turn.filled after held
    exact ⟨before, there, by rw [same, enqueued]⟩
  · rw [enqueued]
    exact turn.orderly

theorem commands_unheard (unheard : ∀ kind ∈ heard host event system, kind ∉ soundKinds) : commands host event system = [] := by
  cases event with
  | deliver env =>
    cases queued : system.client.proxy with
    | nil => simp only [commands, queued]
    | cons packet rest =>
      have other : kindOf host packet ≠ .audioData := by
        intro data
        exact unheard .audioData (by simp [heard, queued, data]) (by decide)
      simp only [commands, queued, if_neg other]
  | _ => rfl

theorem step_advance (moved : System.step host event system = .ok next) : Advance host event system next := by
  cases soundStep_of_moved moved with
  | handled env packet rest client queued kind returned =>
    have taken : Aside system.client { system.client with proxy := rest } := (Aside.refl system.client).before rfl rfl rfl
    by_cases data : kindOf host packet = .audioData
    · rw [data] at returned
      have given : commands host (.deliver env) system = [] ++ audioDataCommands host env { system.client with proxy := rest } packet := by
        simp only [commands, queued, if_pos data, List.nil_append]
      exact .of_turn given (fun _ => rfl) ((Turn.of_aside taken).trans (.of_played (processAudioData_played returned)))
    · have none : commands host (.deliver env) system = [] ++ [] := by
        simp only [commands, queued, if_neg data, List.append_nil]
      refine .of_turn none (fun _ => rfl) ((Turn.of_aside taken).trans ?_)
      simp only [soundKinds, audioKinds, List.mem_cons, List.not_mem_nil, or_false, data, false_or] at kind
      rcases kind with hello | capabilities | latency | failed
      · rw [hello] at returned
        obtain ⟨hello, -, returned⟩ := bind_ok returned
        exact .of_aside (processHello_aside returned)
      · rw [capabilities] at returned
        cases returned
        split
        · exact processAudioCapabilities_turn host _ _
        · exact .refl _
      · rw [latency] at returned
        obtain ⟨total, -, rfl⟩ := map_ok returned
        exact .of_aside (.report host _ total)
      · rw [failed] at returned
        obtain ⟨message, -, rfl⟩ := map_ok returned
        exact disableAudio_turn host _
  | turned running connected worker held =>
    constructor
    · intro after there
      cases there
      exact ⟨worker, held, (List.append_nil _).symm⟩
    · intro start log orderly
      have there : system.client.audioWorker.isSome := by rw [held]; rfl
      have none : commands host (.audioTurn running connected) system = [] := rfl
      rw [none, List.append_nil]
      refine ⟨⟨orderly.since, orderly.streams, ?_, orderly.announced, orderly.rising⟩, fun _ => orderly.begun there,
        fun _ => orderly.opened there⟩
      intro gone
      cases gone
  | apart event next unheard other apart =>
    refine .of_turn (commands_unheard unheard) (fun worker => ?_) (.of_aside (.of_apart apart))
    cases event with
    | audioTurn running connected => exact absurd rfl (other running connected)
    | _ => rfl

/-- A step that gives the worker up does nothing after that. -/
theorem step_settled (moved : System.step host event system = .ok next) (held : system.client.audioWorker.isSome) :
    Settled host next.client := by
  cases soundStep_of_moved moved with
  | handled env packet rest client queued kind returned =>
    simp only [soundKinds, audioKinds, List.mem_cons, List.not_mem_nil, or_false] at kind
    rcases kind with hello | capabilities | data | latency | failed
    · rw [hello] at returned
      obtain ⟨hello, -, returned⟩ := bind_ok returned
      exact .of_same held (processHello_aside returned).worker
    · rw [capabilities] at returned
      cases returned
      split
      · exact .of_same held (processAudioCapabilities_worker host _ _)
      · exact .inl held
    · rw [data] at returned
      exact (processAudioData_played returned).settled held
    · rw [latency] at returned
      obtain ⟨total, -, rfl⟩ := map_ok returned
      exact .of_same held (Aside.report host _ total).worker
    · rw [failed] at returned
      obtain ⟨message, -, rfl⟩ := map_ok returned
      exact .inr ⟨{ system.client with proxy := rest }, held, rfl⟩
  | turned running connected worker there => exact .inl rfl
  | apart event next unheard other apart => exact .of_same held (by rw [apart.speaker])

/-- An old packet is taken from the queue and that is all. -/
theorem step_stale {env : Env} {packet : Packet} {rest : List Packet} {incoming : IncomingAudio} {stamp : UInt64}
    (queued : system.client.proxy = packet :: rest) (kind : kindOf host packet = .audioData)
    (parsed : IncomingAudio.parse host packet = .ok (.ok incoming)) (stamped : incoming.metadata.sequence = some stamp)
    (old : stamp < system.client.audioProtocol.sequence) :
    System.step host (.deliver env) system = .ok { system with client := { system.client with proxy := rest } } ∧
      commands host (.deliver env) system = [] := by
  have refused : system.client.audioProtocol.acceptsSequence incoming.metadata.sequence = false := by
    simp [stamped, AudioProtocol.acceptsSequence, old]
  obtain ⟨dropped, none⟩ := processAudioData_stale env { system.client with proxy := rest } parsed refused
  constructor
  · simp only [System.step, System.deliver, queued, userEvent_eq, kind, doProcessPacket, dropped, System.ofClient]
  · simp only [commands, queued, kind, if_true, none]

theorem step_silenced (moved : System.step host event system = .ok next) (gone : system.client.audioWorker = none)
    (off : system.client.audioProtocol.negotiated = false) :
    commands host event system = [] ∧ Apart system.client next.client := by
  cases soundStep_of_moved moved with
  | handled env packet rest client queued kind returned =>
    have apart := doProcessPacket_silenced { system.client with proxy := rest } gone off packet _ client returned
    refine ⟨?_, apart.sent, apart.speaker⟩
    simp [commands, queued, audioDataCommands, off]
  | turned running connected worker held =>
    rw [gone] at held
    cases held
  | apart event next unheard other apart => exact ⟨commands_unheard unheard, apart⟩

end Steps

/-! ### Runs -/

section Runs
variable {host : Host} {events : List Event} {system final : System} {start : UInt64} {log : List Command}

theorem orderly_fresh (outcome : Nat → WriteOutcome) (username password : Option String) (area : Option MmapArea)
    (audioWorker : Option AudioWorker) : Orderly 0 (.new { outcome } username password area audioWorker) [] where
  since := UInt64.le_refl 0
  streams := by
    intro before sequence data timestampNs durationNs arrivalMs found
    simpa using found.length_le
  given := fun _ => rfl
  announced := nofun
  rising := .nil
  begun := nofun
  opened := nofun

theorem run_orderly (orderly : Orderly start system.client log) (ran : System.run host events system = .ok final) :
    Orderly start final.client (log ++ Machine.observed (System.step host) (commands host) events system) := by
  have along : Machine.Along (System.step host) (fun _ _ => True) events system := .of_forall _ _ _ fun _ _ => trivial
  refine Machine.invariant_observed (System.step host) (commands host) (fun state seen => Orderly start state.client seen) ?_
    along orderly ran
  exact fun event state next seen _ orderly moved => (step_advance moved).orderly start seen orderly

theorem run_sequence (orderly : Orderly start system.client log) (ran : System.run host events system = .ok final) :
    system.client.audioProtocol.sequence ≤ final.client.audioProtocol.sequence :=
  have here : Orderly system.client.audioProtocol.sequence system.client log :=
    ⟨⟨UInt64.le_refl _, orderly.streams, orderly.given, orderly.announced, orderly.rising⟩, orderly.begun, orderly.opened⟩
  (run_orderly here ran).since

theorem run_silenced (gone : system.client.audioWorker = none) (off : system.client.audioProtocol.negotiated = false)
    (ran : System.run host events system = .ok final) :
    Machine.observed (System.step host) (commands host) events system = [] ∧ Apart system.client final.client := by
  have along : Machine.Along (System.step host) (fun _ _ => True) events system := .of_forall _ _ _ fun _ _ => trivial
  have kept : [] ++ Machine.observed (System.step host) (commands host) events system = [] ∧ Apart system.client final.client := by
    refine Machine.invariant_observed (System.step host) (commands host)
      (fun state seen => seen = [] ∧ Apart system.client state.client) ?_ along ⟨rfl, .of_same rfl rfl⟩ ran
    rintro event state next seen - ⟨rfl, apart⟩ moved
    obtain ⟨none, later⟩ := step_silenced moved (by rw [apart.speaker]; exact gone) (by rw [apart.speaker]; exact off)
    exact ⟨none, apart.trans later⟩
  exact kept

/-- From a fresh client on, whatever packets arrive and whatever the worker does: the
sequence number never goes down and every number announced is above those before;
the worker is given packets only inside a stream of its number that has a header; an
old packet has no effect; and the worker's end is the last that is said of sound. -/
theorem audio_keeps_streams (host : Host) (outcome : Nat → WriteOutcome) (username password : Option String)
    (area : Option MmapArea) (audioWorker : Option AudioWorker) (before after : List Event) (middle final : System)
    (reached : System.run host before { client := .new { outcome } username password area audioWorker } = .ok middle)
    (ran : System.run host after middle = .ok final) :
    middle.client.audioProtocol.sequence ≤ final.client.audioProtocol.sequence ∧
      Rising final.client.sent ∧
      InStreams (Machine.observed (System.step host) (commands host) (before ++ after)
        { client := .new { outcome } username password area audioWorker }) ∧
      (∀ event next, System.step host event final = .ok next →
        Enqueues host event final next ∧ (final.client.audioWorker.isSome → Settled host next.client)) ∧
      (∀ env packet rest incoming stamp, final.client.proxy = packet :: rest → kindOf host packet = .audioData →
        IncomingAudio.parse host packet = .ok (.ok incoming) → incoming.metadata.sequence = some stamp →
        stamp < final.client.audioProtocol.sequence →
        System.step host (.deliver env) final = .ok { final with client := { final.client with proxy := rest } } ∧
          commands host (.deliver env) final = []) ∧
      (middle.client.audioWorker = none →
        final.client.audioWorker = none ∧
          Machine.observed (System.step host) (commands host) after middle = [] ∧
          ∃ packets, final.client.sent = middle.client.sent ++ packets ∧ ∀ packet ∈ packets, Soundless packet) := by
  have whole : System.run host (before ++ after) { client := .new { outcome } username password area audioWorker } =
      .ok final := by
    rw [System.run, Machine.run_append, ← System.run, reached]
    exact ran
  have fresh := orderly_fresh outcome username password area audioWorker
  have halfway := run_orderly fresh reached
  have last := run_orderly fresh whole
  refine ⟨run_sequence halfway ran, last.rising, last.streams, fun event next moved => ?_, ?_, fun gone => ?_⟩
  · exact ⟨(step_advance moved).enqueues, step_settled moved⟩
  · exact fun env packet rest incoming stamp queued kind parsed stamped old => step_stale queued kind parsed stamped old
  · obtain ⟨none, apart⟩ := run_silenced gone (halfway.given gone) ran
    exact ⟨by rw [apart.speaker]; exact gone, none, apart.sent⟩

end Runs

/-! ### A server that plays a stream -/

def textOf (text : String) : Bytes := text.toList.map fun c => c.toNat.toUInt8

def helloText : Bytes := textOf "[hello, \x7bversion: '6', audio: \x7basync: true\x7d, av-sync: \x7benabled: true\x7d\x7d]"
def offerText : Bytes := textOf "[audio-capabilities, \x7bsend: true, encoders: [opus]\x7d]"
def startText : Bytes := textOf "[audio-data, opus, \x27\x27, \x7bstart-of-stream: true\x7d]"
def packetText : Bytes := textOf "[audio-data, opus, \x27\x27, \x7b\x7d]"
def endText : Bytes := textOf "[audio-data, opus, \x27\x27, \x7bend-of-stream: true\x7d]"
def latencyText : Bytes := textOf "[audio-latency, 500]"

def opusHead : Bytes := textOf "OpusHead" ++ [1, 2, 0x38, 0x01, 0x80, 0xBB, 0, 0, 0, 0, 0]

def opusHeader : OpusHeader where
  version := 1
  channels := 2
  preSkip := 312
  inputSampleRate := 48000
  outputGain := 0
  mappingFamily := 0

def spoken : List (Bytes × List Yaml) := [
  (helloText, [.string "hello", .hash [(.string "version", .string "6"), (.string "audio", .hash [(.string "async", .boolean true)]),
    (.string "av-sync", .hash [(.string "enabled", .boolean true)])]]),
  (offerText, [.string "audio-capabilities", .hash [(.string "send", .boolean true), (.string "encoders", .array [.string "opus"])]]),
  (startText, [.string "audio-data", .string "opus", .string "", .hash [(.string "start-of-stream", .boolean true)]]),
  (packetText, [.string "audio-data", .string "opus", .string "", .hash []]),
  (endText, [.string "audio-data", .string "opus", .string "", .hash [(.string "end-of-stream", .boolean true)]]),
  (latencyText, [.string "audio-latency", .integer 500])]

def speaker : Host := { Host.plain with
  windows := true
  loadYaml := fun payload => match spoken.lookup payload with
    | some items => .ok [.array items]
    | none => .error "invalid utf-8 sequence" }

theorem opusHead_marked : (textBytes "OpusHead").isPrefixOf opusHead = true := by
  rw [textBytes, Utf8.toList_toUTF8]
  decide

theorem opusHead_parsed : OpusHeader.parse opusHead = .ok opusHeader := by
  rw [OpusHeader.parse, textBytes, Utf8.toList_toUTF8]
  rfl

def listening : System := { client := .new { outcome := fun _ => .written } none none none (some {}) }

def carrying (data : Bytes) : Chunks := fun index => if index = 2 then some data else none

def arrives (payload : Bytes) (chunks : Chunks) : Event := .receive (.ok ⟨payload, chunks⟩)

/-- The client has greeted and negotiated, and the packet that starts the stream is there. -/
def offered : List Event := [.resumed {}, arrives helloText fun _ => none, .deliver {}, arrives offerText fun _ => none,
  .deliver {}, arrives startText (carrying opusHead)]

def packet : List Event := [arrives packetText (carrying [0xFC, 1, 2]), .deliver {}]

/-- A stream with its header, a packet and its end, and then the worker fails. -/
def streamed : List Event :=
  offered ++ .deliver {} :: packet ++ [arrives endText fun _ => none, .deliver {}, .post (.audioWorkerFailed "device lost"), .deliver {}]

/-- Headers and packets that arrive once the worker is gone. -/
def unplayed : List Event := arrives startText (carrying opusHead) :: .deliver {} :: packet

/-- The stream is given whole, its number is announced once, and nothing is given after the failure. -/
theorem audio_keeps_streams_failed :
    ∃ middle final, System.run speaker streamed listening = .ok middle ∧ System.run speaker unplayed middle = .ok final ∧
      Rising final.client.sent ∧ final.client.audioWorker = none ∧
      InStreams [.reset 0, .configure 0 opusHeader opusHead, .packet 0 [0xFC, 1, 2] none none 0, .finish 0] := by
  obtain ⟨middle, reached, gone⟩ : ∃ middle, System.run speaker streamed listening = .ok middle ∧
      middle.client.audioWorker.isNone = true := Machine.ends_in (by decide +kernel)
  obtain ⟨final, whole, -⟩ : ∃ final, System.run speaker (streamed ++ unplayed) listening = .ok final ∧ true = true :=
    @Machine.ends_in _ _ _ (fun _ => true) (by decide +kernel)
  have ran : System.run speaker unplayed middle = .ok final := by
    rw [System.run, Machine.run_append, ← System.run, reached] at whole
    exact whole
  have given : Machine.observed (System.step speaker) (commands speaker) (streamed ++ unplayed) listening =
      [.reset 0, .configure 0 opusHeader opusHead, .packet 0 [0xFC, 1, 2] none none 0, .finish 0] := by
    decide +kernel
  obtain ⟨-, rising, streams, -, -, ended⟩ :=
    audio_keeps_streams speaker _ none none none (some {}) streamed unplayed middle final reached ran
  refine ⟨middle, final, reached, ran, rising, (ended (Option.isNone_iff_eq_none.mp gone)).1, ?_⟩
  rw [← given]
  exact streams

end Xpra.Proofs.AudioStream
