import Xpra.Proofs.Sound

/-! What the handlers of audio do, as moves. A packet of audio is handled by a few
moves in a row, each of which queues one command; giving the worker up comes last. -/

namespace Xpra.Proofs.AudioMoves
open Xpra.Net Xpra.Client Library Handlers Sound

/-! ### What the worker is given -/

section Commands
variable (host : Host) (env : Env) (client : XpraClient)

def queued (command : Command) (critical : Bool) : List Command :=
  if (enqueueAudio host client command critical).1 then [command] else []

/-- Both ways to end a stream begin so. -/
def stopCommands : List Command := queued host client (.finish client.audioProtocol.sequence) true

def opusBufferCommands (data : Bytes) (timestampNs durationNs : Option Int64) : List Command :=
  let sequence := client.audioProtocol.sequence
  if (textBytes "OpusHead").isPrefixOf data then
    match OpusHeader.parse data with
    | .error _ => stopCommands host client
    | .ok header => queued host client (.configure sequence header data) true
  else if (textBytes "OpusTags").isPrefixOf data then []
  else if client.audioProtocol.headerSeen = false then []
  else queued host client (.packet sequence data timestampNs durationNs (UInt64.ofNat env.elapsed)) false

def opusHeadersCommands : List Bytes → XpraClient → List Command
  | [], _ => []
  | header :: headers, client => opusBufferCommands host env client header none none ++
    match processOpusBuffer host env client header none none with
    | (false, _) => []
    | (true, client) => opusHeadersCommands headers client

def beginCommands (incoming : IncomingAudio) : List Command :=
  match client.audioProtocol.begin host (incoming.metadata.codec.getD incoming.codec) incoming.metadata.sequence with
  | .error _ => stopCommands host client
  | .ok (sequence, protocol) => queued host { client with audioProtocol := protocol } (.reset sequence) true

def playCommands (incoming : IncomingAudio) : List Command :=
  if incoming.metadata.endOfStream then stopCommands host client
  else if incoming.codec ≠ CODEC then stopCommands host client
  else opusHeadersCommands host env incoming.headers client ++
    match processOpusHeaders host env incoming.headers client with
    | (false, _) => []
    | (true, client) =>
      if incoming.data = [] then []
      else opusBufferCommands host env client incoming.data incoming.metadata.timestampNs incoming.metadata.durationNs

def audioCommands (incoming : IncomingAudio) : List Command :=
  if !client.audioProtocol.acceptsSequence incoming.metadata.sequence then []
  else if incoming.metadata.startOfStream then
    beginCommands host client incoming ++ match beginAudioStream host client incoming with
      | (false, _) => []
      | (true, client) => playCommands host env client incoming
  else if client.audioProtocol.active = false then []
  else playCommands host env client incoming

/-- The commands that `process_audio_data` gets into the queue. -/
def audioDataCommands (packet : Packet) : List Command :=
  if !client.audioProtocol.negotiated || client.audioWorker.isNone then []
  else match IncomingAudio.parse host packet with
    | .ok (.ok incoming) => audioCommands host env client incoming
    | _ => []

/-- The commands of a step. Only the handler of `audio-data` packets has any. -/
def commands (event : Event) (system : System) : List Command :=
  match event with
  | .deliver env => match system.client.proxy with
    | packet :: rest =>
      if kindOf host packet = .audioData then audioDataCommands host env { system.client with proxy := rest } packet else []
    | [] => []
  | _ => []

end Commands

/-! ### Moves -/

/-- Both ways to end a stream, once the worker has been told. -/
def finishStream (host : Host) (client : XpraClient) (worker : AudioWorker) (tellServer fresh : Bool) : XpraClient :=
  let sequence := client.audioProtocol.sequence
  let client : XpraClient := { client with audioWorker := some { worker with queue := worker.queue ++ [.finish sequence] } }
  let client := if tellServer then sendAudioControl host client "stop" sequence else client
  let finished := client.audioProtocol.finish
  let client := sendAudioControl host { client with audioProtocol := finished } "new-sequence" finished.sequence
  reportAudioLatency host (if fresh then { client with audioSyncReporter := {} } else client) 0

/-- A part of a handler that queues a command, or fails to for want of room. -/
inductive Move (host : Host) (client : XpraClient) : List Command → XpraClient → Prop where
  | full (worker : AudioWorker) (held : client.audioWorker = some worker) : Move host client [] { client with audioQueueWarned := true }
  | begin (worker : AudioWorker) (held : client.audioWorker = some worker) (sequence : UInt64)
      (higher : client.audioProtocol.sequence ≤ sequence) :
      Move host client [.reset sequence] (reportAudioLatency host { client with
        audioProtocol := { client.audioProtocol with sequence, active := true, headerSeen := false }
        audioWorker := some { worker with queue := worker.queue ++ [.reset sequence] }
        audioSyncReporter := {} } 0)
  | configure (worker : AudioWorker) (held : client.audioWorker = some worker) (active : client.audioProtocol.active = true)
      (header : OpusHeader) (opusHead : Bytes) :
      Move host client [.configure client.audioProtocol.sequence header opusHead] { client with
        audioProtocol := { client.audioProtocol with headerSeen := true }
        audioWorker := some { worker with queue := worker.queue ++ [.configure client.audioProtocol.sequence header opusHead] } }
  | packet (worker : AudioWorker) (held : client.audioWorker = some worker) (active : client.audioProtocol.active = true)
      (seen : client.audioProtocol.headerSeen = true) (data : Bytes) (timestampNs durationNs : Option Int64) (arrivalMs : UInt64) :
      Move host client [.packet client.audioProtocol.sequence data timestampNs durationNs arrivalMs] { client with
        audioWorker := some { worker with
          queue := worker.queue ++ [.packet client.audioProtocol.sequence data timestampNs durationNs arrivalMs] } }
  | finish (worker : AudioWorker) (held : client.audioWorker = some worker) (tellServer fresh : Bool) :
      Move host client [.finish client.audioProtocol.sequence] (finishStream host client worker tellServer fresh)

/-- Moves in a row. The worker may be given up at their end, for a stream that has not
begun as well. -/
inductive Played (host : Host) : XpraClient → List Command → XpraClient → Prop where
  | done (client : XpraClient) : Played host client [] client
  | lost (client : XpraClient) (held : client.audioWorker.isSome) (sequence : UInt64) (active headerSeen : Bool)
      (higher : client.audioProtocol.sequence ≤ sequence) : Played host client [] (disableAudio host { client with
        audioProtocol := { client.audioProtocol with sequence, active, headerSeen } })
  | move {client middle last : XpraClient} {commands later : List Command} (move : Move host client commands middle)
      (rest : Played host middle later last) : Played host client (commands ++ later) last

/-- What a handler leaves: it says it went well only if the stream goes on. -/
structure Going (result : Bool × XpraClient) : Prop where
  active : result.1 = true → result.2.audioProtocol.active = true
  held : result.1 = true → result.2.audioWorker.isSome

theorem Going.stopped {client : XpraClient} : Going (false, client) := by
  constructor
  all_goals
    intro went
    cases went

section Moves
variable {host : Host} {env : Env} {client middle next : XpraClient} {commands later : List Command}

@[simp] theorem reportAudioLatency_worker (host : Host) (client : XpraClient) (totalMs : UInt32) :
    (reportAudioLatency host client totalMs).audioWorker = client.audioWorker := by
  rw [reportAudioLatency]
  split
  · rfl
  · dsimp only
    split <;> rfl

@[simp] theorem reportAudioLatency_protocol (host : Host) (client : XpraClient) (totalMs : UInt32) :
    (reportAudioLatency host client totalMs).audioProtocol = client.audioProtocol := by
  rw [reportAudioLatency]
  split
  · rfl
  · dsimp only
    split <;> rfl

theorem processAudioCapabilities_worker (host : Host) (client : XpraClient) (capabilities : Yaml) :
    (processAudioCapabilities host client capabilities).audioWorker = client.audioWorker := by
  rw [processAudioCapabilities]
  split
  · rfl
  · split
    · rfl
    · rw [reportAudioLatency_worker]
      rfl

theorem disableAudio_worker (host : Host) (client : XpraClient) : (disableAudio host client).audioWorker = none := by
  rw [disableAudio]
  split
  next none => exact Option.isNone_iff_eq_none.mp none
  next => rfl

theorem finishStream_worker (worker : AudioWorker) (tellServer fresh : Bool) :
    (finishStream host client worker tellServer fresh).audioWorker =
      some { worker with queue := worker.queue ++ [.finish client.audioProtocol.sequence] } := by
  rw [finishStream, reportAudioLatency_worker]
  cases fresh <;> cases tellServer <;> rfl

theorem Move.worker (move : Move host client commands next) : ∃ worker, client.audioWorker = some worker ∧
    next.audioWorker = some { worker with queue := worker.queue ++ commands } := by
  cases move with
  | full worker held => exact ⟨worker, held, by simpa using held⟩
  | begin worker held => exact ⟨worker, held, reportAudioLatency_worker _ _ _⟩
  | configure worker held => exact ⟨worker, held, rfl⟩
  | packet worker held => exact ⟨worker, held, rfl⟩
  | finish worker held tellServer fresh => exact ⟨worker, held, finishStream_worker worker tellServer fresh⟩

/-- The queue holds the commands, if the worker is still there. -/
def Filled (client next : XpraClient) (commands : List Command) : Prop :=
  ∀ after, next.audioWorker = some after →
    ∃ before, client.audioWorker = some before ∧ after = { before with queue := before.queue ++ commands }

/-- The worker is still there, or giving it up was the last thing done. -/
def Settled (host : Host) (next : XpraClient) : Prop :=
  next.audioWorker.isSome ∨ ∃ last, last.audioWorker.isSome ∧ next = disableAudio host last

theorem Settled.of_same (held : client.audioWorker.isSome) (same : next.audioWorker = client.audioWorker) : Settled host next :=
  .inl (by rw [same]; exact held)

namespace Played

theorem one (move : Move host client commands next) : Played host client commands next := by
  have whole := Played.move move (.done next)
  rwa [List.append_nil] at whole

theorem disabled (held : client.audioWorker.isSome) : Played host client [] (disableAudio host client) :=
  .lost client held client.audioProtocol.sequence client.audioProtocol.active client.audioProtocol.headerSeen (UInt64.le_refl _)

/-- Nothing is played without a worker, so a worker given up comes last. -/
theorem trans (first : Played host client commands middle) (second : Played host middle later next) :
    Played host client (commands ++ later) next := by
  induction first with
  | done client => exact second
  | lost client held sequence active headerSeen higher =>
    have gone := disableAudio_worker host { client with
      audioProtocol := { client.audioProtocol with sequence, active, headerSeen } }
    cases second with
    | done => exact .lost client held sequence active headerSeen higher
    | lost _ there => simp [gone] at there
    | move move =>
      obtain ⟨worker, there, -⟩ := move.worker
      rw [gone] at there
      cases there
  | move move _ ih =>
    rw [List.append_assoc]
    exact .move move (ih second)

theorem filled (played : Played host client commands next) : Filled client next commands := by
  induction played with
  | done client => exact fun after held => ⟨after, held, by rw [List.append_nil]⟩
  | lost client held sequence active headerSeen higher =>
    intro after there
    rw [disableAudio_worker] at there
    cases there
  | move move _ ih =>
    intro after there
    obtain ⟨worker, held, kept⟩ := move.worker
    obtain ⟨before, between, rfl⟩ := ih after there
    rw [kept] at between
    cases between
    exact ⟨worker, held, by rw [List.append_assoc]⟩

theorem settled (played : Played host client commands next) (held : client.audioWorker.isSome) : Settled host next := by
  induction played with
  | done client => exact .inl held
  | lost client there sequence active headerSeen higher =>
    refine .inr ⟨_, ?_, rfl⟩
    exact there
  | move move _ ih =>
    obtain ⟨worker, -, kept⟩ := move.worker
    exact ih (by rw [kept]; rfl)

end Played

/-! ### The handlers -/

theorem send_cases (worker : AudioWorker) (command : Command) :
    worker.send command = (.ok (), { worker with queue := worker.queue ++ [command] }) ∨
      worker.send command = (.error .stopped, worker) ∨ worker.send command = (.error .full, worker) := by
  rw [AudioWorker.send]
  split
  · exact .inr (.inl rfl)
  · split
    · exact .inr (.inl rfl)
    · split
      · exact .inr (.inr rfl)
      · exact .inl rfl

theorem enqueueAudio_cases (host : Host) {client : XpraClient} {worker : AudioWorker} (held : client.audioWorker = some worker)
    (command : Command) (critical : Bool) :
    enqueueAudio host client command critical =
        (true, { client with audioWorker := some { worker with queue := worker.queue ++ [command] } }) ∨
      enqueueAudio host client command critical = (false, disableAudio host client) ∨
      critical = false ∧ enqueueAudio host client command critical = (false, { client with audioQueueWarned := true }) := by
  have same : { client with audioWorker := some worker } = client := by rw [← held]
  rw [enqueueAudio, held]
  dsimp only
  rcases send_cases worker command with sent | stopped | full
  · rw [sent]
    exact .inl rfl
  · rw [stopped]
    dsimp only
    rw [same]
    exact .inr (.inl rfl)
  · rw [full]
    dsimp only
    rw [same]
    cases critical with
    | true => exact .inr (.inl rfl)
    | false => exact .inr (.inr ⟨rfl, by rw [if_neg Bool.false_ne_true, ← held]⟩)

theorem stopAudioStream_played (held : client.audioWorker.isSome) (tellServer : Bool) :
    Played host client (stopCommands host client) (stopAudioStream host client tellServer) := by
  obtain ⟨worker, there⟩ := Option.isSome_iff_exists.mp held
  rw [stopAudioStream, stopCommands, queued]
  dsimp only
  rcases enqueueAudio_cases host there (.finish client.audioProtocol.sequence) true with went | lost | ⟨impossible, -⟩
  · rw [went]
    exact .one (.finish worker there tellServer true)
  · rw [lost]
    exact .disabled held
  · cases impossible

theorem endAudioStream_played (held : client.audioWorker.isSome) :
    Played host client (stopCommands host client) (endAudioStream host client) := by
  obtain ⟨worker, there⟩ := Option.isSome_iff_exists.mp held
  rw [endAudioStream, stopCommands, queued]
  rcases enqueueAudio_cases host there (.finish client.audioProtocol.sequence) true with went | lost | ⟨impossible, -⟩
  · rw [went]
    exact .one (.finish worker there false false)
  · rw [lost]
    exact .disabled held
  · cases impossible

theorem processOpusBuffer_played (host : Host) (env : Env) {client : XpraClient} (held : client.audioWorker.isSome) (active : client.audioProtocol.active = true) (data : Bytes)
    (timestampNs durationNs : Option Int64) :
    Played host client (opusBufferCommands host env client data timestampNs durationNs)
        (processOpusBuffer host env client data timestampNs durationNs).2 ∧
      Going (processOpusBuffer host env client data timestampNs durationNs) := by
  obtain ⟨worker, there⟩ := Option.isSome_iff_exists.mp held
  have unchanged : Going (true, client) := ⟨fun _ => active, fun _ => held⟩
  rw [processOpusBuffer, opusBufferCommands]
  dsimp only
  split
  · cases OpusHeader.parse data with
    | error message => exact ⟨stopAudioStream_played held true, .stopped⟩
    | ok header =>
      dsimp only
      rw [queued]
      rcases enqueueAudio_cases host there (.configure client.audioProtocol.sequence header data) true with
        went | lost | ⟨impossible, -⟩
      · rw [went]
        exact ⟨.one (.configure worker there active header data), fun _ => active, fun _ => rfl⟩
      · rw [lost]
        exact ⟨.disabled held, .stopped⟩
      · cases impossible
  · split
    · exact ⟨.done client, unchanged⟩
    · split
      · exact ⟨.done client, unchanged⟩
      next seen =>
        rw [queued]
        rcases enqueueAudio_cases host there (.packet client.audioProtocol.sequence data timestampNs durationNs
          (UInt64.ofNat env.elapsed)) false with went | lost | ⟨-, full⟩
        · rw [went]
          exact ⟨.one (.packet worker there active (Bool.eq_true_of_not_eq_false seen) data timestampNs durationNs _),
            fun _ => active, fun _ => rfl⟩
        · rw [lost]
          exact ⟨.disabled held, .stopped⟩
        · rw [full]
          exact ⟨.one (.full worker there), .stopped⟩

theorem processOpusHeaders_played (host : Host) (env : Env) {client : XpraClient} (held : client.audioWorker.isSome) (active : client.audioProtocol.active = true)
    (headers : List Bytes) :
    Played host client (opusHeadersCommands host env headers client) (processOpusHeaders host env headers client).2 ∧
      Going (processOpusHeaders host env headers client) := by
  induction headers generalizing client with
  | nil => exact ⟨.done client, fun _ => active, fun _ => held⟩
  | cons header rest ih =>
    obtain ⟨first, going⟩ := processOpusBuffer_played host env held active header none none
    rw [processOpusHeaders, opusHeadersCommands]
    rcases processed : processOpusBuffer host env client header none none with ⟨went, middle⟩
    rw [processed] at first going
    cases went with
    | false =>
      rw [List.append_nil]
      exact ⟨first, .stopped⟩
    | true =>
      obtain ⟨later, going⟩ := ih (going.held rfl) (going.active rfl)
      exact ⟨first.trans later, going⟩

theorem begin_ok {codec : String} {sequence : Option UInt64} {protocol next : AudioProtocol} {current : UInt64}
    (began : protocol.begin host codec sequence = .ok (current, next)) : protocol.sequence ≤ current ∧
      next = { protocol with sequence := current, active := true, headerSeen := false } := by
  rw [AudioProtocol.begin] at began
  split at began
  · cases began
  · split at began
    next accepted =>
      cases began
      refine ⟨?_, rfl⟩
      cases sequence with
      | none => exact UInt64.le_refl _
      | some sequence => simpa [AudioProtocol.acceptsSequence] using accepted
    next => cases began

theorem beginAudioStream_played (host : Host) {client : XpraClient} (held : client.audioWorker.isSome) (incoming : IncomingAudio) :
    Played host client (beginCommands host client incoming) (beginAudioStream host client incoming).2 ∧
      Going (beginAudioStream host client incoming) := by
  obtain ⟨worker, there⟩ := Option.isSome_iff_exists.mp held
  rw [beginAudioStream, beginCommands]
  cases began : client.audioProtocol.begin host (incoming.metadata.codec.getD incoming.codec) incoming.metadata.sequence with
  | error message => exact ⟨stopAudioStream_played held true, .stopped⟩
  | ok result =>
    obtain ⟨sequence, protocol⟩ := result
    obtain ⟨higher, rfl⟩ := begin_ok began
    dsimp only
    rw [queued]
    have begun : ({ client with
      audioProtocol := { client.audioProtocol with sequence, active := true, headerSeen := false } } : XpraClient).audioWorker =
        some worker := there
    rcases enqueueAudio_cases host begun (.reset sequence) true with went | lost | ⟨impossible, -⟩
    · rw [went]
      refine ⟨.one (.begin worker there sequence higher), fun _ => ?_, fun _ => ?_⟩
      · rw [reportAudioLatency_protocol]
      · rw [reportAudioLatency_worker]
        rfl
    · rw [lost]
      exact ⟨.lost client held sequence true false higher, .stopped⟩
    · cases impossible

theorem playAudio_played (held : client.audioWorker.isSome) (active : client.audioProtocol.active = true) (incoming : IncomingAudio) :
    Played host client (playCommands host env client incoming) (playAudio host env client incoming) := by
  rw [playAudio, playCommands]
  split
  · exact endAudioStream_played held
  · split
    · exact stopAudioStream_played held true
    · obtain ⟨headers, going⟩ := processOpusHeaders_played host env held active incoming.headers
      rcases processed : processOpusHeaders host env incoming.headers client with ⟨went, middle⟩
      rw [processed] at headers going
      cases went with
      | false =>
        rw [List.append_nil]
        exact headers
      | true =>
        dsimp only
        split
        · rw [List.append_nil]
          exact headers
        · exact headers.trans (processOpusBuffer_played host env (going.held rfl) (going.active rfl) _ _ _).1

theorem processAudioData_played {packet : Packet} (returned : processAudioData host env client packet = .ok next) :
    Played host client (audioDataCommands host env client packet) next := by
  rw [processAudioData] at returned
  rw [audioDataCommands]
  split at returned
  next off =>
    cases returned
    rw [if_pos off]
    exact .done client
  next on =>
    have held : client.audioWorker.isSome := by
      cases there : client.audioWorker <;> simp [there] at on ⊢
    rw [if_neg on]
    obtain ⟨result, parsed, returned⟩ := bind_ok returned
    rw [parsed]
    cases result with
    | error message =>
      cases returned
      exact .done client
    | ok incoming =>
      dsimp only at returned ⊢
      rw [audioCommands]
      split at returned
      next old =>
        cases returned
        rw [if_pos old]
        exact .done client
      next fresh =>
        rw [if_neg fresh]
        split at returned
        next starts =>
          rw [if_pos starts]
          obtain ⟨first, going⟩ := beginAudioStream_played host held incoming
          rcases began : beginAudioStream host client incoming with ⟨went, middle⟩
          rw [began] at first going returned
          cases went with
          | false =>
            cases returned
            rw [List.append_nil]
            exact first
          | true =>
            cases returned
            exact first.trans (playAudio_played (going.held rfl) (going.active rfl) incoming)
        next continues =>
          rw [if_neg continues]
          split at returned
          next idle =>
            cases returned
            rw [if_pos idle]
            exact .done client
          next busy =>
            cases returned
            rw [if_neg busy]
            exact playAudio_played held (Bool.eq_true_of_not_eq_false busy) incoming

end Moves

end Xpra.Proofs.AudioMoves
