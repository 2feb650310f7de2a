import Xpra.Client.AudioWorker
import Xpra.Proofs.AudioStream

/-! What the two threads know of the latency. The audio thread holds back a total that is
near the last it has posted, and the UI thread one that is near the last it has sent;
and the UI thread announces a stream that begins or ends with nothing queued before the
audio thread hears of it. -/

namespace Xpra.Proofs.AudioLatency
open Xpra.Net Xpra.Client Library Handlers Sound AudioMoves AudioStream

def distance (first second : UInt32) : Nat := max first.toNat second.toNat - min first.toNat second.toNat

def Near (first second : UInt32) : Prop := distance first second < SYNC_THRESHOLD_MS

instance (first second : UInt32) : Decidable (Near first second) := inferInstanceAs (Decidable (_ < _))

theorem near_refl (value : UInt32) : Near value value := by
  rw [Near, distance, Nat.max_self, Nat.min_self, Nat.sub_self]
  decide

theorem distance_two {sent posted measured : UInt32} (first : Near sent posted) (second : Near posted measured) :
    distance sent measured ≤ 2 * (SYNC_THRESHOLD_MS - 1) := by
  simp only [Near, distance, SYNC_THRESHOLD_MS] at *
  omega

/-- A total is reported, or it is near the one that was. -/
theorem update_cases (reporter : LatencyReporter) (total : UInt32) :
    reporter.update total = (some total, ⟨some total⟩) ∨
      ∃ last, reporter.lastMs = some last ∧ Near last total ∧ reporter.update total = (none, reporter) := by
  obtain ⟨lastMs⟩ := reporter
  cases lastMs with
  | none => exact .inl rfl
  | some last =>
    simp only [LatencyReporter.update, decide_eq_true_eq]
    split
    · exact .inl rfl
    next near => exact .inr ⟨last, rfl, Nat.lt_of_not_le near, rfl⟩

/-! ### What has been sent -/

def syncPacket (totalMs : UInt32) : Json := Audio.controlPacket "sync" totalMs

def LastSync (sent : List Json) (totalMs : UInt32) : Prop :=
  ∃ earlier later, sent = earlier ++ syncPacket totalMs :: later ∧ ∀ packet ∈ later, ∀ other, packet ≠ syncPacket other

/-- While the session lasts, the UI thread remembers what it has sent. -/
def Tells (client : XpraClient) : Prop :=
  client.exitCode = none → ∀ totalMs, client.audioSyncReporter.lastMs = some totalMs → LastSync client.sent totalMs

section Sent
variable {host : Host} {client next : XpraClient} {sent : List Json} {totalMs : UInt32}

theorem LastSync.append (last : LastSync sent totalMs) {packets : List Json} (others : ∀ packet ∈ packets, ∀ other, packet ≠ syncPacket other) :
    LastSync (sent ++ packets) totalMs := by
  obtain ⟨earlier, later, rfl, fine⟩ := last
  refine ⟨earlier, later ++ packets, by simp, fun packet member => ?_⟩
  exact (List.mem_append.mp member).elim (fine packet) (others packet)

theorem lastSync_snoc (sent : List Json) (totalMs : UInt32) : LastSync (sent ++ [syncPacket totalMs]) totalMs :=
  ⟨sent, [], rfl, nofun⟩

theorem LastSync.of_last {told : UInt32} (last : LastSync sent told)
    (ended : sent.getLast? = some (syncPacket totalMs)) : told = totalMs := by
  obtain ⟨earlier, later, rfl, others⟩ := last
  rcases List.eq_nil_or_concat later with rfl | ⟨before, packet, rfl⟩
  · have same : syncPacket told = syncPacket totalMs := by simpa using ended
    have number : (told.toNat : Int) = totalMs.toNat := by simpa [syncPacket, Audio.controlPacket] using same
    exact UInt32.toNat_inj.mp (Int.ofNat_inj.mp number)
  · have listed : earlier ++ syncPacket told :: before.concat packet = (earlier ++ syncPacket told :: before) ++ [packet] := by simp
    rw [listed, List.getLast?_concat] at ended
    exact absurd (Option.some.inj ended) (others packet (by simp) totalMs)

/-- What else is sent, and what the session's end cuts off, does not matter. -/
theorem Tells.after (tells : Tells client) (reporter : next.audioSyncReporter = client.audioSyncReporter)
    (running : next.exitCode = none → client.exitCode = none)
    (sent : ∃ packets, next.sent = client.sent ++ packets ∧ ∀ packet ∈ packets, ∀ other, packet ≠ syncPacket other) : Tells next := by
  obtain ⟨packets, sent, others⟩ := sent
  intro still totalMs told
  rw [reporter] at told
  rw [sent]
  exact (tells (running still) totalMs told).append others

theorem Tells.write (tells : Tells client) (host : Host) {packet : Json} (other : ∀ totalMs, packet ≠ syncPacket totalMs) :
    Tells (client.writeJson host packet) := by
  have moved : Moves host (fun written => written = packet) client.toLink (client.writeJson host packet).toLink := .write .refl rfl
  obtain ⟨packets, sent, fine⟩ := moved.effect.sent
  exact tells.after rfl moved.effect.exit ⟨packets, sent, fun written member => fine written member ▸ other⟩

theorem Tells.control (tells : Tells client) (host : Host) {command : String} (other : command ≠ "sync") (argument : Json) :
    Tells (sendAudioControl host client command argument) := by
  refine tells.write host fun totalMs same => other ?_
  have fields : command = "sync" ∧ argument = .number totalMs.toNat := by
    simpa [syncPacket, Audio.controlPacket] using same
  exact fields.1

theorem sync_soundless {packet : Json} (soundless : Soundless packet) (totalMs : UInt32) : packet ≠ syncPacket totalMs := by
  rintro rfl
  exact soundless.1 rfl

theorem tells_fresh (fresh : client.audioSyncReporter = {}) : Tells client := by
  intro _ totalMs told
  rw [fresh] at told
  cases told

theorem Tells.report (tells : Tells client) (host : Host) (totalMs : UInt32) : Tells (reportAudioLatency host client totalMs) := by
  rw [reportAudioLatency]
  split
  · exact tells
  · rcases update_cases client.audioSyncReporter totalMs with reported | ⟨last, -, -, kept⟩
    · rw [reported]
      intro running other told
      cases told
      rcases writeJson_cases host client.toLink (syncPacket totalMs) with ⟨out, same⟩ | ⟨-, handed, -⟩
      · have still : (client.toLink.writeJson host (syncPacket totalMs)).exitCode = none := running
        rw [same] at still
        simp [still] at out
      · have last := lastSync_snoc client.sent totalMs
        rw [← handed] at last
        exact last
    · rw [kept]
      exact tells

theorem report_near (host : Host) (negotiated : client.audioProtocol.negotiated = true) (avSync : client.audioProtocol.serverAvSync = true)
    (totalMs : UInt32) : ∃ told, (reportAudioLatency host client totalMs).audioSyncReporter.lastMs = some told ∧ Near told totalMs := by
  rw [reportAudioLatency, negotiated, avSync]
  rcases update_cases client.audioSyncReporter totalMs with reported | ⟨last, told, near, kept⟩
  · rw [reported]
    exact ⟨totalMs, rfl, near_refl totalMs⟩
  · rw [kept]
    exact ⟨last, told, near⟩

end Sent

/-! ### What the audio thread has before it -/

section Pending
variable {pipeline : Option UInt64} {queue : List Command}

/-- The stream of the pipeline after a command, if there is one. -/
def setUp (pipeline : Option UInt64) : Command → Option UInt64
  | .reset _ => none
  | .configure sequence _ _ => some sequence
  | .packet _ _ _ _ _ => pipeline
  | .finish sequence => if pipeline = some sequence then none else pipeline

def takesDown (pipeline : Option UInt64) : Command → Bool
  | .reset _ => true
  | .finish sequence => pipeline = some sequence
  | .configure _ _ _ | .packet _ _ _ _ _ => false

/-- Whether a stream is going to be ended by what is queued. -/
def ends : Option UInt64 → List Command → Bool
  | _, [] => false
  | pipeline, command :: queue => takesDown pipeline command || ends (setUp pipeline command) queue

theorem ends_snoc (queue : List Command) (pipeline : Option UInt64) (command : Command) :
    ends pipeline (queue ++ [command]) = (ends pipeline queue || takesDown (queue.foldl setUp pipeline) command) := by
  induction queue generalizing pipeline with
  | nil => simp [ends]
  | cons first queue ih => simp [ends, ih, Bool.or_assoc]

theorem idle_of_not_ends (quiet : ends pipeline queue = false) (idle : queue.foldl setUp pipeline = none) : pipeline = none := by
  induction queue generalizing pipeline with
  | nil => exact idle
  | cons command queue ih =>
    obtain ⟨stands, quiet⟩ := Bool.or_eq_false_iff.mp quiet
    have after := ih quiet idle
    cases command with
    | reset => cases stands
    | configure => cases after
    | packet => exact after
    | finish sequence =>
      have other : pipeline ≠ some sequence := by simpa [takesDown] using stands
      rwa [setUp, if_neg other] at after

end Pending

/-! ### The UI thread -/

structure Known (pipeline : Option UInt64) (client : XpraClient) (queue : List Command) : Prop where
  stream : ∀ sequence, queue.foldl setUp pipeline = some sequence → sequence = client.audioProtocol.sequence
  tells : Tells client
  before : client.audioProtocol.negotiated = false → queue = [] ∧ pipeline = none
  offered : client.audioProtocol.negotiated = true → client.audioProtocol.capabilitiesSent = true

/-- What the UI thread has told the server is near what the audio thread has posted
last, unless that is still to come. -/
structure Agreed (pipeline : Option UInt64) (posted : UInt32) (pending : List UInt32) (client : XpraClient) (queue : List Command) : Prop
    extends Known pipeline client queue where
  near : client.audioProtocol.negotiated = true → client.audioProtocol.serverAvSync = true → pending = [] →
    ends pipeline queue = false → ∃ told, client.audioSyncReporter.lastMs = some told ∧ Near told posted

section Agreed
variable {host : Host} {env : Env} {pipeline : Option UInt64} {posted : UInt32} {pending : List UInt32} {client next : XpraClient}
  {queue commands : List Command}

theorem finishStream_reports (host : Host) (tells : Tells client) (worker : AudioWorker) (tellServer fresh : Bool) :
    ∃ before, finishStream host client worker tellServer fresh = reportAudioLatency host before 0 ∧
      before.audioProtocol = client.audioProtocol.finish ∧ Tells before := by
  have enqueued : Tells { client with
    audioWorker := some { worker with queue := worker.queue ++ [.finish client.audioProtocol.sequence] } } := tells
  have closed {told : XpraClient} (same : told.audioProtocol = client.audioProtocol) (tells : Tells told) :
      Tells (sendAudioControl host { told with audioProtocol := told.audioProtocol.finish } "new-sequence"
        told.audioProtocol.finish.sequence) := by
    have finished : Tells { told with audioProtocol := told.audioProtocol.finish } := tells
    exact finished.control host (by decide) _
  rw [finishStream]
  refine ⟨_, rfl, ?_, ?_⟩
  · cases fresh <;> cases tellServer <;> rfl
  · have told := enqueued.control host (by decide : "stop" ≠ "sync") client.audioProtocol.sequence
    cases fresh with
    | true => exact tells_fresh rfl
    | false => cases tellServer with
      | true => exact closed rfl told
      | false => exact closed rfl enqueued

theorem Known.report (known : Known pipeline client queue) (host : Host) {totalMs : UInt32} (heard : pending = [] → totalMs = posted) :
    Agreed pipeline posted pending (reportAudioLatency host client totalMs) queue where
  stream := by simpa using known.stream
  tells := known.tells.report host totalMs
  before := by simpa using known.before
  offered := by simpa using known.offered
  near := by
    rw [reportAudioLatency_protocol]
    intro negotiated avSync delivered _
    rw [← heard delivered]
    exact report_near host negotiated avSync totalMs

theorem finishStream_agreed (agreed : Agreed pipeline posted pending client queue) (on : client.audioProtocol.negotiated = true)
    (idle : pipeline = none → posted = 0) (worker : AudioWorker) (tellServer fresh : Bool) :
    Agreed pipeline posted pending (finishStream host client worker tellServer fresh)
      (queue ++ [.finish client.audioProtocol.sequence]) := by
  have current : queue.foldl setUp pipeline = none ∨ queue.foldl setUp pipeline = some client.audioProtocol.sequence := by
    cases current : queue.foldl setUp pipeline with
    | none => exact .inl rfl
    | some sequence => exact .inr (congrArg some (agreed.stream sequence current))
  obtain ⟨before, same, protocol, tells⟩ := finishStream_reports host agreed.tells worker tellServer fresh
  rw [same]
  have negotiated : before.audioProtocol.negotiated = true := by rw [protocol]; exact on
  refine ⟨⟨?_, tells.report host 0, ?_, ?_⟩, ?_⟩
  · rw [List.foldl_concat, setUp]
    rcases current with none | some
    · rw [none]
      nofun
    · rw [some, if_pos rfl]
      nofun
  · rw [reportAudioLatency_protocol, negotiated]
    nofun
  · rw [reportAudioLatency_protocol, protocol]
    exact fun _ => agreed.offered on
  · rw [reportAudioLatency_protocol]
    intro negotiated avSync delivered stands
    rw [ends_snoc] at stands
    obtain ⟨stands, other⟩ := Bool.or_eq_false_iff.mp stands
    rcases current with none | some
    · rw [idle (idle_of_not_ends stands none)]
      exact report_near host negotiated avSync 0
    · simp [takesDown, some] at other

theorem Agreed.move (agreed : Agreed pipeline posted pending client queue) (on : client.audioProtocol.negotiated = true)
    (idle : pipeline = none → posted = 0) (move : Move host client commands next) :
    Agreed pipeline posted pending next (queue ++ commands) ∧ next.audioProtocol.negotiated = true := by
  cases move with
  | full =>
    rw [List.append_nil]
    exact ⟨⟨⟨agreed.stream, agreed.tells, agreed.before, agreed.offered⟩, agreed.near⟩, on⟩
  | begin worker held sequence higher =>
    refine ⟨⟨⟨?_, (tells_fresh rfl).report host 0, ?_, ?_⟩, ?_⟩, ?_⟩
    · rw [List.foldl_concat]
      nofun
    · rw [reportAudioLatency_protocol]
      simp [on]
    · rw [reportAudioLatency_protocol]
      exact fun _ => agreed.offered on
    · rw [ends_snoc, takesDown, Bool.or_true]
      nofun
    · rw [reportAudioLatency_protocol]
      exact on
  | configure worker held active header opusHead =>
    refine ⟨⟨⟨?_, agreed.tells, ?_, agreed.offered⟩, ?_⟩, on⟩
    · rw [List.foldl_concat]
      exact fun sequence same => (Option.some.inj same).symm
    · simp [on]
    · rw [ends_snoc, takesDown, Bool.or_false]
      exact agreed.near
  | packet worker held active seen data timestampNs durationNs arrivalMs =>
    refine ⟨⟨⟨?_, agreed.tells, ?_, agreed.offered⟩, ?_⟩, on⟩
    · rw [List.foldl_concat]
      exact agreed.stream
    · simp [on]
    · rw [ends_snoc, takesDown, Bool.or_false]
      exact agreed.near
  | finish worker held tellServer fresh =>
    obtain ⟨before, same, protocol, -⟩ := finishStream_reports host agreed.tells worker tellServer fresh
    refine ⟨finishStream_agreed agreed on idle worker tellServer fresh, ?_⟩
    rw [same, reportAudioLatency_protocol, protocol]
    exact on

theorem Agreed.played (idle : pipeline = none → posted = 0) (played : Played host client commands next) {worker after : AudioWorker}
    (held : client.audioWorker = some worker) (agreed : Agreed pipeline posted pending client worker.queue)
    (on : client.audioProtocol.negotiated = true) (there : next.audioWorker = some after) :
    Agreed pipeline posted pending next after.queue := by
  induction played generalizing worker with
  | done client =>
    cases held.symm.trans there
    exact agreed
  | lost =>
    rw [disableAudio_worker] at there
    cases there
  | move move _ ih =>
    obtain ⟨first, same, kept⟩ := move.worker
    cases held.symm.trans same
    obtain ⟨moved, still⟩ := agreed.move on idle move
    exact ih kept moved still there

theorem Agreed.of_same (agreed : Agreed pipeline posted pending client queue) (protocol : next.audioProtocol = client.audioProtocol)
    (reporter : next.audioSyncReporter = client.audioSyncReporter) (tells : Tells next) :
    Agreed pipeline posted pending next queue := by
  refine ⟨⟨?_, tells, ?_, ?_⟩, ?_⟩
  · rw [protocol]
    exact agreed.stream
  · rw [protocol]
    exact agreed.before
  · rw [protocol]
    exact agreed.offered
  · rw [protocol, reporter]
    exact agreed.near

/-- Sound is left alone, and so is what the server has been told of it. -/
theorem Agreed.apart (agreed : Agreed pipeline posted pending client queue) (apart : Apart client next)
    (running : next.exitCode = none → client.exitCode = none) : Agreed pipeline posted pending next queue := by
  have reporter : next.audioSyncReporter = client.audioSyncReporter := by rw [apart.speaker]
  obtain ⟨packets, sent, soundless⟩ := apart.sent
  refine agreed.of_same (by rw [apart.speaker]) reporter (agreed.tells.after reporter running ⟨packets, sent, ?_⟩)
  exact fun packet member => sync_soundless (soundless packet member)

/-- The capabilities are offered once, before anything is negotiated. -/
theorem Agreed.offer (agreed : Agreed pipeline posted pending client queue) (host : Host) (hello : Yaml) :
    Agreed pipeline posted pending (answerAsyncAudio host client hello) queue := by
  rw [answerAsyncAudio]
  split
  next offers =>
    have idle : client.audioProtocol.negotiated ≠ true := by
      intro negotiated
      simp [agreed.offered negotiated] at offers
    have other (totalMs : UInt32) : Json.array ["audio-capabilities", Audio.receiveCapabilities] ≠ syncPacket totalMs := by
      intro same
      have named : "audio-capabilities" = "audio-control" := congrArg Json.packetType same
      exact absurd named (by decide)
    have tells : Tells { client with
      audioProtocol := { client.audioProtocol with serverAvSync := Audio.serverAvSyncEnabled hello } } := agreed.tells
    exact ⟨⟨agreed.stream, tells.write host other, agreed.before, fun on => absurd on idle⟩, fun on => absurd on idle⟩
  · exact agreed

theorem Agreed.negotiate (agreed : Agreed pipeline posted pending client queue) (idle : pipeline = none → posted = 0) (host : Host)
    (capabilities : Yaml) : Agreed pipeline posted pending (processAudioCapabilities host client capabilities) queue := by
  rw [processAudioCapabilities]
  split
  · exact agreed
  next fresh =>
    split
    · exact agreed
    · simp only [Bool.or_eq_true, Bool.not_eq_true', not_or, Bool.not_eq_true, Bool.not_eq_false] at fresh
      obtain ⟨⟨-, offered⟩, negotiated⟩ := fresh
      obtain ⟨-, none⟩ := agreed.before negotiated
      have begun : Known pipeline { sendAudioControl host { client with
          audioProtocol := { client.audioProtocol with negotiated := true } } "start" CODEC with audioSyncReporter := {} } queue :=
        ⟨agreed.stream, tells_fresh rfl, fun off => Bool.noConfusion off, fun _ => offered⟩
      exact begun.report host fun _ => (idle none).symm

end Agreed

/-! ### The audio thread -/

/-- What has been posted last is near what has been measured last. -/
structure Reported (pipeline : Option Pipeline) (measured posted : UInt32) : Prop where
  near : Near posted measured
  idle : pipeline = none → posted = 0
  memory : ∀ current, pipeline = some current → ∀ last, current.latencyReporter.lastMs = some last → last = posted

section Thread
variable {pipeline : Option Pipeline} {measured posted : UInt32}

theorem reported_zero (sequence : UInt64) : Reported none 0 0 ∧ Reported (some { sequence }) 0 0 := by
  refine ⟨⟨near_refl 0, fun _ => rfl, nofun⟩, near_refl 0, nofun, fun current same last told => ?_⟩
  cases same
  cases told

/-- A command that ends or sets up a stream is answered by a zero; no other is answered. -/
theorem handleCommand_cases (reported : Reported pipeline measured posted) (answer : Except String Unit) (command : Command)
    (going : (handleCommand pipeline answer command).going = true) :
    (handleCommand pipeline answer command).pipeline.map Pipeline.sequence = setUp (pipeline.map Pipeline.sequence) command ∧
      ((handleCommand pipeline answer command).posts = [.audioLatency 0] ∧
          Reported (handleCommand pipeline answer command).pipeline 0 0 ∨
        (handleCommand pipeline answer command).posts = [] ∧ (handleCommand pipeline answer command).pipeline = pipeline ∧
          takesDown (pipeline.map Pipeline.sequence) command = false) := by
  cases command with
  | reset sequence => exact ⟨rfl, .inl ⟨rfl, (reported_zero sequence).1⟩⟩
  | configure sequence header opusHead =>
    cases answer with
    | ok => exact ⟨rfl, .inl ⟨rfl, (reported_zero sequence).2⟩⟩
    | error => cases going
  | packet sequence data timestampNs durationNs arrivalMs =>
    have left : handleCommand pipeline answer (.packet sequence data timestampNs durationNs arrivalMs) = { pipeline } := by
      cases pipeline with
      | none => rfl
      | some current =>
        simp only [handleCommand] at going ⊢
        split
        · rfl
        next same =>
          rw [if_neg same] at going
          cases answer with
          | ok => rfl
          | error => cases going
    rw [left]
    exact ⟨rfl, .inr ⟨rfl, rfl, rfl⟩⟩
  | finish sequence =>
    cases pipeline with
    | none => exact ⟨rfl, .inr ⟨rfl, rfl, rfl⟩⟩
    | some current =>
      by_cases same : current.sequence = sequence
      · have ended : handleCommand (some current) answer (.finish sequence) = { pipeline := none, posts := [.audioLatency 0] } := by
          simp [handleCommand, same]
        rw [ended]
        exact ⟨by simp [setUp, same], .inl ⟨rfl, (reported_zero sequence).1⟩⟩
      · have left : handleCommand (some current) answer (.finish sequence) = { pipeline := some current } := by
          simp [handleCommand, same]
        rw [left]
        exact ⟨by simp [setUp, same], .inr ⟨rfl, rfl, by simp [takesDown, same]⟩⟩

theorem reportLatency_cases {current : Pipeline} (reported : Reported (some current) measured posted) (totalMs : UInt32) :
    (reportLatency current totalMs).pipeline.map Pipeline.sequence = some current.sequence ∧
      ((reportLatency current totalMs).posts = [.audioLatency totalMs] ∧ Reported (reportLatency current totalMs).pipeline totalMs totalMs ∨
        (reportLatency current totalMs).posts = [] ∧ Reported (reportLatency current totalMs).pipeline totalMs posted) := by
  rw [reportLatency]
  rcases update_cases current.latencyReporter totalMs with moved | ⟨last, told, near, kept⟩
  · rw [moved]
    refine ⟨rfl, .inl ⟨rfl, near_refl totalMs, nofun, fun current same last told => ?_⟩⟩
    cases same
    cases told
    rfl
  · rw [kept]
    have posted := reported.memory current rfl last told
    refine ⟨rfl, .inr ⟨rfl, posted ▸ near, nofun, fun other same last told => ?_⟩⟩
    cases same
    exact reported.memory current rfl last told

theorem serviceOutput_cases (reported : Reported pipeline measured posted) (output : Output)
    (going : (serviceOutput pipeline output).going = true) :
    (serviceOutput pipeline output).pipeline.map Pipeline.sequence = pipeline.map Pipeline.sequence ∧
      ∃ totalMs, (pipeline.bind fun _ => AudioSession.measuredBy output).getD measured = totalMs ∧
        ((serviceOutput pipeline output).posts = [.audioLatency totalMs] ∧ Reported (serviceOutput pipeline output).pipeline totalMs totalMs ∨
          (serviceOutput pipeline output).posts = [] ∧ Reported (serviceOutput pipeline output).pipeline totalMs posted) := by
  cases pipeline with
  | none => exact ⟨rfl, measured, rfl, .inr ⟨rfl, reported⟩⟩
  | some current =>
    cases output with
    | total totalMs =>
      obtain ⟨same, cases⟩ := reportLatency_cases reported totalMs
      exact ⟨same, totalMs, rfl, cases⟩
    | invalidated rebuilt =>
      cases rebuilt with
      | ok totalMs =>
        obtain ⟨same, cases⟩ := reportLatency_cases reported totalMs
        exact ⟨same, totalMs, rfl, cases⟩
      | error => cases going
    | failed => cases going

end Thread

end Xpra.Proofs.AudioLatency
