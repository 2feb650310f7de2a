import Xpra.Proofs.AudioStamps
import Xpra.Proofs.Playback

/-! The audio thread with its decoder, its queue and its device, as the rest of the client
knows it: it does what the thread that was told the answers does, and the pipeline that it
drives was set up for a header that is right. -/

namespace Xpra.Proofs.PlaybackThread
open Xpra.Net Xpra.Client Xpra.Client.Checked Xpra.Client.Playback Library
open AudioStream (listening speaker)
open Xpra.Proofs.Playback (plainFade)

variable {checks : Bool} {fade : PcmBuffer.Fade} {pipeline next : Playback.Pipeline}

/-! ### What a turn leaves to the rest of the client -/

section Turns

variable {device : DeviceEnv} {done : Except OutputError Unit}

theorem writeFrames_same {frames : Nat} (wrote : pipeline.writeFrames device frames = .ok (next, done)) :
    next.toPipeline = pipeline.toPipeline := by
  rw [Pipeline.writeFrames] at wrote
  split at wrote
  next => cases wrote; rfl
  next =>
    split at wrote
    next => cases wrote; rfl
    next =>
      obtain ⟨popped, -, wrote⟩ := bind_ok wrote
      dsimp only at wrote
      split at wrote
      next => cases wrote; rfl
      next => cases wrote; rfl

theorem startPlaying_same (started : pipeline.startPlaying device = .ok (next, done)) : next.toPipeline = pipeline.toPipeline := by
  rw [Pipeline.startPlaying] at started
  split at started
  next => cases started; rfl
  next =>
    obtain ⟨⟨middle, written⟩, wrote, started⟩ := bind_ok started
    have same := writeFrames_same wrote
    dsimp only at started
    split at started
    next => cases started; exact same
    next => cases started; exact same
    next => cases started; exact same

theorem keepPlaying_same {nowMs : UInt64} (kept : pipeline.keepPlaying checks device nowMs = .ok (next, done)) :
    next.toPipeline = pipeline.toPipeline := by
  rw [Pipeline.keepPlaying] at kept
  split at kept
  next => cases kept; rfl
  next =>
    split at kept
    next =>
      split at kept
      next => cases kept; rfl
      next =>
        obtain ⟨jitter, -, kept⟩ := bind_ok kept
        cases kept
        rfl
    next => exact writeFrames_same kept

theorem feedDevice_same {nowMs : UInt64} (fed : pipeline.feedDevice checks device nowMs = .ok (next, done)) :
    next.toPipeline = pipeline.toPipeline := by
  rw [Pipeline.feedDevice] at fed
  split at fed
  next => exact keepPlaying_same fed
  next =>
    split at fed
    next => exact startPlaying_same fed
    next => cases fed; rfl

theorem service_same {env : ServiceEnv} {output : Output} (served : service checks env pipeline = .ok (next, output)) :
    next.toPipeline = pipeline.toPipeline := by
  obtain ⟨⟨jitter, changed⟩, -, served⟩ := bind_ok served
  obtain ⟨⟨middle, answer⟩, answered, served⟩ := bind_ok served
  obtain ⟨⟨fed, done⟩, feeds, answered⟩ := bind_ok answered
  have same := feedDevice_same feeds
  have kept : middle = fed := by
    dsimp only at answered
    split at answered
    all_goals
      cases answered
      rfl
  subst kept
  dsimp only at served
  split at served
  next => cases served; exact same
  next =>
    split at served
    next =>
      split at served
      next => cases served; exact same
      next => cases served; exact same
    next => cases served; exact same

theorem decodePacket_same {env : DecoderEnv} {data : Bytes} {timestampNs durationNs : Option Int64} {arrivalMs : UInt64}
    (decoded : pipeline.decodePacket fade env data timestampNs durationNs arrivalMs = .ok (.ok next)) :
    next.toPipeline = pipeline.toPipeline := by
  rw [Pipeline.decodePacket] at decoded
  dsimp only at decoded
  split at decoded
  next => cases decoded
  next =>
    obtain ⟨capped, -, decoded⟩ := bind_ok decoded
    cases decoded
    rfl

theorem new_sequence {sequence : UInt64} {header : OpusHeader} {nowMs : UInt64} {transform : Except String Unit}
    {output : Except String UInt32} (created : Pipeline.new sequence header nowMs transform output = .ok pipeline) :
    pipeline.toPipeline = { sequence } := by
  rw [Pipeline.new] at created
  split at created
  next => cases created
  next =>
    obtain ⟨_, -, created⟩ := bind_ok created
    obtain ⟨_, -, created⟩ := bind_ok created
    cases created
    rfl

def seen (turn : Turn) : WorkerTurn where
  pipeline := turn.pipeline.map (·.toPipeline)
  posts := turn.posts
  going := turn.going

variable {held : Option Playback.Pipeline} {done : Turn}

theorem command_refines {env : CommandEnv} {command : Command} (turned : Playback.handleCommand held fade env command = .ok done) :
    ∃ answer, seen done = Client.handleCommand (held.map (·.toPipeline)) answer command := by
  cases command with
  | reset sequence =>
    cases turned
    exact ⟨.ok (), rfl⟩
  | configure sequence header opusHead =>
    rw [Playback.handleCommand] at turned
    split at turned
    next value created =>
      cases turned
      exact ⟨.ok (), by rw [seen, Client.handleCommand, Option.map_some, new_sequence created]⟩
    next error failed =>
      cases turned
      exact ⟨.error error, rfl⟩
  | packet sequence data timestampNs durationNs arrivalMs =>
    cases held with
    | none =>
      cases turned
      exact ⟨.ok (), rfl⟩
    | some current =>
      rw [Playback.handleCommand] at turned
      simp only [Client.handleCommand, Option.map_some]
      split at turned
      next other =>
        cases turned
        exact ⟨.ok (), (if_pos other).symm⟩
      next ours =>
        simp only [if_neg ours]
        split at turned
        next => cases turned
        next error _ =>
          cases turned
          exact ⟨.error error, rfl⟩
        next later decoded =>
          cases turned
          exact ⟨.ok (), by rw [seen, Option.map_some, decodePacket_same decoded]⟩
  | finish sequence =>
    rw [Playback.handleCommand] at turned
    simp only [Client.handleCommand, Option.any_map]
    split at turned
    next ours =>
      cases turned
      exact ⟨.ok (), (if_pos ours).symm⟩
    next other =>
      cases turned
      exact ⟨.ok (), (if_neg other).symm⟩

theorem output_refines {env : ServiceEnv} (turned : Playback.serviceOutput held checks env = .ok done) :
    ∃ output, seen done = Client.serviceOutput (held.map (·.toPipeline)) output := by
  cases held with
  | none =>
    cases turned
    exact ⟨.failed "", rfl⟩
  | some current =>
    obtain ⟨⟨later, output⟩, served, turned⟩ := bind_ok turned
    have same := service_same served
    refine ⟨output, ?_⟩
    simp only [Client.serviceOutput, Option.map_some, ← same]
    cases output with
    | total totalMs =>
      cases turned
      rfl
    | invalidated rebuilt =>
      cases rebuilt with
      | error message =>
        cases turned
        rfl
      | ok totalMs =>
        cases turned
        rfl
    | failed message =>
      cases turned
      rfl

end Turns

/-! ### Headers -/

section Headers
open Handlers Sound AudioMoves AudioStream

/-- A header in the queue has been read. -/
def Parsed : Command → Prop
  | .configure _ header opusHead => OpusHeader.parse opusHead = .ok header
  | _ => True

variable {host : Host} {env : Env} {client : XpraClient} {command : Command}

theorem queued_parsed {sent : Command} {critical : Bool} (member : command ∈ queued host client sent critical)
    (parsed : Parsed sent) : Parsed command := by
  rw [AudioStamps.mem_queued member]
  exact parsed

theorem stop_parsed (member : command ∈ stopCommands host client) : Parsed command := queued_parsed member trivial

theorem buffer_parsed {data : Bytes} {timestampNs durationNs : Option Int64}
    (member : command ∈ opusBufferCommands host env client data timestampNs durationNs) : Parsed command := by
  rw [opusBufferCommands] at member
  split at member
  next =>
    split at member
    next => exact stop_parsed member
    next header parsed => exact queued_parsed member parsed
  next =>
    split at member
    next => cases member
    next =>
      split at member
      next => cases member
      next => exact queued_parsed member trivial

theorem headers_parsed {headers : List Bytes} (member : command ∈ opusHeadersCommands host env headers client) :
    Parsed command := by
  induction headers generalizing client with
  | nil => cases member
  | cons header headers ih =>
    rw [opusHeadersCommands] at member
    rcases List.mem_append.mp member with first | later
    · exact buffer_parsed first
    · split at later
      next => cases later
      next => exact ih later

theorem play_parsed {incoming : IncomingAudio} (member : command ∈ playCommands host env client incoming) : Parsed command := by
  rw [playCommands] at member
  split at member
  next => exact stop_parsed member
  next =>
    split at member
    next => exact stop_parsed member
    next =>
      rcases List.mem_append.mp member with headers | payload
      · exact headers_parsed headers
      · split at payload
        next => cases payload
        next =>
          split at payload
          next => cases payload
          next => exact buffer_parsed payload

theorem audio_parsed {incoming : IncomingAudio} (member : command ∈ audioCommands host env client incoming) : Parsed command := by
  rw [audioCommands] at member
  split at member
  next => cases member
  next =>
    split at member
    next =>
      rcases List.mem_append.mp member with start | later
      · rw [beginCommands] at start
        split at start
        next => exact stop_parsed start
        next => exact queued_parsed start trivial
      · split at later
        next => cases later
        next => exact play_parsed later
    next =>
      split at member
      next => cases member
      next => exact play_parsed member

theorem commands_parsed {event : Event} {system : System} (member : command ∈ commands host event system) : Parsed command := by
  cases event with
  | deliver env =>
    cases queued : system.client.proxy with
    | nil => simp [commands, queued] at member
    | cons packet rest =>
      simp only [commands, queued, audioDataCommands] at member
      split at member
      next =>
        split at member
        next => cases member
        next =>
          split at member
          next => exact audio_parsed member
          next => cases member
      next => cases member
  | _ => cases member

/-- Every header that waits for the audio thread has been read. -/
def Ready (system : System) : Prop :=
  ∀ worker, system.client.audioWorker = some worker → ∀ command ∈ worker.queue, Parsed command

theorem step_ready {event : Event} {system next : System} (ready : Ready system) (moved : System.step host event system = .ok next) :
    Ready next := by
  intro after there command member
  obtain ⟨before, held, same⟩ := (step_advance moved).enqueues after there
  rw [same] at member
  rcases List.mem_append.mp member with old | new
  · refine ready before held command ?_
    cases event with
    | audioTurn running connected => exact List.mem_of_mem_tail old
    | _ => exact old
  · exact commands_parsed new

theorem run_ready {events : List Event} {system final : System} (ready : Ready system) (ran : System.run host events system = .ok final) :
    Ready final :=
  Machine.invariant (System.step host) Ready (fun _ _ _ => step_ready) ready ran

end Headers

/-! ### Sessions -/

/-- How a pipeline has come to be what it is. -/
def Reached (checks : Bool) (fade : PcmBuffer.Fade) (pipeline : Playback.Pipeline) : Prop :=
  ∃ sequence opusHead header nowMs transform output begun calls, OpusHeader.parse opusHead = .ok header ∧
    Pipeline.new sequence header nowMs transform output = .ok begun ∧
    Machine.run (Playback.step checks fade) calls begun = .ok pipeline

namespace Reached

theorem of_new {sequence : UInt64} {opusHead : Bytes} {header : OpusHeader} {nowMs : UInt64} {transform : Except String Unit}
    {output : Except String UInt32} (parsed : OpusHeader.parse opusHead = .ok header)
    (created : Pipeline.new sequence header nowMs transform output = .ok pipeline) : Reached checks fade pipeline :=
  ⟨sequence, opusHead, header, nowMs, transform, output, pipeline, [], parsed, created, rfl⟩

theorem call {call : Call} (reached : Reached checks fade pipeline) (stepped : Playback.step checks fade call pipeline = .ok next) :
    Reached checks fade next := by
  obtain ⟨sequence, opusHead, header, nowMs, transform, output, begun, calls, parsed, created, ran⟩ := reached
  refine ⟨sequence, opusHead, header, nowMs, transform, output, begun, calls ++ [call], parsed, created, ?_⟩
  rw [Machine.run_append, ran]
  exact (Machine.run_cons_ok _).mpr ⟨next, stepped, rfl⟩

end Reached

section Session

variable {host : Host} {held : Option Playback.Pipeline} {done : Turn} {session after : Playback.Session} {shadow : AudioSession}

theorem command_reaches {env : CommandEnv} {command : Command} (parsed : Parsed command)
    (reached : ∀ pipeline, held = some pipeline → Reached checks fade pipeline)
    (turned : Playback.handleCommand held fade env command = .ok done) :
    ∀ pipeline, done.pipeline = some pipeline → Reached checks fade pipeline := by
  rw [Playback.handleCommand.eq_def] at turned
  split at turned
  next => cases turned; exact nofun
  next =>
    split at turned
    next created =>
      cases turned
      intro pipeline same
      cases same
      exact .of_new parsed created
    next => cases turned; exact reached
  next sequence data timestampNs durationNs arrivalMs =>
    split at turned
    next => cases turned; exact reached
    next current =>
      split at turned
      next => cases turned; exact reached
      next =>
        split at turned
        next => cases turned
        next => cases turned; exact reached
        next decoded =>
          cases turned
          intro pipeline same
          cases same
          refine (reached current rfl).call
            (?_ : Playback.step checks fade (.decodePacket data timestampNs durationNs arrivalMs env.decoded) current = _)
          rw [Playback.step, decoded]
  next =>
    split at turned
    next => cases turned; exact nofun
    next => cases turned; exact reached

theorem output_reaches {env : ServiceEnv} (reached : ∀ pipeline, held = some pipeline → Reached checks fade pipeline)
    (turned : Playback.serviceOutput held checks env = .ok done) (going : done.going = true) :
    ∀ pipeline, done.pipeline = some pipeline → Reached checks fade pipeline := by
  cases held with
  | none => cases turned; exact reached
  | some current =>
    obtain ⟨⟨later, output⟩, served, turned⟩ := bind_ok turned
    dsimp only at turned
    split at turned
    next => cases turned; cases going
    next totalMs total =>
      cases turned
      intro pipeline same
      cases same
      refine (reached current rfl).call (?_ : Playback.step checks fade (.service env) current = _)
      rw [Playback.step, served]
      dsimp only
      rw [total]

/-- What the rest of the client knows of a session. -/
structure Shows (session : Playback.Session) (shadow : AudioSession) : Prop where
  system : shadow.system = session.system
  pipeline : shadow.pipeline = session.pipeline.map (·.toPipeline)
  alive : shadow.alive = session.alive

theorem turned_shows {events : List Event} (shows : Shows session shadow) {turn : WorkerTurn} (seen : seen done = turn)
    (turned : session.turned host events done = .ok after) (measured : UInt32) :
    ∃ next, shadow.turned host events turn measured = .ok next ∧ Shows after next := by
  subst seen
  rw [Playback.Session.turned] at turned
  rw [AudioSession.turned, shows.system, PlaybackThread.seen]
  split at turned
  next system ran =>
    cases turned
    simp only [ran]
    exact ⟨_, rfl, rfl, rfl, rfl⟩
  next => cases turned

theorem step_shows {event : Playback.Session.Event} (shows : Shows session shadow)
    (moved : Session.step host checks fade event session = .ok after) :
    ∃ event next, AudioSession.step host event shadow = .ok next ∧ Shows after next := by
  cases event with
  | client event =>
    rw [Playback.Session.step] at moved
    split at moved
    next => cases moved
    next own =>
      split at moved
      next system stepped =>
        cases moved
        refine ⟨.client event, { shadow with system }, ?_, rfl, shows.pipeline, shows.alive⟩
        rw [AudioSession.step, if_neg own, shows.system, stepped]
      next => cases moved
  | command env =>
    rw [Playback.Session.step] at moved
    split at moved
    next command rest running connected held =>
      split at moved
      next => cases moved
      next living =>
        split at moved
        next => cases moved
        next turn handled =>
          obtain ⟨answer, same⟩ := command_refines handled
          rw [← shows.pipeline] at same
          obtain ⟨next, moves, shown⟩ := turned_shows shows same moved
            (if .audioLatency 0 ∈ (Client.handleCommand shadow.pipeline answer command).posts then 0 else shadow.measured)
          refine ⟨.command answer, next, ?_, shown⟩
          have going : turn.going = (Client.handleCommand shadow.pipeline answer command).going := congrArg WorkerTurn.going same
          rw [going] at moves
          simp only [AudioSession.step, shows.system, held, shows.alive, if_neg living]
          exact moves
    next => cases moved
  | service env =>
    rw [Playback.Session.step] at moved
    split at moved
    next => cases moved
    next living =>
      split at moved
      next => cases moved
      next turn served =>
        obtain ⟨output, same⟩ := output_refines served
        rw [← shows.pipeline] at same
        obtain ⟨next, moves, shown⟩ := turned_shows shows same moved
          ((shadow.pipeline.bind fun _ => AudioSession.measuredBy output).getD shadow.measured)
        refine ⟨.service output, next, ?_, shown⟩
        have going : turn.going = (Client.serviceOutput shadow.pipeline output).going := congrArg WorkerTurn.going same
        rw [going] at moves
        simp only [AudioSession.step, shows.system, shows.alive, if_neg living]
        exact moves

theorem turned_ok {events : List Event} (turned : session.turned host events done = .ok after) :
    (∃ events, System.run host events session.system = .ok after.system) ∧ after.pipeline = done.pipeline ∧ after.alive = done.going := by
  rw [Playback.Session.turned] at turned
  split at turned
  next system ran =>
    cases turned
    exact ⟨⟨_, ran⟩, rfl, rfl⟩
  next => cases turned

/-- While the thread is there, what it drives was set up for a header that was read. -/
structure Sound (checks : Bool) (fade : PcmBuffer.Fade) (session : Playback.Session) : Prop where
  ready : Ready session.system
  reached : session.alive = true → ∀ pipeline, session.pipeline = some pipeline → Reached checks fade pipeline

theorem step_sound {event : Playback.Session.Event} (sound : Sound checks fade session)
    (moved : Session.step host checks fade event session = .ok after) : Sound checks fade after := by
  cases event with
  | client event =>
    rw [Playback.Session.step] at moved
    split at moved
    next => cases moved
    next =>
      split at moved
      next system stepped =>
        cases moved
        exact ⟨step_ready sound.ready stepped, sound.reached⟩
      next => cases moved
  | command env =>
    rw [Playback.Session.step] at moved
    split at moved
    next command rest running connected held =>
      split at moved
      next => cases moved
      next living =>
        split at moved
        next => cases moved
        next turn handled =>
          obtain ⟨⟨events, ran⟩, kept, alive⟩ := turned_ok moved
          refine ⟨run_ready sound.ready ran, fun _ => ?_⟩
          rw [kept]
          exact command_reaches (sound.ready _ held command List.mem_cons_self)
            (sound.reached (Bool.eq_true_of_not_eq_false living)) handled
    next => cases moved
  | service env =>
    rw [Playback.Session.step] at moved
    split at moved
    next => cases moved
    next living =>
      split at moved
      next => cases moved
      next turn served =>
        obtain ⟨⟨events, ran⟩, kept, alive⟩ := turned_ok moved
        refine ⟨run_ready sound.ready ran, fun going => ?_⟩
        rw [kept]
        exact output_reaches (sound.reached (Bool.eq_true_of_not_eq_false living)) served (alive ▸ going)

theorem run_shows {events : List Playback.Session.Event} (shows : Shows session shadow)
    (ran : Session.run host checks fade events session = .ok after) :
    ∃ events next, AudioSession.run host events shadow = .ok next ∧ Shows after next := by
  induction events generalizing session shadow with
  | nil =>
    cases ran
    exact ⟨[], shadow, rfl, shows⟩
  | cons event events ih =>
    obtain ⟨middle, moved, later⟩ := (Machine.run_cons_ok _).mp ran
    obtain ⟨told, next, stepped, shown⟩ := step_shows shows moved
    obtain ⟨others, last, reached, same⟩ := ih shown later
    exact ⟨told :: others, last, (Machine.run_cons_ok _).mpr ⟨next, stepped, reached⟩, same⟩

/-- The client with all of its audio thread refines the client whose audio thread is told
the answers of its pipeline, over whole runs. While the thread is there, the pipeline that
it drives was set up for a header that was read, and is what its calls have made of it. -/
theorem thread_refines (outcome : Nat → WriteOutcome) (username password : Option String) (area : Option MmapArea)
    {worker : Option AudioWorker} (idle : ∀ started, worker = some started → started.queue = []) (events : List Playback.Session.Event)
    (ran : Session.run host checks fade events { system := { client := .new { outcome } username password area worker } } = .ok after) :
    (∃ told measured, AudioSession.run host told { system := { client := .new { outcome } username password area worker } } =
      .ok { system := after.system, pipeline := after.pipeline.map (·.toPipeline), measured, alive := after.alive }) ∧
      (after.alive = true → ∀ pipeline, after.pipeline = some pipeline → Reached checks fade pipeline) := by
  constructor
  · have shown : Shows { system := { client := .new { outcome } username password area worker } }
        { system := { client := .new { outcome } username password area worker } } := ⟨rfl, rfl, rfl⟩
    obtain ⟨told, next, reached, shown⟩ := run_shows shown ran
    obtain ⟨system, pipeline, measured, alive⟩ := next
    obtain ⟨rfl, rfl, rfl⟩ := shown
    exact ⟨told, measured, reached⟩
  · refine (Machine.invariant (Session.step host checks fade) (Sound checks fade) (fun _ _ _ => step_sound)
      ⟨?_, fun _ _ held => by cases held⟩ ran).reached
    intro started held command member
    rw [idle started held] at member
    cases member

def answering : CommandEnv where
  nowMs := 0
  decoder := .ok ()
  output := .ok 5760
  decoded := { outputs := [.pcm (List.replicate 12200 3)] }

def serving (device : DeviceEnv) : Playback.Session.Event := .service { nowMs := 20, device, rebuilt := .ok 5760 }

def delivered : Playback.Session.Event := .client (.deliver {})

/-- A stream is begun, its header and a packet come, and there is enough to play. -/
def playing : List Playback.Session.Event :=
  AudioStream.offered.map .client ++ [delivered, .command answering, .command answering, delivered, delivered] ++
    AudioStream.packet.map .client ++ [.command answering, serving {}]

/-- The server is told of the latency, and then the device is gone. -/
def failing : List Playback.Session.Event :=
  [delivered, serving { padding := .error { invalidated := false, message := "device lost" } }, delivered]

theorem played_failed : ∃ middle after, Session.run speaker true plainFade playing { system := listening } = .ok middle ∧
    Session.run speaker true plainFade failing middle = .ok after ∧ middle.alive = true ∧
    (∃ pipeline, middle.pipeline = some pipeline ∧ pipeline.playing = true) ∧
    after.alive = false ∧ after.system.client.audioWorker = none := by
  obtain ⟨middle, ran, passed⟩ : ∃ middle, Session.run speaker true plainFade playing { system := listening } = .ok middle ∧
      (middle.alive && middle.pipeline.any (·.playing) &&
        (Session.run speaker true plainFade failing middle).toOption.any
          fun after => !after.alive && after.system.client.audioWorker.isNone) = true :=
    Machine.ends_in (by decide +kernel)
  simp only [Bool.and_eq_true] at passed
  obtain ⟨⟨alive, sounds⟩, passed⟩ := passed
  obtain ⟨after, later, ended⟩ := Machine.ends_in passed
  obtain ⟨dead, gone⟩ := Bool.and_eq_true_iff.mp ended
  exact ⟨middle, after, ran, later, alive, (Option.any_eq_true _ _).mp sounds, Bool.not_eq_true' _ ▸ dead, Option.isNone_iff_eq_none.mp gone⟩

/-- The thread plays a packet, and ends with the device. -/
theorem thread_refines_played : ∃ middle after, Session.run speaker true plainFade playing { system := listening } = .ok middle ∧
    Session.run speaker true plainFade failing middle = .ok after ∧
    (∃ pipeline, middle.pipeline = some pipeline ∧ pipeline.playing = true ∧ Reached true plainFade pipeline) ∧
    after.alive = false ∧ after.system.client.audioWorker = none ∧
    ∃ told measured, AudioSession.run speaker told { system := listening } =
      .ok { system := after.system, pipeline := after.pipeline.map (·.toPipeline), measured, alive := false } := by
  obtain ⟨middle, after, ran, later, alive, ⟨pipeline, held, sounds⟩, dead, gone⟩ := played_failed
  have idle : ∀ started, some ({} : AudioWorker) = some started → started.queue = [] := by
    rintro started ⟨⟩
    rfl
  have whole : Session.run speaker true plainFade (playing ++ failing) { system := listening } = .ok after := by
    rw [Session.run, Machine.run_append, ← Session.run, ran]
    exact later
  obtain ⟨-, reached⟩ := thread_refines (fun _ => .written) none none none idle playing ran
  obtain ⟨refined, -⟩ := thread_refines (fun _ => .written) none none none idle (playing ++ failing) whole
  rw [dead] at refined
  exact ⟨middle, after, ran, later, ⟨pipeline, held, sounds, reached alive pipeline held⟩, dead, gone, refined⟩

end Session

end Xpra.Proofs.PlaybackThread
