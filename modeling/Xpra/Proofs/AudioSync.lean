import Xpra.Proofs.AudioLatency
import Xpra.Proofs.ExitLatch
import Xpra.Proofs.Posts

/-! What the server is told of the latency, over the runs of the client with its audio
thread. It is off by what both threads hold back, once what is on its way has arrived. -/

namespace Xpra.Proofs.AudioSync
open Xpra.Net Xpra.Client Library Handlers Sound AudioMoves AudioStream AudioLatency ExitLatch Posts

/-! ### Steps -/

/-- The totals that the UI thread has still to hear of. -/
def latencies (host : Host) (proxy : List Packet) : List UInt32 := postsOf host .audioLatency (fun packet => yamlU32 (packet.get 1)) proxy

structure Coupled (host : Host) (session : AudioSession) (worker : AudioWorker) (posted : UInt32) : Prop where
  reported : Reported session.pipeline session.measured posted
  agreed : Agreed (session.pipeline.map Pipeline.sequence) posted (latencies host session.system.client.proxy) session.system.client
    worker.queue
  latest : ∀ last, (latencies host session.system.client.proxy).getLast? = some last → last = posted

/-- The server does not pretend to be the audio thread. -/
def Genuine (host : Host) (event : AudioSession.Event) (_ : AudioSession) : Prop :=
  ∀ raw packet, event = .client (.receive (.ok raw)) → parsePacket host raw = .ok packet → kindOf host packet ≠ .audioLatency

section Steps
variable {host : Host} {session after : AudioSession} {event : Event} {next : System} {worker left : AudioWorker} {posted : UInt32}

theorem step_running (moved : System.step host event session.system = .ok next) (running : next.client.exitCode = none) :
    session.system.client.exitCode = none := by
  cases code : session.system.client.exitCode with
  | none => rfl
  | some code =>
    rw [((step_link moved).latched code).1] at running
    cases running

theorem Coupled.idle (coupled : Coupled host session worker posted) (none : session.pipeline.map Pipeline.sequence = none) : posted = 0 :=
  coupled.reported.idle (Option.map_eq_none_iff.mp none)

/-- The UI thread hears of a total, and then of what is posted after it. -/
theorem heard_coupled {packet : Packet} {rest : List Packet} {client : XpraClient}
    (queued : session.system.client.proxy = packet :: rest) (kind : kindOf host packet = .audioLatency)
    (same : client = reportAudioLatency host { session.system.client with proxy := rest } (yamlU32 (packet.get 1)))
    (posts : latencies host client.proxy = latencies host rest) (coupled : Coupled host session worker posted) :
    Coupled host { session with system := { session.system with client } } worker posted := by
  have listed : latencies host session.system.client.proxy = yamlU32 (packet.get 1) :: latencies host rest := by
    rw [queued, latencies, postsOf_cons kind, latencies]
  have begun : Agreed (session.pipeline.map Pipeline.sequence) posted (latencies host session.system.client.proxy)
      { session.system.client with proxy := rest } worker.queue := coupled.agreed.of_same rfl rfl coupled.agreed.tells
  have latest := coupled.latest
  rw [listed] at latest
  refine ⟨coupled.reported, ?_, ?_⟩
  · rw [posts, same]
    refine begun.toKnown.report host fun none => ?_
    rw [none] at latest
    exact latest _ rfl
  · rw [posts]
    intro last found
    refine latest last ?_
    rw [List.getLast?_cons, found]
    rfl

theorem handled_agreed {env : Env} {packet : Packet} {client handled : XpraClient} {pipeline : Option UInt64} {pending : List UInt32}
    (idle : pipeline = none → posted = 0) (kind : kindOf host packet ∈ soundKinds) (other : kindOf host packet ≠ .audioLatency)
    (returned : doProcessPacket host env client (kindOf host packet) packet = .ok handled) (held : client.audioWorker = some worker)
    (there : handled.audioWorker = some left) (agreed : Agreed pipeline posted pending client worker.queue) :
    Agreed pipeline posted pending handled left.queue := by
  have stays (same : handled.audioWorker = client.audioWorker) : left = worker := by
    rw [same, held] at there
    exact (Option.some.inj there).symm
  simp only [soundKinds, audioKinds, List.mem_cons, List.not_mem_nil, or_false, other, false_or] at kind
  rcases kind with hello | capabilities | data | failed
  · rw [hello] at returned
    obtain ⟨hello, -, returned⟩ := bind_ok returned
    rw [stays (processHello_aside returned).worker]
    obtain ⟨middle, muted, rfl | rfl⟩ := processHello_cases returned
    · exact agreed.apart (.of_muted muted) muted.link.effect.exit
    · exact (agreed.apart (.of_muted muted) muted.link.effect.exit).offer host hello
  · rw [capabilities] at returned
    cases returned
    split at there
    next long =>
      rw [stays (by rw [if_pos long, processAudioCapabilities_worker]), if_pos long]
      exact agreed.negotiate idle host _
    next short =>
      rw [stays (by rw [if_neg short]), if_neg short]
      exact agreed
  · rw [data] at returned
    by_cases on : client.audioProtocol.negotiated = true
    · exact .played idle (processAudioData_played returned) held agreed on there
    · have unheard : doProcessPacket host env client .audioData packet = .ok client := by
        simp [doProcessPacket, processAudioData, on]
      cases unheard.symm.trans returned
      rw [stays rfl]
      exact agreed
  · rw [failed] at returned
    obtain ⟨message, -, rfl⟩ := map_ok returned
    rw [disableAudio_worker] at there
    cases there

theorem unread_latencies (unheard : ∀ kind ∈ heard host event next, kind ∉ soundKinds) :
    latencies host (unread event next) = latencies host next.client.proxy := by
  cases event with
  | deliver env =>
    cases queued : next.client.proxy with
    | nil => rw [unread, queued, List.tail_nil]
    | cons packet rest =>
      have other : kindOf host packet ≠ .audioLatency := by
        intro latency
        exact unheard .audioLatency (by simp [heard, queued, latency]) (by decide)
      rw [unread, queued, List.tail_cons, latencies, latencies, postsOf_other other]
  | _ => rfl

theorem client_coupled (quiet : Quiet host .audioLatency event) (reserved : AudioSession.ofThread event = false)
    (moved : System.step host event session.system = .ok next) (running : next.client.exitCode = none)
    (held : session.system.client.audioWorker = some worker) (there : next.client.audioWorker = some left)
    (coupled : Coupled host session worker posted) : Coupled host { session with system := next } left posted := by
  have posts : latencies host next.client.proxy = latencies host (unread event session.system) :=
    step_posts (by decide) quiet moved
  have begun := step_running moved
  cases soundStep_of_moved moved with
  | handled env packet rest client queued kind returned =>
    have posts : latencies host client.proxy = latencies host rest := by
      simpa [unread, queued] using posts
    by_cases latency : kindOf host packet = .audioLatency
    · rw [latency] at returned
      obtain ⟨-, returned⟩ := Packet.read_bind_ok.mp returned
      have same : client = _ := (Except.ok.inj returned).symm
      have stays : left = worker := by
        have there : client.audioWorker = some left := there
        rw [same, reportAudioLatency_worker] at there
        exact Option.some.inj (there.symm.trans held)
      rw [stays]
      exact heard_coupled queued latency same posts coupled
    · have listed : latencies host session.system.client.proxy = latencies host rest := by
        rw [queued, latencies, postsOf_other latency, latencies]
      have started : Agreed (session.pipeline.map Pipeline.sequence) posted (latencies host client.proxy)
          { session.system.client with proxy := rest } worker.queue := by
        rw [posts, ← listed]
        exact coupled.agreed.of_same rfl rfl coupled.agreed.tells
      refine ⟨coupled.reported, handled_agreed coupled.idle kind latency returned held there started, ?_⟩
      rw [posts, ← listed]
      exact coupled.latest
  | turned => cases reserved
  | apart event next unheard other apart =>
    have stays : left = worker := by
      have same : next.client.audioWorker = session.system.client.audioWorker := by rw [apart.speaker]
      exact Option.some.inj (there.symm.trans (same.trans held))
    have same := posts.trans (unread_latencies unheard)
    subst stays
    refine ⟨coupled.reported, ?_, by rw [same]; exact coupled.latest⟩
    rw [same]
    exact coupled.agreed.apart apart begun

/-! ### Turns of the audio thread -/

theorem latency_kind (windows : host.windows = true) (totalMs : UInt32) :
    kindOf host (LocalPost.audioLatency totalMs).packet = .audioLatency := by
  rw [kindOf, windows]
  rfl

theorem latency_read (totalMs : UInt32) : yamlU32 ((LocalPost.audioLatency totalMs).packet.get 1) = totalMs := by
  have read : yamlU32 ((LocalPost.audioLatency totalMs).packet.get 1) = totalMs.toUInt64.toInt64.toUInt64.toUInt32 := rfl
  rw [read, UInt64.toUInt64_toInt64, UInt32.toUInt32_toUInt64]

theorem turned_ok {events : List Event} {turn : WorkerTurn} {measured : UInt32}
    (moved : session.turned host events turn measured = .ok after) :
    System.run host (events ++ turn.posts.map .post) session.system = .ok after.system ∧ after.pipeline = turn.pipeline ∧
      after.measured = measured ∧ after.alive = turn.going := by
  rw [AudioSession.turned] at moved
  split at moved
  next system ran =>
    cases moved
    exact ⟨ran, rfl, rfl, rfl⟩
  next => cases moved

theorem run_post {system final : System} {totalMs : UInt32} (ran : System.run host [.post (.audioLatency totalMs)] system = .ok final) :
    host.windows = true ∧ final = system.posted (LocalPost.audioLatency totalMs).packet := by
  obtain ⟨middle, moved, done⟩ := (Machine.run_cons_ok _).mp ran
  cases done
  simp only [System.step] at moved
  split at moved
  next windows =>
    cases moved
    exact ⟨windows, rfl⟩
  next => cases moved

/-- What is measured and posted is to come, whatever the server has been told. -/
theorem posted_coupled {system : System} {totalMs : UInt32} (windows : host.windows = true)
    (system_eq : after.system = system.posted (LocalPost.audioLatency totalMs).packet)
    (reported : Reported after.pipeline after.measured totalMs)
    (known : Known (after.pipeline.map Pipeline.sequence) system.client worker.queue) : Coupled host after worker totalMs := by
  have posts : latencies host after.system.client.proxy = latencies host system.client.proxy ++ [totalMs] := by
    rw [system_eq, System.posted, latencies, postsOf_append, postsOf_cons (latency_kind windows totalMs), latency_read]
    rfl
  refine ⟨reported, ?_, ?_⟩
  · rw [posts, system_eq]
    refine ⟨⟨known.stream, known.tells, known.before, known.offered⟩, fun _ _ none => ?_⟩
    simp at none
  · rw [posts]
    intro last found
    simpa using found.symm

/-- Nothing is posted, and of the client only the worker's queue has changed. -/
theorem quiet_coupled {audioWorker : Option AudioWorker} (same : after.system.client = { session.system.client with audioWorker })
    (reported : Reported after.pipeline after.measured posted)
    (known : Known (after.pipeline.map Pipeline.sequence) after.system.client left.queue)
    (ending : ends (after.pipeline.map Pipeline.sequence) left.queue = ends (session.pipeline.map Pipeline.sequence) worker.queue)
    (coupled : Coupled host session worker posted) : Coupled host after left posted := by
  refine ⟨reported, ⟨known, ?_⟩, ?_⟩
  · rw [ending, same]
    exact coupled.agreed.near
  · rw [same]
    exact coupled.latest

theorem command_coupled {answer : Except String Unit} {command : Command} {rest : List Command} {running connected : Bool}
    (held : session.system.client.audioWorker = some { queue := command :: rest, running, connected })
    (moved : session.turned host [.audioTurn running (handleCommand session.pipeline answer command).going]
      (handleCommand session.pipeline answer command)
      (if .audioLatency 0 ∈ (handleCommand session.pipeline answer command).posts then 0 else session.measured) = .ok after)
    (alive : after.alive = true) (there : after.system.client.audioWorker = some left)
    (coupled : Coupled host session { queue := command :: rest, running, connected } posted) : ∃ posted, Coupled host after left posted := by
  obtain ⟨ran, pipeline, measured, going⟩ := turned_ok moved
  rw [alive] at going
  obtain ⟨same, answered⟩ := handleCommand_cases coupled.reported answer command going.symm
  obtain ⟨middle, taken, ran⟩ := (Machine.run_cons_ok _).mp ran
  simp only [System.step, System.audioTurn, held, List.tail_cons, Except.ok.injEq] at taken
  have known : Known (after.pipeline.map Pipeline.sequence) middle.client rest := by
    rw [pipeline, same, ← taken]
    refine ⟨coupled.agreed.stream, coupled.agreed.tells, fun off => ?_, coupled.agreed.offered⟩
    exact absurd (coupled.agreed.before off).1 (List.cons_ne_nil _ _)
  have queue : middle.client.audioWorker = some { queue := rest, running, connected := true } := by
    rw [← taken, ← going]
  rcases answered with ⟨posts, reported⟩ | ⟨posts, kept, stands⟩
  · rw [posts] at ran measured
    obtain ⟨windows, final⟩ := run_post ran
    rw [final] at there
    cases queue.symm.trans there
    refine ⟨0, posted_coupled windows final ?_ known⟩
    rw [pipeline, measured, if_pos (List.mem_singleton_self _)]
    exact reported
  · rw [posts] at ran measured
    cases ran
    cases queue.symm.trans there
    rw [if_neg List.not_mem_nil] at measured
    have client : after.system.client = { session.system.client with audioWorker := some { queue := rest, running, connected := true } } := by
      rw [← taken, ← going]
    refine ⟨posted, quiet_coupled client ?_ known ?_ coupled⟩
    · rw [pipeline, kept, measured]
      exact coupled.reported
    · rw [pipeline, same, ends, stands, Bool.false_or]

theorem service_coupled {output : Output} {ending : List Event} (last : (serviceOutput session.pipeline output).going = true → ending = [])
    (held : session.system.client.audioWorker = some worker)
    (moved : session.turned host ending (serviceOutput session.pipeline output)
      ((session.pipeline.bind fun _ => AudioSession.measuredBy output).getD session.measured) = .ok after)
    (alive : after.alive = true) (there : after.system.client.audioWorker = some left)
    (coupled : Coupled host session worker posted) : ∃ posted, Coupled host after left posted := by
  obtain ⟨ran, pipeline, measured, going⟩ := turned_ok moved
  rw [alive] at going
  rw [last going.symm, List.nil_append] at ran
  obtain ⟨same, totalMs, total, answered⟩ := serviceOutput_cases coupled.reported output going.symm
  rw [total] at measured
  have known : Known (after.pipeline.map Pipeline.sequence) session.system.client worker.queue := by
    rw [pipeline, same]
    exact coupled.agreed.toKnown
  rcases answered with ⟨posts, reported⟩ | ⟨posts, reported⟩
  · rw [posts] at ran
    obtain ⟨windows, final⟩ := run_post ran
    rw [final] at there
    cases held.symm.trans there
    refine ⟨totalMs, posted_coupled windows final ?_ known⟩
    rw [pipeline, measured]
    exact reported
  · rw [posts] at ran
    have system : session.system = after.system := Except.ok.inj ran
    rw [← system] at there
    cases held.symm.trans there
    refine ⟨posted, quiet_coupled (congrArg System.client system.symm) ?_ ?_ ?_ coupled⟩
    · rw [pipeline, measured]
      exact reported
    · rw [← system]
      exact known
    · rw [pipeline, same]

/-! ### Runs -/

theorem quiet_of_genuine (genuine : Genuine host (.client event) session) (reserved : AudioSession.ofThread event = false) :
    Quiet host .audioLatency event := by
  refine ⟨fun raw packet same parsed => genuine raw packet (congrArg _ same) parsed, fun posted same kind => ?_⟩
  have named := listed_of_kind kind (by decide)
  cases posted with
  | audioLatency totalMs =>
    rw [same] at reserved
    cases reserved
  | _ => simp [windowsPacketTypes, packetTypes, LocalPost.packet, clientPacket, Packet.get, yamlStr] at named

theorem run_running {events : List Event} {system final : System} (ran : System.run host events system = .ok final)
    (running : final.client.exitCode = none) : system.client.exitCode = none := by
  by_contra out
  have stands : final.client.exitCode ≠ none := by
    refine Machine.invariant (System.step host) (fun state => state.client.exitCode ≠ none) ?_ out ran
    intro event state next out moved
    obtain ⟨code, set⟩ := Option.ne_none_iff_exists'.mp out
    rw [((step_link moved).latched set).1]
    nofun
  exact stands running

theorem run_held {events : List Event} {system final : System} (ran : System.run host events system = .ok final)
    (held : final.client.audioWorker.isSome) : ∃ worker, system.client.audioWorker = some worker := by
  refine Option.isSome_iff_exists.mp ?_
  by_contra gone
  have stays : ¬ final.client.audioWorker.isSome := by
    refine Machine.invariant (System.step host) (fun state => ¬ state.client.audioWorker.isSome) ?_ gone ran
    intro event state next gone moved there
    obtain ⟨after, there⟩ := Option.isSome_iff_exists.mp there
    obtain ⟨before, held, -⟩ := (step_advance moved).enqueues after there
    exact gone (by rw [held]; rfl)
  exact stays held

/-- The session moves as the client does. -/
theorem step_run {event : AudioSession.Event} (moved : AudioSession.step host event session = .ok after) :
    ∃ events, System.run host events session.system = .ok after.system := by
  cases event with
  | client event =>
    simp only [AudioSession.step] at moved
    split at moved
    next => cases moved
    next =>
      split at moved
      next next stepped =>
        cases moved
        exact ⟨[event], (Machine.run_cons_ok _).mpr ⟨next, stepped, rfl⟩⟩
      next => cases moved
  | command answer =>
    simp only [AudioSession.step] at moved
    split at moved
    next =>
      split at moved
      next => cases moved
      next => exact ⟨_, (turned_ok moved).1⟩
    next => cases moved
  | service output =>
    simp only [AudioSession.step] at moved
    split at moved
    next => cases moved
    next => exact ⟨_, (turned_ok moved).1⟩

theorem session_run {events : List AudioSession.Event} (ran : AudioSession.run host events session = .ok after) :
    ∃ events, System.run host events session.system = .ok after.system := by
  refine Machine.invariant (AudioSession.step host)
    (fun state => ∃ events, System.run host events session.system = .ok state.system) ?_ ⟨[], rfl⟩ ran
  rintro event state next ⟨earlier, reached⟩ moved
  obtain ⟨later, ran⟩ := step_run moved
  refine ⟨earlier ++ later, ?_⟩
  rw [System.run, Machine.run_append, ← System.run, reached]
  exact ran

/-- As long as there is something to be kept up. -/
def Holds (host : Host) (session : AudioSession) : Prop :=
  session.alive = true → session.system.client.exitCode = none → ∀ worker, session.system.client.audioWorker = some worker →
    ∃ posted, Coupled host session worker posted

theorem step_holds {event : AudioSession.Event} (genuine : Genuine host event session) (holds : Holds host session)
    (moved : AudioSession.step host event session = .ok after) : Holds host after := by
  intro alive running left there
  obtain ⟨events, ran⟩ := step_run moved
  have begun := run_running ran running
  cases event with
  | client event =>
    simp only [AudioSession.step] at moved
    split at moved
    next => cases moved
    next reserved =>
      have reserved := Bool.eq_false_of_not_eq_true reserved
      split at moved
      next next stepped =>
        cases moved
        obtain ⟨worker, held, -⟩ := (step_advance stepped).enqueues left there
        obtain ⟨posted, coupled⟩ := holds alive begun worker held
        exact ⟨posted, client_coupled (quiet_of_genuine genuine reserved) reserved stepped running held there coupled⟩
      next => cases moved
  | command answer =>
    simp only [AudioSession.step] at moved
    split at moved
    next command rest running connected held =>
      split at moved
      next => cases moved
      next living =>
        obtain ⟨posted, coupled⟩ := holds (Bool.eq_true_of_not_eq_false living) begun _ held
        exact command_coupled held moved alive there coupled
    next => cases moved
  | service output =>
    simp only [AudioSession.step] at moved
    split at moved
    next => cases moved
    next living =>
      obtain ⟨worker, held⟩ := run_held ran (by rw [there]; rfl)
      obtain ⟨posted, coupled⟩ := holds (Bool.eq_true_of_not_eq_false living) begun worker held
      refine service_coupled (fun going => ?_) held moved alive there coupled
      rw [held]
      exact if_pos going

theorem holds_fresh (outcome : Nat → WriteOutcome) (username password : Option String) (area : Option MmapArea)
    {audioWorker : Option AudioWorker} (fresh : ∀ worker, audioWorker = some worker → worker.queue = []) :
    Holds host { system := { client := .new { outcome } username password area audioWorker } } := by
  intro _ _ worker held
  have empty : worker.queue = [] := fresh worker held
  refine ⟨0, (reported_zero 0).1, ⟨⟨?_, tells_fresh rfl, fun _ => ⟨empty, rfl⟩, nofun⟩, nofun⟩, nofun⟩
  rw [empty]
  nofun

/-- The stream is negotiated with AV sync, and the UI thread has heard of every total. -/
structure CaughtUp (host : Host) (session : AudioSession) : Prop where
  negotiated : session.system.client.audioProtocol.negotiated = true
  avSync : session.system.client.audioProtocol.serverAvSync = true
  heard : latencies host session.system.client.proxy = []

/-- No stream is going to be ended by what the audio thread has still to do. -/
def Done (session : AudioSession) : Prop :=
  ∀ worker, session.system.client.audioWorker = some worker → ends (session.pipeline.map Pipeline.sequence) worker.queue = false

/-- From a fresh client on, once the UI thread has heard of every total and the audio
thread of every stream that has ended, the server is off by no more than both threads
have held back. -/
theorem server_off_by_two (host : Host) (outcome : Nat → WriteOutcome) (username password : Option String) (area : Option MmapArea)
    (audioWorker : Option AudioWorker) (fresh : ∀ worker, audioWorker = some worker → worker.queue = [])
    (events : List AudioSession.Event) (final : AudioSession)
    (genuine : Machine.Along (AudioSession.step host) (Genuine host) events
      { system := { client := .new { outcome } username password area audioWorker } })
    (ran : AudioSession.run host events { system := { client := .new { outcome } username password area audioWorker } } = .ok final)
    (running : final.system.client.exitCode = none) (alive : final.alive = true) (caughtUp : CaughtUp host final) (done : Done final) :
    ∃ told, LastSync final.system.client.sent told ∧ distance told final.measured ≤ 2 * (SYNC_THRESHOLD_MS - 1) := by
  have holds : Holds host final := by
    refine Machine.invariant_along (AudioSession.step host) (Holds host) ?_ genuine
      (holds_fresh outcome username password area fresh) ran
    exact fun event state next genuine holds moved => step_holds genuine holds moved
  obtain ⟨moves, reached⟩ := session_run ran
  have orderly := run_orderly (orderly_fresh outcome username password area audioWorker) reached
  obtain ⟨worker, held⟩ : ∃ worker, final.system.client.audioWorker = some worker := by
    refine Option.ne_none_iff_exists'.mp fun gone => ?_
    have negotiated := caughtUp.negotiated
    rw [orderly.given gone] at negotiated
    cases negotiated
  obtain ⟨posted, coupled⟩ := holds alive running worker held
  obtain ⟨told, known, near⟩ := coupled.agreed.near caughtUp.negotiated caughtUp.avSync caughtUp.heard (done worker held)
  exact ⟨told, coupled.agreed.tells running told known, distance_two near coupled.reported.near⟩

end Steps

/-! ### Where the server is off -/

def served (payload : Bytes) (chunks : Chunks) : AudioSession.Event := .client (arrives payload chunks)

def delivered : AudioSession.Event := .client (.deliver {})

def startPacket : Packet :=
  { main := [.string "audio-data", .string "opus", .string "", .hash [(.string "start-of-stream", .boolean true)]], raw := carrying opusHead }

theorem processOpusBuffer_header (env : Env) {client after : XpraClient}
    (queued : enqueueAudio speaker client (.configure client.audioProtocol.sequence opusHeader opusHead) true = (true, after)) :
    processOpusBuffer speaker env client opusHead none none =
      (true, { after with audioProtocol := { after.audioProtocol with headerSeen := true } }) := by
  rw [processOpusBuffer, if_pos opusHead_marked, opusHead_parsed]
  simp only [queued]

def incoming : IncomingAudio := { codec := "opus", data := opusHead, metadata := { startOfStream := true }, headers := [] }

/-- The state with the reset queued. -/
def begun (client : XpraClient) : XpraClient := reportAudioLatency speaker { client with
  audioProtocol := { client.audioProtocol with active := true, headerSeen := false }
  audioWorker := some { queue := [.reset client.audioProtocol.sequence] }
  audioSyncReporter := {} } 0

def opened (client : XpraClient) : XpraClient :=
  { begun client with
    audioProtocol := { (begun client).audioProtocol with headerSeen := true }
    audioWorker := some { queue := [.reset client.audioProtocol.sequence,
      .configure (begun client).audioProtocol.sequence opusHeader opusHead] } }

/-- The packet that starts the stream, and has its header. -/
theorem startPacket_opens (env : Env) (client : XpraClient) (negotiated : client.audioProtocol.negotiated = true)
    (held : client.audioWorker = some {}) : processAudioData speaker env client startPacket = .ok (opened client) := by
  have parsed : IncomingAudio.parse speaker startPacket = .ok (.ok incoming) := rfl
  have began : beginAudioStream speaker client incoming = (true, begun client) := by
    simp only [beginAudioStream, enqueueAudio, held]
    rfl
  have queued : enqueueAudio speaker (begun client) (.configure (begun client).audioProtocol.sequence opusHeader opusHead) true =
      (true, { begun client with audioWorker := some { queue := [.reset client.audioProtocol.sequence,
        .configure (begun client).audioProtocol.sequence opusHeader opusHead] } }) := by
    rw [enqueueAudio, show (begun client).audioWorker = _ from reportAudioLatency_worker _ _ _]
    rfl
  have plays : playAudio speaker env (begun client) incoming = opened client := by
    have buffer := processOpusBuffer_header env queued
    exact congrArg Prod.snd buffer
  have fresh : client.audioProtocol.acceptsSequence incoming.metadata.sequence = true := rfl
  have starts : incoming.metadata.startOfStream = true := rfl
  rw [processAudioData, negotiated, held, parsed]
  simp only [Option.isNone_some, Bool.not_true, Bool.or_false, Bool.false_eq_true, if_false, bind, Except.bind, fresh, starts, began,
    plays, if_true, pure, Except.pure]

def start : AudioSession := { system := listening }

/-- The client has greeted and negotiated, and the packet that starts the stream is there. -/
def preparing : List AudioSession.Event :=
  [.client (.resumed {}), served helloText fun _ => none, delivered, served offerText fun _ => none, delivered,
    served startText (carrying opusHead)]

def ready : AudioSession := (AudioSession.run speaker preparing start).toOption.getD start

theorem ready_reached : AudioSession.run speaker preparing start = .ok ready := by
  have succeeds : (AudioSession.run speaker preparing start).toBool = true := rfl
  rw [ready]
  cases ran : AudioSession.run speaker preparing start with
  | ok => rfl
  | error => simp [ran, Except.toBool] at succeeds

def opening : AudioSession :=
  { ready with system := { ready.system with client := opened { ready.system.client with proxy := [] } } }

theorem opening_runs (later : List AudioSession.Event) :
    AudioSession.run speaker (preparing ++ delivered :: later) start = AudioSession.run speaker later opening := by
  have queued : ready.system.client.proxy = [startPacket] := rfl
  have opens : processAudioData speaker {} { ready.system.client with proxy := [] } startPacket =
      .ok (opened { ready.system.client with proxy := [] }) := startPacket_opens {} _ rfl rfl
  have kind : kindOf speaker startPacket = .audioData := rfl
  have moved : AudioSession.step speaker delivered ready = .ok opening := by
    have event : System.step speaker (.deliver {}) ready.system =
        .ok { ready.system with client := opened { ready.system.client with proxy := [] } } := by
      simp only [System.step, System.deliver, queued, userEvent_eq, kind, doProcessPacket, opens, System.ofClient]
    simp only [AudioSession.step, delivered, AudioSession.ofThread, event]
    rfl
  rw [AudioSession.run, Machine.run_append, ← AudioSession.run, ready_reached]
  simp only [Except.bind, Machine.run, moved]

/-- The stream is set up, and the server has been told of it. -/
def playing : List AudioSession.Event := [.command (.ok ()), .command (.ok ()), delivered, delivered]

/-- Two totals that are near the one before, the second of which is never posted. -/
def heldBack : List AudioSession.Event := playing ++ [.service (.total 39), delivered, .service (.total 78)]

/-- A stream whose end is still to be told to the audio thread. -/
def ended : List AudioSession.Event := playing ++ [.service (.total 200), delivered, served endText fun _ => none, delivered]

/-- The audio thread fails before it hears of the end. -/
def abandoned : List AudioSession.Event := ended ++ [.service (.failed "device lost")]

/-- The connection is lost, and nothing is sent any more. -/
def closed : List AudioSession.Event :=
  playing ++ [.client (.receive (.error eof)), delivered, .service (.total 200), delivered]

/-- A total that the server has sent itself. -/
def pretended : List AudioSession.Event := playing ++ [served latencyText fun _ => none, delivered]

def honest : AudioSession.Event → Bool
  | .client (.receive (.ok raw)) => match parsePacket speaker raw with
    | .ok packet => kindOf speaker packet ≠ .audioLatency
    | .error _ => true
  | _ => true

theorem genuine_of_honest {events : List AudioSession.Event} (all : events.all honest = true) (session : AudioSession) :
    Machine.Along (AudioSession.step speaker) (Genuine speaker) events session := by
  refine .of_forall_mem _ (fun event member session raw packet same parsed => ?_) session
  have held := List.all_eq_true.mp all event member
  rw [same] at held
  simpa [honest, parsed] using held

/-- The server knows the latency as nearly as one thread would tell it. -/
def Followed (session : AudioSession) : Prop := ∃ told, LastSync session.system.client.sent told ∧ Near told session.measured

theorem not_followed {session : AudioSession} (totalMs : UInt32) (ended : session.system.client.sent.getLast? = some (syncPacket totalMs))
    (far : ¬ Near totalMs session.measured) : ¬ Followed session := by
  rintro ⟨told, last, near⟩
  rw [last.of_last ended] at near
  exact far near

/-- A run after which the server is off by more than both threads hold back. -/
structure Astray (events : List AudioSession.Event) (session : AudioSession) : Prop where
  ran : AudioSession.run speaker (preparing ++ delivered :: events) start = .ok session
  caughtUp : CaughtUp speaker session
  far : ∀ told, LastSync session.system.client.sent told → 2 * (SYNC_THRESHOLD_MS - 1) < distance told session.measured

theorem astray_of_last {events : List AudioSession.Event} {session : AudioSession} (totalMs : UInt32)
    (ran : AudioSession.run speaker events opening = .ok session) (caughtUp : CaughtUp speaker session)
    (last : session.system.client.sent.getLast? = some (syncPacket totalMs))
    (far : 2 * (SYNC_THRESHOLD_MS - 1) < distance totalMs session.measured) : Astray events session := by
  refine ⟨(opening_runs events).trans ran, caughtUp, fun told tells => ?_⟩
  rw [tells.of_last last]
  exact far

/-- One thread's threshold is exceeded by totals held back twice, and both threads' by a
stream of whose end the audio thread does not hear yet, or never, by a connection that is
lost, and by a total that the server has sent itself. -/
theorem server_off_by_more :
    (∃ session, AudioSession.run speaker (preparing ++ delivered :: heldBack) start = .ok session ∧
        Machine.Along (AudioSession.step speaker) (Genuine speaker) (preparing ++ delivered :: heldBack) start ∧
        session.system.client.exitCode = none ∧ session.alive = true ∧ CaughtUp speaker session ∧ Done session ∧ ¬ Followed session) ∧
      (∃ session, Astray ended session ∧
        Machine.Along (AudioSession.step speaker) (Genuine speaker) (preparing ++ delivered :: ended) start ∧
        session.system.client.exitCode = none ∧ session.alive = true) ∧
      (∃ session, Astray abandoned session ∧
        Machine.Along (AudioSession.step speaker) (Genuine speaker) (preparing ++ delivered :: abandoned) start ∧
        session.system.client.exitCode = none ∧ Done session) ∧
      (∃ session, Astray closed session ∧
        Machine.Along (AudioSession.step speaker) (Genuine speaker) (preparing ++ delivered :: closed) start ∧
        session.alive = true ∧ Done session) ∧
      ∃ session, Astray pretended session ∧ session.system.client.exitCode = none ∧ session.alive = true ∧ Done session := by
  refine ⟨?held, ?ended, ?abandoned, ?closed, ?pretended⟩
  case held =>
    refine ⟨_, (opening_runs heldBack).trans rfl, genuine_of_honest rfl _, rfl, rfl, ⟨rfl, rfl, rfl⟩, ?_, not_followed 0 rfl (by decide)⟩
    intro worker held
    cases held
    rfl
  case ended => exact ⟨_, astray_of_last 0 rfl ⟨rfl, rfl, rfl⟩ rfl (by decide), genuine_of_honest rfl _, rfl, rfl⟩
  case abandoned =>
    refine ⟨_, astray_of_last 0 rfl ⟨rfl, rfl, rfl⟩ rfl (by decide), genuine_of_honest rfl _, rfl, ?_⟩
    intro worker held
    cases held
    rfl
  case closed =>
    refine ⟨_, astray_of_last 0 rfl ⟨rfl, rfl, rfl⟩ rfl (by decide), genuine_of_honest rfl _, rfl, ?_⟩
    intro worker held
    cases held
    rfl
  case pretended =>
    refine ⟨_, astray_of_last 500 rfl ⟨rfl, rfl, rfl⟩ rfl (by decide), rfl, rfl, ?_⟩
    intro worker held
    cases held
    rfl

theorem server_off_by_two_held_back :
    ∃ final, AudioSession.run speaker (preparing ++ delivered :: heldBack) start = .ok final ∧ final.measured = 78 ∧
      ∃ told, LastSync final.system.client.sent told ∧ distance told final.measured ≤ 2 * (SYNC_THRESHOLD_MS - 1) := by
  refine ⟨_, (opening_runs heldBack).trans rfl, rfl, ?_⟩
  refine server_off_by_two speaker (fun _ => .written) none none none (some {}) ?_ (preparing ++ delivered :: heldBack) _
    (genuine_of_honest rfl _) ((opening_runs heldBack).trans rfl) rfl rfl ⟨rfl, rfl, rfl⟩ ?_
  · intro worker held
    cases held
    rfl
  · intro worker held
    cases held
    rfl

end Xpra.Proofs.AudioSync
