import Xpra.Client.System

/-! The audio thread (`client/windows_audio.rs`). What Media Foundation and the sound
device answer is given with the event, and of the pipeline only what the answers do
not tell is kept. -/

namespace Xpra.Client

structure Pipeline where
  sequence : UInt64
  latencyReporter : LatencyReporter := {}

/-- What `Pipeline::service_output` returns. A device that is gone is rebuilt, and the
queue is measured anew. -/
inductive Output where
  | total (totalMs : UInt32)
  | invalidated (rebuilt : Except String UInt32)
  | failed (message : String)

structure WorkerTurn where
  pipeline : Option Pipeline
  posts : List LocalPost := []
  /-- Whether the thread goes on. -/
  going : Bool := true

variable (pipeline : Option Pipeline)

/-- The answer is that of `Pipeline::new` or `decode_packet`, where they are called. -/
def handleCommand (answer : Except String Unit) (command : Command) : WorkerTurn :=
  match command with
  | .reset _ => { pipeline := none, posts := [.audioLatency 0] }
  | .configure sequence _ _ =>
    match answer with
    | .ok () => { pipeline := some { sequence }, posts := [.audioLatency 0] }
    | .error error => { pipeline, posts := [.audioWorkerFailed error], going := false }
  | .packet sequence _ _ _ _ =>
    match pipeline with
    | none => { pipeline }
    | some current =>
      if sequence ≠ current.sequence then { pipeline }
      else match answer with
        | .ok () => { pipeline }
        | .error error => { pipeline, posts := [.audioWorkerFailed error], going := false }
  | .finish sequence =>
    if pipeline.any fun current => current.sequence = sequence then { pipeline := none, posts := [.audioLatency 0] }
    else { pipeline }

def reportLatency (current : Pipeline) (totalMs : UInt32) : WorkerTurn :=
  let (report, latencyReporter) := current.latencyReporter.update totalMs
  { pipeline := some { current with latencyReporter }, posts := (report.map .audioLatency).toList }

def serviceOutput (output : Output) : WorkerTurn :=
  match pipeline with
  | none => { pipeline }
  | some current => match output with
    | .total totalMs => reportLatency current totalMs
    | .invalidated (.ok totalMs) => reportLatency current totalMs
    | .invalidated (.error error) =>
      { pipeline, posts := [.audioWorkerFailed s!"failed to recover the audio output device: {error}"], going := false }
    | .failed message => { pipeline, posts := [.audioWorkerFailed message], going := false }

/-! ### The client with its audio thread -/

/-- What the thread has measured last is kept beside it; nothing is queued before a
stream is set up or after it has ended. -/
structure AudioSession where
  system : System
  pipeline : Option Pipeline := none
  measured : UInt32 := 0
  alive : Bool := true

namespace AudioSession

inductive Event where
  | client (event : Client.Event)
  | command (answer : Except String Unit)
  | service (output : Output)

/-- The thread's own doings are not left to chance here. -/
def ofThread : Client.Event → Bool
  | .audioTurn _ _ | .post (.audioLatency _) | .post (.audioWorkerFailed _) => true
  | _ => false

def measuredBy : Output → Option UInt32
  | .total totalMs => some totalMs
  | .invalidated rebuilt => rebuilt.toOption
  | .failed _ => none

variable (host : Host) (session : AudioSession)

/-- The thread takes a command off the queue, or ends, and posts. -/
def turned (events : List Client.Event) (turn : WorkerTurn) (measured : UInt32) : Except Stop AudioSession :=
  match System.run host (events ++ turn.posts.map .post) session.system with
  | .ok system => .ok { system, pipeline := turn.pipeline, measured, alive := turn.going }
  | .error stop => .error stop

def step (event : Event) (session : AudioSession) : Except Stop AudioSession :=
  match event with
  | .client event =>
    if ofThread event then .error .blocked
    else match System.step host event session.system with
      | .ok system => .ok { session with system }
      | .error stop => .error stop
  | .command answer => match session.system.client.audioWorker with
    | some { queue := command :: _, running, .. } =>
      if session.alive = false then .error .blocked
      else
        let turn := handleCommand session.pipeline answer command
        let measured := if .audioLatency 0 ∈ turn.posts then 0 else session.measured
        session.turned host [.audioTurn running turn.going] turn measured
    | _ => .error .blocked
  | .service output =>
    if session.alive = false then .error .blocked
    else
      let turn := serviceOutput session.pipeline output
      let measured := (session.pipeline.bind fun _ => measuredBy output).getD session.measured
      let ending := match session.system.client.audioWorker with
        | some worker => if turn.going then [] else [.audioTurn worker.running false]
        | none => []
      session.turned host ending turn measured

abbrev run (events : List Event) (session : AudioSession) : Except Stop AudioSession :=
  Library.Machine.run (step host) events session

end AudioSession
end Xpra.Client
