import Xpra.Proofs.Video

/-! The client with the decoders of its decode thread: it is the client whose decode thread
is told the answers of its decoders, and each window still has its video to itself. -/

namespace Xpra.Proofs.VideoThread
open Xpra.Net Xpra.Client Xpra.Client.Video Xpra.Proofs.Video Library

variable {host : Host} {session next : Video.Session} {events : List Video.Session.Event}

/-! ### Steps -/

/-- What a step does: any step of the client but a turn of its decode thread, or a turn with
the decoders. -/
inductive Step (host : Host) (session : Video.Session) : Video.Session.Event → Video.Session → Prop where
  | client {event : Client.Event} {system : System} (stepped : System.step host event session.system = .ok system) :
      Step host session (.client event) { session with system }
  | decode {env : ThreadEnv} {packet : Packet} {rest : List Packet} {result : Option Decoded} {thread : Thread}
      (queued : session.system.client.decodeSender = packet :: rest)
      (turned : turn host env session.decodeThread packet = .ok (result, thread)) :
      Step host session (.decode env) {
        system := { session.system with client := { session.system.client with
          decodeSender := rest
          area := thread.area
          proxy := session.system.client.proxy ++ (result.map (decodedPacket { elapsed := env.elapsed } packet)).toList } }
        decoders := thread.decoders }

theorem step_of_moved {event : Video.Session.Event} (moved : Video.Session.step host event session = .ok next) :
    Step host session event next := by
  cases event with
  | client event =>
    rw [Video.Session.step] at moved
    split at moved
    next => cases moved
    next own =>
      split at moved
      next system stepped =>
        cases moved
        exact .client stepped
      next => cases moved
  | decode env =>
    rw [Video.Session.step, Video.Session.decode] at moved
    split at moved
    next => cases moved
    next packet rest queued =>
      split at moved
      next => cases moved
      next result thread turned =>
        cases moved
        exact .decode queued turned

/-! ### The answers of the decoders -/

/-- The same event, with the answer of the decoder filled in. -/
inductive Tells : Video.Session.Event → Client.Event → Prop where
  | client (event : Client.Event) : Tells (.client event) event
  | decode (env : ThreadEnv) (h264 : Except String (Option Bytes)) : Tells (.decode env) (.decode { h264, elapsed := env.elapsed })

theorem step_tells {event : Video.Session.Event} (moved : Video.Session.step host event session = .ok next) :
    ∃ told, Tells event told ∧ System.step host told session.system = .ok next.system := by
  cases step_of_moved moved with
  | client stepped => exact ⟨_, .client _, stepped⟩
  | @decode env packet rest result thread queued turned =>
    obtain ⟨h264, told⟩ := turn_refines turned
    have told : decodeTurn host { h264, elapsed := env.elapsed } session.system.client.area packet = .ok (result, thread.area) := told
    refine ⟨_, .decode env h264, ?_⟩
    rw [System.step, System.decode, queued]
    dsimp only
    rw [told]
    rfl

theorem run_tells {final : Video.Session} (ran : Video.Session.run host events session = .ok final) :
    ∃ told, List.Forall₂ Tells events told ∧ System.run host told session.system = .ok final.system := by
  induction events generalizing session with
  | nil =>
    cases ran
    exact ⟨[], .nil, rfl⟩
  | cons event events ih =>
    obtain ⟨middle, moved, later⟩ := (Machine.run_cons_ok _).mp ran
    obtain ⟨told, tells, stepped⟩ := step_tells moved
    obtain ⟨others, rest, reached⟩ := ih later
    exact ⟨told :: others, .cons tells rest, (Machine.run_cons_ok _).mpr ⟨_, stepped, reached⟩⟩

/-! ### The video of one window -/

/-- The turns of the decode thread: what it was given, and what came of it. -/
def answered (host : Host) (event : Video.Session.Event) (session : Video.Session) : List ((ThreadEnv × Packet) × Option Decoded) :=
  match event, session.system.client.decodeSender with
  | .decode env, packet :: _ => match turn host env session.decodeThread packet with
    | .ok (result, _) => [((env, packet), result)]
    | .error _ => []
  | _, _ => []

theorem step_answered {event : Video.Session.Event} (key : UInt64) (moved : Video.Session.step host event session = .ok next) :
    (answered host event session = [] ∧ next.decoders key = session.decoders key) ∨
      ∃ input result after, answered host event session = [(input, result)] ∧
        step host input session.decodeThread = .ok (result, after) ∧ next.decoders key = after.decoders key := by
  cases step_of_moved moved with
  | client stepped => exact .inl ⟨rfl, rfl⟩
  | @decode env packet rest result thread queued turned =>
    have here : answered host (.decode env) session = [((env, packet), result)] := by
      simp only [answered, queued, turned]
    exact .inr ⟨(env, packet), result, thread, here, turned, rfl⟩

/-- The client with its decoders is one whose decode thread is told their answers. And
whatever the user, the server and the other threads do between two frames of a window, and
to the shared area: its frames and its decoder are those of a thread that is given nothing
but this window's video. -/
theorem decoders_refine (host : Host) (system : System) (events : List Video.Session.Event) {final : Video.Session}
    (ran : Video.Session.run host events { system } = .ok final) :
    (∃ told, List.Forall₂ Tells events told ∧ System.run host told system = .ok final.system) ∧
      ∀ key,
        let turns := Machine.observed (Video.Session.step host) (answered host) events { system }
        ∃ last, Purge.run (step host) ((turns.map Prod.fst).filter (Mine key)) {} =
            .ok (turns.filter fun turn => Mine key turn.1, last) ∧ last.decoders key = final.decoders key := by
  refine ⟨run_tells ran, fun key => ?_⟩
  refine (isolated host key).purged_among (step host) (Video.Session.step host) (answered host) (fun session => session.decoders key)
    (fun event session next moved => ?_) rfl ran
  obtain ⟨quiet, same⟩ | ⟨input, result, after, turn, turned, same⟩ := step_answered key moved
  · exact .inl ⟨quiet, same⟩
  · exact .inr ⟨input, result, session.decodeThread, after, turn, turned, rfl, same⟩

/-- The server draws on two windows. -/
def showing : Host := { videoHost with
  loadYaml := fun payload => match payload with
    | [wid] => .ok [.array [.string "draw", .integer wid.toUInt64.toInt64, .integer 0, .integer 0, .integer 2, .integer 2,
        .string "h264", .null, .integer 1, .integer 0, .hash []]]
    | _ => .error "invalid utf-8 sequence" }

def interleaved (elapsed : Fin (2 ^ 63)) : List Video.Session.Event :=
  let frame (data : UInt8) : Chunks := fun index => if index = 7 then some [data] else none
  [.client (.resumed {}), .client (.receive (.ok ⟨[1], frame 10⟩)), .client (.receive (.ok ⟨[2], frame 20⟩)), .client (.deliver {}),
    .client (.deliver {}), .decode { video := framed, elapsed }, .client (.deliver {}), .decode { video := framed, elapsed }]

theorem decoders_refine_interleaved : ∃ final, Video.Session.run showing (interleaved 0) { system := .plain } = .ok final ∧
    ∃ told, List.Forall₂ Tells (interleaved 0) told ∧ System.run showing told .plain = .ok final.system :=
  ⟨_, rfl, (decoders_refine showing .plain (interleaved 0) rfl).1⟩

end Xpra.Proofs.VideoThread
