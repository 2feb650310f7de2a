import Xpra.Client.System

/-! What a step of the client that goes through comes to. Every invariant of its runs
is proved from these cases, and none takes the steps apart again. -/

namespace Xpra.Proofs.Steps
open Xpra.Net Xpra.Client

variable {host : Host} {system next : System}

inductive Step (host : Host) (system : System) : Event → System → Prop where
  | lost (error : IoError) : Step host system (.receive (.error error))
      { system.posted (clientPacket "connection-lost" (connectionError error)) with readerEnded := true }
  | invalid (raw : RawPacket) (message : String) (failed : parsePacket host raw = .error message) :
      Step host system (.receive (.ok raw))
        { system.posted (clientPacket "invalid-packet" message) with readerEnded := true }
  | received (raw : RawPacket) (packet : Packet) (parsed : parsePacket host raw = .ok packet) :
      Step host system (.receive (.ok raw)) (system.posted packet)
  | delivered (env : Env) (packet : Packet) (rest : List Packet) (client : XpraClient)
      (queued : system.client.proxy = packet :: rest)
      (handled : userEvent host env { system.client with proxy := rest } packet = .ok client) :
      Step host system (.deliver env) { system with client }
  | input (id : WindowId) (input : WindowEvent) (env : Env) :
      Step host system (.input id input env) { system with client := windowEvent host env system.client id input }
  | resumed (env : Env) : Step host system (.resumed env) { system with client := resumed host env system.client }
  | decoded (env : DecodeEnv) (packet : Packet) (rest : List Packet) (result : Option Decoded) (area : Option MmapArea)
      (queued : system.client.decodeSender = packet :: rest)
      (turned : decodeTurn host env system.client.area packet = .ok (result, area)) :
      Step host system (.decode env) { system with client := { system.client with
        decodeSender := rest
        area
        proxy := system.client.proxy ++ (result.map (decodedPacket env packet)).toList } }
  | posted (posted : LocalPost) : Step host system (.post posted) (system.posted posted.packet)
  | answered (prompt : String) (outcome : Except String (Option String)) :
      Step host system (.pinentry prompt outcome) (System.posted
        { system with client := { system.client with pinentries := system.client.pinentries.erase prompt } }
        (pinentryPacket prompt outcome))
  | written (index : Nat) (byte : UInt8) (area : MmapArea) (mapped : system.client.area = some area) :
      Step host system (.serverWrites index byte) { system with client := { system.client with
        area := some { area with memory := area.memory.set index byte } } }
  | audio (running connected : Bool) (worker : AudioWorker) (held : system.client.audioWorker = some worker) :
      Step host system (.audioTurn running connected) { system with client := { system.client with
        audioWorker := some { queue := worker.queue.tail, running, connected } } }

theorem receive_step {read : Except IoError RawPacket} (moved : system.receive host read = .ok next) :
    Step host system (.receive read) next := by
  simp only [System.receive] at moved
  split at moved
  next => cases moved
  next =>
    split at moved
    next error =>
      cases moved
      exact .lost error
    next raw =>
      split at moved
      next message failed =>
        cases moved
        exact .invalid raw message failed
      next packet parsed =>
        split at moved
        next => cases moved
        next =>
          cases moved
          exact .received raw packet parsed

theorem deliver_step {env : Env} (moved : system.deliver host env = .ok next) : Step host system (.deliver env) next := by
  rw [System.deliver] at moved
  split at moved
  next => cases moved
  next packet rest queued =>
    cases handled : userEvent host env { system.client with proxy := rest } packet with
    | error cause => simp [System.ofClient, handled] at moved
    | ok client =>
      simp only [System.ofClient, handled, Except.ok.injEq] at moved
      subst moved
      exact .delivered env packet rest client queued handled

theorem decode_step {env : DecodeEnv} (moved : system.decode host env = .ok next) : Step host system (.decode env) next := by
  rw [System.decode] at moved
  split at moved
  next => cases moved
  next packet rest queued =>
    split at moved
    next => cases moved
    next result area turned =>
      cases moved
      exact .decoded env packet rest result area queued turned

theorem step_of_moved {event : Event} (moved : System.step host event system = .ok next) : Step host system event next := by
  cases event with
  | receive read => exact receive_step moved
  | deliver env => exact deliver_step moved
  | input id input env =>
    cases moved
    exact .input id input env
  | resumed env =>
    cases moved
    exact .resumed env
  | decode env => exact decode_step moved
  | post posted =>
    simp only [System.step] at moved
    split at moved
    next =>
      cases moved
      exact .posted posted
    next => cases moved
  | pinentry prompt outcome =>
    simp only [System.step] at moved
    split at moved
    next =>
      cases moved
      exact .answered prompt outcome
    next => cases moved
  | serverWrites index byte =>
    simp only [System.step, System.serverWrites] at moved
    split at moved
    next => cases moved
    next area mapped =>
      cases moved
      exact .written index byte area mapped
  | audioTurn running connected =>
    simp only [System.step, System.audioTurn] at moved
    split at moved
    next => cases moved
    next worker held =>
      cases moved
      exact .audio running connected worker held

end Xpra.Proofs.Steps
