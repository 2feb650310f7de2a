import Xpra.Client.Hello

/-! Speaker forwarding on the UI thread of the Windows build. -/

namespace Xpra.Client
open Xpra.Net

variable (host : Host) (env : Env) (client : XpraClient)

def sendAudioControl (command : String) (argument : Json) : XpraClient :=
  client.writeJson host (Audio.controlPacket command argument)

def reportAudioLatency (totalMs : UInt32) : XpraClient :=
  if !client.audioProtocol.negotiated || !client.audioProtocol.serverAvSync then client
  else
    let (report, reporter) := client.audioSyncReporter.update totalMs
    let client : XpraClient := { client with audioSyncReporter := reporter }
    match report with
    | some total => sendAudioControl host client "sync" total
    | none => client

def disableAudio : XpraClient :=
  if client.audioWorker.isNone then client
  else
    let client := sendAudioControl host client "stop" client.audioProtocol.sequence
    let finished := client.audioProtocol.finish
    let client := sendAudioControl host { client with audioProtocol := finished } "new-sequence" finished.sequence
    { client with audioProtocol := { finished with negotiated := false }, audioWorker := none }

/-- Puts a command in the worker's queue. Failing to queue one that the stream
cannot do without ends the forwarding; whether it went through is returned. -/
def enqueueAudio (command : Command) (critical : Bool) : Bool × XpraClient :=
  match client.audioWorker with
  | none => (false, disableAudio host client)
  | some worker =>
    let (result, worker) := worker.send command
    let client : XpraClient := { client with audioWorker := some worker }
    match result with
    | .ok () => (true, client)
    | .error .stopped => (false, disableAudio host client)
    | .error .full =>
      if critical then (false, disableAudio host client) else (false, { client with audioQueueWarned := true })

def stopAudioStream (tellServer : Bool) : XpraClient :=
  let sequence := client.audioProtocol.sequence
  match enqueueAudio host client (.finish sequence) true with
  | (false, client) => client
  | (true, client) =>
    let client := if tellServer then sendAudioControl host client "stop" sequence else client
    let finished := client.audioProtocol.finish
    let client := sendAudioControl host { client with audioProtocol := finished } "new-sequence" finished.sequence
    reportAudioLatency host { client with audioSyncReporter := {} } 0

/-- Whether the stream goes on after the buffer is returned with the state. -/
def processOpusBuffer (data : Bytes) (timestampNs durationNs : Option Int64) : Bool × XpraClient :=
  let sequence := client.audioProtocol.sequence
  if (textBytes "OpusHead").isPrefixOf data then
    match OpusHeader.parse data with
    | .error _ => (false, stopAudioStream host client true)
    | .ok header =>
      match enqueueAudio host client (.configure sequence header data) true with
      | (false, client) => (false, client)
      | (true, client) => (true, { client with audioProtocol := { client.audioProtocol with headerSeen := true } })
  else if (textBytes "OpusTags").isPrefixOf data then (true, client)
  else if client.audioProtocol.headerSeen = false then (true, client)
  else enqueueAudio host client (.packet sequence data timestampNs durationNs (UInt64.ofNat env.elapsed)) false

/-- Headers first; the loop ends at the first one that stops the stream. -/
def processOpusHeaders : List Bytes → XpraClient → Bool × XpraClient
  | [], client => (true, client)
  | header :: headers, client =>
    match processOpusBuffer host env client header none none with
    | (false, client) => (false, client)
    | (true, client) => processOpusHeaders headers client

/-- Whether the packet that starts the stream is looked at further is returned
with the state. -/
def beginAudioStream (incoming : IncomingAudio) : Bool × XpraClient :=
  let codec := incoming.metadata.codec.getD incoming.codec
  match client.audioProtocol.begin host codec incoming.metadata.sequence with
  | .error _ => (false, stopAudioStream host client true)
  | .ok (sequence, protocol) =>
    match enqueueAudio host { client with audioProtocol := protocol } (.reset sequence) true with
    | (false, client) => (false, client)
    | (true, client) => (true, reportAudioLatency host { client with audioSyncReporter := {} } 0)

def endAudioStream : XpraClient :=
  match enqueueAudio host client (.finish client.audioProtocol.sequence) true with
  | (false, client) => client
  | (true, client) =>
    let finished := client.audioProtocol.finish
    let client := sendAudioControl host { client with audioProtocol := finished } "new-sequence" finished.sequence
    reportAudioLatency host client 0

def playAudio (incoming : IncomingAudio) : XpraClient :=
  if incoming.metadata.endOfStream then endAudioStream host client
  else if incoming.codec ≠ CODEC then stopAudioStream host client true
  else match processOpusHeaders host env incoming.headers client with
    | (false, client) => client
    | (true, client) =>
      if incoming.data = [] then client
      else (processOpusBuffer host env client incoming.data incoming.metadata.timestampNs
        incoming.metadata.durationNs).2

def processAudioData (packet : Packet) : Except Panic XpraClient :=
  if !client.audioProtocol.negotiated || client.audioWorker.isNone then .ok client
  else do
    match ← IncomingAudio.parse host packet with
    | .error _ => return client
    | .ok incoming =>
      if !client.audioProtocol.acceptsSequence incoming.metadata.sequence then return client
      else if incoming.metadata.startOfStream then
        match beginAudioStream host client incoming with
        | (false, client) => return client
        | (true, client) => return playAudio host env client incoming
      else if client.audioProtocol.active = false then return client
      else return playAudio host env client incoming

def processAudioCapabilities (capabilities : Yaml) : XpraClient :=
  if client.audioWorker.isNone || !client.audioProtocol.capabilitiesSent || client.audioProtocol.negotiated then
    client
  else if !Audio.serverCanSendOpus capabilities then client
  else
    let client : XpraClient := { client with audioProtocol := { client.audioProtocol with negotiated := true } }
    let client := sendAudioControl host client "start" CODEC
    reportAudioLatency host { client with audioSyncReporter := {} } 0

end Xpra.Client
