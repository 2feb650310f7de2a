import Xpra.Client.AudioPackets
import Xpra.Client.Challenge
import Xpra.Client.SessionPackets
import Xpra.Client.WindowPackets

/-! The UI thread's event handlers: user events (packets from the server and from
the client's own threads), window events and the start of the session. -/

namespace Xpra.Client
open Xpra.Net

/-- The arms of `do_process_packet`. -/
inductive Kind where
  | hello | audioCapabilities | audioData | audioLatency | audioWorkerFailed | encodings | startupComplete
  | newWindow | newOverrideRedirect | windowMoveResize | initiateMoveresize | raiseWindow | showDesktop
  | pointerPosition | pointerGrab | pointerUngrab | lostWindow | eos | settingChange | bell | cursor
  | notifyShow | notifyClose | windowIcon | windowMetadata | serverEvent
  | draw | drawDecoded | drawFailed
  | ping | sendPing | sendLog | pingEcho
  | challenge | challengePassword | challengeCancel | challengeFallbackDialog
  | setClipboardEnabled | clipboardToken | clipboardRequest | clipboardContents | clipboardContentsNone
  | clipboardPendingRequests | clipboardChanged
  | trayExit | disconnect | connectionLost | invalidPacket
  | unhandled
  deriving DecidableEq, Repr

def packetTypes : List (String × Kind) := [
  ("hello", .hello),
  ("encodings", .encodings),
  ("startup-complete", .startupComplete),
  ("new-window", .newWindow),
  ("new-override-redirect", .newOverrideRedirect),
  ("window-move-resize", .windowMoveResize),
  ("configure-override-redirect", .windowMoveResize),
  ("initiate-moveresize", .initiateMoveresize),
  ("raise-window", .raiseWindow),
  ("show-desktop", .showDesktop),
  ("pointer-position", .pointerPosition),
  ("pointer-grab", .pointerGrab),
  ("pointer-ungrab", .pointerUngrab),
  ("lost-window", .lostWindow),
  ("eos", .eos),
  ("setting-change", .settingChange),
  ("bell", .bell),
  ("cursor", .cursor),
  ("notify_show", .notifyShow),
  ("notify_close", .notifyClose),
  ("window-icon", .windowIcon),
  ("window-metadata", .windowMetadata),
  ("server-event", .serverEvent),
  ("draw", .draw),
  ("draw-decoded", .drawDecoded),
  ("draw-failed", .drawFailed),
  ("decoding-failed", .drawFailed),
  ("ping", .ping),
  ("send-ping", .sendPing),
  ("send-log", .sendLog),
  ("ping_echo", .pingEcho),
  ("challenge", .challenge),
  ("challenge-password", .challengePassword),
  ("challenge-cancel", .challengeCancel),
  ("challenge-fallback-dialog", .challengeFallbackDialog),
  ("set-clipboard-enabled", .setClipboardEnabled),
  ("clipboard-token", .clipboardToken),
  ("clipboard-request", .clipboardRequest),
  ("clipboard-contents", .clipboardContents),
  ("clipboard-contents-none", .clipboardContentsNone),
  ("clipboard-pending-requests", .clipboardPendingRequests),
  ("clipboard-changed", .clipboardChanged),
  ("tray-exit", .trayExit),
  ("disconnect", .disconnect),
  ("connection-lost", .connectionLost),
  ("invalid-packet", .invalidPacket)]

def windowsPacketTypes : List (String × Kind) := [
  ("audio-capabilities", .audioCapabilities),
  ("audio-data", .audioData),
  ("sound-data", .audioData),
  ("audio-latency", .audioLatency),
  ("audio-worker-failed", .audioWorkerFailed)]

def Kind.parse (windows : Bool) (packetType : String) : Kind :=
  let types := if windows then windowsPacketTypes ++ packetTypes else packetTypes
  (types.lookup packetType).getD .unhandled

def kindOf (host : Host) (packet : Packet) : Kind := Kind.parse host.windows (yamlStr (packet.get 0))

variable (host : Host) (env : Env) (client : XpraClient)

/-- `assert!(p.len() > 1)` and the field behind it. -/
def assertHello (packet : Packet) : Except Panic Yaml :=
  if packet.len > 1 then .ok (packet.get 1) else .error .assertion

/-- An argument of `debug!`, looked up only where the call is compiled in. -/
def debugField (packet : Packet) : Except Panic XpraClient :=
  if host.debugLog then (fun _ => client) <$> packet.field 1 else .ok client

def forwardToDecoder (packet : Packet) : XpraClient :=
  if host.windows then { client with decodeSender := client.decodeSender ++ [packet] } else client

def doProcessPacket (kind : Kind) (packet : Packet) : Except Panic XpraClient :=
  match kind with
  | .hello => do
    let hello ← assertHello packet
    processHello host client hello
  | .audioCapabilities =>
    .ok (if packet.len > 1 then processAudioCapabilities host client (packet.get 1) else client)
  | .audioData => processAudioData host env client packet
  | .audioLatency => reportAudioLatency host client <$> packet.getU32 1
  | .audioWorkerFailed => (fun _ => disableAudio host client) <$> packet.getStr 1
  | .encodings => debugField host client packet
  | .startupComplete => .ok { client with startupComplete := true }
  | .newWindow => processNewCommon host env client packet false
  | .newOverrideRedirect => processNewCommon host env client packet true
  | .windowMoveResize => processWindowMoveResize client packet
  | .initiateMoveresize => processInitiateMoveresize client packet
  | .raiseWindow => processRaiseWindow client packet
  | .showDesktop => .ok client
  | .pointerPosition => .ok client
  | .pointerGrab => .ok (processPointerGrab env client packet)
  | .pointerUngrab => .ok (releasePointerGrab env client)
  | .lostWindow => (fun client => forwardToDecoder host client packet) <$> processLostWindow env client packet
  | .eos => .ok (forwardToDecoder host client packet)
  | .settingChange => debugField host client packet
  | .bell => processBell client packet
  | .cursor => processCursor host env client packet
  | .notifyShow => processNotifyShow host client packet
  | .notifyClose => processNotifyClose client packet
  | .windowIcon => processWindowIcon host client packet
  | .windowMetadata => processWindowMetadata client packet
  | .serverEvent => .ok client
  | .draw => .ok { client with decodeSender := client.decodeSender ++ [packet] }
  | .drawDecoded => processDrawDecoded host client packet
  | .drawFailed => processDrawFailed host client packet
  | .ping => processPing host client packet
  | .sendPing => .ok (sendPing host env client)
  | .sendLog => sendLog host env client packet
  | .pingEcho => processPingEcho env client packet
  | .challenge => processChallenge host env client packet
  | .challengePassword => answerChallenge host env client <$> packet.getStr 1
  | .challengeCancel => .ok (cancelAuth client)
  | .challengeFallbackDialog => showAuthDialog env client <$> packet.getStr 1
  | .setClipboardEnabled => setClipboardEnabled client packet
  | .clipboardToken => processClipboardToken host client packet
  | .clipboardRequest => processClipboardRequest host client packet
  | .clipboardContents => processClipboardContents host client packet
  | .clipboardContentsNone => .ok client
  | .clipboardPendingRequests => .ok client
  | .clipboardChanged => processClipboardChanged host client packet
  | .trayExit => .ok (trayExit host client)
  | .disconnect => processDisconnect client packet
  | .connectionLost => processConnectionLost client packet
  | .invalidPacket => processInvalidPacket client packet
  | .unhandled => .ok client

def userEvent (packet : Packet) : Except Panic XpraClient :=
  if packet.len = 0 then .ok client
  else if yamlStr (packet.get 0) = "" then .ok client
  else doProcessPacket host env client (kindOf host packet) packet

def windowEvent (id : WindowId) (event : WindowEvent) : XpraClient :=
  if client.authDialog.map AuthDialog.window = some id then handleAuthDialogEvent host env client event
  else match client.idMap id with
    | some wid => handleWindowEvent host env client wid event
    | none => client

def resumed : XpraClient :=
  let client := { client with softbufferCtx := true, tray := client.tray || host.windows }
  if client.helloSent then client
  else
    let client := { client with monitors := env.monitors, desktopSize := totalDisplaySize env.monitors, helloSent := true }
    sendHello host client none

end Xpra.Client
