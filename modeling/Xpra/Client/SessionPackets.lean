import Xpra.Client.Hello

/-! Handlers of the packets about draws, latency, the clipboard and the end of
the session. -/

namespace Xpra.Client
open Xpra.Net

variable (host : Host) (env : Env) (client : XpraClient)

/-! ### Draw results -/

/-- The legacy layout starts with the packet sequence, the modern one with the
window. -/
def drawAckPacket (backwardsCompatible : Bool) (packetSequence wid : UInt64) (width height : UInt32)
    (decodeTime : Int) (message : String) : Json :=
  if backwardsCompatible then
    .array ["window-draw-ack", packetSequence, wid, width, height, decodeTime, message]
  else .array ["window-ack", wid, width, height, packetSequence, decodeTime, message]

def sendDrawAck (seq wid : UInt64) (w h : UInt32) (decodeTime : Int) (message : String) : XpraClient :=
  client.writeJson host (drawAckPacket client.serverBackwardsCompatible seq wid w h decodeTime message)

def processDrawDecoded (packet : Packet) : Except Panic XpraClient := do
  let wid ← packet.getU64 1
  let x ← packet.getI32 2
  let y ← packet.getI32 3
  let w ← packet.getU32 4
  let h ← packet.getU32 5
  let coding ← packet.getStr 6
  let (pixels, packet) ← packet.getBytes host.base64 7
  let seq ← packet.getU64 8
  let decodeTimeUs := packet.decodeTimeUs.getD 0
  match client.windows wid with
  | none => return sendDrawAck host client seq wid w h (-1) "window not found!"
  | some window =>
    -- no pixels: a frame the decoder is still warming up for
    let window ← if pixels = [] then .ok window else window.paint x y w h coding pixels
    let client : XpraClient := { client with windows := client.windows.insert wid window }
    return sendDrawAck host client seq wid w h decodeTimeUs.toInt ""

def processDrawFailed (packet : Packet) : Except Panic XpraClient := do
  let wid ← packet.getU64 1
  let w ← packet.getU32 4
  let h ← packet.getU32 5
  let message ← packet.getStr 7
  let seq ← packet.getU64 8
  return sendDrawAck host client seq wid w h (-1) message

/-! ### Latency and logs -/

def Env.nowMs (env : Env) : Int64 := Int64.ofNat env.elapsed

def processPing (packet : Packet) : Except Panic XpraClient := do
  let echotime ← packet.getU64 1
  let sid := if packet.len ≥ 4 then yamlStr (packet.get 3) else ""
  return client.writeJson host (.array ["ping_echo", echotime, (0 : Nat), (0 : Nat), (0 : Nat),
    client.lastClientLatencyMs, sid])

def processPingEcho (packet : Packet) : Except Panic XpraClient := do
  let echoedtime ← packet.getI64 1
  let rtt := env.nowMs - echoedtime
  return if 0 ≤ rtt then { client with lastClientLatencyMs := rtt } else client

def sendPing : XpraClient := client.writeJson host (.array ["ping", env.nowMs])

def sendLog (packet : Packet) : Except Panic XpraClient := do
  let level ← packet.getI64 1
  let message ← packet.getStr 2
  return client.writeJson host (.array ["logging-event", level, message, env.nowMs])

/-! ### Clipboard -/

/-- The text of a clipboard payload, unless it is not text at all. -/
def clipboardText (packet : Packet) (encIndex dataIndex : UInt8) : Except Panic (Option String) := do
  let encoding ← packet.getStr encIndex.toNat
  if encoding ≠ "bytes" then return none
  else
    let (bytes, _) ← packet.getBytes host.base64 dataIndex
    return if bytes = [] then none else some (fromUtf8Lossy bytes)

def setLocalClipboard (text : String) : XpraClient :=
  { client with lastClipboard := text, clipboard := client.clipboard.map (· ++ [text]) }

def processClipboardToken (packet : Packet) : Except Panic XpraClient :=
  if client.clipboardEnabled = false then .ok client
  else if packet.len ≥ 8 then do
    match ← clipboardText host packet 6 7 with
    | some text => return setLocalClipboard client text
    | none => return client
  else .ok (client.writeJson host (.array ["clipboard-request", (0 : Nat), "CLIPBOARD", "UTF8_STRING"]))

def isTextTarget (target : String) : Bool :=
  ["UTF8_STRING", "TEXT", "STRING", "text/plain;charset=utf-8", "text/plain"].contains target

def processClipboardRequest (packet : Packet) : Except Panic XpraClient := do
  let requestId ← packet.getU64 1
  let target ← packet.getStr 3
  return if !client.clipboardEnabled || !isTextTarget target || client.lastClipboard = "" then
      client.writeJson host (.array ["clipboard-contents-none", requestId, "CLIPBOARD"])
    else
      client.writeJson host (.array ["clipboard-contents", requestId, "CLIPBOARD", target, (8 : Nat), "bytes",
        client.lastClipboard])

def processClipboardContents (packet : Packet) : Except Panic XpraClient :=
  if client.clipboardEnabled = false then .ok client
  else if packet.len ≥ 7 then do
    match ← clipboardText host packet 5 6 with
    | some text => return setLocalClipboard client text
    | none => return client
  else .ok client

def processClipboardChanged (packet : Packet) : Except Panic XpraClient :=
  if client.clipboardEnabled = false then .ok client
  else do
    let text ← packet.getStr 1
    if text = "" ∨ text = client.lastClipboard then return client
    else
      let targets : Json := .array ["UTF8_STRING", "TEXT", "STRING", "text/plain;charset=utf-8", "text/plain"]
      let data : Json := .object [("UTF8_STRING", .array ["UTF8_STRING", (8 : Nat), "bytes", text])]
      return { client with lastClipboard := text }.writeJson host (.array ["clipboard-data", "CLIPBOARD",
        .object [("claim", true), ("greedy", true), ("targets", targets), ("data", data)]])

def setClipboardEnabled (packet : Packet) : Except Panic XpraClient := do
  let enabled ← packet.getBool 1
  return { client with clipboardEnabled := enabled }

/-! ### The end of the session -/

/-- Anything that says "error", or any timeout but the idle one. -/
def disconnectIsAnError (reason : String) : Bool :=
  contains reason "error" || (contains reason "timeout" && reason ≠ "idle timeout")

/-- The field index is cast to a byte, so beyond 256 fields it starts over. -/
def processDisconnect (packet : Packet) : Except Panic XpraClient := do
  let info ← ((List.range' 1 (packet.len - 1)).mapM fun i => packet.getStr (i % 256))
  let reason := info.head?.getD ""
  return if info.any (· = "authentication failed") then client.quit .authenticationFailed
    else if disconnectIsAnError reason then
      client.quit (if client.startupComplete then .failure else .connectionFailed)
    else client.quit .ok

def processConnectionLost (packet : Packet) : Except Panic XpraClient :=
  -- the text is read for the log only, and only the first time
  if client.exitCode.isNone then do
    let _ ← packet.getStr 1
    return client.quit client.connectionLostCode
  else .ok (client.quit client.connectionLostCode)

def processInvalidPacket (packet : Packet) : Except Panic XpraClient := do
  let _ ← packet.getStr 1
  return client.quit (if client.startupComplete then .packetFailure else .connectionFailed)

def trayExit : XpraClient := (client.writeJson host (.array ["connection-close", "client exit"])).quit .ok

end Xpra.Client
