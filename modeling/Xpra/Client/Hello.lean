import Xpra.Client.State

/-! The hello packets in both directions: what the client announces, and what it
does with the server's capabilities. -/

namespace Xpra.Client
open Xpra.Net

def VERSION_KEY_STR : String := "version"

def DISPLAY_LIMIT : Int := 32768

/-- The box around every monitor, when the server can use its size. -/
def totalDisplaySize (monitors : List MonitorInfo) : Option (UInt32 × UInt32) :=
  let box (monitor : MonitorInfo) : Int × Int × Int × Int :=
    let (x, y, w, h) := monitor.geometry
    (x.toInt, y.toInt, x.toInt + w.toNat, y.toInt + h.toNat)
  let bounds := monitors.foldl (fun bounds monitor =>
    let (left, top, right, bottom) := box monitor
    match bounds with
    | none => some (left, top, right, bottom)
    | some (l, t, r, b) => some (min l left, min t top, max r right, max b bottom)) none
  match bounds with
  | none => none
  | some (left, top, right, bottom) =>
    let width := right - left
    let height := bottom - top
    if width ≤ 0 ∨ height ≤ 0 ∨ width ≥ DISPLAY_LIMIT ∨ height ≥ DISPLAY_LIMIT then none
    else some (UInt32.ofNat width.toNat, UInt32.ofNat height.toNat)

def monitorCaps (monitor : MonitorInfo) : Json :=
  let (x, y, w, h) := monitor.geometry
  let fixed : Json.Fields := [("geometry", .array [x, y, w, h]), ("primary", monitor.primary)]
  let name : Json.Fields := if monitor.name ≠ "" then [("name", monitor.name)] else []
  let rate : Json.Fields := match monitor.refreshRateMillihertz with
    | some rate => [("refresh-rate", rate)]
    | none => []
  .object (fixed ++ name ++ rate)

def displayCaps (display : Display) : Json :=
  let fixed : Json.Fields := [("show-desktop", true), ("resize-events", false)]
  let size : Json.Fields := match display.desktopSize with
    | some (w, h) => [("desktop_size", .array [w, h])]
    | none => []
  let monitors : Json.Fields := if display.monitors = [] then []
    else [("monitors", .object (display.monitors.zipIdx.map fun (monitor, index) =>
      (toString index, monitorCaps monitor)))]
  .object (fixed ++ size ++ monitors)

def encodings (host : Host) : List Json :=
  if host.windows then ["jpeg", "png", "webp", "h264"] else ["jpeg", "png", "webp"]

def encodingCaps (host : Host) (mmap : Bool) : Json :=
  let icon : Json.Fields := [("window-icon", .array ["png"])]
  let video : Json.Fields := if host.windows then
      [("full_csc_modes", .object [("h264", .array ["YUV420P"])]),
        ("h264", .object [("YUV420P.profile", "high")])]
    else []
  let lists : Json.Fields := [("options", .array (encodings host)), ("core", .array (encodings host))]
  let formats : Json.Fields := if mmap then [("rgb_formats", .array ["BGRX"])] else []
  .object (icon ++ video ++ lists ++ formats)

def helloCaps (host : Host) (client : XpraClient) : Json.Fields := [
  ("version", host.version),
  ("wants", .array ["packet-types"]),
  ("encoders", .array ["yaml"]),
  ("chunks", true),
  ("compressors", .array ["lz4"]),
  ("compression_level", .number 1),
  ("windows", true),
  ("keyboard", true),
  ("mouse", true),
  ("sharing", true),
  ("bell", true),
  ("display", displayCaps client.toDisplay),
  ("digest", .array ["hmac+sha256"]),
  ("salt-digest", .array ["hmac+sha256"]),
  ("cursor", .object [("encodings", .array ["png"]), ("backwards-compatible", true)]),
  ("cursors", true),
  ("pointer", .object [("grabs", true)]),
  ("metadata", .object [("supported", .array ["title", "size-constraints", "fullscreen", "maximized",
    "iconic", "decorations", "above", "below"])]),
  ("notifications", .object [("enabled", true)]),
  ("events", true),
  ("clipboard", .object [("enabled", true), ("greedy", true), ("want_targets", true),
    ("selections", .array ["CLIPBOARD"]),
    ("preferred-targets", .array ["UTF8_STRING", "STRING", "text/plain"])]),
  ("ping", true),
  ("encoding", encodingCaps host client.mmap),
  ("client_type", "rust"),
  ("platform", host.platform),
  ("user", host.user),
  ("username", client.username.getD host.username),
  ("hostname", host.hostname),
  ("uuid", host.uuid)]

/-- `reply` is the response, the client salt and the padding of the second
hello. -/
def replyCaps : Option (String × String × String) → Json.Fields
  | some (response, clientSalt, padding) => [("challenge_response", response),
      ("challenge_client_salt", clientSalt), ("challenge_padding", padding)]
  | none => []

def mmapCaps (client : XpraClient) : Json.Fields :=
  match client.area with
  | some area => if client.mmap then [("mmap", .object [("read", area.caps)])] else []
  | none => []

def audioCaps (host : Host) (client : XpraClient) : Json.Fields :=
  if host.windows && client.audioWorker.isSome then
    [("audio", Audio.helloCapabilities), ("av-sync", Audio.avSyncCapabilities)]
  else []

def helloPacket (host : Host) (client : XpraClient) (reply : Option (String × String × String)) : Json :=
  .array ["hello", .object (helloCaps host client ++ replyCaps reply ++ mmapCaps client ++ audioCaps host client)]

def sendHello (host : Host) (client : XpraClient) (reply : Option (String × String × String)) : XpraClient :=
  client.writeJson host (helloPacket host client reply)

/-! ### The server's hello -/

def serverBackwardsCompatible (hello : Yaml) : Option Bool :=
  match yamlHash hello "packet-types" with
  | some (.array packetTypes) =>
    let hasPacketType (name : String) := packetTypes.any fun value => match value with
      | .string s => s = name
      | _ => false
    if hasPacketType "window-ack" then some (hasPacketType "damage-sequence") else none
  | _ => none

def processMmapCaps (client : XpraClient) (hello : Yaml) : XpraClient :=
  match client.area with
  | none => client
  | some area =>
    if client.mmap = false then client
    else
      let verified := area.checkServerCaps hello
      let client := { client with area := some area.unlink, checks := client.checks ++ [verified] }
      match verified with
      | .ok true => client
      | .ok false => { client with mmap := false }
      | .error _ => { client with mmap := false }.quit .mmapTokenFailure

def answerAsyncAudio (host : Host) (client : XpraClient) (hello : Yaml) : XpraClient :=
  if host.windows && client.audioWorker.isSome && !client.audioProtocol.capabilitiesSent &&
      Audio.asyncRequested hello then
    let protocol := { client.audioProtocol with serverAvSync := Audio.serverAvSyncEnabled hello }
    let client := { client with audioProtocol := protocol }.writeJson host
      (.array ["audio-capabilities", Audio.receiveCapabilities])
    { client with audioProtocol := { protocol with capabilitiesSent := true } }
  else client

def processHello (host : Host) (client : XpraClient) (hello : Yaml) : Except Panic XpraClient :=
  let client := processMmapCaps client hello
  match hello with
  | .hash entries =>
    match Yaml.find VERSION_KEY_STR entries with
    -- the hash is indexed without a check
    | none => .error .missingKey
    | some version =>
      let client := match version with
        | .string text => { client with serverVersion := text }
        | _ => client
      let client := match serverBackwardsCompatible hello with
        | some compatible => { client with serverBackwardsCompatible := compatible }
        | none => client
      let receivesLogs := ((yamlHash hello "remote-logging").bind fun logging =>
        yamlHashBool logging "receive").getD false
      let client := if receivesLogs then { client with logSink := true } else client
      let serverClipboard := match yamlHash hello "clipboard" with
        | some (.hash _) => true
        | _ => false
      let client := if serverClipboard && client.clipboard.isNone then
          { client with clipboard := some [], clipboardEnabled := true }
        else client
      .ok (answerAsyncAudio host client hello)
  | _ => .ok client

end Xpra.Client
