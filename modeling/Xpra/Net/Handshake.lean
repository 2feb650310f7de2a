import Xpra.Client.Host
import Xpra.Net.Sha1
import Xpra.Net.Uri
import Xpra.Net.Websocket

/-! The opening handshake of `net/websocket.rs`: an upgrade request, and the server's
answer read one byte at a time up to its blank line. -/

namespace Xpra.Net
open Library Xpra.Client

def ACCEPT_GUID : String := "258EAFA5-E914-47DA-95CA-C5AB0DC85B11"

abbrev Nonce := { bytes : Bytes // bytes.length = 16 }

/-- A connected transport: what the peer has still to deliver, and what becomes of the
request and of the frames that are written later. -/
structure CloneableStream where
  input : Bytes
  sink : Sink
  masks : Nat → MaskKey
  outcome : Nat → Option IoError

/-- `STANDARD.encode` of the base64 library, and `{:?}` of a text. -/
structure Texts where
  encode : Bytes → String
  quote : String → String

def utf8 (text : String) : Bytes := text.toUTF8.toList

def request (host path key : String) : String :=
  let requestPath := if path.isEmpty then "/" else path
  s!"GET {requestPath} HTTP/1.1\r\n" ++
    s!"Host: {host}\r\n" ++
    "Upgrade: websocket\r\n" ++
    "Connection: Upgrade\r\n" ++
    s!"Sec-WebSocket-Key: {key}\r\n" ++
    "Sec-WebSocket-Version: 13\r\n" ++
    "Sec-WebSocket-Protocol: binary\r\n" ++
    "\r\n"

def BLANK_LINE : Bytes := [0x0d, 0x0a, 0x0d, 0x0a]

/-- The loop that collects the response, with the bytes it has so far. What is left of the
input comes back in any case. -/
def readResponse (response input : Bytes) : Except String Bytes × Bytes :=
  match input with
  | [] => (.error eof.message, [])
  | byte :: rest =>
    let response := response ++ [byte]
    if BLANK_LINE.isSuffixOf response then (.ok response, rest)
    else if response.length > 8192 then (.error "websocket handshake response too large", rest)
    else readResponse response rest

/-- The value of the last accept header among the lines. -/
def acceptHeader (lines : List (List Char)) : Option String :=
  lines.foldl (fun accept line =>
    match Split.cut [':'] line with
    | some (k, v) =>
      if eqIgnoreAsciiCase (trim (String.ofList k)).toList "sec-websocket-accept" then some (trim (String.ofList v)) else accept
    | none => accept) none

def acceptKey (texts : Texts) (clientKey : String) : String := texts.encode (Sha1.sha1 (utf8 (clientKey ++ ACCEPT_GUID)))

def checkResponse (texts : Texts) (key : String) (response : Bytes) : Except String Unit :=
  let lines := Split.pieces '\r' ['\n'] (fromUtf8Lossy response).toList
  let statusLine := String.ofList (lines.headD [])
  if ¬ contains statusLine " 101 " then .error s!"unexpected websocket handshake response: {texts.quote statusLine}"
  else
    let expected := acceptKey texts key
    let accept := acceptHeader lines.tail
    if accept = some expected then .ok ()
    else
      let got := match accept with
        | some accept => "Some(" ++ texts.quote accept ++ ")"
        | none => "None"
      .error s!"invalid Sec-WebSocket-Accept: got {got}, expected {texts.quote expected}"

namespace WebSocketStream

/-- `connect`, with the sixteen random bytes it draws. The transport comes back as it is
left. -/
def connect (texts : Texts) (random : Nonce) (stream : CloneableStream) (host path : String) :
    Except String WebSocketStream × CloneableStream :=
  let key := texts.encode random.val
  match stream.sink.writeAll (utf8 (request host path key)) with
  | (.error error, sink) => (.error error.message, { stream with sink })
  | (.ok (), sink) =>
    match readResponse [] stream.input with
    | (.error reason, input) => (.error reason, { stream with sink, input })
    | (.ok response, input) =>
      let stream := { stream with sink, input }
      match checkResponse texts key response with
      | .error reason => (.error reason, stream)
      | .ok () => (.ok { input := stream.input, masks := stream.masks, outcome := stream.outcome }, stream)

/-- `try_clone`, which the transport may refuse. -/
def tryClone (stream : WebSocketStream) (refused : Option IoError) : Except IoError WebSocketStream :=
  match refused with
  | some error => .error error
  | none => .ok { stream with readBuf := [], readPos := 0 }

end WebSocketStream
end Xpra.Net
