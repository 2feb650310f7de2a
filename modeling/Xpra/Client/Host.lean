import Xpra.Net.Io
import Xpra.Net.Json
import Xpra.Client.Mmap

/-! What the client takes from the machine it runs on and from the libraries it
is linked with. -/

namespace Xpra.Client
open Xpra.Net

structure Host where
  windows : Bool
  linux : Bool
  debugAssertions : Bool
  /-- Whether the arguments of `debug!` are evaluated; a release build leaves
  the calls out. -/
  debugLog : Bool
  littleEndian : Bool
  base64 : String → Option Bytes
  lz4 : Bytes → Except String Bytes
  /-- UTF-8 and YAML decoding of a payload: the documents in it. -/
  loadYaml : Bytes → Except String (List Yaml)
  render : Json → Bytes
  /-- `{:?}` of a YAML node and of a text. -/
  debug : Yaml → String
  quote : String → String
  jpeg : Bytes → Except String Bytes
  png : Bytes → Except String Bytes
  webp : Bytes → Option (Nat × Nat × Bytes)
  pngRgba : Bytes → Except String (UInt32 × UInt32 × Bytes)
  platform : String
  version : String
  user : String
  username : String
  hostname : String
  uuid : String

def Host.plain : Host where
  windows := false
  linux := true
  debugAssertions := false
  debugLog := false
  littleEndian := true
  base64 := fun _ => none
  lz4 := fun _ => .error "the offset to copy is not contained in the decompressed buffer"
  loadYaml := fun _ => .error "invalid utf-8 sequence"
  render := fun _ => []
  debug := fun _ => "BadValue"
  quote := fun text => text
  jpeg := fun _ => .error "not a JPEG file"
  png := fun _ => .error "invalid signature"
  webp := fun _ => none
  pngRgba := fun _ => .error "invalid signature"
  platform := "linux"
  version := "0.1"
  user := ""
  username := ""
  hostname := ""
  uuid := ""

/-! ### UTF-8 -/

def continuation (byte : UInt8) : Bool := 0x80 ≤ byte && byte ≤ 0xBF

/-- The second bytes that may follow a lead byte, and the number of bytes that
follow it in all. -/
def utf8Lead (lead : UInt8) : Option ((UInt8 → Bool) × Nat) :=
  if 0xC2 ≤ lead ∧ lead ≤ 0xDF then some (continuation, 1)
  else if lead = 0xE0 then some (fun second => 0xA0 ≤ second && second ≤ 0xBF, 2)
  else if lead = 0xED then some (fun second => 0x80 ≤ second && second ≤ 0x9F, 2)
  else if 0xE1 ≤ lead ∧ lead ≤ 0xEF then some (continuation, 2)
  else if lead = 0xF0 then some (fun second => 0x90 ≤ second && second ≤ 0xBF, 3)
  else if lead = 0xF4 then some (fun second => 0x80 ≤ second && second ≤ 0x8F, 3)
  else if 0xF1 ≤ lead ∧ lead ≤ 0xF3 then some (continuation, 3)
  else none

/-- The first character of a byte string and the number of bytes after the first
one that it takes. Where no character starts, the longest prefix of one is
replaced. -/
def decodeChar (lead : UInt8) (rest : Bytes) : Char × Nat :=
  if lead < 0x80 then (Char.ofNat lead.toNat, 0)
  else match utf8Lead lead with
    | none => ('\uFFFD', 0)
    | some (second, count) =>
      let tail := (rest.take count).zipIdx.takeWhile fun (byte, i) =>
        if i = 0 then second byte else continuation byte
      if tail.length < count then ('\uFFFD', tail.length)
      else
        let high := lead.toNat % 2 ^ (6 - count)
        (Char.ofNat (tail.foldl (fun value entry => value * 64 + entry.1.toNat % 64) high), count)

def decodeChars : Bytes → List Char
  | [] => []
  | lead :: rest => (decodeChar lead rest).1 :: decodeChars (rest.drop (decodeChar lead rest).2)
termination_by bytes => bytes.length
decreasing_by
  simp only [List.length_drop, List.length_cons]
  omega

/-- `String::from_utf8_lossy`. -/
def fromUtf8Lossy (bytes : Bytes) : String := String.ofList (decodeChars bytes)

def decodePixels (host : Host) (coding : String) (data : Bytes) : Except String Bytes :=
  if coding = "jpeg" then host.jpeg data
  else if coding = "png" then host.png data
  else if coding = "webp" then
    match host.webp data with
    | none => .error "webp decoding failed"
    | some (width, height, pixels) =>
      if pixels.length = 0 then .error s!"invalid webp image size {width}x{height}" else .ok pixels
  else .error s!"unsupported encoding {coding}"

/-! ### Text helpers -/

def startsWith (text start : String) : Bool := start.toList.isPrefixOf text.toList

/-- The Unicode property White_Space. -/
def isWhitespace (char : Char) : Bool :=
  let code := char.toNat
  (0x9 ≤ code && code ≤ 0xD) || code = 0x20 || code = 0x85 || code = 0xA0 || code = 0x1680 ||
    (0x2000 ≤ code && code ≤ 0x200A) || code = 0x2028 || code = 0x2029 || code = 0x202F || code = 0x205F || code = 0x3000

def trim (text : String) : String :=
  String.ofList ((text.toList.dropWhile isWhitespace).reverse.dropWhile isWhitespace).reverse

def contains (text part : String) : Bool := text.toList.tails.any part.toList.isPrefixOf

def afterColon (text : String) : String :=
  String.ofList (text.toList.reverse.takeWhile (· ≠ ':')).reverse

end Xpra.Client
