import Xpra.Client.System
import Xpra.Library.Base64
import Xpra.Proofs.PacketLanguage

/-! Binary fields come in the YAML, as base64, or out of band, as a chunk. A handler
that asks `get_bytes` for the field cannot tell which. -/

namespace Xpra.Proofs.BinaryFields
open Xpra.Net Xpra.Client Library PacketLanguage

/-! ### Packets that differ in one field -/

/-- Every other field is the same. -/
structure AlikeOff (index : UInt8) (packet other : Packet) : Prop where
  fields : ∀ i, i ≠ index.toNat → packet.main[i]? = other.main[i]?
  len : packet.len = other.len

/-- The field reads as the same bytes in both. -/
structure SameBytes (decode : String → Option Bytes) (index : UInt8) (bytes : Bytes) (packet other : Packet) : Prop
    extends AlikeOff index packet other where
  here : ∃ left, packet.getBytes decode index = .ok (bytes, left)
  there : ∃ left, other.getBytes decode index = .ok (bytes, left)

section Accessors
variable {index : UInt8} {packet other : Packet} {α β : Type}

namespace AlikeOff

theorem field (alike : AlikeOff index packet other) {i : Nat} (aside : i ≠ index.toNat) : packet.field i = other.field i := by
  rw [Packet.field, alike.fields i aside, Packet.field]

theorem get (alike : AlikeOff index packet other) {i : Nat} (aside : i ≠ index.toNat) : packet.get i = other.get i := by
  rw [Packet.get, List.getD_eq_getElem?_getD, alike.fields i aside, ← List.getD_eq_getElem?_getD, Packet.get]

theorem read (alike : AlikeOff index packet other) {i : Nat} (aside : i ≠ index.toNat) (convert : Yaml → α) :
    packet.read convert i = other.read convert i := by
  rw [Packet.read, alike.field aside, Packet.read]

theorem getU32 (alike : AlikeOff index packet other) {i : Nat} (aside : i ≠ index.toNat) : packet.getU32 i = other.getU32 i :=
  alike.read aside yamlU32

theorem getI32 (alike : AlikeOff index packet other) {i : Nat} (aside : i ≠ index.toNat) : packet.getI32 i = other.getI32 i :=
  alike.read aside yamlI32

theorem getU64 (alike : AlikeOff index packet other) {i : Nat} (aside : i ≠ index.toNat) : packet.getU64 i = other.getU64 i :=
  alike.read aside yamlU64

theorem getI64 (alike : AlikeOff index packet other) {i : Nat} (aside : i ≠ index.toNat) : packet.getI64 i = other.getI64 i :=
  alike.read aside yamlI64

theorem getStr (alike : AlikeOff index packet other) {i : Nat} (aside : i ≠ index.toNat) : packet.getStr i = other.getStr i :=
  alike.read aside yamlStr

end AlikeOff

/-- What comes after `get_bytes` sees the same bytes, and packets that are alike. -/
theorem SameBytes.bind {decode : String → Option Bytes} {bytes : Bytes} (same : SameBytes decode index bytes packet other)
    {rest : Bytes × Packet → Except Panic β}
    (alike : ∀ left right, AlikeOff index left right → rest (bytes, left) = rest (bytes, right)) :
    (packet.getBytes decode index >>= rest) = (other.getBytes decode index >>= rest) := by
  obtain ⟨left, here⟩ := same.here
  obtain ⟨right, there⟩ := same.there
  rw [here, there]
  apply alike
  obtain ⟨kept, -⟩ := Packet.getBytes_ok here
  obtain ⟨unchanged, -⟩ := Packet.getBytes_ok there
  constructor
  · rw [kept, unchanged]
    exact same.fields
  · rw [Packet.len, Packet.len, kept, unchanged]
    exact same.len

end Accessors

/-! ### The handlers -/

section Handlers
variable {host : Host} {bytes : Bytes} {packet other : Packet}

theorem decodeDraw_same (same : SameBytes host.base64 7 bytes packet other) (pixels : yamlStr (packet.get 6) ≠ "mmap")
    (env : DecodeEnv) (area : Option MmapArea) : decodeDraw host env area packet = decodeDraw host env area other := by
  obtain ⟨left, here⟩ := same.here
  obtain ⟨right, there⟩ := same.there
  simp only [decodeDraw]
  rw [same.getI64 (i := 1) (by decide), same.getI32 (i := 4) (by decide), same.getI32 (i := 5) (by decide),
    same.getStr (i := 6) (by decide), same.getI64 (i := 8) (by decide), here, there]
  refine bind_congr fun _ => bind_congr fun _ => bind_congr fun _ => ?_
  by_cases inside : 6 < other.len
  · have coding : other.getStr 6 = .ok (yamlStr (packet.get 6)) := by
      rw [same.get (i := 6) (by decide)]
      exact Packet.read_of_lt yamlStr inside
    rw [coding]
    simp only [bind, Except.bind, if_neg pixels, Functor.map, Except.map]
  · have coding : other.getStr 6 = .error .index := Packet.read_of_ge yamlStr (Nat.not_lt.mp inside)
    rw [coding]
    simp only [bind, Except.bind]

theorem decodeTurn_same (same : SameBytes host.base64 7 bytes packet other) (pixels : yamlStr (packet.get 6) ≠ "mmap")
    (env : DecodeEnv) (area : Option MmapArea) : decodeTurn host env area packet = decodeTurn host env area other := by
  rw [decodeTurn, decodeTurn, same.getStr (i := 0) (by decide), same.getU64 (i := 1) (by decide),
    endsStream, endsStream, same.get (i := 0) (by decide), decodeDraw_same same pixels]

theorem processCursor_same (same : SameBytes host.base64 9 bytes packet other) (env : Env) (client : XpraClient) :
    processCursor host env client packet = processCursor host env client other := by
  rw [processCursor, processCursor, same.len, same.get (i := 1) (by decide), same.getU32 (i := 6) (by decide),
    same.getU32 (i := 7) (by decide)]
  split
  · rfl
  · split
    · rfl
    · exact bind_congr fun xhot => bind_congr fun yhot => same.bind fun left right alike => rfl

theorem processWindowIcon_same (same : SameBytes host.base64 5 bytes packet other) (client : XpraClient) :
    processWindowIcon host client packet = processWindowIcon host client other := by
  rw [processWindowIcon, processWindowIcon, same.getU64 (i := 1) (by decide), same.getStr (i := 4) (by decide)]
  refine bind_congr fun _ => bind_congr fun encoding => ?_
  split
  · rfl
  · exact same.bind fun left right alike => rfl

theorem clipboardText_same {index : UInt8} (same : SameBytes host.base64 index bytes packet other) {encoding : UInt8}
    (aside : encoding.toNat ≠ index.toNat) : clipboardText host packet encoding index = clipboardText host other encoding index := by
  rw [clipboardText, clipboardText, same.getStr aside]
  refine bind_congr fun encoding => ?_
  split
  · rfl
  · exact same.bind fun left right alike => rfl

theorem processClipboardToken_same (same : SameBytes host.base64 7 bytes packet other) (client : XpraClient) :
    processClipboardToken host client packet = processClipboardToken host client other := by
  rw [processClipboardToken, processClipboardToken, same.len, clipboardText_same same (by decide)]

theorem processClipboardContents_same (same : SameBytes host.base64 6 bytes packet other) (client : XpraClient) :
    processClipboardContents host client packet = processClipboardContents host client other := by
  rw [processClipboardContents, processClipboardContents, same.len, clipboardText_same same (by decide)]

theorem processChallenge_same (same : SameBytes host.base64 1 bytes packet other) (env : Env) (client : XpraClient) :
    processChallenge host env client packet = processChallenge host env client other := by
  rw [processChallenge, processChallenge]
  split
  · rfl
  · refine same.bind fun left right alike => ?_
    dsimp only
    rw [alike.getStr (i := 3) (by decide), alike.len, alike.get (i := 4) (by decide), alike.get (i := 5) (by decide)]

theorem parse_same (same : SameBytes host.base64 2 bytes packet other) :
    IncomingAudio.parse host packet = IncomingAudio.parse host other := by
  rw [IncomingAudio.parse, IncomingAudio.parse, same.len, same.getStr (i := 1) (by decide)]
  split
  · rfl
  · refine bind_congr fun codec => same.bind fun left right alike => ?_
    dsimp only
    rw [alike.field (i := 3) (by decide), alike.len, alike.get (i := 4) (by decide)]

end Handlers

/-! ### The fields -/

inductive BinaryField where
  | draw | cursor | windowIcon | clipboardToken | clipboardContents | challenge | audioData | audioHeader
  deriving DecidableEq, Repr

namespace BinaryField

def index : BinaryField → UInt8
  | draw => 7
  | cursor => 9
  | windowIcon => 5
  | clipboardToken => 7
  | clipboardContents => 6
  | challenge => 1
  | audioData => 2
  | audioHeader => 4

/-- The packet has the field, and the handler looks for bytes in it: the picture of an
mmap draw is elsewhere, and a short audio packet is not looked at. -/
def Consumed (field : BinaryField) (fields : List Yaml) : Prop :=
  field.index.toNat < fields.length ∧ (field = draw → yamlStr (fields.getD 6 .badValue) ≠ "mmap") ∧
    (field = audioData → 4 ≤ fields.length)

/-- What the handler reads. -/
def bytesRead (host : Host) (field : BinaryField) (packet : Packet) : Except Panic Bytes :=
  match field with
  | audioHeader => (IncomingAudio.parse host packet).map fun
    | .ok incoming => incoming.headers.flatten
    | .error _ => []
  | audioData => (IncomingAudio.parse host packet).map fun
    | .ok incoming => incoming.data
    | .error _ => []
  | field => Prod.fst <$> packet.getBytes host.base64 field.index

/-- What the handler makes of the two packets, in every state. -/
def SameOutcome (host : Host) (field : BinaryField) (packet other : Packet) : Prop :=
  match field with
  | draw => ∀ env area, decodeTurn host env area packet = decodeTurn host env area other
  | cursor => ∀ env client, processCursor host env client packet = processCursor host env client other
  | windowIcon => ∀ client, processWindowIcon host client packet = processWindowIcon host client other
  | clipboardToken => ∀ client, processClipboardToken host client packet = processClipboardToken host client other
  | clipboardContents => ∀ client, processClipboardContents host client packet = processClipboardContents host client other
  | challenge => ∀ env client, processChallenge host env client packet = processChallenge host env client other
  | audioData | audioHeader => ∀ env client, processAudioData host env client packet = processAudioData host env client other

/-- The handler sees `bytes` in both packets, and does the same with them. -/
structure SeesSame (host : Host) (field : BinaryField) (bytes : Bytes) (packet other : Packet) : Prop where
  here : field.bytesRead host packet = .ok bytes
  there : field.bytesRead host other = .ok bytes
  outcome : field.SameOutcome host packet other

end BinaryField

/-! ### On the wire -/

/-- The stream begins with chunk frames and a main frame that lists the fields. -/
def Sends (host : Host) (stream : Bytes) (chunks : List WireFrame) (fields : List Yaml) : Prop :=
  ∃ main raw rest, Accepted host.lz4 stream chunks main raw rest ∧ host.loadYaml raw.payload = .ok [.array fields]

/-- The reader's turn. -/
def received (host : Host) (stream : Bytes) : Except String Packet :=
  match readPacket host.lz4 stream with
  | .error error => .error (connectionError error)
  | .ok (raw, _) => parsePacket host raw

section Wire
variable {host : Host} {stream other : Bytes} {fields : List Yaml}

theorem Sends.received {chunks : List WireFrame} (sends : Sends host stream chunks fields) :
    ∃ packet, received host stream = .ok packet ∧ packet.main = fields ∧
      ∀ index data, packet.raw index = some data ↔ Kept host.lz4 chunks index data := by
  obtain ⟨main, raw, rest, accepted, loaded⟩ := sends
  refine ⟨{ main := fields, raw := raw.chunks }, ?_, rfl, accepted.kept⟩
  have read : readPacket host.lz4 stream = .ok (raw, rest) :=
    ((read_packet_language host.lz4 stream).1 raw rest).mpr ⟨chunks, main, accepted⟩
  rw [BinaryFields.received, read]
  simp only [parsePacket, loaded]

/-- The two deliveries of one field. -/
structure Deliveries (host : Host) (index : UInt8) (bytes : Bytes) (fields : List Yaml) (text : String) (packet other : Packet) :
    Prop where
  main : packet.main = fields.set index.toNat (.string text)
  otherMain : other.main = fields.set index.toNat (.string "")
  unchunked : packet.raw index = none
  chunked : other.raw index = some bytes
  raw : ∀ i, i ≠ index → packet.raw i = other.raw i

theorem deliveries {index : UInt8} {bytes : Bytes} {text : String} {before after : List WireFrame} {chunk : WireFrame}
    (named : chunk.index = index) (content : chunk.content host.lz4 = some bytes)
    (aside : ∀ frame ∈ before ++ after, frame.index ≠ index)
    (inline : Sends host stream (before ++ after) (fields.set index.toNat (.string text)))
    (outOfBand : Sends host other (before ++ chunk :: after) (fields.set index.toNat (.string ""))) :
    ∃ packet chunked, received host stream = .ok packet ∧ received host other = .ok chunked ∧
      Deliveries host index bytes fields text packet chunked := by
  obtain ⟨packet, arrived, main, raw⟩ := inline.received
  obtain ⟨chunked, delivered, otherMain, otherRaw⟩ := outOfBand.received
  refine ⟨packet, chunked, arrived, delivered, main, otherMain, ?_, ?_, ?_⟩
  · apply Option.eq_none_iff_forall_ne_some.mpr
    intro data there
    obtain ⟨frame, member, same, -⟩ := (raw index data).mp there
    exact aside frame member same
  · exact (otherRaw index bytes).mpr ⟨chunk, List.mem_append_right _ List.mem_cons_self, named, content⟩
  · intro i away
    apply Option.ext
    intro data
    rw [raw, otherRaw]
    constructor
    · rintro ⟨frame, member, same, held⟩
      refine ⟨frame, ?_, same, held⟩
      rcases List.mem_append.mp member with earlier | later
      · exact List.mem_append_left _ earlier
      · exact List.mem_append_right _ (List.mem_cons_of_mem _ later)
    · rintro ⟨frame, member, same, held⟩
      refine ⟨frame, ?_, same, held⟩
      rcases List.mem_append.mp member with earlier | later
      · exact List.mem_append_left _ earlier
      · rcases List.mem_cons.mp later with rfl | last
        · exact absurd (same.symm.trans named) away
        · exact List.mem_append_right _ last

end Wire

/-! ### The library -/

/-- What the base64 library says of itself: it reads back what it writes, and writes
nothing for nothing. -/
structure Inverts (decode : String → Option Bytes) (encode : Bytes → String) : Prop where
  inverse : ∀ bytes, decode (encode bytes) = some bytes
  empty : encode [] = ""

section Deliveries
variable {host : Host} {encode : Bytes → String} {index : UInt8} {bytes : Bytes} {fields : List Yaml} {text : String}
  {packet other : Packet}

theorem yamlBytes_text {decode : String → Option Bytes} (library : Inverts decode encode)
    (newlines : String.ofList (text.toList.filter (· != '\n')) = encode bytes) : yamlBytes decode (.string text) = bytes := by
  rw [yamlBytes, newlines, library.inverse, Option.getD_some]

theorem yamlBytes_hole {decode : String → Option Bytes} (library : Inverts decode encode) : yamlBytes decode (.string "") = [] :=
  yamlBytes_text library library.empty.symm

namespace Deliveries

theorem alike (deliveries : Deliveries host index bytes fields text packet other) : AlikeOff index packet other := by
  constructor
  · intro i away
    rw [deliveries.main, deliveries.otherMain, List.getElem?_set_ne away.symm, List.getElem?_set_ne away.symm]
  · rw [Packet.len, Packet.len, deliveries.main, deliveries.otherMain, List.length_set, List.length_set]

theorem get (deliveries : Deliveries host index bytes fields text packet other) (inside : index.toNat < fields.length) :
    packet.get index.toNat = .string text ∧ other.get index.toNat = .string "" := by
  rw [Packet.get, Packet.get, deliveries.main, deliveries.otherMain]
  simp [List.getD_eq_getElem?_getD, inside]

theorem sameBytes (deliveries : Deliveries host index bytes fields text packet other) (library : Inverts host.base64 encode)
    (newlines : String.ofList (text.toList.filter (· != '\n')) = encode bytes) (inside : index.toNat < fields.length) :
    SameBytes host.base64 index bytes packet other := by
  refine ⟨deliveries.alike, ⟨packet, ?_⟩, ?_⟩
  · have present : index.toNat < packet.len := by
      rw [Packet.len, deliveries.main, List.length_set]
      exact inside
    rw [Packet.getBytes, deliveries.unchunked]
    simp only [Packet.field_of_lt present, (deliveries.get inside).1, Functor.map, Except.map, yamlBytes_text library newlines]
  · rw [Packet.getBytes, deliveries.chunked]
    exact ⟨_, rfl⟩

end Deliveries
end Deliveries

/-! ### The audio packet -/

section Audio
variable {host : Host} {packet other : Packet}

def headers (host : Host) : Yaml → List Bytes
  | .array values => values.map (yamlBytes host.base64)
  | value => let header := yamlBytes host.base64 value; if header = [] then [] else [header]

theorem parse_ok (long : 4 ≤ packet.len) : IncomingAudio.parse host packet = .ok (.ok {
    codec := yamlStr (packet.get 1)
    data := (packet.raw 2).getD (yamlBytes host.base64 (packet.get 2))
    metadata := AudioMetadata.parse (packet.get 3)
    headers := if packet.len > 4 then headers host (packet.get 4) else [] }) := by
  have codec : packet.getStr 1 = .ok (yamlStr (packet.get 1)) := Packet.read_of_lt yamlStr (by omega)
  rcases Packet.getBytes_cases host.base64 packet 2 with ⟨-, short, -⟩ | ⟨-, bytes, left, taken, -⟩
  · have two : (2 : UInt8).toNat = 2 := rfl
    omega
  · obtain ⟨kept, -, data⟩ := Packet.getBytes_ok taken
    have len : left.len = packet.len := congrArg List.length kept
    have get (i : Nat) : left.get i = packet.get i := by rw [Packet.get, kept, Packet.get]
    have metadata : left.field 3 = .ok (packet.get 3) := by rw [Packet.field_of_lt (by omega), get]
    rw [IncomingAudio.parse, if_neg (Nat.not_lt.mpr long), codec, taken]
    simp only [bind, Except.bind, metadata, pure, Except.pure, len, get, headers, data]
    rfl

/-- A single header is read from the field itself, so a chunk for it is lost. -/
theorem header_read (host : Host) (long : 4 < packet.len) {text : String} (header : packet.get 4 = .string text) :
    BinaryField.audioHeader.bytesRead host packet = .ok (yamlBytes host.base64 (.string text)) := by
  rw [BinaryField.bytesRead, parse_ok (Nat.le_of_lt long)]
  simp only [if_pos long, header, headers, Except.map]
  split
  next none => rw [none]; rfl
  next => simp

theorem parse_alike (alike : AlikeOff 4 packet other) (raw : packet.raw 2 = other.raw 2)
    (same : headers host (packet.get 4) = headers host (other.get 4)) :
    IncomingAudio.parse host packet = IncomingAudio.parse host other := by
  by_cases long : 4 ≤ packet.len
  · rw [parse_ok long, parse_ok (alike.len ▸ long), alike.get (i := 1) (by decide), alike.get (i := 2) (by decide),
      alike.get (i := 3) (by decide), alike.len, raw, same]
  · rw [IncomingAudio.parse, IncomingAudio.parse, ← alike.len, if_pos (Nat.not_le.mp long), if_pos (Nat.not_le.mp long)]

theorem processAudioData_parse (same : IncomingAudio.parse host packet = IncomingAudio.parse host other) (env : Env)
    (client : XpraClient) : processAudioData host env client packet = processAudioData host env client other := by
  rw [processAudioData, processAudioData, same]

end Audio

/-! ### The two deliveries -/

section Agreement
variable {host : Host} {encode : Bytes → String} {bytes : Bytes} {fields : List Yaml} {text : String} {packet other : Packet}

theorem seesSame_bytes {field : BinaryField} (chunkable : field ≠ .audioHeader) (consumed : field.Consumed fields)
    (library : Inverts host.base64 encode) (newlines : String.ofList (text.toList.filter (· != '\n')) = encode bytes)
    (deliveries : Deliveries host field.index bytes fields text packet other) : field.SeesSame host bytes packet other := by
  have same := deliveries.sameBytes library newlines consumed.1
  have read : Prod.fst <$> packet.getBytes host.base64 field.index = .ok bytes := by
    obtain ⟨left, here⟩ := same.here
    rw [here]
    rfl
  have otherRead : Prod.fst <$> other.getBytes host.base64 field.index = .ok bytes := by
    obtain ⟨left, there⟩ := same.there
    rw [there]
    rfl
  cases field with
  | draw =>
    have coding : yamlStr (packet.get 6) ≠ "mmap" := by
      rw [Packet.get, deliveries.main, List.getD_eq_getElem?_getD, List.getElem?_set_ne (by decide),
        ← List.getD_eq_getElem?_getD]
      exact consumed.2.1 rfl
    exact ⟨read, otherRead, decodeTurn_same same coding⟩
  | cursor => exact ⟨read, otherRead, processCursor_same same⟩
  | windowIcon => exact ⟨read, otherRead, processWindowIcon_same same⟩
  | clipboardToken => exact ⟨read, otherRead, processClipboardToken_same same⟩
  | clipboardContents => exact ⟨read, otherRead, processClipboardContents_same same⟩
  | challenge => exact ⟨read, otherRead, processChallenge_same same⟩
  | audioData =>
    have long : 4 ≤ packet.len := by
      rw [Packet.len, deliveries.main, List.length_set]
      exact consumed.2.2 rfl
    have parsed := parse_same same
    have data : BinaryField.audioData.bytesRead host packet = .ok bytes := by
      obtain ⟨left, here⟩ := same.here
      rw [BinaryField.bytesRead, parse_ok long, (Packet.getBytes_ok here).2.2]
      rfl
    refine ⟨data, ?_, processAudioData_parse parsed⟩
    rw [BinaryField.bytesRead, ← parsed]
    exact data
  | audioHeader => exact absurd rfl chunkable

theorem seesSame_header (consumed : BinaryField.audioHeader.Consumed fields) (library : Inverts host.base64 encode)
    (newlines : String.ofList (text.toList.filter (· != '\n')) = encode bytes)
    (deliveries : Deliveries host 4 bytes fields text packet other) :
    BinaryField.audioHeader.SeesSame host bytes packet other ↔ bytes = [] := by
  have inside : (4 : UInt8).toNat < fields.length := consumed.1
  have long : 4 < packet.len := by
    rw [Packet.len, deliveries.main, List.length_set]
    exact inside
  obtain ⟨header, hole⟩ := deliveries.get inside
  have read := header_read host long header
  have otherRead := header_read host (deliveries.alike.len ▸ long) hole
  rw [yamlBytes_text library newlines] at read
  rw [yamlBytes_hole library] at otherRead
  constructor
  · intro sees
    exact (Except.ok.inj (otherRead.symm.trans sees.there)).symm
  · rintro rfl
    have unheaded : headers host (packet.get 4) = headers host (other.get 4) := by
      have header : packet.get 4 = .string text := header
      have hole : other.get 4 = .string "" := hole
      rw [header, hole, headers, headers, yamlBytes_text library newlines, yamlBytes_hole library]
      · exact nofun
      · exact nofun
    exact ⟨read, otherRead, processAudioData_parse (parse_alike deliveries.alike (deliveries.raw 2 (by decide)) unheaded)⟩

/-- Both deliveries of a field arrive, and the handler sees the same bytes in both,
unless the field is a header of an audio packet that stands alone. -/
theorem binary_field_agrees_iff (library : Inverts host.base64 encode) (field : BinaryField) (consumed : field.Consumed fields)
    (newlines : String.ofList (text.toList.filter (· != '\n')) = encode bytes)
    {inline outOfBand : Bytes} {before after : List WireFrame} {chunk : WireFrame} (named : chunk.index = field.index)
    (content : chunk.content host.lz4 = some bytes) (aside : ∀ frame ∈ before ++ after, frame.index ≠ field.index)
    (sentInline : Sends host inline (before ++ after) (fields.set field.index.toNat (.string text)))
    (sentChunk : Sends host outOfBand (before ++ chunk :: after) (fields.set field.index.toNat (.string ""))) :
    ∃ packet chunked, received host inline = .ok packet ∧ received host outOfBand = .ok chunked ∧
      (field.SeesSame host bytes packet chunked ↔ field ≠ .audioHeader ∨ bytes = []) := by
  obtain ⟨packet, chunked, arrived, delivered, both⟩ := deliveries named content aside sentInline sentChunk
  refine ⟨packet, chunked, arrived, delivered, ?_⟩
  by_cases alone : field = .audioHeader
  · subst alone
    rw [seesSame_header consumed library newlines both]
    simp
  · simp only [ne_eq, alone, not_false_eq_true, true_or, iff_true]
    exact seesSame_bytes alone consumed library newlines both

end Agreement

/-! ### One audio packet -/

theorem sends_frames (host : Host) (chunk : Option WireFrame) (main : WireFrame) {fields : List Yaml}
    (index : ∀ frame ∈ chunk, 1 ≤ frame.index ∧ frame.index ≤ 15) (last : main.index = 0) (level : main.level = 0)
    (yaml : main.flags = 4) (loaded : host.loadYaml main.payload = .ok [.array fields]) :
    Sends host (chunk.toList.flatMap WireFrame.bytes ++ main.bytes) chunk.toList fields := by
  have payload : main.content host.lz4 = some main.payload := WireFrame.content_plain level
  have single : chunk.toList.length ≤ 1 := by cases chunk <;> simp
  let raw : RawPacket :=
    { payload := main.payload
      chunks := fun index => chunk.bind fun frame => if frame.index = index then frame.content host.lz4 else none }
  refine ⟨main, raw, [], ⟨(List.append_nil _).symm, ?_, ?_, ?_, last, ?_, payload, ?_⟩, loaded⟩
  · exact single.trans (by decide)
  · exact fun frame member => index frame (Option.mem_toList.mp member)
  · rintro before frame after shape data ⟨earlier, member, held⟩
    have positive := List.length_pos_of_mem member
    rw [shape, List.length_append, List.length_cons] at single
    omega
  · rw [yaml]
    decide
  · intro index data
    cases chunk with
    | none => simp [raw, Kept]
    | some frame => simp [raw, Kept]

def ascii (text : String) : Bytes := text.toList.map fun char => UInt8.ofNat char.toNat

def emptyText : Bytes := ascii "[\"audio-data\",\"opus\",\"\",\x7b\x7d,\"\"]"
def dataText : Bytes := ascii "[\"audio-data\",\"opus\",\"AQ\\nID\",\x7b\x7d,\"\"]"
def headerText : Bytes := ascii "[\"audio-data\",\"opus\",\"\",\x7b\x7d,\"T3B1c0hlYWQBAjgBgLsAAAAAAA==\"]"

def audioFields (data header : String) : List Yaml :=
  [.string "audio-data", .string "opus", .string data, .hash [], .string header]

def listening : Host := { Host.plain with
  windows := true
  base64 := fun text => Base64.decode text.toList
  loadYaml := fun payload =>
    if payload = emptyText then .ok [.array (audioFields "" "")]
    else if payload = dataText then .ok [.array (audioFields "AQ\nID" "")]
    else if payload = headerText then .ok [.array (audioFields "" "T3B1c0hlYWQBAjgBgLsAAAAAAA==")]
    else .error "invalid utf-8 sequence" }

def encodeText (bytes : Bytes) : String := String.ofList (Base64.encode bytes)

theorem listening_inverts : Inverts listening.base64 encodeText := by
  refine ⟨fun bytes => ?_, rfl⟩
  have decoded : listening.base64 (encodeText bytes) = Base64.decode (encodeText bytes).toList := rfl
  rw [decoded, encodeText, String.toList_ofList, Base64.decode_encode]

theorem listening_empty : listening.loadYaml emptyText = .ok [.array (audioFields "" "")] := by
  simp only [listening, if_true]

theorem listening_data : listening.loadYaml dataText = .ok [.array (audioFields "AQ\nID" "")] := by
  have other : dataText ≠ emptyText := by decide
  simp only [listening, if_neg other, if_true]

theorem listening_header :
    listening.loadYaml headerText = .ok [.array (audioFields "" "T3B1c0hlYWQBAjgBgLsAAAAAAA==")] := by
  have other : headerText ≠ emptyText := by decide
  have another : headerText ≠ dataText := by decide
  simp only [listening, if_neg other, if_neg another, if_true]

def mainFrame (payload : Bytes) (fits : payload.length < 2 ^ 32) : WireFrame := { flags := 4, level := 0, index := 0, payload, fits }

def emptyMain : WireFrame := mainFrame emptyText (by decide)
def dataMain : WireFrame := mainFrame dataText (by decide)
def headerMain : WireFrame := mainFrame headerText (by decide)

def dataChunk : WireFrame := { flags := 0, level := 0, index := 2, payload := [1, 2, 3], fits := by decide }

def opusHead : Bytes := ascii "OpusHead" ++ [1, 2, 0x38, 0x01, 0x80, 0xBB, 0, 0, 0, 0, 0]

def headerChunk : WireFrame := { flags := 0, level := 0, index := 4, payload := opusHead, fits := by decide }

theorem sends_empty {chunk : WireFrame} (low : 1 ≤ chunk.index) (high : chunk.index ≤ 15) :
    Sends listening (chunk.bytes ++ emptyMain.bytes) [chunk] (audioFields "" "") := by
  have sends := sends_frames listening (some chunk) emptyMain
    (fun frame same => Option.mem_some.mp same ▸ ⟨low, high⟩) rfl rfl rfl listening_empty
  simpa using sends

theorem binary_field_agrees_audio :
    ∃ packet chunked, received listening dataMain.bytes = .ok packet ∧
      received listening (dataChunk.bytes ++ emptyMain.bytes) = .ok chunked ∧
      (BinaryField.audioData.SeesSame listening [1, 2, 3] packet chunked ↔ BinaryField.audioData ≠ .audioHeader ∨ ([1, 2, 3] : Bytes) = []) := by
  have consumed : BinaryField.audioData.Consumed (audioFields "" "") := ⟨by decide, nofun, fun _ => by decide⟩
  have content : dataChunk.content listening.lz4 = some [1, 2, 3] := rfl
  have inline : Sends listening dataMain.bytes ([] ++ [])
      ((audioFields "" "").set BinaryField.audioData.index.toNat (.string "AQ\nID")) :=
    sends_frames listening none dataMain nofun rfl rfl rfl listening_data
  have outOfBand : Sends listening (dataChunk.bytes ++ emptyMain.bytes) ([] ++ dataChunk :: [])
      ((audioFields "" "").set BinaryField.audioData.index.toNat (.string "")) := sends_empty (by decide) (by decide)
  have aside : ∀ frame ∈ ([] ++ [] : List WireFrame), frame.index ≠ BinaryField.audioData.index := nofun
  exact binary_field_agrees_iff listening_inverts .audioData consumed (by decide) rfl content aside inline outOfBand

/-- A header that is sent as a chunk is not seen. -/
theorem chunked_header_lost :
    ∃ packet chunked, received listening headerMain.bytes = .ok packet ∧
      received listening (headerChunk.bytes ++ emptyMain.bytes) = .ok chunked ∧
      ¬ BinaryField.audioHeader.SeesSame listening opusHead packet chunked := by
  have content : headerChunk.content listening.lz4 = some opusHead := rfl
  have inline : Sends listening headerMain.bytes ([] ++ [])
      ((audioFields "" "").set (4 : UInt8).toNat (.string "T3B1c0hlYWQBAjgBgLsAAAAAAA==")) :=
    sends_frames listening none headerMain nofun rfl rfl rfl listening_header
  have outOfBand : Sends listening (headerChunk.bytes ++ emptyMain.bytes) ([] ++ headerChunk :: [])
      ((audioFields "" "").set (4 : UInt8).toNat (.string "")) := sends_empty (by decide) (by decide)
  have aside : ∀ frame ∈ ([] ++ [] : List WireFrame), frame.index ≠ 4 := nofun
  obtain ⟨packet, chunked, arrived, delivered, both⟩ := deliveries rfl content aside inline outOfBand
  refine ⟨packet, chunked, arrived, delivered, ?_⟩
  rw [seesSame_header ⟨by decide, nofun, nofun⟩ listening_inverts (by decide) both]
  decide

end Xpra.Proofs.BinaryFields
