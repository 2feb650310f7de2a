import Xpra.Net.Connection
import Xpra.Proofs.WebsocketBuffers

/-! Packets read from a connection. Whatever pieces a connection hands its bytes out in,
`read_packet` finds in them the packets that it finds in the bytes themselves; and a
WebSocket hands out the messages of its frames. -/

namespace Xpra.Proofs.PacketStream
open Xpra.Net WebSocketStream WebsocketReading Library Library.Reader

section Any

variable {σ : Type} {read : ReadFn σ} {holds : σ → Bytes → Prop} {state : σ} {bytes : Bytes}

theorem readExact_agrees (serves : Serves read holds) (count : Nat) (held : holds state bytes) :
    Agrees holds (Connection.readExact read count state) (Net.readExact count bytes) := by
  rw [Net.readExact]
  split
  next enough =>
    obtain ⟨next, done, held'⟩ := @Reader.readExact_enough _ _ _ read holds (Failure.io eof) serves count state bytes held enough
    rw [Connection.readExact, done]
    exact .ok _ held'
  next short =>
    obtain ⟨failure, failed⟩ := @Reader.readExact_short _ _ _ read holds (Failure.io eof) serves count state bytes held (Nat.lt_of_not_le short)
    rw [Connection.readExact, failed]
    exact .error failure eof

/-- What follows the main packet's payload. -/
theorem mainPacket_agrees (lz4 : Bytes → Except String Bytes) (chunks : Chunks) (compression : UInt8) (payload : Bytes)
    (held : holds state bytes) :
    Agrees holds
      (match decompress lz4 compression payload with
        | .ok data => (pure (⟨data, chunks⟩, state) : Except Failure (RawPacket × σ))
        | .error error => do
          throw (.io error)
          pure (⟨payload, chunks⟩, state))
      (decompress lz4 compression payload >>= fun data => (pure (⟨data, chunks⟩, bytes) : Except IoError (RawPacket × Bytes))) := by
  cases decompress lz4 compression payload with
  | ok data => exact .ok _ held
  | error error => exact .error _ _

/-- One packet, induction being on the chunks that may still come. -/
theorem readPacketLoop_agrees (serves : Serves read holds) (lz4 : Bytes → Except String Bytes) (chunks : Chunks) (received : Nat)
    (held : holds state bytes) :
    Agrees holds (Connection.readPacketLoop read lz4 chunks received state) (Net.readPacketLoop lz4 chunks received bytes) := by
  induction room : MAX_CHUNKS - received using Nat.strongRecOn generalizing chunks received state bytes with
  | ind left ih =>
    rw [Connection.readPacketLoop, Net.readPacketLoop]
    refine .bind (readExact_agrees serves 8 held) fun header stream rest held => ?_
    refine .ite (fun _ => .error _ _) fun _ => .ite (fun _ => .error _ _) fun _ => ?_
    refine .bind (readExact_agrees serves _ held) fun payload stream rest held => ?_
    refine .ite (fun main => ?_) fun chunk => ?_
    · refine .ite (fun _ => .error _ _) fun _ => .ite (fun _ => ?_) fun _ => .ok _ held
      exact mainPacket_agrees lz4 chunks _ payload held
    · by_cases bounded : received + 1 ≥ MAX_CHUNKS
      · rw [dif_pos bounded, dif_pos bounded]
        exact .error _ _
      rw [dif_neg bounded, dif_neg bounded]
      have fewer : MAX_CHUNKS - (received + 1) < left := by omega
      refine .ite (fun _ => .error _ _) fun _ => .ite (fun _ => ?_) fun _ => ih _ fewer _ _ held rfl
      cases decompress lz4 (header.getD 2 0) payload with
      | ok data => exact ih _ fewer _ _ held rfl
      | error error => exact ih _ fewer _ _ held rfl

theorem readPackets_agrees (serves : Serves read holds) (lz4 : Bytes → Except String Bytes) (count : Nat) (held : holds state bytes) :
    Agrees holds (Connection.readPackets read lz4 count state) (Net.readPackets lz4 count bytes) := by
  induction count generalizing state bytes with
  | zero => exact .ok [] held
  | succ count ih =>
    refine .bind (readPacketLoop_agrees serves lz4 _ 0 held) fun packet stream rest held => ?_
    exact .bind (ih held) fun packets stream rest held => .ok _ held

end Any

/-! ### A WebSocket -/

variable {incoming : Incoming} {masks : Nat → MaskKey} {outcome : Nat → Option IoError} {stream : WebSocketStream}

/-- The bytes that reads will hand out before one fails: what is left of the message in
the buffer, and the messages to come, none of which is empty. -/
def Holds (incoming : Incoming) (masks : Nat → MaskKey) (outcome : Nat → Option IoError) (stream : WebSocketStream)
    (bytes : Bytes) : Prop :=
  ∃ place, Stands incoming masks outcome place stream ∧ [] ∉ reached outcome place.pongs [] place.remaining ∧
    bytes = place.unread ++ (reached outcome place.pongs [] place.remaining).flatten

theorem holds_start (full : [] ∉ reached outcome 0 [] incoming.body) :
    Holds incoming masks outcome { input := incoming.body.flatMap WireFrame.bytes ++ incoming.tail, masks, outcome }
      (reached outcome 0 [] incoming.body).flatten :=
  ⟨.start incoming.body, stands_start incoming masks outcome, full, rfl⟩

/-- The copy out of bytes that are there. -/
theorem take_front {count : Nat} (positive : 0 < count) {bytes : Bytes} (some : bytes ≠ []) :
    bytes.take count ≠ [] ∧ (bytes.take count).length ≤ count := by
  refine ⟨?_, List.length_take_le _ _⟩
  intro none
  rcases List.take_eq_nil_iff.mp none with zero | none
  · exact absurd zero (Nat.ne_of_gt positive)
  · exact some none

theorem websocket_read {count : Nat} {place : Place} {served : WebSocketStream}
    (read : stream.read count = .ok ((place.read incoming.verdict outcome count).1, served)) :
    Connection.websocket count stream = match (place.read incoming.verdict outcome count).1 with
      | .ok bytes => .ok (bytes, served)
      | .error error => .error (.io error) := by
  rw [Connection.websocket, read]
  cases (place.read incoming.verdict outcome count).1 <;> rfl

theorem websocket_serves : Serves Connection.websocket (Holds incoming masks outcome) where
  hands {stream bytes count} held positive some := by
    obtain ⟨place, stands, full, rfl⟩ := held
    obtain ⟨served, ran, stands'⟩ := read_stands stands count
    have drawn := websocket_read ran
    have reads := read_reads incoming.verdict outcome count place
    generalize place.read incoming.verdict outcome count = step at drawn stands' reads
    cases reads with
    | unread waiting =>
      obtain ⟨more, fits⟩ := take_front positive waiting
      exact ⟨_, served, _, drawn, more, fits, front_append count _ _, _, stands', full, rfl⟩
    | message payload pongs later drained next whole first shorter =>
      rw [first] at full ⊢
      simp only [List.mem_cons, not_or] at full
      obtain ⟨more, fits⟩ := take_front positive (Ne.symm full.1)
      refine ⟨_, served, _, drawn, more, fits, ?_, _, stands', full.2, rfl⟩
      rw [drained]
      exact front_append count payload _
    | unsent error pongs later drained same failed none shorter =>
      rw [drained, none] at some
      exact absurd rfl some
    | spent pongs drained none left last =>
      rw [drained, last] at some
      exact absurd rfl some
  ends {stream count} held positive := by
    obtain ⟨place, stands, full, nothing⟩ := held
    obtain ⟨empty, none⟩ := List.append_eq_nil_iff.mp nothing.symm
    obtain ⟨served, ran, _⟩ := read_stands stands count
    have drawn := websocket_read ran
    have reads := read_reads incoming.verdict outcome count place
    generalize place.read incoming.verdict outcome count = step at drawn reads
    cases reads with
    | unread waiting => exact absurd empty waiting
    | message payload pongs later drained next whole first shorter =>
      rw [first, List.flatten_cons] at none
      rw [first] at full
      exact absurd (List.append_eq_nil_iff.mp none).1.symm fun same => full (same ▸ List.mem_cons_self)
    | unsent error pongs later drained same failed none shorter => exact .inl ⟨_, drawn⟩
    | spent pongs drained none left last => exact .inl ⟨_, drawn⟩

/-! ### Any transport -/

def Pieces (pieces : List Bytes) (bytes : Bytes) : Prop := [] ∉ pieces ∧ pieces.flatten = bytes

theorem plain_serves : Serves Connection.plain Pieces where
  hands {pieces bytes count} held positive some := by
    obtain ⟨full, rfl⟩ := held
    cases pieces with
    | nil => exact absurd rfl some
    | cons piece pieces =>
      simp only [List.mem_cons, not_or] at full
      have more : 0 < piece.length := List.length_pos_of_ne_nil (Ne.symm full.1)
      refine ⟨piece.take count, _, (piece.drop count) ++ pieces.flatten, rfl, ?_, List.length_take_le _ _, ?_, ?_⟩
      · apply List.ne_nil_of_length_pos
        rw [List.length_take]
        omega
      · rw [← List.append_assoc, List.take_append_drop, List.flatten_cons]
      · by_cases left : count < piece.length
        · have behind : piece.drop count ≠ [] := fun none => by
            rw [List.drop_eq_nil_iff] at none
            omega
          rw [if_pos left]
          exact ⟨by simp only [List.mem_cons, not_or]; exact ⟨Ne.symm behind, full.2⟩, List.flatten_cons⟩
        · rw [if_neg left, List.drop_of_length_le (by omega)]
          exact ⟨full.2, rfl⟩
  ends {pieces count} held positive := by
    obtain ⟨full, none⟩ := held
    cases pieces with
    | nil => exact .inr ⟨[], rfl⟩
    | cons piece pieces =>
      rw [List.flatten_cons] at none
      exact absurd (List.append_eq_nil_iff.mp none).1.symm fun same => full (same ▸ List.mem_cons_self)

/-- The same packets, or a failure on both sides. -/
def Same {σ : Type} (drawn : Except Failure (List RawPacket × σ)) (whole : Except IoError (List RawPacket × Bytes)) : Prop :=
  match whole with
  | .ok (packets, _) => ∃ stream, drawn = .ok (packets, stream)
  | .error _ => ∃ failure, drawn = .error failure

theorem same_of_agrees {σ : Type} {holds : σ → Bytes → Prop} {drawn : Except Failure (List RawPacket × σ)}
    {whole : Except IoError (List RawPacket × Bytes)} (agrees : Agrees holds drawn whole) : Same drawn whole := by
  cases agrees with
  | ok packets held => exact ⟨_, rfl⟩
  | error failure failure' => exact ⟨failure, rfl⟩

/-- The packets read do not depend on the transport: neither on the pieces a plain stream
delivers its bytes in, nor on the frames a WebSocket carries them in, with the fragments,
masks and pings among them, as long as no message is empty. A pong that cannot be sent
ends the bytes with the message before it. -/
theorem packets_over_any_transport (lz4 : Bytes → Except String Bytes) (count : Nat) :
    (∀ pieces : List Bytes, [] ∉ pieces →
      Same (Connection.readPackets Connection.plain lz4 count pieces) (readPackets lz4 count pieces.flatten)) ∧
    (∀ (traffic : Traffic) (masks : Nat → MaskKey) (outcome : Nat → Option IoError), [] ∉ reached outcome 0 [] traffic.body →
      Same (Connection.readPackets Connection.websocket lz4 count { input := traffic.bytes, masks, outcome })
        (readPackets lz4 count (reached outcome 0 [] traffic.body).flatten)) ∧
    ∀ (traffic : Traffic) (masks : Nat → MaskKey) (outcome : Nat → Option IoError), (∀ call, outcome call = none) →
      [] ∉ messages [] traffic.body →
      Same (Connection.readPackets Connection.websocket lz4 count { input := traffic.bytes, masks, outcome })
        (readPackets lz4 count (completed traffic.body)) := by
  have carried (traffic : Traffic) (masks : Nat → MaskKey) (outcome : Nat → Option IoError)
      (full : [] ∉ reached outcome 0 [] traffic.body) :
      Same (Connection.readPackets Connection.websocket lz4 count { input := traffic.bytes, masks, outcome })
        (readPackets lz4 count (reached outcome 0 [] traffic.body).flatten) :=
    same_of_agrees (readPackets_agrees websocket_serves lz4 count (@holds_start traffic.incoming masks outcome full))
  refine ⟨?_, carried, ?_⟩
  · intro pieces full
    exact same_of_agrees (readPackets_agrees plain_serves lz4 count ⟨full, rfl⟩)
  · intro traffic masks outcome sends full
    rw [← reached_answered sends 0] at full
    rw [completed, ← reached_answered sends 0]
    exact carried traffic masks outcome full

theorem opening_fits : ([0x50, 0x4, 0, 0, 0] : Bytes).length < LengthForm.short.limit := by decide

theorem ending_fits : ([0, 0, 1, 0x78] : Bytes).length < LengthForm.medium.limit := by decide

/-- A packet in two fragments with a ping between them, and another behind. -/
def fragments : List WireFrame := [
  { first := 0x02, form := .short, mask := none, payload := [0x50, 0x4, 0, 0, 0], fits := opening_fits },
  ping,
  { first := 0x80, form := .medium, mask := none, payload := [0, 0, 1, 0x78], fits := ending_fits },
  ping]

theorem fragments_ordinary : ∀ frame ∈ fragments, frame.ordinary := by
  simp only [fragments, List.forall_mem_cons]
  exact ⟨.inl (.inr (.inr rfl)), .inr (.inl rfl), .inl (.inl rfl), .inr (.inl rfl), List.forall_mem_nil _⟩

def fragmented : Traffic where
  body := fragments
  ending := none
  carries := fragments_ordinary
  ends := none_ends

/-- The second pong cannot be sent. -/
def failsLater (call : Nat) : Option IoError := if call = 0 then none else some unwritable

theorem packets_over_any_transport_fragmented :
    Same (Connection.readPackets Connection.plain (fun _ => .error "") 1 [[0x50, 0x4], [0, 0, 0], [0, 0, 1, 0x78]])
        (readPackets (fun _ => .error "") 1 [0x50, 0x4, 0, 0, 0, 0, 0, 1, 0x78]) ∧
      Same (Connection.readPackets Connection.websocket (fun _ => .error "") 1
          { input := fragmented.bytes, masks := fun _ => ⟨[1, 2, 3, 4], rfl⟩, outcome := failsLater })
        (readPackets (fun _ => .error "") 1 [0x50, 0x4, 0, 0, 0, 0, 0, 1, 0x78]) ∧
      Same (Connection.readPackets Connection.websocket (fun _ => .error "") 1
          { input := fragmented.bytes, masks := fun _ => ⟨[1, 2, 3, 4], rfl⟩, outcome := fun _ => none })
        (readPackets (fun _ => .error "") 1 [0x50, 0x4, 0, 0, 0, 0, 0, 1, 0x78]) :=
  ⟨(packets_over_any_transport (fun _ => .error "") 1).1 [[0x50, 0x4], [0, 0, 0], [0, 0, 1, 0x78]] (by decide),
    (packets_over_any_transport (fun _ => .error "") 1).2.1 fragmented (fun _ => ⟨[1, 2, 3, 4], rfl⟩) failsLater (by decide),
    (packets_over_any_transport (fun _ => .error "") 1).2.2 fragmented (fun _ => ⟨[1, 2, 3, 4], rfl⟩) (fun _ => none)
      (fun _ => rfl) (by decide)⟩

end Xpra.Proofs.PacketStream
