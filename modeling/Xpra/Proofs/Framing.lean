import Xpra.Net.Io

/-! The packet stream read back. A peer lays out each logical packet as its
chunks followed by its main packet; reading recovers exactly the packets, and
stops after each one at the first byte of the next. -/

namespace Xpra.Proofs.Framing
open Xpra.Net Library

def frame (flags index : UInt8) (data : Bytes) : Bytes :=
  [0x50, flags, 0, index] ++ Numeral.toBig 4 data.length ++ data

/-- An out-of-band chunk. Its flags byte is never looked at. -/
structure WireChunk where
  index : UInt8
  flags : UInt8
  data : Bytes
  positive : 1 ≤ index
  bounded : index ≤ 15
  fits : data.length < 2 ^ 32

/-- A logical packet a peer may send: at most three chunks, for distinct fields,
in any order. -/
structure LogicalPacket where
  flags : UInt8
  payload : Bytes
  chunks : List WireChunk
  yaml : flags &&& FLAGS_YAML ≠ 0
  fits : payload.length < 2 ^ 32
  few : chunks.length ≤ 3
  distinct : (chunks.map WireChunk.index).Nodup

def WireChunk.bytes (chunk : WireChunk) : Bytes := frame chunk.flags chunk.index chunk.data

def LogicalPacket.bytes (packet : LogicalPacket) : Bytes :=
  packet.chunks.flatMap WireChunk.bytes ++ frame packet.flags 0 packet.payload

def chunkMap (chunks : List WireChunk) : Chunks :=
  fun index => (chunks.find? fun chunk => chunk.index == index).map WireChunk.data

def LogicalPacket.raw (packet : LogicalPacket) : RawPacket := ⟨packet.payload, chunkMap packet.chunks⟩

/-- A packet as `write_packet` lays it out: no chunks, and only the YAML flag. -/
def plain (payload : Bytes) (fits : payload.length < 2 ^ 32) : LogicalPacket where
  flags := 0x4
  payload := payload
  chunks := []
  yaml := by decide
  fits := fits
  few := by simp
  distinct := by simp

private theorem header_exact (flags index : UInt8) (data rest : Bytes) :
    readExact 8 (frame flags index data ++ rest) =
      .ok ([0x50, flags, 0, index] ++ Numeral.toBig 4 data.length, data ++ rest) := by
  have length : ([0x50, flags, 0, index] ++ Numeral.toBig 4 data.length).length = 8 := by simp
  have shape : frame flags index data ++ rest =
      ([0x50, flags, 0, index] ++ Numeral.toBig 4 data.length) ++ (data ++ rest) := by simp [frame]
  rw [shape, readExact, if_pos (by rw [List.length_append, length]; omega), ← length,
    List.take_left, List.drop_left]

theorem readExact_append (data rest : Bytes) : readExact data.length (data ++ rest) = .ok (data, rest) := by
  simp [readExact]

/-- The length loop reads header bytes 4 to 7 as one big-endian word. -/
theorem payloadSize_big (flags level index : UInt8) {digits : Bytes} (four : digits.length = 4) :
    payloadSize ([0x50, flags, level, index] ++ digits) = Numeral.big digits := by
  obtain ⟨a, b, c, d, rfl⟩ : ∃ a b c d, digits = [a, b, c, d] := by
    match digits, four with
    | [a, b, c, d], _ => exact ⟨a, b, c, d, rfl⟩
  rw [← Numeral.foldl_eq_big]
  simp [payloadSize, List.range_succ]

private theorem payloadSize_frame (flags index : UInt8) {data : Bytes} (fits : data.length < 2 ^ 32) :
    payloadSize ([0x50, flags, 0, index] ++ Numeral.toBig 4 data.length) = data.length := by
  rw [payloadSize_big _ _ _ (Numeral.toBig_length _ _)]
  exact Numeral.big_toBig_of_lt (by simpa using fits)

variable (lz4 : Bytes → Except String Bytes)

theorem readPacketLoop_main (chunks : Chunks) (received : Nat) (flags : UInt8) (payload rest : Bytes)
    (yaml : flags &&& FLAGS_YAML ≠ 0) (fits : payload.length < 2 ^ 32) :
    readPacketLoop lz4 chunks received (frame flags 0 payload ++ rest) =
      .ok (⟨payload, chunks⟩, rest) := by
  rw [readPacketLoop]
  simp only [header_exact, bind, Except.bind, payloadSize_frame flags 0 fits, readExact_append]
  simp [yaml, MAX_CHUNK_INDEX, pure, Except.pure]

theorem readPacketLoop_chunk (chunks : Chunks) (received : Nat) (chunk : WireChunk) (rest : Bytes)
    (fresh : chunks chunk.index = none) (room : received + 1 < MAX_CHUNKS) :
    readPacketLoop lz4 chunks received (chunk.bytes ++ rest) =
      readPacketLoop lz4 (chunks.insert chunk.index chunk.data) (received + 1) rest := by
  have positive : chunk.index ≠ 0 := by
    intro zero
    have := chunk.positive
    rw [zero] at this
    exact absurd this (by decide)
  have bounded : ¬ MAX_CHUNK_INDEX ≤ chunk.index := by
    have := chunk.bounded
    simp only [MAX_CHUNK_INDEX, UInt8.le_iff_toNat_le] at this ⊢
    simp at this ⊢
    omega
  have few : ¬ MAX_CHUNKS ≤ received + 1 := by omega
  rw [readPacketLoop]
  simp only [WireChunk.bytes, header_exact, bind, Except.bind, payloadSize_frame _ _ chunk.fits, readExact_append]
  simp [positive, bounded, few, fresh]

/-- Keeping chunks one after another builds their map on top of the chunks
already kept. -/
private theorem readPacketLoop_chunks (kept : Chunks) (received : Nat) (chunks : List WireChunk) (rest : Bytes)
    (distinct : (chunks.map WireChunk.index).Nodup)
    (fresh : ∀ chunk ∈ chunks, kept chunk.index = none)
    (room : received + chunks.length < MAX_CHUNKS) :
    readPacketLoop lz4 kept received (chunks.flatMap WireChunk.bytes ++ rest) =
      readPacketLoop lz4 (fun index => (chunkMap chunks index).or (kept index))
        (received + chunks.length) rest := by
  induction chunks generalizing kept received with
  | nil => simp [chunkMap]
  | cons chunk chunks ih =>
    simp only [List.map_cons, List.nodup_cons, List.length_cons] at distinct room ⊢
    rw [List.flatMap_cons, List.append_assoc,
      readPacketLoop_chunk lz4 kept received chunk _ (fresh chunk (by simp)) (by omega),
      ih _ _ distinct.2 ?_ (by omega)]
    · congr 1
      · funext index
        by_cases same : chunk.index = index
        · subst same
          have absent : chunkMap chunks chunk.index = none := by
            simp only [chunkMap, Option.map_eq_none_iff, List.find?_eq_none, beq_iff_eq]
            intro other member equal
            exact distinct.1 (List.mem_map.mpr ⟨other, member, equal⟩)
          simp only [absent, Option.none_or]
          simp [Chunks.insert, chunkMap]
        · simp [chunkMap, Chunks.insert, same, Ne.symm same]
      · omega
    · intro other member
      have different : other.index ≠ chunk.index := by
        intro equal
        exact distinct.1 (List.mem_map.mpr ⟨other, member, equal⟩)
      simp [Chunks.insert, different, fresh other (List.mem_cons_of_mem _ member)]

theorem readPacket_bytes (packet : LogicalPacket) (rest : Bytes) :
    readPacket lz4 (packet.bytes ++ rest) = .ok (packet.raw, rest) := by
  have few := packet.few
  rw [readPacket, LogicalPacket.bytes, List.append_assoc,
    readPacketLoop_chunks lz4 _ 0 packet.chunks _ packet.distinct (fun _ _ => rfl)
      (by simp only [MAX_CHUNKS]; omega),
    readPacketLoop_main lz4 _ _ packet.flags packet.payload rest packet.yaml packet.fits]
  simp [LogicalPacket.raw]

theorem readPackets_bytes (packets : List LogicalPacket) (rest : Bytes) :
    readPackets lz4 packets.length (packets.flatMap LogicalPacket.bytes ++ rest) =
      .ok (packets.map LogicalPacket.raw, rest) := by
  induction packets with
  | nil => rfl
  | cons packet packets ih =>
    simp only [List.flatMap_cons, List.append_assoc, List.length_cons, readPackets]
    rw [readPacket_bytes]
    simp [bind, Except.bind, ih, pure, Except.pure]

/-- The header of `write_packet` is the frame header of a main packet. -/
theorem makeHeader_append (data : Bytes) : makeHeader data ++ data = frame 0x4 0 data := by
  have digits : (List.range 4).map (fun i => UInt8.ofNat ((data.length >>> (8 * (3 - i))) &&& 0xff)) =
      Numeral.toBig 4 data.length := by
    have low (value : Nat) : UInt8.ofNat (value &&& 0xff) = UInt8.ofNat value := by
      apply UInt8.toNat_inj.mp
      have mask : value &&& 255 = value % 2 ^ 8 := Nat.and_two_pow_sub_one_eq_mod value 8
      simp [mask]
    simp [List.range_succ, Numeral.toBig, Numeral.toLittle, Numeral.digit, Nat.shiftRight_eq_div_pow, low]
  rw [makeHeader, digits, frame]

theorem writePackets_wire (sink : Sink) (payloads : List Bytes)
    (accepts : ∀ call, sink.outcome call = .written) :
    (writePackets sink payloads).wire = sink.wire ++ payloads.flatMap (frame 0x4 0) := by
  induction payloads generalizing sink with
  | nil => simp [writePackets]
  | cons payload payloads ih =>
    have first : (writePacket sink payload).2 =
        { sink with calls := sink.calls + 1, wire := sink.wire ++ frame 0x4 0 payload } := by
      simp [writePacket, Sink.writeAll, accepts, makeHeader_append]
    have rest := ih (writePacket sink payload).2 (by rw [first]; exact accepts)
    rw [first] at rest
    simpa [writePackets, first] using rest

/-- Reading undoes the serialisation of any stream of logical packets: every
prefix of it reads as its own packets and leaves the stream at the first byte of
the next. What `write_packet` lays out is one such stream. -/
theorem packets_read_back :
    (∀ (packets later : List LogicalPacket) (rest : Bytes),
      readPackets lz4 packets.length ((packets ++ later).flatMap LogicalPacket.bytes ++ rest) =
        .ok (packets.map LogicalPacket.raw, later.flatMap LogicalPacket.bytes ++ rest)) ∧
    ∀ (payloads : List { payload : Bytes // payload.length < 2 ^ 32 }) (rest : Bytes),
      readPackets lz4 payloads.length
          ((writePackets { outcome := fun _ => .written } (payloads.map Subtype.val)).wire ++ rest) =
        .ok (payloads.map fun payload => ⟨payload.val, fun _ => none⟩, rest) := by
  constructor
  · intro packets later rest
    rw [List.flatMap_append, List.append_assoc]
    exact readPackets_bytes lz4 packets _
  · intro payloads rest
    let packets := payloads.map fun payload => plain payload.val payload.property
    have written : (writePackets { outcome := fun _ => .written } (payloads.map Subtype.val)).wire =
        packets.flatMap LogicalPacket.bytes := by
      rw [writePackets_wire _ _ fun _ => rfl]
      simp [packets, List.flatMap_map, LogicalPacket.bytes, plain]
    have read := readPackets_bytes lz4 packets rest
    rw [written]
    have chunkless : chunkMap [] = fun _ => none := rfl
    simpa [packets, Function.comp_def, LogicalPacket.raw, plain, chunkless] using read

end Xpra.Proofs.Framing
