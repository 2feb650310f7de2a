import Xpra.Proofs.Framing

/-! Which streams `read_packet` accepts: up to three chunk frames, then a main frame.
A chunk that does not decompress is passed over, and leaves its index free. -/

namespace Xpra.Proofs.PacketLanguage
open Xpra.Net Library

/-! ### Frames -/

structure WireFrame where
  flags : UInt8
  level : UInt8
  index : UInt8
  payload : Bytes
  fits : payload.length < 2 ^ 32

def WireFrame.header (frame : WireFrame) : Bytes :=
  [0x50, frame.flags, frame.level, frame.index] ++ Numeral.toBig 4 frame.payload.length

def WireFrame.bytes (frame : WireFrame) : Bytes := frame.header ++ frame.payload

/-- What the payload stands for, when it can be told. -/
def WireFrame.content (lz4 : Bytes → Except String Bytes) (frame : WireFrame) : Option Bytes :=
  if frame.level = 0 then some frame.payload
  else if frame.level &&& LZ4_FLAG = 0 then none
  else (lz4 frame.payload).toOption

def Kept (lz4 : Bytes → Except String Bytes) (frames : List WireFrame) (index : UInt8) (data : Bytes) : Prop :=
  ∃ frame ∈ frames, frame.index = index ∧ frame.content lz4 = some data

/-- A stream that begins with a packet: its chunk frames, its main frame, what they
come to, and the bytes behind them. -/
structure Accepted (lz4 : Bytes → Except String Bytes) (stream : Bytes) (chunks : List WireFrame) (main : WireFrame)
    (packet : RawPacket) (rest : Bytes) : Prop where
  stream : stream = chunks.flatMap WireFrame.bytes ++ main.bytes ++ rest
  few : chunks.length ≤ 3
  indices : ∀ chunk ∈ chunks, 1 ≤ chunk.index ∧ chunk.index ≤ 15
  fresh : ∀ before chunk after, chunks = before ++ chunk :: after → ∀ data, ¬ Kept lz4 before chunk.index data
  last : main.index = 0
  yaml : main.flags &&& FLAGS_YAML ≠ 0
  payload : main.content lz4 = some packet.payload
  kept : ∀ index data, packet.chunks index = some data ↔ Kept lz4 chunks index data

/-! ### One pass of the loop -/

/-- A pass ends the packet, or goes on with the chunks it leaves. -/
abbrev Pass := (RawPacket × Bytes) ⊕ (Chunks × Bytes)

/-- The loop's body. -/
def pass (lz4 : Bytes → Except String Bytes) (chunks : Chunks) (received : Nat) (stream : Bytes) : Except IoError Pass := do
  let (header, stream) ← readExact 8 stream
  if header.getD 0 0 ≠ 0x50 then
    throw (invalidData s!"invalid packet header byte: {header.getD 0 0}")
  let index := header.getD 3 0
  let compression := header.getD 2 0
  if index ≥ MAX_CHUNK_INDEX then
    throw (invalidData s!"invalid chunk index: {index}")
  let (payload, stream) ← readExact (payloadSize header) stream
  if index = 0 then
    if header.getD 1 0 &&& FLAGS_YAML = 0 then
      throw (invalidData s!"unsupported packet encoding: {header.getD 1 0}")
    if compression ≠ 0 then
      let data ← decompress lz4 compression payload
      return .inl (⟨data, chunks⟩, stream)
    return .inl (⟨payload, chunks⟩, stream)
  if received + 1 ≥ MAX_CHUNKS then
    throw (invalidData s!"too many chunks: {received + 1}")
  else if (chunks index).isSome then
    throw (invalidData s!"duplicate chunk at index {index}")
  else if compression ≠ 0 then
    match decompress lz4 compression payload with
    | .ok data => return .inr (chunks.insert index data, stream)
    | .error _ => return .inr (chunks, stream)
  else return .inr (chunks.insert index payload, stream)

/-- The loop with a limit on the frames it may read; `none` where it needs more. -/
def readWithin (lz4 : Bytes → Except String Bytes) : Nat → Chunks → (received : Nat) → Bytes →
    Option (Except IoError (RawPacket × Bytes))
  | 0, _, _, _ => none
  | frames + 1, chunks, received, stream => match pass lz4 chunks received stream with
    | .error error => some (.error error)
    | .ok (.inl result) => some (.ok result)
    | .ok (.inr (chunks, stream)) => readWithin lz4 frames chunks (received + 1) stream

variable {lz4 : Bytes → Except String Bytes}

theorem readPacketLoop_pass (chunks : Chunks) (received : Nat) (stream : Bytes) :
    readPacketLoop lz4 chunks received stream = (pass lz4 chunks received stream).bind fun
      | .inl result => .ok result
      | .inr (chunks, stream) => readPacketLoop lz4 chunks (received + 1) stream := by
  rw [readPacketLoop, pass]
  cases readExact 8 stream with
  | error error => rfl
  | ok read =>
    simp only [bind, Except.bind, throw, throwThe, MonadExceptOf.throw, pure, Except.pure]
    split
    · rfl
    · split
      · rfl
      · cases readExact (payloadSize read.1) read.2 with
        | error error => rfl
        | ok taken =>
          dsimp only
          repeat' split
          all_goals first | rfl | simp_all

/-! ### Reading a frame -/

theorem readExact_ok {count : Nat} {stream taken rest : Bytes} :
    readExact count stream = .ok (taken, rest) ↔ taken.length = count ∧ stream = taken ++ rest := by
  rw [readExact]
  constructor
  · intro read
    split at read
    next enough =>
      cases read
      exact ⟨by simpa using enough, (List.take_append_drop count stream).symm⟩
    next => cases read
  · rintro ⟨rfl, rfl⟩
    simp

namespace WireFrame

variable (frame : WireFrame)

theorem header_length : frame.header.length = 8 := by simp [header]

theorem payloadSize_header : payloadSize frame.header = frame.payload.length := by
  rw [header, Framing.payloadSize_big _ _ _ (Numeral.toBig_length _ _)]
  exact Numeral.big_toBig_of_lt (by simpa using frame.fits)

theorem read_header (rest : Bytes) : readExact 8 (frame.bytes ++ rest) = .ok (frame.header, frame.payload ++ rest) :=
  readExact_ok.mpr ⟨frame.header_length, by rw [bytes, List.append_assoc]⟩

theorem read_payload (rest : Bytes) :
    readExact (payloadSize frame.header) (frame.payload ++ rest) = .ok (frame.payload, rest) :=
  readExact_ok.mpr ⟨frame.payloadSize_header.symm, rfl⟩

end WireFrame

/-- Eight bytes with the right first one are the header of a frame, and whoever has
read the payload they announce has read the frame. -/
theorem framed_of_read {header payload stream middle rest : Bytes} (headed : readExact 8 stream = .ok (header, middle))
    (first : header.getD 0 0 = 0x50) (filled : readExact (payloadSize header) middle = .ok (payload, rest)) :
    ∃ frame : WireFrame, frame.header = header ∧ frame.payload = payload ∧ stream = frame.bytes ++ rest := by
  obtain ⟨eight, rfl⟩ := readExact_ok.mp headed
  obtain ⟨size, rfl⟩ := readExact_ok.mp filled
  obtain ⟨start, flags, level, index, digits, rfl⟩ : ∃ start flags level index digits,
      header = [start, flags, level, index] ++ digits := by
    rcases header with _ | ⟨start, _ | ⟨flags, _ | ⟨level, _ | ⟨index, digits⟩⟩⟩⟩
    case cons.cons.cons.cons => exact ⟨start, flags, level, index, digits, rfl⟩
    all_goals simp at eight
  have first : start = 0x50 := first
  subst first
  have four : digits.length = 4 := by simpa using eight
  rw [Framing.payloadSize_big _ _ _ four] at size
  have fits : payload.length < 2 ^ 32 := by
    have := Numeral.big_lt digits
    rw [four] at this
    omega
  let frame : WireFrame := ⟨flags, level, index, payload, fits⟩
  have headed : frame.header = [0x50, flags, level, index] ++ digits := by
    rw [WireFrame.header, size, ← four, Numeral.toBig_big]
  exact ⟨frame, headed, rfl, by simp [WireFrame.bytes, headed, frame]⟩

/-! ### What a pass does with a frame -/

def store (lz4 : Bytes → Except String Bytes) (chunks : Chunks) (frame : WireFrame) : Chunks :=
  match frame.content lz4 with
  | some data => chunks.insert frame.index data
  | none => chunks

namespace WireFrame

variable {frame : WireFrame}

theorem content_plain (level : frame.level = 0) : frame.content lz4 = some frame.payload := by
  rw [content, if_pos level]

theorem content_compressed (level : frame.level ≠ 0) :
    frame.content lz4 = (decompress lz4 frame.level frame.payload).toOption := by
  rw [content, if_neg level, decompress]
  split
  · rfl
  · cases lz4 frame.payload <;> rfl

end WireFrame

theorem pass_bytes (frame : WireFrame) (chunks : Chunks) (received : Nat) (rest : Bytes) :
    pass lz4 chunks received (frame.bytes ++ rest) =
      if frame.index ≥ MAX_CHUNK_INDEX then .error (invalidData s!"invalid chunk index: {frame.index}")
      else if frame.index = 0 then
        if frame.flags &&& FLAGS_YAML = 0 then .error (invalidData s!"unsupported packet encoding: {frame.flags}")
        else if frame.level = 0 then .ok (.inl (⟨frame.payload, chunks⟩, rest))
        else (decompress lz4 frame.level frame.payload).map fun data => .inl (⟨data, chunks⟩, rest)
      else if received + 1 ≥ MAX_CHUNKS then .error (invalidData s!"too many chunks: {received + 1}")
      else if (chunks frame.index).isSome then .error (invalidData s!"duplicate chunk at index {frame.index}")
      else .ok (.inr (store lz4 chunks frame, rest)) := by
  have fields : frame.header.getD 0 0 = 0x50 ∧ frame.header.getD 1 0 = frame.flags ∧
      frame.header.getD 2 0 = frame.level ∧ frame.header.getD 3 0 = frame.index := ⟨rfl, rfl, rfl, rfl⟩
  obtain ⟨start, flags, level, index⟩ := fields
  rw [pass]
  simp only [WireFrame.read_header, bind, Except.bind, throw, throwThe, MonadExceptOf.throw, pure, Except.pure, start,
    flags, level, index, ne_eq, not_true_eq_false, if_false, WireFrame.read_payload]
  by_cases plain : frame.level = 0
  · simp only [plain, not_true_eq_false, if_false, if_true, store, WireFrame.content_plain plain]
  · simp only [plain, not_false_eq_true, if_true, if_false, store, WireFrame.content_compressed plain]
    cases decompress lz4 frame.level frame.payload <;> dsimp only [Except.toOption, Except.map]

theorem pass_main {frame : WireFrame} (main : frame.index = 0) {chunks : Chunks} {received : Nat} {rest : Bytes}
    {result : Pass} :
    pass lz4 chunks received (frame.bytes ++ rest) = .ok result ↔ frame.flags &&& FLAGS_YAML ≠ 0 ∧
      ∃ data, frame.content lz4 = some data ∧ result = .inl (⟨data, chunks⟩, rest) := by
  have bounded : ¬ frame.index ≥ MAX_CHUNK_INDEX := by rw [main]; decide
  rw [pass_bytes, if_neg bounded, if_pos main]
  by_cases plain : frame.level = 0
  · by_cases yaml : frame.flags &&& FLAGS_YAML = 0
    · simp [yaml]
    · simp [yaml, plain, WireFrame.content_plain plain, eq_comm]
  · rw [WireFrame.content_compressed plain]
    by_cases yaml : frame.flags &&& FLAGS_YAML = 0
    · simp [yaml]
    · cases decompress lz4 frame.level frame.payload <;> simp [yaml, plain, Except.map, Except.toOption, eq_comm]

theorem pass_chunk {frame : WireFrame} (chunk : frame.index ≠ 0) {chunks : Chunks} {received : Nat} {rest : Bytes}
    {result : Pass} :
    pass lz4 chunks received (frame.bytes ++ rest) = .ok result ↔ frame.index ≤ 15 ∧ received + 1 < MAX_CHUNKS ∧
      chunks frame.index = none ∧ result = .inr (store lz4 chunks frame, rest) := by
  have bounded : frame.index ≥ MAX_CHUNK_INDEX ↔ ¬ frame.index ≤ 15 := by
    simp only [MAX_CHUNK_INDEX, ge_iff_le, UInt8.le_iff_toNat_le, UInt8.reduceToNat]
    omega
  rw [pass_bytes, if_neg chunk]
  by_cases low : frame.index ≤ 15
  · by_cases full : MAX_CHUNKS ≤ received + 1
    · simp [bounded, low, full]
    · cases chunks frame.index <;> simp [bounded, low, full, eq_comm, Nat.lt_of_not_le full]
  · simp [bounded, low]

/-- A pass that succeeds has read a frame. -/
theorem framed_of_pass {chunks : Chunks} {received : Nat} {stream : Bytes} {result : Pass}
    (passed : pass lz4 chunks received stream = .ok result) :
    ∃ (frame : WireFrame) (rest : Bytes), stream = frame.bytes ++ rest := by
  rw [pass] at passed
  obtain ⟨⟨header, middle⟩, headed, passed⟩ := bind_ok passed
  dsimp only at passed
  split at passed
  next => cases passed
  next first =>
    split at passed
    next => cases passed
    next =>
      obtain ⟨⟨payload, rest⟩, filled, -⟩ := bind_ok passed
      obtain ⟨frame, -, -, same⟩ := framed_of_read headed (not_not.mp first) filled
      exact ⟨frame, rest, same⟩

theorem again_iff {chunks left : Chunks} {received : Nat} {stream rest : Bytes} :
    pass lz4 chunks received stream = .ok (.inr (left, rest)) ↔ ∃ chunk : WireFrame, stream = chunk.bytes ++ rest ∧
      chunk.index ≠ 0 ∧ chunk.index ≤ 15 ∧ received + 1 < MAX_CHUNKS ∧ chunks chunk.index = none ∧
      left = store lz4 chunks chunk := by
  constructor
  · intro passed
    obtain ⟨frame, behind, rfl⟩ := framed_of_pass passed
    by_cases main : frame.index = 0
    · obtain ⟨-, data, -, impossible⟩ := (pass_main main).mp passed
      cases impossible
    · obtain ⟨low, room, free, same⟩ := (pass_chunk main).mp passed
      cases same
      exact ⟨frame, rfl, main, low, room, free, rfl⟩
  · rintro ⟨chunk, rfl, chunked, low, room, free, rfl⟩
    exact (pass_chunk chunked).mpr ⟨low, room, free, rfl⟩

theorem done_iff {chunks : Chunks} {received : Nat} {stream rest : Bytes} {packet : RawPacket} :
    pass lz4 chunks received stream = .ok (.inl (packet, rest)) ↔ ∃ main : WireFrame, stream = main.bytes ++ rest ∧
      main.index = 0 ∧ main.flags &&& FLAGS_YAML ≠ 0 ∧ main.content lz4 = some packet.payload ∧
      packet.chunks = chunks := by
  constructor
  · intro passed
    obtain ⟨frame, behind, rfl⟩ := framed_of_pass passed
    by_cases main : frame.index = 0
    · obtain ⟨yaml, data, content, same⟩ := (pass_main main).mp passed
      cases same
      exact ⟨frame, rfl, main, yaml, content, rfl⟩
    · obtain ⟨-, -, -, impossible⟩ := (pass_chunk main).mp passed
      cases impossible
  · rintro ⟨main, rfl, last, yaml, content, rfl⟩
    exact (pass_main last).mpr ⟨yaml, packet.payload, content, rfl⟩

/-! ### The loop -/

def Fresh (lz4 : Bytes → Except String Bytes) : Chunks → List WireFrame → Prop
  | _, [] => True
  | kept, chunk :: rest => kept chunk.index = none ∧ Fresh lz4 (store lz4 kept chunk) rest

/-- What the loop makes of the frames ahead of it, with the chunks it has kept. -/
structure Ahead (lz4 : Bytes → Except String Bytes) (kept : Chunks) (received : Nat) (stream : Bytes)
    (chunks : List WireFrame) (main : WireFrame) (packet : RawPacket) (rest : Bytes) : Prop where
  stream : stream = chunks.flatMap WireFrame.bytes ++ main.bytes ++ rest
  room : received + chunks.length < MAX_CHUNKS
  indices : ∀ chunk ∈ chunks, chunk.index ≠ 0 ∧ chunk.index ≤ 15
  fresh : Fresh lz4 kept chunks
  last : main.index = 0
  yaml : main.flags &&& FLAGS_YAML ≠ 0
  payload : main.content lz4 = some packet.payload
  stored : packet.chunks = chunks.foldl (store lz4) kept

/-- The number of frames that may still come bounds the passes that are left. -/
theorem readWithin_loop {frames received : Nat} (left : received + frames + 1 = MAX_CHUNKS) (kept : Chunks) (stream : Bytes) :
    readWithin lz4 (frames + 1) kept received stream = some (readPacketLoop lz4 kept received stream) := by
  induction frames generalizing received kept stream with
  | zero =>
    rw [readPacketLoop_pass, readWithin]
    cases passed : pass lz4 kept received stream with
    | error error => rfl
    | ok result =>
      rcases result with result | ⟨chunks, rest⟩
      · rfl
      · obtain ⟨-, -, -, -, room, -, -⟩ := again_iff.mp passed
        omega
  | succ frames ih =>
    rw [readPacketLoop_pass, readWithin]
    cases pass lz4 kept received stream with
    | error error => rfl
    | ok result =>
      rcases result with result | ⟨chunks, rest⟩
      · rfl
      · exact ih (by omega) chunks rest

theorem ahead_of_within {frames received : Nat} {kept : Chunks} {stream rest : Bytes} {packet : RawPacket}
    (few : received < MAX_CHUNKS) (read : readWithin lz4 frames kept received stream = some (.ok (packet, rest))) :
    ∃ chunks main, Ahead lz4 kept received stream chunks main packet rest := by
  induction frames generalizing received kept stream with
  | zero => cases read
  | succ frames ih =>
    rw [readWithin] at read
    cases passed : pass lz4 kept received stream with
    | error error => simp [passed] at read
    | ok result =>
      rcases result with result | ⟨left, behind⟩
      · simp only [passed, Option.some.injEq, Except.ok.injEq] at read
        subst read
        obtain ⟨main, stream, last, yaml, payload, stored⟩ := done_iff.mp passed
        exact ⟨[], main, by simpa using stream, few, by simp, trivial, last, yaml, payload, stored⟩
      · simp only [passed] at read
        obtain ⟨chunk, rfl, chunked, low, room, free, rfl⟩ := again_iff.mp passed
        obtain ⟨chunks, main, ahead⟩ := ih room read
        have room := ahead.room
        refine ⟨chunk :: chunks, main, ?_, ?_, ?_, ⟨free, ahead.fresh⟩, ahead.last, ahead.yaml, ahead.payload,
          ahead.stored⟩
        · simp [ahead.stream]
        · simp only [List.length_cons]
          omega
        · intro other member
          rcases List.mem_cons.mp member with rfl | member
          · exact ⟨chunked, low⟩
          · exact ahead.indices other member

theorem Ahead.read {kept : Chunks} {received : Nat} {stream rest : Bytes} {chunks : List WireFrame} {main : WireFrame}
    {packet : RawPacket} (ahead : Ahead lz4 kept received stream chunks main packet rest) :
    readPacketLoop lz4 kept received stream = .ok (packet, rest) := by
  induction chunks generalizing kept received stream with
  | nil =>
    have ends : pass lz4 kept received stream = .ok (.inl (packet, rest)) :=
      done_iff.mpr ⟨main, by simpa using ahead.stream, ahead.last, ahead.yaml, ahead.payload, ahead.stored⟩
    rw [readPacketLoop_pass, ends]
    rfl
  | cons chunk chunks ih =>
    obtain ⟨free, fresh⟩ := ahead.fresh
    obtain ⟨chunked, low⟩ := ahead.indices chunk List.mem_cons_self
    have room := ahead.room
    rw [List.length_cons] at room
    have goes : pass lz4 kept received stream =
        .ok (.inr (store lz4 kept chunk, chunks.flatMap WireFrame.bytes ++ main.bytes ++ rest)) :=
      again_iff.mpr ⟨chunk, by simpa using ahead.stream, chunked, low, by omega, free, rfl⟩
    rw [readPacketLoop_pass, goes]
    exact ih ⟨rfl, by omega, fun other member => ahead.indices other (List.mem_cons_of_mem _ member), fresh, ahead.last,
      ahead.yaml, ahead.payload, ahead.stored⟩

/-! ### The chunks that are kept -/

theorem store_iff {kept : Chunks} {chunk : WireFrame} (free : kept chunk.index = none) {index : UInt8} {data : Bytes} :
    store lz4 kept chunk index = some data ↔
      kept index = some data ∨ (chunk.index = index ∧ chunk.content lz4 = some data) := by
  rw [store]
  by_cases same : index = chunk.index
  · subst same
    cases content : chunk.content lz4 <;> simp [free, Chunks.insert]
  · cases content : chunk.content lz4 <;> simp [Chunks.insert, same, Ne.symm same]

theorem foldl_store_iff {kept : Chunks} {chunks : List WireFrame} (fresh : Fresh lz4 kept chunks) {index : UInt8}
    {data : Bytes} :
    chunks.foldl (store lz4) kept index = some data ↔ kept index = some data ∨ Kept lz4 chunks index data := by
  induction chunks generalizing kept with
  | nil => simp [Kept]
  | cons chunk chunks ih =>
    rw [List.foldl_cons, ih fresh.2, store_iff fresh.1, or_assoc]
    simp [Kept]

theorem fresh_iff {kept : Chunks} {chunks : List WireFrame} :
    Fresh lz4 kept chunks ↔ ∀ before chunk after, chunks = before ++ chunk :: after →
      kept chunk.index = none ∧ ∀ data, ¬ Kept lz4 before chunk.index data := by
  induction chunks generalizing kept with
  | nil => simp [Fresh]
  | cons head chunks ih =>
    rw [Fresh, ih]
    constructor
    · rintro ⟨free, later⟩ before chunk after shape
      cases before with
      | nil =>
        cases shape
        exact ⟨free, by simp [Kept]⟩
      | cons first before =>
        cases shape
        obtain ⟨none, others⟩ := later before chunk after rfl
        have none (data : Bytes) : ¬ (kept chunk.index = some data ∨ (head.index = chunk.index ∧ head.content lz4 = some data)) := by
          rw [← store_iff free, none]
          simp
        refine ⟨Option.eq_none_iff_forall_ne_some.mpr fun data same => none data (.inl same), ?_⟩
        rintro data ⟨frame, member, index, content⟩
        rcases List.mem_cons.mp member with rfl | member
        · exact none data (.inr ⟨index, content⟩)
        · exact others data ⟨frame, member, index, content⟩
    · intro later
      obtain ⟨free, -⟩ := later [] head chunks rfl
      refine ⟨free, fun before chunk after shape => ?_⟩
      obtain ⟨none, others⟩ := later (head :: before) chunk after (by rw [shape, List.cons_append])
      refine ⟨Option.eq_none_iff_forall_ne_some.mpr fun data same => ?_, ?_⟩
      · rcases (store_iff free).mp same with earlier | ⟨index, content⟩
        · simp [none] at earlier
        · exact others data ⟨head, List.mem_cons_self, index, content⟩
      · rintro data ⟨frame, member, index, content⟩
        exact others data ⟨frame, List.mem_cons_of_mem _ member, index, content⟩

theorem ahead_iff_accepted {stream rest : Bytes} {chunks : List WireFrame} {main : WireFrame} {packet : RawPacket} :
    Ahead lz4 (fun _ => none) 0 stream chunks main packet rest ↔ Accepted lz4 stream chunks main packet rest := by
  have positive (index : UInt8) : index ≠ 0 ↔ 1 ≤ index := by
    rw [UInt8.le_iff_toNat_le, ne_eq, ← UInt8.toNat_inj]
    exact Nat.one_le_iff_ne_zero.symm
  constructor
  · intro ahead
    have few := ahead.room
    refine ⟨ahead.stream, by simp only [MAX_CHUNKS] at few; omega, ?_, ?_, ahead.last, ahead.yaml, ahead.payload, ?_⟩
    · intro chunk member
      obtain ⟨chunked, low⟩ := ahead.indices chunk member
      exact ⟨(positive _).mp chunked, low⟩
    · intro before chunk after shape
      exact (fresh_iff.mp ahead.fresh before chunk after shape).2
    · intro index data
      rw [ahead.stored, foldl_store_iff ahead.fresh]
      simp
  · intro accepted
    have few := accepted.few
    have fresh : Fresh lz4 (fun _ => none) chunks :=
      fresh_iff.mpr fun before chunk after shape => ⟨rfl, accepted.fresh before chunk after shape⟩
    refine ⟨accepted.stream, by simp only [MAX_CHUNKS]; omega, ?_, fresh, accepted.last, accepted.yaml, accepted.payload, ?_⟩
    · intro chunk member
      obtain ⟨chunked, low⟩ := accepted.indices chunk member
      exact ⟨(positive _).mpr chunked, low⟩
    · funext index
      apply Option.ext
      intro data
      rw [accepted.kept, foldl_store_iff fresh]
      simp

/-- `read_packet` accepts exactly the streams that begin with a packet, returns what its
frames come to and leaves the rest of the stream; on every other stream it fails. It
never reads a fifth frame. -/
theorem read_packet_language (lz4 : Bytes → Except String Bytes) (stream : Bytes) :
    (∀ packet rest, readPacket lz4 stream = .ok (packet, rest) ↔
      ∃ chunks main, Accepted lz4 stream chunks main packet rest) ∧
    ((∃ error, readPacket lz4 stream = .error error) ↔
      ¬ ∃ chunks main packet rest, Accepted lz4 stream chunks main packet rest) ∧
    readWithin lz4 4 (fun _ => none) 0 stream = some (readPacket lz4 stream) := by
  have within : readWithin lz4 4 (fun _ => none) 0 stream = some (readPacket lz4 stream) :=
    readWithin_loop rfl _ stream
  have language (packet : RawPacket) (rest : Bytes) : readPacket lz4 stream = .ok (packet, rest) ↔
      ∃ chunks main, Accepted lz4 stream chunks main packet rest := by
    simp only [← ahead_iff_accepted]
    constructor
    · intro read
      rw [read] at within
      exact ahead_of_within (by decide) within
    · rintro ⟨chunks, main, ahead⟩
      exact ahead.read
  refine ⟨language, ?_, within⟩
  constructor
  · rintro ⟨error, failed⟩ ⟨chunks, main, packet, rest, accepted⟩
    rw [(language packet rest).mpr ⟨chunks, main, accepted⟩] at failed
    cases failed
  · intro none
    cases read : readPacket lz4 stream with
    | error error => exact ⟨error, rfl⟩
    | ok result =>
      obtain ⟨packet, rest⟩ := result
      obtain ⟨chunks, main, accepted⟩ := (language packet rest).mp read
      exact absurd ⟨chunks, main, packet, rest, accepted⟩ none

end Xpra.Proofs.PacketLanguage
