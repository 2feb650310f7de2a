import Xpra.Proofs.FrameInterleaving
import Xpra.Proofs.Framing
import Xpra.Proofs.PacketStream
import Xpra.Proofs.WebsocketFrames

/-! What reaches a peer that reads the frames of both threads. Between the pongs it finds
the packets, each once and in their order, down to the last one that is out whole. -/

namespace Xpra.Proofs.Upstream
open Xpra.Net Writers Library FrameInterleaving WebsocketReading WebsocketFrames WebsocketBuffers Framing

/-- A frame that has been handed over. -/
structure Sent where
  writer : Writer
  payload : Bytes
  mask : MaskKey

def Sent.bytes (sent : Sent) : Bytes := frameBytes sent.writer.opcode sent.payload sent.mask

def sends : Event → List Sent
  | .send writer payload mask => [⟨writer, payload, mask⟩]
  | _ => []

def ofWriter (writer : Writer) (frames : List Sent) : List Sent := frames.filter fun sent => sent.writer = writer

variable {state next : State} {active writer : Writer} {seen done : List Sent} {event : Event} {events : List Event} {transport : Transport}

/-- The frames of `done` are out, then a part of the active thread's. Each thread's
frames are out in the order it has handed them over in, but for the last. -/
structure Orderly (state : State) (seen : List Sent) (active : Writer) (done : List Sent) : Prop where
  out : state.out = done.flatMap Sent.bytes ++ part (state.calls active)
  quiet : part (state.calls active.other) = []
  order : ∀ writer, ∃ left, left.map Sent.bytes = unfinished (state.calls writer) ∧
    ofWriter writer done ++ left = ofWriter writer seen

theorem bytes_positive (sent : Sent) : 0 < sent.bytes.length := frameBytes_positive _ _ _

/-- What is unfinished is a frame that has been handed over. -/
theorem Orderly.handed {frame : Bytes} (orderly : Orderly state seen active done)
    (waits : unfinished (state.calls writer) = [frame]) : ∃ sent ∈ seen, sent.writer = writer ∧ sent.bytes = frame := by
  obtain ⟨left, bytes, whole⟩ := orderly.order writer
  rw [waits] at bytes
  obtain ⟨sent, rest, rfl, rfl, -⟩ := List.map_eq_cons_iff.mp bytes
  have member : sent ∈ ofWriter writer seen := by
    rw [← whole]
    simp
  obtain ⟨inside, own⟩ := List.mem_filter.mp member
  exact ⟨sent, inside, by simpa using own, rfl⟩

theorem Orderly.mem_seen (orderly : Orderly state seen active done) (sent : Sent) (member : sent ∈ done) : sent ∈ seen := by
  obtain ⟨left, -, whole⟩ := orderly.order sent.writer
  have own : sent ∈ ofWriter sent.writer done := List.mem_filter.mpr ⟨member, by simp⟩
  have inside : sent ∈ ofWriter sent.writer seen := by
    rw [← whole]
    exact List.mem_append_left _ own
  exact (List.mem_filter.mp inside).1

theorem Orderly.focus (orderly : Orderly state seen active done) (writer : Writer) (quiet : part (state.calls writer.other) = []) :
    Orderly state seen writer done := by
  rcases eq_or_other writer active with rfl | rfl
  · exact orderly
  · rw [other_other] at quiet
    exact ⟨by rw [orderly.out, quiet, orderly.quiet], by rw [other_other]; exact quiet, orderly.order⟩

theorem enter_calls_ne {call : Call} {other : Writer} (different : other ≠ writer) :
    (state.enter writer call).calls other = state.calls other := by simp [State.enter, different]

theorem ofWriter_append (writer : Writer) (first second : List Sent) :
    ofWriter writer (first ++ second) = ofWriter writer first ++ ofWriter writer second := List.filter_append ..

theorem ofWriter_all {frames : List Sent} (all : ∀ sent ∈ frames, sent.writer = writer) : ofWriter writer frames = frames := by
  refine List.filter_eq_self.mpr fun sent member => ?_
  simpa using all sent member

theorem ofWriter_none {frames : List Sent} {other : Writer} (all : ∀ sent ∈ frames, sent.writer = writer) (different : other ≠ writer) :
    ofWriter other frames = [] := by
  refine List.filter_eq_nil_iff.mpr fun sent member => ?_
  rw [all sent member]
  simpa using Ne.symm different

/-- A move that takes no bytes; it may hand over frames of its thread. -/
theorem Orderly.stays (orderly : Orderly state seen active done) (writer : Writer) (call : Call) (next : State)
    (calls : next.calls = (state.enter writer call).calls)
    (out : next.out = state.out) (same : part call = part (state.calls writer)) (new : List Sent)
    (mine : ∀ sent ∈ new, sent.writer = writer)
    (grows : unfinished call = unfinished (state.calls writer) ++ new.map Sent.bytes) : Orderly next (seen ++ new) active done := by
  have parts (other : Writer) : part (next.calls other) = part (state.calls other) := by
    by_cases own : other = writer
    · rw [own, calls, enter_calls, same]
    · rw [calls, enter_calls_ne own]
  refine ⟨by rw [out, parts, orderly.out], by rw [parts, orderly.quiet], fun other => ?_⟩
  obtain ⟨left, bytes, whole⟩ := orderly.order other
  by_cases own : other = writer
  · subst own
    refine ⟨left ++ new, ?_, ?_⟩
    · rw [calls, enter_calls, grows, List.map_append, bytes]
    · rw [ofWriter_append, ofWriter_all mine, ← whole, List.append_assoc]
  · refine ⟨left, ?_, ?_⟩
    · rw [calls, enter_calls_ne own, bytes]
    · rw [ofWriter_append, ofWriter_none mine own, List.append_nil, whole]

theorem Orderly.accept {frame : Bytes} {offset count : Nat} (orderly : Orderly state seen writer done)
    (current : state.calls writer = .writing frame offset) (taken : 0 < count ∧ offset + count ≤ frame.length) :
    ∃ done', Orderly ({ state with out := state.out ++ (frame.drop offset).take count }.enter writer
      (.writing frame (offset + count))) seen writer done' := by
  have short : offset < frame.length := by omega
  have waits : unfinished (state.calls writer) = [frame] := by rw [current, unfinished, if_pos short]
  have out := orderly.out
  rw [current, part, if_pos short] at out
  have quiet : part (({ state with out := state.out ++ (frame.drop offset).take count }.enter writer
      (.writing frame (offset + count))).calls writer.other) = [] := by
    rw [enter_other]
    exact orderly.quiet
  have others {other : Writer} (different : other ≠ writer) : ({ state with out := state.out ++ (frame.drop offset).take count }.enter writer
      (.writing frame (offset + count))).calls other = state.calls other := enter_calls_ne different
  by_cases more : offset + count < frame.length
  · refine ⟨done, ?_, quiet, fun other => ?_⟩
    · rw [enter_out, enter_calls, out, part, if_pos more, List.take_add, List.append_assoc]
    · obtain ⟨left, bytes, whole⟩ := orderly.order other
      refine ⟨left, ?_, whole⟩
      by_cases own : other = writer
      · rw [own, enter_calls, unfinished, if_pos more, bytes, own, waits]
      · rw [others own, bytes]
  · -- the frame is out whole
    have whole : frame.take (offset + count) = frame := List.take_of_length_le (by omega)
    obtain ⟨left, bytes, mine⟩ := orderly.order writer
    rw [waits] at bytes
    obtain ⟨sent, rest, rfl, rfl, none⟩ := List.map_eq_cons_iff.mp bytes
    rw [List.map_eq_nil_iff] at none
    subst none
    have own : sent.writer = writer := by
      have member : sent ∈ ofWriter writer seen := by
        rw [← mine]
        simp
      simpa using (List.mem_filter.mp member).2
    have single : ∀ other ∈ [sent], other.writer = writer := by
      intro other member
      rw [List.mem_singleton.mp member, own]
    refine ⟨done ++ [sent], ?_, quiet, fun other => ?_⟩
    · rw [enter_out, enter_calls, out, part, if_neg more, List.append_nil, List.append_assoc, ← List.take_add, whole,
        List.flatMap_append, List.flatMap_singleton]
    · by_cases same : other = writer
      · refine ⟨[], ?_, ?_⟩
        · rw [same, enter_calls, unfinished, if_neg more, List.map_nil]
        · rw [same, List.append_nil, ofWriter_append, ofWriter_all single, mine]
      · obtain ⟨left, bytes, theirs⟩ := orderly.order other
        refine ⟨left, ?_, ?_⟩
        · rw [others same, bytes]
        · rw [ofWriter_append, ofWriter_none single same, List.append_nil, theirs]

theorem orderly_step (alone : Alone event state) (valid : ∃ active done, Orderly state seen active done)
    (moved : step transport event state = .ok next) : ∃ active done, Orderly next (seen ++ sends event) active done := by
  obtain ⟨active, done, orderly⟩ := valid
  cases moved_of_step moved with
  | sentTcp writer payload mask plain idle =>
    have positive := frameBytes_positive writer.opcode payload mask
    refine ⟨active, done, ?_⟩
    rw [sends]
    refine orderly.stays writer (.writing (frameBytes writer.opcode payload mask) 0) _ ?_ ?_ ?_ [⟨writer, payload, mask⟩] (by simp) ?_
    · rfl
    · rfl
    · simp [part, idle]
    · simp [unfinished, idle, positive, Sent.bytes]
  | sentTls writer payload mask idle =>
    refine ⟨active, done, ?_⟩
    rw [sends]
    refine orderly.stays writer (.waiting (frameBytes writer.opcode payload mask)) _ ?_ ?_ ?_ [⟨writer, payload, mask⟩] (by simp) ?_
    · rfl
    · rfl
    · simp [part, idle]
    · simp [unfinished, idle, Sent.bytes]
  | acquired writer frame waiting free =>
    have waits : unfinished (state.calls writer) = [frame] := by rw [waiting, unfinished]
    obtain ⟨sent, -, -, rfl⟩ := orderly.handed waits
    have positive := bytes_positive sent
    refine ⟨active, done, ?_⟩
    change Orderly _ (seen ++ []) active done
    refine orderly.stays writer (.writing sent.bytes 0) _ ?_ ?_ ?_ [] (by simp) ?_
    · rfl
    · rfl
    · simp [part, waiting]
    · simp [unfinished, waiting, positive]
  | accepted writer count frame offset current taken =>
    obtain ⟨done', after⟩ := (orderly.focus writer alone).accept current taken
    refine ⟨writer, done', ?_⟩
    simpa [sends] using after
  | blocked =>
    refine ⟨active, done, ?_⟩
    simpa [sends] using orderly
  | finished writer frame offset current spent =>
    refine ⟨active, done, ?_⟩
    change Orderly _ (seen ++ []) active done
    refine orderly.stays writer .idle _ ?_ ?_ ?_ [] (by simp) ?_
    · rfl
    · rfl
    · simp [part, current, spent]
    · simp [unfinished, current, spent]

/-! ### What the peer reads -/

theorem readFrame_part (frame : WireFrame) {count : Nat} (short : count < frame.bytes.length) :
    ∃ error, readFrame (frame.bytes.take count) = .error (.io error) := by
  have split : frame.bytes = frame.bytes.take count ++ frame.bytes.drop count := (List.take_append_drop count frame.bytes).symm
  have whole := readFrame_bytes frame []
  rw [List.append_nil] at whole
  cases read : readFrame (frame.bytes.take count) with
  | ok result =>
    obtain ⟨parsed, rest⟩ := result
    obtain ⟨wire, front, -⟩ := readFrame_ok_iff.mp read
    have again := readFrame_bytes wire (rest ++ frame.bytes.drop count)
    rw [← List.append_assoc, ← front, ← split, whole] at again
    simp only [Except.ok.injEq, Prod.mk.injEq] at again
    have none : frame.bytes.drop count = [] := (List.append_eq_nil_iff.mp again.2.symm).2
    rw [List.drop_eq_nil_iff] at none
    omega
  | error failure =>
    cases failure with
    | io error => exact ⟨error, rfl⟩
    | panic cause =>
      -- the length field alone would have aborted the read of the whole frame
      obtain ⟨first, second, high, rest, front, long, top, room⟩ := readFrame_panic_iff.mp ⟨cause, read⟩
      have topBit : TopBit frame.bytes :=
        ⟨first, second, high, rest ++ frame.bytes.drop count, split.trans (congrArg (· ++ frame.bytes.drop count) front), long, top, by
          rw [List.length_append]
          omega⟩
      obtain ⟨cause, failed⟩ := readFrame_panic_iff.mpr topBit
      rw [whole] at failed
      cases failed

theorem part_ends (frame : WireFrame) {count : Nat} (short : count < frame.bytes.length) :
    ∃ error, Ends (frame.bytes.take count) error := by
  obtain ⟨error, failed⟩ := readFrame_part frame short
  refine ⟨error, ?_⟩
  intro message stream input
  rw [← input] at failed
  rw [WebSocketStream.fillLoop]
  split
  next cause aborted => rw [failed] at aborted; cases aborted
  next error' failed' =>
    rw [failed] at failed'
    cases failed'
    rfl
  next frame' rest taken => rw [failed] at taken; cases taken

def Small (sent : Sent) : Prop := sent.payload.length < 2 ^ 62

theorem low_bits (writer : Writer) : (0x80 ||| writer.opcode) &&& 0x0F = writer.opcode := by cases writer <;> decide

theorem high_bit (writer : Writer) : ((0x80 ||| writer.opcode) &&& 0x80 != 0) = true := by cases writer <;> decide

/-- The frames that are out as a peer tells them apart. -/
theorem frames_of_sent (small : ∀ sent ∈ done, Small sent) :
    ∃ frames : List WireFrame, frames.flatMap WireFrame.bytes = done.flatMap Sent.bytes ∧ (∀ frame ∈ frames, frame.ordinary) ∧
      messages [] frames = (ofWriter .ui done).map Sent.payload := by
  induction done with
  | nil => exact ⟨[], rfl, fun _ member => absurd member List.not_mem_nil, rfl⟩
  | cons sent done ih =>
    obtain ⟨frames, bytes, ordinary, told⟩ := ih fun other member => small other (List.mem_cons_of_mem sent member)
    have positive := small sent List.mem_cons_self
    have own : (emitted sent.writer.opcode sent.payload sent.mask positive).bytes = sent.bytes := emitted_bytes _ positive
    refine ⟨emitted sent.writer.opcode sent.payload sent.mask positive :: frames, ?_, ?_, ?_⟩
    · rw [List.flatMap_cons, List.flatMap_cons, bytes, own]
    · rw [List.forall_mem_cons]
      refine ⟨?_, ordinary⟩
      have opcode : (emitted sent.writer.opcode sent.payload sent.mask positive).opcode = sent.writer.opcode := low_bits sent.writer
      cases own : sent.writer with
      | ui =>
        rw [own] at opcode
        exact .inl (.inr (.inr opcode))
      | reader =>
        rw [own] at opcode
        exact .inr (.inr opcode)
    · obtain ⟨writer, payload, mask⟩ := sent
      have opcode : (emitted writer.opcode payload mask positive).opcode = writer.opcode := low_bits writer
      have fin : (emitted writer.opcode payload mask positive).fin = true := high_bit writer
      change messages [] (emitted writer.opcode payload mask positive :: frames) = _
      cases writer with
      | ui =>
        have data : (emitted Writer.ui.opcode payload mask positive).data := .inr (.inr opcode)
        rw [messages, if_pos data, if_pos fin, told]
        rfl
      | reader =>
        have control : ¬ (emitted Writer.reader.opcode payload mask positive).data := WireFrame.not_data (.inr (.inr opcode))
        rw [messages, if_neg control, told]
        rfl

/-- What the threads hand over: packets, and pongs no longer than any memory. -/
def Fine : Event → Prop
  | .send .ui payload _ => ∃ data, data.length < 2 ^ 32 ∧ payload = makeHeader data ++ data
  | .send .reader payload _ => payload.length < 2 ^ 62
  | _ => True

/-- The packets the UI thread has handed over. -/
def packets (events : List Event) : List Bytes :=
  events.filterMap fun event => match event with
    | .send .ui payload _ => some (payload.drop 8)
    | _ => none

theorem observed_sends (ran : Machine.run (step transport) events state = .ok next) :
    Machine.observed (step transport) (fun event _ => sends event) events state = events.flatMap sends := by
  induction events generalizing state with
  | nil => rfl
  | cons event events ih =>
    obtain ⟨middle, moved, later⟩ := (Machine.run_cons_ok (step transport)).mp ran
    simp only [Machine.observed, moved, ih later, List.flatMap_cons]

theorem small_of_fine (fine : ∀ event ∈ events, Fine event) : ∀ sent ∈ events.flatMap sends, Small sent := by
  intro sent member
  obtain ⟨event, inside, own⟩ := List.mem_flatMap.mp member
  have good := fine event inside
  cases event with
  | send writer payload mask =>
    rw [sends, List.mem_singleton] at own
    subst own
    cases writer with
    | ui =>
      obtain ⟨data, fits, rfl⟩ := good
      simp only [Small, makeHeader_append, frame, List.length_append, Numeral.toBig_length, List.length_cons, List.length_nil]
      omega
    | reader => exact good
  | _ => cases own

/-- The packets of the UI thread's frames, as logical packets. -/
theorem packets_of_sends (fine : ∀ event ∈ events, Fine event) :
    ∃ logical : List LogicalPacket, (ofWriter .ui (events.flatMap sends)).map Sent.payload = logical.map LogicalPacket.bytes ∧
      logical.map LogicalPacket.raw = (packets events).map fun data => ⟨data, fun _ => none⟩ := by
  induction events with
  | nil => exact ⟨[], rfl, rfl⟩
  | cons event events ih =>
    obtain ⟨logical, payloads, raws⟩ := ih fun other member => fine other (List.mem_cons_of_mem event member)
    have good := fine event List.mem_cons_self
    rw [List.flatMap_cons, ofWriter_append]
    cases event with
    | send writer payload mask =>
      cases writer with
      | ui =>
        obtain ⟨data, fits, rfl⟩ := good
        refine ⟨plain data fits :: logical, ?_, ?_⟩
        · have bytes : (plain data fits).bytes = makeHeader data ++ data := (makeHeader_append data).symm
          rw [List.map_append, payloads, List.map_cons, bytes]
          rfl
        · have eight : (makeHeader data).length = 8 := by simp [makeHeader]
          have behind : (makeHeader data ++ data).drop 8 = data := by rw [← eight, List.drop_left]
          have front : packets (.send .ui (makeHeader data ++ data) mask :: events) = data :: packets events := by
            rw [packets, List.filterMap_cons]
            simp only [behind]
            rfl
          rw [front, List.map_cons, List.map_cons, raws]
          rfl
      | reader => exact ⟨logical, payloads, raws⟩
    | _ => exact ⟨logical, payloads, raws⟩

theorem orderly_run (safe : transport = .tls ∨ Machine.Along (step transport) Alone events {})
    (ran : Machine.run (step transport) events {} = .ok next) : ∃ active done, Orderly next (events.flatMap sends) active done := by
  have start : ∃ active done, Orderly {} [] active done :=
    ⟨.ui, [], rfl, rfl, fun _ => ⟨[], rfl, rfl⟩⟩
  rcases safe with rfl | along
  · have always : Machine.Along (step .tls) (fun _ _ => True) events {} := .of_forall _ events _ fun _ _ => trivial
    have held := Machine.invariant_observed (step .tls) (fun event _ => sends event)
      (fun state seen => Exclusive .tls state ∧ ∃ active done, Orderly state seen active done)
      (fun _ _ _ _ _ before moved =>
        ⟨exclusive_step before.1 moved, orderly_step (alone_of_exclusive before.1 moved) before.2 moved⟩)
      always ⟨fun _ _ _ _ writing => (nomatch writing), start⟩ ran
    rw [observed_sends ran] at held
    exact held.2
  · have held := Machine.invariant_observed (step transport) (fun event _ => sends event)
      (fun state seen => ∃ active done, Orderly state seen active done)
      (fun _ _ _ _ alone before moved => orderly_step alone before moved) along start ran
    rwa [observed_sends ran] at held

/-- What is out of the active thread's frame is no whole frame. -/
theorem active_ends (orderly : Orderly state seen active done) (small : ∀ sent ∈ seen, Small sent) :
    ∃ error, Ends (part (state.calls active)) error := by
  cases current : state.calls active with
  | idle | waiting frame => exact ⟨eof, ends_nil⟩
  | writing frame offset =>
    rw [part]
    split
    next short =>
      have waits : unfinished (state.calls active) = [frame] := by rw [current, unfinished, if_pos short]
      obtain ⟨sent, member, -, rfl⟩ := orderly.handed waits
      have own := @emitted_bytes sent.writer.opcode _ sent.mask (small sent member)
      have short : offset < (emitted sent.writer.opcode sent.payload sent.mask (small sent member)).bytes.length := by
        rw [own]
        exact short
      have ends := part_ends _ short
      rw [own] at ends
      exact ends
    next => exact ⟨eof, ends_nil⟩

/-- A peer that reads what either transport has taken of the two threads' frames finds
the packets of the UI thread, each once and in their order, and no other. The last ones
are missing only while their frames are not out whole. -/
theorem packets_reach_peer (lz4 : Bytes → Except String Bytes) (transport : Transport) (events : List Event) (final : State)
    (safe : transport = .tls ∨ Machine.Along (step transport) Alone events {}) (fine : ∀ event ∈ events, Fine event)
    (ran : Machine.run (step transport) events {} = .ok final) (masks : Nat → MaskKey) :
    ∃ arrived peer, arrived <+: packets events ∧ (final.calls .ui = .idle → arrived = packets events) ∧
      Connection.readPackets Connection.websocket lz4 arrived.length { input := final.out, masks, outcome := fun _ => none } =
        .ok (arrived.map fun data => ⟨data, fun _ => none⟩, peer) ∧
      ∃ failure, Connection.readPacket Connection.websocket lz4 peer = .error failure := by
  obtain ⟨active, done, orderly⟩ := orderly_run safe ran
  have small := small_of_fine fine
  obtain ⟨logical, payloads, raws⟩ := packets_of_sends fine
  obtain ⟨left, unsent, whole⟩ := orderly.order .ui
  -- the packets whose frames are out
  let count := (ofWriter .ui done).length
  have out : (ofWriter .ui done).map Sent.payload = (logical.take count).map LogicalPacket.bytes := by
    rw [List.map_take, ← payloads, ← whole, List.map_append, List.take_left' (List.length_map ..)]
  have arrived : ((packets events).take count).map (fun data => (⟨data, fun _ => none⟩ : RawPacket)) =
      (logical.take count).map LogicalPacket.raw := by
    rw [List.map_take, List.map_take, raws]
  have length : ((packets events).take count).length = (logical.take count).length := by
    simpa using congrArg List.length arrived
  have known : ∀ sent ∈ done, Small sent := fun sent member => small sent (orderly.mem_seen sent member)
  obtain ⟨frames, bytes, ordinary, told⟩ := frames_of_sent known
  obtain ⟨error, ends⟩ := active_ends orderly small
  let incoming : Incoming := ⟨frames, part (final.calls active), error, ordinary, ends⟩
  have heard : reached (fun _ => none) 0 [] frames = (logical.take count).map LogicalPacket.bytes := by
    rw [reached_answered fun _ => rfl, told, out]
  have full : [] ∉ reached (fun _ => none) 0 [] frames := by
    rw [heard]
    intro member
    obtain ⟨packet, -, empty⟩ := List.mem_map.mp member
    simp [LogicalPacket.bytes, frame] at empty
  have start := @PacketStream.holds_start incoming masks (fun _ => none) full
  rw [show incoming.body.flatMap WireFrame.bytes ++ incoming.tail = final.out by rw [orderly.out, ← bytes], heard,
    ← List.flatMap_def, ← List.append_nil (List.flatMap _ _)] at start
  have read := PacketStream.readPackets_agrees PacketStream.websocket_serves lz4 (logical.take count).length start
  rw [readPackets_bytes] at read
  obtain ⟨peer, done', held⟩ := read.of_ok
  have next := PacketStream.readPacketLoop_agrees PacketStream.websocket_serves lz4 (fun _ => none) 0 held
  have ended : readPacketLoop lz4 (fun _ => none) 0 [] = .error eof := by
    rw [readPacketLoop]
    rfl
  rw [ended] at next
  refine ⟨(packets events).take count, peer, List.take_prefix _ _, ?_, ?_, next.of_error⟩
  · intro idle
    rw [idle, unfinished, List.map_eq_nil_iff] at unsent
    rw [unsent, List.append_nil] at whole
    have all : count = (packets events).length := by
      have first := congrArg List.length payloads
      have second := congrArg List.length raws
      simp only [List.length_map] at first second
      rw [← second, ← first, ← whole]
    rw [all, List.take_length]
  · rw [length, arrived]
    exact done'

def key : MaskKey := ⟨[1, 2, 3, 4], rfl⟩

/-- A packet is held up by a pong, and then goes out in two pieces. -/
def heldUp : List Event :=
  [.send .ui (makeHeader [0x78] ++ [0x78]) key, .send .reader [9] key, .acquire .reader, .accept .reader 7, .finish .reader,
    .acquire .ui, .accept .ui 4, .wouldBlock .ui, .accept .ui 11, .finish .ui]

theorem packets_reach_peer_heldUp :
    ∃ final, Machine.run (step .tls) heldUp {} = .ok final ∧ ∃ arrived peer, arrived <+: packets heldUp ∧
      (final.calls .ui = .idle → arrived = packets heldUp) ∧
      Connection.readPackets Connection.websocket (fun _ => .error "") arrived.length
          { input := final.out, masks := fun _ => key, outcome := fun _ => none } =
        .ok (arrived.map fun data => ⟨data, fun _ => none⟩, peer) ∧
      ∃ failure, Connection.readPacket Connection.websocket (fun _ => .error "") peer = .error failure := by
  refine ⟨_, rfl, packets_reach_peer (fun _ => .error "") .tls heldUp _ (.inl rfl) ?_ rfl fun _ => key⟩
  simp only [heldUp, List.forall_mem_cons]
  have pong : Fine (.send .reader [9] key) := Nat.lt_of_lt_of_le (m := 2) (by decide) (by decide)
  exact ⟨⟨[0x78], by decide, rfl⟩, pong, trivial, trivial, trivial, trivial, trivial, trivial, trivial, trivial, List.forall_mem_nil _⟩

end Xpra.Proofs.Upstream
