import Xpra.Net.WebsocketBuffers
import Xpra.Proofs.WebsocketFrames
import Mathlib.Logic.Relation

/-! Which inputs take the process down while `fill_buffer` reads them. -/

namespace Xpra.Proofs.WebsocketBuffers
open Xpra.Net Library WebSocketStream WebsocketReading WebsocketFrames

/-! ### Headers -/

/-- A whole header whose 64-bit length has its top bit set. -/
def TopBit (input : Bytes) : Prop :=
  ∃ first second high rest, input = first :: second :: high :: rest ∧ second &&& 0x7F = 127 ∧ 0x80 ≤ high ∧
    7 + (if second &&& 0x80 != 0 then 4 else 0) ≤ rest.length

theorem receive_no_panic {count : Nat} {input : Bytes} {cause : Panic} : receive count input ≠ .error (.panic cause) := by
  intro failed
  rw [receive] at failed
  split at failed <;> cases failed

private theorem bind_panic {α β : Type} {first : Except Failure α} {rest : α → Except Failure β} {cause : Panic}
    (failed : (first >>= rest) = .error (.panic cause)) :
    first = .error (.panic cause) ∨ ∃ value, first = .ok value ∧ rest value = .error (.panic cause) := by
  cases first with
  | error failure =>
    cases failed
    exact .inl rfl
  | ok value => exact .inr ⟨value, rfl, failed⟩

private theorem readLength_no_panic {short : Nat} {input : Bytes} {cause : Panic} :
    readLength short input ≠ .error (.panic cause) := by
  intro failed
  rw [readLength] at failed
  split at failed
  · rcases bind_panic failed with early | ⟨value, _, late⟩
    · exact receive_no_panic early
    · cases late
  · split at failed
    · rcases bind_panic failed with early | ⟨value, _, late⟩
      · exact receive_no_panic early
      · cases late
    · cases failed

private theorem readMask_no_panic {masked : Bool} {input : Bytes} {cause : Panic} :
    readMask masked input ≠ .error (.panic cause) := by
  intro failed
  rw [readMask] at failed
  split at failed
  · rcases bind_panic failed with early | ⟨value, _, late⟩
    · exact receive_no_panic early
    · cases late
  · cases failed

theorem readMask_room {masked : Bool} {input : Bytes} :
    (∃ key rest, readMask masked input = .ok (key, rest)) ↔ (if masked then 4 else 0) ≤ input.length := by
  cases masked with
  | false =>
    simp only [Bool.false_eq_true, if_false, Nat.zero_le, iff_true]
    exact ⟨none, input, rfl⟩
  | true =>
    simp only [if_true]
    constructor
    · rintro ⟨key, rest, read⟩
      obtain ⟨⟨bytes, after⟩, taken, _⟩ := bind_ok read
      have := receive_shorter taken
      omega
    · intro room
      refine ⟨some (input.take 4), input.drop 4, ?_⟩
      have taken : receive 4 input = .ok (input.take 4, input.drop 4) :=
        receive_ok_iff.mpr ⟨(List.take_append_drop 4 input).symm, List.length_take_of_le room⟩
      simp only [readMask, if_true, taken, bind, Except.bind, pure, Except.pure]

/-- Eight bytes spell more than `isize::MAX` exactly when the first has its top bit set. -/
theorem big_exceeds {high : UInt8} {seven : Bytes} (rest : seven.length = 7) :
    Numeral.big (high :: seven) > ISIZE_MAX ↔ 0x80 ≤ high := by
  have low := Numeral.big_lt seven
  have value : Numeral.big (high :: seven) = Numeral.big seven + 256 ^ 7 * high.toNat := by
    rw [Numeral.big, List.reverse_cons, Numeral.little_append, List.length_reverse, rest, Numeral.little_cons, Numeral.little_nil]
    rfl
  have order : 0x80 ≤ high ↔ 128 ≤ high.toNat := UInt8.le_iff_toNat_le
  rw [rest] at low
  rw [value, order, ISIZE_MAX]
  omega

/-- Only the long form announces more than `isize::MAX` bytes. -/
private theorem readLength_exceeds {short len : Nat} {input rest : Bytes} (read : readLength short input = .ok (len, rest))
    (small : short < 128) (large : len > ISIZE_MAX) :
    short = 127 ∧ ∃ high seven, input = high :: (seven ++ rest) ∧ seven.length = 7 ∧ 0x80 ≤ high := by
  obtain ⟨medium, ext, two, front, rfl⟩ | ⟨long, ext, eight, rfl, rfl⟩ | ⟨-, -, rfl, -⟩ := readLength_cases read
  · have bound := Numeral.big_lt ext
    rw [two] at bound
    simp only [ISIZE_MAX] at large
    omega
  · obtain ⟨high, seven, rfl⟩ := List.exists_cons_of_length_eq_add_one eight
    have rest : seven.length = 7 := Nat.succ.inj eight
    exact ⟨long, high, seven, rfl, rest, (big_exceeds rest).mp large⟩
  · simp only [ISIZE_MAX] at large
    omega

private theorem readLength_long (high : UInt8) (seven rest : Bytes) (length : seven.length = 7) :
    readLength 127 (high :: (seven ++ rest)) = .ok (Numeral.big (high :: seven), rest) := by
  have taken : receive 8 (high :: (seven ++ rest)) = .ok (high :: seven, rest) :=
    receive_ok_iff.mpr ⟨rfl, by rw [List.length_cons, length]⟩
  simp [readLength, taken, bind, Except.bind, pure, Except.pure]

theorem readFrame_panic_iff {input : Bytes} :
    (∃ cause, readFrame input = .error (.panic cause)) ↔ TopBit input := by
  constructor
  · rintro ⟨cause, failed⟩
    rw [readFrame] at failed
    obtain ⟨⟨header, afterHeader⟩, headerRead, fromLength⟩ := (bind_panic failed).resolve_left receive_no_panic
    obtain ⟨⟨len, afterLength⟩, lengthRead, fromMask⟩ := (bind_panic fromLength).resolve_left readLength_no_panic
    obtain ⟨⟨key, afterMask⟩, maskRead, allocated⟩ := (bind_panic fromMask).resolve_left readMask_no_panic
    obtain ⟨rfl, two⟩ := receive_ok_iff.mp headerRead
    obtain ⟨first, second, rfl⟩ := List.length_eq_two.mp two
    dsimp only at allocated
    have large : len > ISIZE_MAX := by
      by_contra small
      rw [if_neg small] at allocated
      rcases bind_panic allocated with early | ⟨_, _, late⟩
      · exact receive_no_panic early
      · cases late
    have small : (second &&& 0x7F).toNat < 128 := by
      rw [UInt8.toNat_and]
      exact Nat.lt_of_le_of_lt Nat.and_le_right (by decide)
    obtain ⟨long, high, seven, rfl, seven_long, top⟩ := readLength_exceeds lengthRead small large
    have room : (if second &&& 0x80 != 0 then 4 else 0) ≤ afterLength.length := readMask_room.mp ⟨key, afterMask, maskRead⟩
    refine ⟨first, second, high, seven ++ afterLength, rfl, UInt8.toNat_inj.mp long, top, ?_⟩
    rw [List.length_append]
    omega
  · rintro ⟨first, second, high, rest, rfl, long, top, room⟩
    have seven_long : (rest.take 7).length = 7 := List.length_take_of_le (by omega)
    have behind : (if second &&& 0x80 != 0 then 4 else 0) ≤ (rest.drop 7).length := by
      rw [List.length_drop]
      omega
    obtain ⟨key, afterMask, maskRead⟩ := readMask_room.mpr behind
    have header : receive 2 (first :: second :: high :: rest) = .ok ([first, second], high :: rest) :=
      receive_ok_iff.mpr ⟨rfl, rfl⟩
    have length := readLength_long high (rest.take 7) (rest.drop 7) seven_long
    rw [List.take_append_drop] at length
    have large := (big_exceeds seven_long).mpr top
    refine ⟨.capacity, ?_⟩
    simp only [readFrame, header, bind, Except.bind, List.getD_cons_zero, List.getD_cons_succ, long]
    rw [show (127 : UInt8).toNat = 127 from rfl, length]
    simp only [maskRead, if_pos large]
    rfl

/-! ### Turns -/

variable {growth : Growth} {position next : Position}

/-- A turn that does not ask for too much is the one of `fillLoop`. -/
theorem fillLoop_turn {step : Turn} (ran : turn growth position = .ok step) :
    fillLoop position.message position.stream = match step with
      | .again next => fillLoop next.message next.stream
      | .done result stream => .ok (result, stream) := by
  rw [turn] at ran
  rw [fillLoop]
  split
  next cause failed =>
    rw [failed] at ran
    cases ran
  next error failed =>
    rw [failed] at ran
    cases ran
    rfl
  next frame rest taken =>
    rw [taken] at ran
    dsimp only at ran ⊢
    by_cases ping : frame.opcode = OPCODE_PING
    · rw [if_pos ping] at ran ⊢
      split at ran
      · cases ran
      · generalize WebSocketStream.sendFrame _ OPCODE_PONG frame.payload = answered at ran ⊢
        obtain ⟨_ | _, sent⟩ := answered <;> cases ran <;> rfl
    rw [if_neg ping] at ran ⊢
    by_cases pong : frame.opcode = OPCODE_PONG
    · rw [if_pos pong] at ran ⊢
      cases ran
      rfl
    rw [if_neg pong] at ran ⊢
    by_cases close : frame.opcode = OPCODE_CLOSE
    · rw [if_pos close] at ran ⊢
      cases ran
      rfl
    rw [if_neg close] at ran ⊢
    by_cases data : frame.opcode = OPCODE_CONTINUATION ∨ frame.opcode = OPCODE_TEXT ∨ frame.opcode = OPCODE_BINARY
    · rw [if_pos data] at ran ⊢
      split at ran
      · cases ran
      · by_cases fin : frame.fin
        · rw [if_pos fin] at ran ⊢
          cases ran
          rfl
        · rw [if_neg fin] at ran ⊢
          cases ran
          rfl
    · rw [if_neg data] at ran ⊢
      cases ran
      rfl

/-- As long as every buffer can be had, the loop is `fillLoop`. -/
theorem turns_fillLoop {result : Except IoError Unit × WebSocketStream} (ran : turns growth position = .ok result) :
    fillLoop position.message position.stream = .ok result := by
  fun_induction turns growth position with
  | case1 position cause failed => cases ran
  | case2 position outcome stream stopped =>
    cases ran
    exact fillLoop_turn stopped
  | case3 position next going ih =>
    rw [fillLoop_turn going]
    exact ih ran

/-- One turn leads to another. -/
def Leads (growth : Growth) (position next : Position) : Prop := turn growth position = .ok (.again next)

/-- A position whose turn asks for a buffer of more than `isize::MAX` bytes: for the
payload of the frame at the front, for the pong of a ping, or for the message that a data
frame is added to. -/
inductive Oversized (growth : Growth) (position : Position) : Prop where
  | payload (large : TopBit position.stream.input)
  | pong (frame : WireFrame) (rest : Bytes) (front : position.stream.input = frame.bytes ++ rest) (ping : frame.ping)
      (large : frame.payload.length + 14 > ISIZE_MAX)
  | message (frame : WireFrame) (rest : Bytes) (front : position.stream.input = frame.bytes ++ rest) (data : frame.data)
      (full : position.capacity < position.message.length + frame.payload.length)
      (large : growth.next position.capacity (position.message.length + frame.payload.length) > ISIZE_MAX)

theorem extend_panic_iff {capacity required : Nat} :
    (∃ cause, growth.extend capacity required = .error cause) ↔
      capacity < required ∧ growth.next capacity required > ISIZE_MAX := by
  rw [Growth.extend]
  by_cases room : required ≤ capacity
  · simp [room, Nat.not_lt.mpr room]
  · by_cases large : growth.next capacity required > ISIZE_MAX
    · simp [room, large, Nat.lt_of_not_le room]
    · simp [room, large]

theorem turn_panic_iff : (∃ cause, turn growth position = .error cause) ↔ Oversized growth position := by
  constructor
  · rintro ⟨cause, failed⟩
    rw [turn] at failed
    split at failed
    next refused => exact .payload (readFrame_panic_iff.mp ⟨_, refused⟩)
    next => cases failed
    next taken =>
      obtain ⟨frame, front, rfl⟩ := readFrame_ok_iff.mp taken
      dsimp only at failed
      by_cases ping : frame.opcode = OPCODE_PING
      · rw [if_pos ping] at failed
        split at failed
        next large => exact .pong frame _ front ping large
        next =>
          split at failed <;> cases failed
      rw [if_neg ping] at failed
      split at failed
      · cases failed
      split at failed
      · cases failed
      split at failed
      next data =>
        split at failed
        next refused =>
          obtain ⟨full, large⟩ := extend_panic_iff.mp ⟨_, refused⟩
          rw [List.length_append] at full large
          exact .message frame _ front data full large
        next =>
          split at failed <;> cases failed
      next => cases failed
  · intro oversized
    cases oversized with
    | payload large =>
      obtain ⟨cause, refused⟩ := readFrame_panic_iff.mpr large
      refine ⟨cause, ?_⟩
      rw [turn, refused]
    | pong frame rest front ping large =>
      refine ⟨.capacity, ?_⟩
      rw [turn, front, readFrame_bytes]
      dsimp only
      rw [if_pos (show frame.opcode = OPCODE_PING from ping), if_pos large]
    | message frame rest front data full large =>
      rw [← List.length_append] at full large
      obtain ⟨cause, refused⟩ := extend_panic_iff.mpr ⟨full, large⟩
      have carried : frame.opcode ≠ OPCODE_PING ∧ frame.opcode ≠ OPCODE_PONG ∧ frame.opcode ≠ OPCODE_CLOSE := by
        rcases data with same | same | same <;> rw [same] <;> decide
      refine ⟨cause, ?_⟩
      rw [turn, front, readFrame_bytes]
      dsimp only
      rw [if_neg carried.1, if_neg carried.2.1, if_neg carried.2.2, if_pos (show _ ∨ _ ∨ _ from data), refused]

/-- The loop survives exactly when every turn that it gets to does, induction being on
the loop. -/
theorem turns_ok_iff : (∃ result, turns growth position = .ok result) ↔
    ∀ reached, Relation.ReflTransGen (Leads growth) position reached → ¬ Oversized growth reached := by
  fun_induction turns growth position with
  | case1 position cause failed =>
    simp only [reduceCtorEq, exists_false, false_iff]
    intro bounded
    exact bounded position .refl (turn_panic_iff.mp ⟨cause, failed⟩)
  | case2 position result stream stopped =>
    refine iff_of_true ⟨_, rfl⟩ ?_
    intro reached path oversized
    rcases path.cases_head with rfl | ⟨next, first, _⟩
    · obtain ⟨cause, failed⟩ := turn_panic_iff.mpr oversized
      rw [stopped] at failed
      cases failed
    · rw [Leads, stopped] at first
      cases first
  | case3 position next going ih =>
    rw [ih]
    constructor
    · intro bounded reached path oversized
      rcases path.cases_head with rfl | ⟨next', first, rest⟩
      · obtain ⟨cause, failed⟩ := turn_panic_iff.mpr oversized
        rw [going] at failed
        cases failed
      · rw [Leads, going] at first
        cases first
        exact bounded reached rest oversized
    · intro bounded reached path
      exact bounded reached (.head going path)

theorem fillBufferIn_agrees {stream : WebSocketStream} {result : Except IoError Unit × WebSocketStream}
    (returned : stream.fillBufferIn growth = .ok result) : stream.fillBuffer = .ok result :=
  turns_fillLoop returned

/-- A turn ends in a message, another turn or an error, unless the frame in front is too
large for a buffer; and a call returns unless it gets to such a frame. -/
theorem fillBuffer_returns_iff (growth : Growth) :
    (∀ position, (∃ step, turn growth position = .ok step) ↔ ¬ Oversized growth position) ∧
    ∀ stream : WebSocketStream, (∃ result, stream.fillBufferIn growth = .ok result) ↔
      ∀ reached, Relation.ReflTransGen (Leads growth) ⟨[], 0, stream⟩ reached → ¬ Oversized growth reached := by
  constructor
  · intro position
    rw [← turn_panic_iff]
    cases turn growth position <;> simp
  · intro stream
    exact turns_ok_iff

private def topBit : WebSocketStream where
  input := [0x82, 0x7F, 0x80, 0, 0, 0, 0, 0, 0, 0]
  masks _ := ⟨List.replicate 4 0, rfl⟩
  outcome _ := none

/-- The header of a binary frame of 2⁶³ bytes. -/
theorem top_bit_aborts :
    ¬ ∀ (growth : Growth) (stream : WebSocketStream), ∃ result, stream.fillBufferIn growth = .ok result := by
  intro returns
  have bounded := turns_ok_iff.mp (returns ⟨fun _ required => required, fun _ _ => Nat.le_refl _⟩ topBit)
  apply bounded _ .refl
  exact .payload ⟨0x82, 0x7F, 0x80, [0, 0, 0, 0, 0, 0, 0], rfl, by decide, by decide, by decide⟩

end Xpra.Proofs.WebsocketBuffers
