import Xpra.Proofs.WebsocketReading

/-! What `send_frame` puts on the wire, read back by the other direction of the same
stream. -/

namespace Xpra.Proofs.WebsocketFrames
open Xpra.Net Library WebSocketStream WebsocketReading

variable {opcode : UInt8} {payload : Bytes}

/-- The shortest form with room for a length. -/
def shortest (length : Nat) : LengthForm :=
  if length ≤ 125 then .short else if length ≤ 0xFFFF then .medium else .long

theorem shortest_fits {length : Nat} (small : length < 2 ^ 62) : length < (shortest length).limit := by
  unfold shortest
  split
  · simp only [LengthForm.limit]
    omega
  · split
    · simp only [LengthForm.limit]
      omega
    · simp only [LengthForm.limit]
      omega

theorem shortest_least {length : Nat} (form : LengthForm) (fits : length < form.limit) :
    (shortest length).limit ≤ form.limit := by
  by_cases short : length ≤ 125
  · rw [shortest, if_pos short]
    cases form <;> decide
  · rw [shortest, if_neg short]
    by_cases medium : length ≤ 0xFFFF
    · rw [if_pos medium]
      cases form <;> simp only [LengthForm.limit] at fits ⊢ <;> omega
    · rw [if_neg medium]
      cases form <;> simp only [LengthForm.limit] at fits ⊢ <;> omega

/-- A final frame with the key it is masked with. -/
def emitted (opcode : UInt8) (payload : Bytes) (maskKey : MaskKey) (small : payload.length < 2 ^ 62) : WireFrame where
  first := 0x80 ||| opcode
  form := shortest payload.length
  mask := some maskKey
  payload := payload
  fits := shortest_fits small

theorem emitted_bytes (maskKey : MaskKey) (small : payload.length < 2 ^ 62) :
    (emitted opcode payload maskKey small).bytes = frameBytes opcode payload maskKey := by
  simp only [emitted, WireFrame.bytes, WireFrame.short, WireFrame.extension, shortest, frameBytes]
  by_cases short : payload.length ≤ 125
  · rw [if_pos short, if_pos short]
    simp only [List.nil_append, List.cons_append]
  · rw [if_neg short, if_neg short]
    by_cases medium : payload.length ≤ 0xFFFF
    · rw [if_pos medium, if_pos medium]
      simp only [List.nil_append, List.cons_append, List.append_assoc]
      rfl
    · rw [if_neg medium, if_neg medium]
      simp only [List.nil_append, List.cons_append, List.append_assoc]
      rfl

/-! ### What the parser accepts -/

theorem receive_ok_iff {count : Nat} {input data rest : Bytes} :
    receive count input = .ok (data, rest) ↔ input = data ++ rest ∧ data.length = count := by
  rw [receive, readExact]
  constructor
  · intro read
    split at read
    next enough taken =>
      split at taken
      next room =>
        cases taken
        cases read
        exact ⟨(List.take_append_drop count input).symm, List.length_take_of_le room⟩
      next => cases taken
    next => cases read
  · rintro ⟨rfl, rfl⟩
    simp

theorem readLength_cases {short len : Nat} {input rest : Bytes} (read : readLength short input = .ok (len, rest)) :
    (short = 126 ∧ ∃ ext : Bytes, ext.length = 2 ∧ input = ext ++ rest ∧ len = Numeral.big ext) ∨
    (short = 127 ∧ ∃ ext : Bytes, ext.length = 8 ∧ input = ext ++ rest ∧ len = Numeral.big ext) ∨
    (short ≠ 126 ∧ short ≠ 127 ∧ len = short ∧ rest = input) := by
  rw [readLength] at read
  split at read
  next medium =>
    obtain ⟨⟨ext, after⟩, taken, done⟩ := bind_ok read
    cases done
    obtain ⟨front, two⟩ := receive_ok_iff.mp taken
    exact .inl ⟨medium, ext, two, front, rfl⟩
  next medium =>
    split at read
    next long =>
      obtain ⟨⟨ext, after⟩, taken, done⟩ := bind_ok read
      cases done
      obtain ⟨front, eight⟩ := receive_ok_iff.mp taken
      exact .inr (.inl ⟨long, ext, eight, front, rfl⟩)
    next long =>
      cases read
      exact .inr (.inr ⟨medium, long, rfl, rfl⟩)

/-- A length that is read stands there in one of the three forms. -/
theorem readLength_form {short len : Nat} {input rest : Bytes} (read : readLength short input = .ok (len, rest))
    (small : short < 128) (allocated : ¬ len > ISIZE_MAX) :
    ∃ form : LengthForm, len < form.limit ∧ ∀ frame : WireFrame, frame.form = form → frame.payload.length = len →
      frame.short = short ∧ input = frame.extension ++ rest := by
  obtain ⟨rfl, ext, two, rfl, rfl⟩ | ⟨rfl, ext, eight, rfl, rfl⟩ | ⟨medium, long, rfl, rfl⟩ := readLength_cases read
  · have bound := Numeral.big_lt ext
    have digits := Numeral.toBig_big ext
    rw [two] at bound digits
    refine ⟨.medium, bound, ?_⟩
    intro frame form length
    simp only [WireFrame.short, WireFrame.extension, form, length, digits, and_self]
  · have digits := Numeral.toBig_big ext
    rw [eight] at digits
    refine ⟨.long, ?_, ?_⟩
    · simp only [ISIZE_MAX] at allocated
      simp only [LengthForm.limit]
      omega
    · intro frame form length
      simp only [WireFrame.short, WireFrame.extension, form, length, digits, and_self]
  · refine ⟨.short, ?_, ?_⟩
    · simp only [LengthForm.limit]
      omega
    · intro frame form length
      simp only [WireFrame.short, WireFrame.extension, form, length, List.nil_append, and_self]

private theorem second_byte (second : UInt8) :
    second = (if second &&& 0x80 != 0 then 0x80 else 0) ||| UInt8.ofNat (second &&& 0x7F).toNat := by
  have table : ∀ value : Fin 256, UInt8.ofNat value =
      (if UInt8.ofNat value &&& 0x80 != 0 then 0x80 else 0) ||| UInt8.ofNat (UInt8.ofNat value &&& 0x7F).toNat := by
    decide +kernel
  have same := table ⟨second.toNat, second.toNat_lt⟩
  rwa [UInt8.ofNat_toNat] at same

theorem unmask_length (key : Option Bytes) (payload : Bytes) : (unmask key payload).length = payload.length := by
  cases key with
  | none => rfl
  | some key => exact xorMask_length key payload

theorem unmask_involutive (key : Option Bytes) (payload : Bytes) : unmask key (unmask key payload) = payload := by
  cases key with
  | none => rfl
  | some key => exact xorMask_involutive key payload

/-- The bytes of a frame, with a mask or without one. -/
theorem bytes_unmask (frame : WireFrame) :
    frame.bytes = [frame.first, (if frame.mask.isSome then 0x80 else 0) ||| UInt8.ofNat frame.short] ++
      (frame.extension ++ (frame.mask.elim [] Subtype.val ++ unmask (frame.mask.map Subtype.val) frame.payload)) := by
  rw [WireFrame.bytes]
  cases frame.mask with
  | none => rfl
  | some key => rfl

theorem readMask_form {masked : Bool} {input rest : Bytes} {key : Option Bytes} (read : readMask masked input = .ok (key, rest)) :
    ∃ mask : Option MaskKey, mask.isSome = masked ∧ key = mask.map Subtype.val ∧ input = mask.elim [] Subtype.val ++ rest := by
  cases masked with
  | false =>
    cases read
    exact ⟨none, rfl, rfl, rfl⟩
  | true =>
    obtain ⟨⟨bytes, afterKey⟩, taken, done⟩ := bind_ok read
    cases done
    obtain ⟨behind, four⟩ := receive_ok_iff.mp taken
    exact ⟨some ⟨bytes, four⟩, rfl, rfl, behind⟩

/-- Whatever is read as a frame is one, and the rest is behind it. -/
theorem readFrame_ok_iff {input rest : Bytes} {frame : Frame} :
    readFrame input = .ok (frame, rest) ↔
      ∃ wire : WireFrame, input = wire.bytes ++ rest ∧ frame = ⟨wire.fin, wire.opcode, wire.payload⟩ := by
  constructor
  · intro read
    rw [readFrame] at read
    obtain ⟨⟨header, afterHeader⟩, headerRead, fromLength⟩ := bind_ok read
    obtain ⟨⟨len, afterLength⟩, lengthRead, fromMask⟩ := bind_ok fromLength
    obtain ⟨⟨key, afterMask⟩, maskRead, fromPayload⟩ := bind_ok fromMask
    obtain ⟨rfl, two⟩ := receive_ok_iff.mp headerRead
    obtain ⟨first, second, rfl⟩ := List.length_eq_two.mp two
    dsimp only at fromPayload
    have allocated : ¬ len > ISIZE_MAX := by
      intro large
      rw [if_pos large] at fromPayload
      cases fromPayload
    rw [if_neg allocated] at fromPayload
    obtain ⟨⟨data, afterData⟩, dataRead, done⟩ := bind_ok fromPayload
    cases done
    obtain ⟨rfl, length⟩ := receive_ok_iff.mp dataRead
    have small : (second &&& 0x7F).toNat < 128 := by
      rw [UInt8.toNat_and]
      exact Nat.lt_of_le_of_lt Nat.and_le_right (by decide)
    have lengthRead : readLength (second &&& 0x7F).toNat afterHeader = .ok (len, afterLength) := lengthRead
    obtain ⟨form, fits, placed⟩ := readLength_form lengthRead small allocated
    obtain ⟨mask, masked, rfl, rfl⟩ := readMask_form maskRead
    have length' := (unmask_length (mask.map Subtype.val) data).trans length
    obtain ⟨short, extension⟩ := placed ⟨first, form, mask, unmask (mask.map Subtype.val) data, by rwa [length']⟩ rfl length'
    refine ⟨⟨first, form, mask, unmask (mask.map Subtype.val) data, by rwa [length']⟩, ?_, rfl⟩
    have whole : second = (if mask.isSome then 0x80 else 0) ||| UInt8.ofNat (second &&& 0x7F).toNat := by
      rw [masked]
      exact second_byte second
    rw [bytes_unmask, short, ← whole, extension, unmask_involutive, List.append_assoc, List.append_assoc, List.append_assoc]
  · rintro ⟨wire, rfl, rfl⟩
    exact readFrame_bytes wire rest

/-! ### What is sent -/

/-- Bytes that are one final, masked data frame, and come back as it. -/
structure Carries (bytes : Bytes) (opcode : UInt8) (payload : Bytes) (maskKey : MaskKey) : Prop where
  wire : ∃ frame : WireFrame, frame.bytes = bytes ∧ frame.fin = true ∧ frame.opcode = opcode ∧
    frame.mask = some maskKey ∧ frame.payload = payload ∧
    ∀ form : LengthForm, payload.length < form.limit → frame.form.limit ≤ form.limit
  parsed : ∀ rest, readFrame (bytes ++ rest) = .ok (⟨true, opcode, payload⟩, rest)
  filled : ∀ rest (stream : WebSocketStream), stream.input = bytes ++ rest →
    stream.fillBuffer = .ok (.ok (), { stream with input := rest, readBuf := payload, readPos := 0 })

private theorem first_bits (data : opcode = OPCODE_CONTINUATION ∨ opcode = OPCODE_TEXT ∨ opcode = OPCODE_BINARY) :
    ((0x80 ||| opcode) &&& 0x80 != 0) = true ∧ (0x80 ||| opcode) &&& 0x0F = opcode := by
  rcases data with rfl | rfl | rfl <;> decide

/-- Every data frame that is sent reads back as itself, to the byte, in its shortest
form. -/
theorem sent_frames_read_back (sender : WebSocketStream) (opcode : UInt8) (payload : Bytes)
    (data : opcode = OPCODE_CONTINUATION ∨ opcode = OPCODE_TEXT ∨ opcode = OPCODE_BINARY) (small : payload.length < 2 ^ 62) :
    ∃ bytes, (sender.sendFrame opcode payload).2.frames = sender.frames ++ [bytes] ∧
      Carries bytes opcode payload (sender.masks sender.frames.length) := by
  generalize drawn : sender.masks sender.frames.length = maskKey
  have final : (emitted opcode payload maskKey small).fin = true := (first_bits data).1
  have same : (emitted opcode payload maskKey small).opcode = opcode := (first_bits data).2
  have bytes : (emitted opcode payload maskKey small).bytes = frameBytes opcode payload maskKey := emitted_bytes maskKey small
  refine ⟨frameBytes opcode payload maskKey, ?_, ?_, ?_, ?_⟩
  · rw [← drawn, sendFrame]
    split <;> rfl
  · refine ⟨emitted opcode payload maskKey small, bytes, final, same, rfl, rfl, ?_⟩
    intro form fits
    exact shortest_least form fits
  · intro rest
    rw [← bytes, readFrame_bytes, final, same]
    rfl
  · intro rest stream input
    rw [← bytes] at input
    have isData : (emitted opcode payload maskKey small).data := by
      rw [WireFrame.data, same]
      exact data
    have silent : ¬ (emitted opcode payload maskKey small).ping := fun ping => WireFrame.not_data (.inr (.inl ping)) isData
    have quiet : (emitted opcode payload maskKey small).opcode ≠ OPCODE_PONG := fun pong =>
      WireFrame.not_data (.inr (.inr pong)) isData
    rw [fillBuffer, fillLoop_frame [] stream _ rest input, if_neg silent, if_neg quiet, if_pos isData, if_pos final]
    rfl

theorem sent_frames_read_back_ping :
    ∃ bytes, (({ input := [], masks := fun _ => ⟨[1, 2, 3, 4], rfl⟩, outcome := fun _ => none } : WebSocketStream).sendFrame
        OPCODE_BINARY [0x70, 0x69, 0x6E, 0x67]).2.frames = [bytes] ∧
      Carries bytes OPCODE_BINARY [0x70, 0x69, 0x6E, 0x67] ⟨[1, 2, 3, 4], rfl⟩ :=
  sent_frames_read_back { input := [], masks := fun _ => ⟨[1, 2, 3, 4], rfl⟩, outcome := fun _ => none }
    OPCODE_BINARY [0x70, 0x69, 0x6E, 0x67] (.inr (.inr rfl)) (by decide)

end Xpra.Proofs.WebsocketFrames
