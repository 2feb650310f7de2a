import Xpra.Net.Websocket

/-! What the read side of a WebSocket delivers. A peer's traffic is a list of
whole frames; the bytes handed out are the payloads of its completed messages,
whatever the frames' length forms, masks and fragmentation. A reader of frames
says what each read returns, and the stream's reads are its. -/

namespace Xpra.Proofs.WebsocketReading
open Xpra.Net Library WebSocketStream

/-- Where the payload length stands; peers need not pick the shortest form. -/
inductive LengthForm where
  | short
  | medium
  | long
  deriving DecidableEq, Repr

def LengthForm.limit : LengthForm → Nat
  | .short => 126
  | .medium => 2 ^ 16
  | .long => 2 ^ 63

/-- A frame as a peer puts it on the wire. `first` is the raw header byte, with
FIN, the reserved bits and the opcode; `payload` is not yet masked. -/
structure WireFrame where
  first : UInt8
  form : LengthForm
  mask : Option MaskKey
  payload : Bytes
  fits : payload.length < form.limit

namespace WireFrame

def fin (frame : WireFrame) : Bool := frame.first &&& 0x80 != 0

def opcode (frame : WireFrame) : UInt8 := frame.first &&& 0x0F

def data (frame : WireFrame) : Prop :=
  frame.opcode = OPCODE_CONTINUATION ∨ frame.opcode = OPCODE_TEXT ∨ frame.opcode = OPCODE_BINARY

instance (frame : WireFrame) : Decidable frame.data := inferInstanceAs (Decidable (_ ∨ _ ∨ _))

def ping (frame : WireFrame) : Prop := frame.opcode = OPCODE_PING

instance (frame : WireFrame) : Decidable frame.ping := inferInstanceAs (Decidable (_ = _))

/-- The frames a reader goes on after. -/
def ordinary (frame : WireFrame) : Prop := frame.data ∨ frame.ping ∨ frame.opcode = OPCODE_PONG

theorem not_data {frame : WireFrame} (control : frame.opcode = OPCODE_CLOSE ∨ frame.ping ∨ frame.opcode = OPCODE_PONG) :
    ¬ frame.data := by
  intro data
  rcases control with opcode | opcode | opcode
  all_goals
    rw [WireFrame.data, opcode] at data
    exact absurd data (by decide)

def short (frame : WireFrame) : Nat :=
  match frame.form with
  | .short => frame.payload.length
  | .medium => 126
  | .long => 127

def extension (frame : WireFrame) : Bytes :=
  match frame.form with
  | .short => []
  | .medium => Numeral.toBig 2 frame.payload.length
  | .long => Numeral.toBig 8 frame.payload.length

def bytes (frame : WireFrame) : Bytes :=
  match frame.mask with
  | none => [frame.first, 0 ||| UInt8.ofNat frame.short] ++ (frame.extension ++ frame.payload)
  | some key => [frame.first, 0x80 ||| UInt8.ofNat frame.short] ++
      (frame.extension ++ (key.val ++ xorMask key.val frame.payload))

end WireFrame

/-- The messages that frames complete, after the fragments `part` of one under way. -/
def messages (part : Bytes) : List WireFrame → List Bytes
  | [] => []
  | frame :: frames =>
    if frame.data then
      if frame.fin then (part ++ frame.payload) :: messages [] frames
      else messages (part ++ frame.payload) frames
    else messages part frames

def completed (frames : List WireFrame) : Bytes := (messages [] frames).flatten

/-- The messages that successive calls of `fill_buffer` store, the stream having sent
`call` frames. The fragments in `part` are lost when a ping cannot be answered. -/
def stored (outcome : Nat → Option IoError) (call : Nat) (part : Bytes) : List WireFrame → List Bytes
  | [] => []
  | frame :: frames =>
    if frame.ping then stored outcome (call + 1) (if outcome call = none then part else []) frames
    else if frame.data then
      if frame.fin then (part ++ frame.payload) :: stored outcome call [] frames
      else stored outcome call (part ++ frame.payload) frames
    else stored outcome call part frames

/-- Those of them that are stored before a pong cannot be sent. -/
def reached (outcome : Nat → Option IoError) (call : Nat) (part : Bytes) : List WireFrame → List Bytes
  | [] => []
  | frame :: frames =>
    if frame.ping then if outcome call = none then reached outcome (call + 1) part frames else []
    else if frame.data then
      if frame.fin then (part ++ frame.payload) :: reached outcome call [] frames
      else reached outcome call (part ++ frame.payload) frames
    else reached outcome call part frames

/-- What one call of `fill_buffer` comes to: a message, a pong that could not be sent, or
neither, when the frames run out first. `pongs` frames are sent then. -/
inductive Fill where
  | message (payload : Bytes) (pongs : Nat) (later : List WireFrame)
  | unsent (error : IoError) (pongs : Nat) (later : List WireFrame)
  | spent (pongs : Nat)

def fill (outcome : Nat → Option IoError) (call : Nat) (part : Bytes) : List WireFrame → Fill
  | [] => .spent call
  | frame :: frames =>
    if frame.ping then
      match outcome call with
      | none => fill outcome (call + 1) part frames
      | some error => .unsent error (call + 1) frames
    else if frame.data then
      if frame.fin then .message (part ++ frame.payload) call frames
      else fill outcome call (part ++ frame.payload) frames
    else fill outcome call part frames

def pings (frames : List WireFrame) : List Bytes :=
  (frames.filter fun frame => decide frame.ping).map WireFrame.payload

def answers (masks : Nat → MaskKey) (frames : List WireFrame) : List Bytes :=
  (pings frames).mapIdx fun call payload => frameBytes OPCODE_PONG payload (masks call)

/-- What a peer sends: ordinary frames, then perhaps one that ends the stream. -/
structure Traffic where
  body : List WireFrame
  ending : Option WireFrame
  carries : ∀ frame ∈ body, frame.ordinary
  ends : ∀ frame ∈ ending, ¬ frame.ordinary

def Traffic.tail (traffic : Traffic) : Bytes := (traffic.ending.map WireFrame.bytes).getD []

def Traffic.bytes (traffic : Traffic) : Bytes := traffic.body.flatMap WireFrame.bytes ++ traffic.tail

/-- The error a close or an unknown opcode is answered with. -/
def refusal (frame : WireFrame) : IoError :=
  if frame.opcode = OPCODE_CLOSE then ⟨.connectionAborted, "websocket closed by peer"⟩
  else invalidData ("unsupported websocket opcode " ++ hex frame.opcode.toNat)

/-- The error that a call of `fill_buffer` returns behind the frames to go on after. -/
def Traffic.verdict (traffic : Traffic) : IoError := (traffic.ending.map refusal).getD eof

/-- Where a reader of the frames stands: what is unread of the last message, the frames sent,
the frames to come, and whether the one that ends the traffic is read as well. -/
structure Place where
  unread : Bytes
  pongs : Nat
  remaining : List WireFrame
  ended : Bool

/-- A read into a buffer of `size` bytes returns the front of what is unread, or of the next
message when nothing is, or the error that comes before one. -/
def Place.read (verdict : IoError) (outcome : Nat → Option IoError) (size : Nat) (place : Place) :
    Except IoError Bytes × Place :=
  if place.unread = [] then
    match fill outcome place.pongs [] place.remaining with
    | .message payload pongs later => (.ok (payload.take size), ⟨payload.drop size, pongs, later, place.ended⟩)
    | .unsent error pongs later => (.error error, ⟨[], pongs, later, place.ended⟩)
    | .spent pongs => (.error (if place.ended then eof else verdict), ⟨[], pongs, [], true⟩)
  else (.ok (place.unread.take size), { place with unread := place.unread.drop size })

def Place.reads (verdict : IoError) (outcome : Nat → Option IoError) (place : Place) :
    List Nat → List (Except IoError Bytes) × Place
  | [] => ([], place)
  | size :: sizes =>
    let (result, next) := place.read verdict outcome size
    let (results, final) := next.reads verdict outcome sizes
    (result :: results, final)

def Place.start (body : List WireFrame) : Place := ⟨[], 0, body, false⟩

/-- The bytes of the reads that succeeded, in order. -/
def delivered (results : List (Except IoError Bytes)) : Bytes :=
  results.flatMap fun result => (result.toOption).getD []

/-! ### The messages of the frames -/

theorem messages_fill (outcome : Nat → Option IoError) (call : Nat) (part : Bytes) (frames : List WireFrame) :
    match fill outcome call part frames with
    | .message payload _ later => messages part frames = payload :: messages [] later
    | .unsent error _ _ => ∃ call, outcome call = some error
    | .spent _ => messages part frames = [] := by
  fun_induction fill outcome call part frames with
  | case1 => rfl
  | case2 call part frame frames ping sent ih =>
    rwa [messages, if_neg (WireFrame.not_data (.inr (.inl ping)))]
  | case3 call part frame frames ping error unsent => exact ⟨call, unsent⟩
  | case4 call part frame frames ping data fin => rw [messages, if_pos data, if_pos fin]
  | case5 call part frame frames ping data fin ih => rwa [messages, if_pos data, if_neg fin]
  | case6 call part frame frames ping data ih => rwa [messages, if_neg data]

theorem stored_fill (outcome : Nat → Option IoError) (call : Nat) (part : Bytes) (frames : List WireFrame) :
    stored outcome call part frames =
      match fill outcome call part frames with
      | .message payload pongs later => payload :: stored outcome pongs [] later
      | .unsent _ pongs later => stored outcome pongs [] later
      | .spent _ => [] := by
  fun_induction fill outcome call part frames with
  | case1 => rfl
  | case2 call part frame frames ping sent ih => rw [stored, if_pos ping, if_pos sent, ih]
  | case3 call part frame frames ping error unsent =>
    rw [stored, if_pos ping, if_neg (by rw [unsent]; exact Option.some_ne_none error)]
  | case4 call part frame frames ping data fin => rw [stored, if_neg ping, if_pos data, if_pos fin]
  | case5 call part frame frames ping data fin ih => rw [stored, if_neg ping, if_pos data, if_neg fin, ih]
  | case6 call part frame frames ping data ih => rw [stored, if_neg ping, if_neg data, ih]

theorem reached_fill (outcome : Nat → Option IoError) (call : Nat) (part : Bytes) (frames : List WireFrame) :
    reached outcome call part frames =
      match fill outcome call part frames with
      | .message payload pongs later => payload :: reached outcome pongs [] later
      | .unsent _ _ _ | .spent _ => [] := by
  fun_induction fill outcome call part frames with
  | case1 => rfl
  | case2 call part frame frames ping sent ih => rw [reached, if_pos ping, if_pos sent, ih]
  | case3 call part frame frames ping error unsent =>
    rw [reached, if_pos ping, if_neg (by rw [unsent]; exact Option.some_ne_none error)]
  | case4 call part frame frames ping data fin => rw [reached, if_neg ping, if_pos data, if_pos fin]
  | case5 call part frame frames ping data fin ih => rw [reached, if_neg ping, if_pos data, if_neg fin, ih]
  | case6 call part frame frames ping data ih => rw [reached, if_neg ping, if_neg data, ih]

theorem fill_shorter (outcome : Nat → Option IoError) (call : Nat) (part : Bytes) (frames : List WireFrame) :
    match fill outcome call part frames with
    | .message _ _ later | .unsent _ _ later => later.length < frames.length
    | .spent _ => True := by
  fun_induction fill outcome call part frames with
  | case1 => trivial
  | case2 call part frame frames ping sent ih | case5 call part frame frames ping data fin ih
  | case6 call part frame frames ping data ih =>
    revert ih
    split
    all_goals
      intro shorter
      first
        | exact shorter.trans (Nat.lt_succ_self _)
        | trivial
  | case3 | case4 => exact Nat.lt_succ_self _

/-- When every pong goes out, the messages stored are those completed. -/
theorem stored_answered {outcome : Nat → Option IoError} (sends : ∀ call, outcome call = none) (call : Nat) (part : Bytes)
    (frames : List WireFrame) : stored outcome call part frames = messages part frames := by
  fun_induction stored outcome call part frames with
  | case1 => rfl
  | case2 call part frame frames ping ih =>
    rw [ih, if_pos (sends call), messages, if_neg (WireFrame.not_data (.inr (.inl ping)))]
  | case3 call part frame frames ping data fin ih => rw [ih, messages, if_pos data, if_pos fin]
  | case4 call part frame frames ping data fin ih => rw [ih, messages, if_pos data, if_neg fin]
  | case5 call part frame frames ping data ih => rw [ih, messages, if_neg data]

theorem reached_answered {outcome : Nat → Option IoError} (sends : ∀ call, outcome call = none) (call : Nat) (part : Bytes)
    (frames : List WireFrame) : reached outcome call part frames = messages part frames := by
  fun_induction reached outcome call part frames with
  | case1 => rfl
  | case2 call part frame frames ping sent ih => rw [ih, messages, if_neg (WireFrame.not_data (.inr (.inl ping)))]
  | case3 call part frame frames ping unsent => exact absurd (sends call) unsent
  | case4 call part frame frames ping data fin ih => rw [ih, messages, if_pos data, if_pos fin]
  | case5 call part frame frames ping data fin ih => rw [ih, messages, if_pos data, if_neg fin]
  | case6 call part frame frames ping data ih => rw [ih, messages, if_neg data]

/-! ### One frame -/

theorem receive_append (data rest : Bytes) : receive data.length (data ++ rest) = .ok (data, rest) := by
  simp [receive, readExact]

theorem xorMask_length (key payload : Bytes) : (xorMask key payload).length = payload.length := by
  simp [xorMask]

theorem xorMask_involutive (key payload : Bytes) : xorMask key (xorMask key payload) = payload := by
  apply List.ext_getElem
  · simp [xorMask]
  · intro i inside later
    simp only [xorMask, List.getElem_mapIdx]
    rw [UInt8.xor_assoc, UInt8.xor_self, UInt8.xor_zero]

private theorem second_bits (short : Nat) (fits : short < 128) :
    ((0 ||| UInt8.ofNat short) &&& 0x80 != 0) = false ∧
    ((0 ||| UInt8.ofNat short) &&& 0x7F).toNat = short ∧
    ((0x80 ||| UInt8.ofNat short) &&& 0x80 != 0) = true ∧
    ((0x80 ||| UInt8.ofNat short) &&& 0x7F).toNat = short := by
  have table : ∀ short : Fin 128,
      ((0 ||| UInt8.ofNat short) &&& 0x80 != 0) = false ∧
      ((0 ||| UInt8.ofNat short) &&& 0x7F).toNat = short.val ∧
      ((0x80 ||| UInt8.ofNat short) &&& 0x80 != 0) = true ∧
      ((0x80 ||| UInt8.ofNat short) &&& 0x7F).toNat = short.val := by decide
  exact table ⟨short, fits⟩

private theorem short_lt (frame : WireFrame) : frame.short < 128 := by
  have fits := frame.fits
  unfold WireFrame.short
  split
  next form => rw [form] at fits; exact Nat.lt_trans fits (by decide)
  next => decide
  next => decide

private theorem readLength_extension (frame : WireFrame) (rest : Bytes) :
    readLength frame.short (frame.extension ++ rest) = .ok (frame.payload.length, rest) := by
  have fits := frame.fits
  unfold readLength WireFrame.short WireFrame.extension
  cases form : frame.form with
  | short =>
    rw [form] at fits
    simp only [LengthForm.limit] at fits
    rw [if_neg (by simp only; omega), if_neg (by simp only; omega)]
    rfl
  | medium =>
    rw [form] at fits
    have two := receive_append (Numeral.toBig 2 frame.payload.length) rest
    rw [Numeral.toBig_length] at two
    simp only [↓reduceIte, two, bind, Except.bind, pure, Except.pure]
    rw [Numeral.big_toBig_of_lt (by simpa [LengthForm.limit] using fits)]
  | long =>
    rw [form] at fits
    have eight := receive_append (Numeral.toBig 8 frame.payload.length) rest
    rw [Numeral.toBig_length] at eight
    have inside : frame.payload.length < 256 ^ 8 := Nat.lt_trans fits (by simp [LengthForm.limit])
    simp [eight, bind, Except.bind, pure, Except.pure, Numeral.big_toBig_of_lt inside]

private theorem payload_allocated (frame : WireFrame) : ¬ frame.payload.length > ISIZE_MAX := by
  have fits := frame.fits
  cases form : frame.form <;> rw [form] at fits <;> simp only [LengthForm.limit, ISIZE_MAX] at fits ⊢ <;> omega

/-- A whole frame is read back as it was sent, unmasked, and nothing behind it
is touched. -/
theorem readFrame_bytes (frame : WireFrame) (rest : Bytes) :
    readFrame (frame.bytes ++ rest) = .ok (⟨frame.fin, frame.opcode, frame.payload⟩, rest) := by
  obtain ⟨clear, low, set, low'⟩ := second_bits frame.short (short_lt frame)
  have allocated := payload_allocated frame
  have header (first second : UInt8) (tail : Bytes) :
      receive 2 ([first, second] ++ tail) = .ok ([first, second], tail) := receive_append [first, second] tail
  unfold readFrame
  cases masking : frame.mask with
  | none =>
    simp only [WireFrame.bytes, masking, List.append_assoc, header, bind, Except.bind, List.getD_cons_zero,
      List.getD_cons_succ, clear, low, readLength_extension, readMask, Bool.false_eq_true, if_false, pure,
      Except.pure, allocated, receive_append]
    rfl
  | some key =>
    have four := receive_append key.val (xorMask key.val frame.payload ++ rest)
    rw [key.property] at four
    have payload := receive_append (xorMask key.val frame.payload) rest
    rw [xorMask_length] at payload
    simp only [WireFrame.bytes, masking, List.append_assoc, header, bind, Except.bind, List.getD_cons_zero,
      List.getD_cons_succ, set, low', readLength_extension, readMask, if_true, pure, Except.pure, four,
      allocated, if_false, payload, unmask, xorMask_involutive]
    rfl

/-! ### One message -/

theorem fillLoop_frame (message : Bytes) (stream : WebSocketStream) (frame : WireFrame) (rest : Bytes)
    (input : stream.input = frame.bytes ++ rest) :
    fillLoop message stream =
      if frame.ping then
        match { stream with input := rest }.sendFrame OPCODE_PONG frame.payload with
        | (.error error, sent) => .ok (.error error, sent)
        | (.ok (), sent) => fillLoop message sent
      else if frame.opcode = OPCODE_PONG then fillLoop message { stream with input := rest }
      else if frame.data then
        if frame.fin then
          .ok (.ok (), { stream with input := rest, readBuf := message ++ frame.payload, readPos := 0 })
        else fillLoop (message ++ frame.payload) { stream with input := rest }
      else .ok (.error (refusal frame), { stream with input := rest }) := by
  have parsed := readFrame_bytes frame rest
  rw [← input] at parsed
  rw [fillLoop]
  split
  next cause failed => rw [parsed] at failed; cases failed
  next error failed => rw [parsed] at failed; cases failed
  next taken rest' read =>
    rw [parsed] at read
    cases read
    dsimp only
    by_cases ping : frame.ping
    · rw [if_pos ping, if_pos (show frame.opcode = OPCODE_PING from ping)]
      split <;> rename_i sent <;> simp only [sent]
    rw [if_neg ping, if_neg (show frame.opcode ≠ OPCODE_PING from ping)]
    by_cases pong : frame.opcode = OPCODE_PONG
    · rw [if_pos pong, if_pos pong]
    rw [if_neg pong, if_neg pong]
    by_cases close : frame.opcode = OPCODE_CLOSE
    · rw [if_pos close, if_neg (WireFrame.not_data (.inl close)), refusal, if_pos close]
    rw [if_neg close]
    by_cases data : frame.data
    · rw [if_pos data, if_pos (show _ ∨ _ ∨ _ from data)]
    · rw [if_neg data, if_neg (show ¬ (_ ∨ _ ∨ _) from data), refusal, if_neg close]

theorem fillLoop_empty (message : Bytes) (stream : WebSocketStream) (input : stream.input = []) :
    fillLoop message stream = .ok (.error eof, stream) := by
  have parsed : readFrame stream.input = .error (.io eof) := by rw [input]; rfl
  rw [fillLoop]
  split
  next cause failed => rw [parsed] at failed; cases failed
  next error failed =>
    rw [parsed] at failed
    cases failed
    cases stream
    simp_all
  next taken rest read => rw [parsed] at read; cases read

/-- Bytes in which a call of `fill_buffer` comes to an error and no message. -/
def Ends (tail : Bytes) (verdict : IoError) : Prop :=
  ∀ message (stream : WebSocketStream), stream.input = tail →
    fillLoop message stream = .ok (.error verdict, { stream with input := [] })

theorem ends_nil : Ends [] eof := by
  intro message stream input
  rw [fillLoop_empty message stream input]
  cases stream
  cases input
  rfl

/-- What lies before a reader: ordinary frames, then bytes that hold no further message. -/
structure Incoming where
  body : List WireFrame
  tail : Bytes
  verdict : IoError
  carries : ∀ frame ∈ body, frame.ordinary
  ends : Ends tail verdict

theorem Traffic.tail_ends (traffic : Traffic) : Ends traffic.tail traffic.verdict := by
  rw [Traffic.tail, Traffic.verdict]
  cases ending : traffic.ending with
  | none => exact ends_nil
  | some last =>
    intro message stream input
    have strange := traffic.ends last (by simp [ending])
    simp only [WireFrame.ordinary, not_or] at strange
    obtain ⟨control, silent, quiet⟩ := strange
    have front : stream.input = last.bytes ++ [] := input.trans (List.append_nil _).symm
    have turn := fillLoop_frame message stream last [] front
    rwa [if_neg silent, if_neg quiet, if_neg control] at turn

def Traffic.incoming (traffic : Traffic) : Incoming where
  body := traffic.body
  tail := traffic.tail
  verdict := traffic.verdict
  carries := traffic.carries
  ends := traffic.tail_ends

variable (incoming : Incoming) (masks : Nat → MaskKey) (outcome : Nat → Option IoError)

/-- The stream stands behind the frames `before`; `ended` tells whether the tail is read
as well. Every ping passed has been answered. -/
structure Reading (before remaining : List WireFrame) (ended : Bool) (stream : WebSocketStream) : Prop where
  body : incoming.body = before ++ remaining
  input : stream.input = remaining.flatMap WireFrame.bytes ++ if ended then [] else incoming.tail
  last : ended → remaining = []
  answered : stream.frames = answers masks before
  masks : stream.masks = masks
  outcome : stream.outcome = outcome

private theorem answers_append (before : List WireFrame) (frame : WireFrame) :
    answers masks (before ++ [frame]) = answers masks before ++
      if frame.ping then [frameBytes OPCODE_PONG frame.payload (masks (pings before).length)] else [] := by
  by_cases ping : frame.ping <;> simp [answers, pings, ping, List.mapIdx_append]

private theorem answers_length (before : List WireFrame) :
    (answers masks before).length = (pings before).length := by
  simp [answers]

variable {incoming masks outcome} {before remaining : List WireFrame} {ended : Bool} {stream : WebSocketStream}

private theorem Reading.pass {frame : WireFrame}
    (reading : Reading incoming masks outcome before (frame :: remaining) ended stream) (later : WebSocketStream)
    (input : later.input = remaining.flatMap WireFrame.bytes ++ if ended then [] else incoming.tail)
    (frames : later.frames = stream.frames ++
      if frame.ping then [frameBytes OPCODE_PONG frame.payload (masks stream.frames.length)] else [])
    (kept : later.masks = stream.masks ∧ later.outcome = stream.outcome) :
    Reading incoming masks outcome (before ++ [frame]) remaining ended later where
  body := by rw [reading.body, List.append_assoc]; rfl
  input := input
  last stopped := absurd (reading.last stopped) (by simp)
  answered := by rw [frames, answers_append, reading.answered, answers_length]
  masks := kept.1.trans reading.masks
  outcome := kept.2.trans reading.outcome

private theorem Reading.front {frame : WireFrame}
    (reading : Reading incoming masks outcome before (frame :: remaining) ended stream) :
    stream.input = frame.bytes ++ (remaining.flatMap WireFrame.bytes ++ if ended then [] else incoming.tail) := by
  rw [reading.input, List.flatMap_cons, List.append_assoc]

/-- A call of `fill_buffer` does to the stream what its frames come to. The buffer is
touched with a message only. -/
def Does (incoming : Incoming) (masks : Nat → MaskKey) (outcome : Nat → Option IoError) (before remaining : List WireFrame)
    (ended : Bool) (stream : WebSocketStream) (result : Except Panic (Except IoError Unit × WebSocketStream)) : Fill → Prop
  | .message payload pongs later => ∃ read filled, remaining = read ++ later ∧ result = .ok (.ok (), filled) ∧
      Reading incoming masks outcome (before ++ read) later ended filled ∧ filled.frames.length = pongs ∧
      filled.readBuf = payload ∧ filled.readPos = 0
  | .unsent error pongs later => ∃ read filled, remaining = read ++ later ∧ result = .ok (.error error, filled) ∧
      Reading incoming masks outcome (before ++ read) later ended filled ∧ filled.frames.length = pongs ∧
      filled.readBuf = stream.readBuf ∧ filled.readPos = stream.readPos
  | .spent pongs => ∃ filled, result = .ok (.error (if ended then eof else incoming.verdict), filled) ∧
      Reading incoming masks outcome (before ++ remaining) [] true filled ∧ filled.frames.length = pongs ∧
      filled.readBuf = stream.readBuf ∧ filled.readPos = stream.readPos

private theorem fillLoop_end (message : Bytes) (reading : Reading incoming masks outcome before [] ended stream) :
    Does incoming masks outcome before [] ended stream (fillLoop message stream) (.spent stream.frames.length) := by
  have input := reading.input
  rw [List.flatMap_nil, List.nil_append] at input
  have ends : Ends stream.input (if ended then eof else incoming.verdict) := by
    rw [input]
    cases ended with
    | true => exact ends_nil
    | false => exact incoming.ends
  refine ⟨{ stream with input := [] }, ends message stream rfl, ?_, rfl, rfl, rfl⟩
  rw [List.append_nil]
  exact {
    body := reading.body
    input := rfl
    last := fun _ => rfl
    answered := reading.answered
    masks := reading.masks
    outcome := reading.outcome }

/-- Going on behind a frame that leaves the buffer alone. -/
private theorem Does.behind {frame : WireFrame} {passed : WebSocketStream}
    {result : Except Panic (Except IoError Unit × WebSocketStream)} {fill : Fill}
    (does : Does incoming masks outcome (before ++ [frame]) remaining ended passed result fill)
    (buffer : passed.readBuf = stream.readBuf ∧ passed.readPos = stream.readPos) :
    Does incoming masks outcome before (frame :: remaining) ended stream result fill := by
  cases fill with
  | message payload pongs later =>
    obtain ⟨read, filled, rfl, ran, reading, sent, whole⟩ := does
    exact ⟨frame :: read, filled, rfl, ran, by simpa using reading, sent, whole⟩
  | unsent error pongs later =>
    obtain ⟨read, filled, rfl, ran, reading, sent, buf, pos⟩ := does
    exact ⟨frame :: read, filled, rfl, ran, by simpa using reading, sent, buf.trans buffer.1, pos.trans buffer.2⟩
  | spent pongs =>
    obtain ⟨filled, ran, reading, sent, buf, pos⟩ := does
    exact ⟨filled, ran, by simpa using reading, sent, buf.trans buffer.1, pos.trans buffer.2⟩

/-- One call, induction being on the frames left. -/
theorem fillLoop_does (message : Bytes) (reading : Reading incoming masks outcome before remaining ended stream) :
    Does incoming masks outcome before remaining ended stream (fillLoop message stream)
      (fill outcome stream.frames.length message remaining) := by
  induction remaining generalizing before message stream with
  | nil => exact fillLoop_end message reading
  | cons frame remaining ih =>
    have turn := fillLoop_frame message stream frame _ reading.front
    have ordinary : frame.ordinary := incoming.carries frame (by rw [reading.body]; simp)
    rw [fill]
    by_cases ping : frame.ping
    · rw [if_pos ping] at turn
      have passed := reading.pass ({ stream with input := remaining.flatMap WireFrame.bytes ++
        if ended then [] else incoming.tail }.sendFrame OPCODE_PONG frame.payload).2
        (by simp) (by simp only [if_pos ping, sendFrame]; split <;> simp [reading.masks])
        (by simp only [sendFrame]; split <;> exact ⟨rfl, rfl⟩)
      have same : stream.outcome stream.frames.length = outcome stream.frames.length := by rw [reading.outcome]
      rw [if_pos ping, ← same]
      cases sent : stream.outcome stream.frames.length with
      | none =>
        simp only [sendFrame, sent] at turn passed
        have rest := ih message passed
        simp only [List.length_append, List.length_singleton] at rest
        rw [turn]
        exact rest.behind ⟨rfl, rfl⟩
      | some error =>
        simp only [sendFrame, sent] at turn passed
        exact ⟨[frame], _, rfl, turn, passed, List.length_append, rfl, rfl⟩
    rw [if_neg ping] at turn ⊢
    have passed := reading.pass { stream with input := remaining.flatMap WireFrame.bytes ++
      if ended then [] else incoming.tail } rfl (by simp [ping]) ⟨rfl, rfl⟩
    by_cases data : frame.data
    · have quiet : frame.opcode ≠ OPCODE_PONG := fun pong => WireFrame.not_data (.inr (.inr pong)) data
      rw [if_neg quiet, if_pos data] at turn
      rw [if_pos data]
      by_cases fin : frame.fin = true
      · rw [if_pos fin] at turn ⊢
        exact ⟨[frame], _, rfl, turn, reading.pass _ rfl (by simp [ping]) ⟨rfl, rfl⟩, rfl, rfl, rfl⟩
      · rw [if_neg fin] at turn ⊢
        rw [turn]
        exact (ih (message ++ frame.payload) passed).behind ⟨rfl, rfl⟩
    · have pong : frame.opcode = OPCODE_PONG := (ordinary.resolve_left data).resolve_left ping
      rw [if_pos pong] at turn
      rw [if_neg data, turn]
      exact (ih message passed).behind ⟨rfl, rfl⟩

/-! ### Any sequence of reads -/

def unread (stream : WebSocketStream) : Bytes := stream.readBuf.drop stream.readPos

/-- The copy out of the buffer takes the front of what is unread. -/
theorem drain_front (stream : WebSocketStream) (size : Nat) :
    (stream.drain size).1 = (unread stream).take size ∧ unread (stream.drain size).2 = (unread stream).drop size := by
  have least : min (unread stream).length size = min size (unread stream).length := Nat.min_comm _ _
  constructor
  · rw [drain, ← unread, least, ← List.take_take, List.take_length]
  · rw [drain, ← unread, least, unread, ← List.drop_drop, ← unread]
    by_cases enough : size ≤ (unread stream).length
    · rw [Nat.min_eq_left enough]
    · rw [Nat.min_eq_right (by omega), List.drop_length, List.drop_of_length_le (by omega)]

theorem drained_iff {stream : WebSocketStream} : stream.readPos ≥ stream.readBuf.length ↔ unread stream = [] :=
  List.drop_eq_nil_iff.symm

/-- The stream stands where a reader of its frames does. -/
structure Stands (incoming : Incoming) (masks : Nat → MaskKey) (outcome : Nat → Option IoError) (place : Place)
    (stream : WebSocketStream) : Prop where
  reading : ∃ before, Reading incoming masks outcome before place.remaining place.ended stream
  unread : WebsocketReading.unread stream = place.unread
  pongs : stream.frames.length = place.pongs

theorem stands_start (incoming : Incoming) (masks : Nat → MaskKey) (outcome : Nat → Option IoError) :
    Stands incoming masks outcome (.start incoming.body)
      { input := incoming.body.flatMap WireFrame.bytes ++ incoming.tail, masks, outcome } where
  reading := ⟨[], rfl, rfl, nofun, rfl, rfl, rfl⟩
  unread := rfl
  pongs := rfl

variable {place : Place} {verdict : IoError}

theorem Stands.drained (stands : Stands incoming masks outcome place stream) (size : Nat) :
    Stands incoming masks outcome { place with unread := (WebsocketReading.unread stream).drop size } (stream.drain size).2 := by
  obtain ⟨before, reading⟩ := stands.reading
  exact ⟨⟨before, reading.body, reading.input, reading.last, reading.answered, reading.masks, reading.outcome⟩,
    (drain_front stream size).2, stands.pongs⟩

theorem read_stands (stands : Stands incoming masks outcome place stream) (size : Nat) :
    ∃ served, stream.read size = .ok ((place.read incoming.verdict outcome size).1, served) ∧
      Stands incoming masks outcome (place.read incoming.verdict outcome size).2 served := by
  rw [Place.read, ← stands.unread]
  by_cases drained : unread stream = []
  · obtain ⟨before, reading⟩ := stands.reading
    have does := fillLoop_does [] reading
    rw [if_pos drained, WebSocketStream.read, if_pos (drained_iff.mpr drained), fillBuffer, ← stands.pongs]
    have still {filled : WebSocketStream} (buf : filled.readBuf = stream.readBuf) (pos : filled.readPos = stream.readPos) :
        unread filled = [] := by
      rw [unread, buf, pos]
      exact drained
    cases filling : fill outcome stream.frames.length [] place.remaining with
    | message payload pongs later =>
      rw [filling] at does
      obtain ⟨read, filled, _, ran, reading', sent, rfl, start⟩ := does
      have whole : unread filled = filled.readBuf := by rw [unread, start, List.drop_zero]
      have taken := (drain_front filled size).1
      have stands' : Stands incoming masks outcome ⟨filled.readBuf, pongs, later, place.ended⟩ filled :=
        ⟨⟨_, reading'⟩, whole, sent⟩
      refine ⟨(filled.drain size).2, ?_, ?_⟩
      · rw [ran]
        dsimp only
        rw [taken, whole]
      · have next := stands'.drained size
        rwa [whole] at next
    | unsent error pongs later =>
      rw [filling] at does
      obtain ⟨read, filled, _, ran, reading', sent, buf, pos⟩ := does
      exact ⟨filled, by rw [ran], ⟨_, reading'⟩, still buf pos, sent⟩
    | spent pongs =>
      rw [filling] at does
      obtain ⟨filled, ran, reading', sent, buf, pos⟩ := does
      exact ⟨filled, by rw [ran], ⟨_, reading'⟩, still buf pos, sent⟩
  · rw [if_neg drained, WebSocketStream.read, if_neg (mt drained_iff.mp drained)]
    refine ⟨(stream.drain size).2, ?_, stands.drained size⟩
    rw [← (drain_front stream size).1]

theorem reads_stand (stands : Stands incoming masks outcome place stream) (sizes : List Nat) :
    ∃ final, stream.reads sizes = .ok ((place.reads incoming.verdict outcome sizes).1, final) ∧
      Stands incoming masks outcome (place.reads incoming.verdict outcome sizes).2 final := by
  induction sizes generalizing place stream with
  | nil => exact ⟨stream, rfl, stands⟩
  | cons size sizes ih =>
    obtain ⟨served, ran, stands'⟩ := read_stands stands size
    obtain ⟨final, rans, stands''⟩ := ih stands'
    refine ⟨final, ?_, stands''⟩
    simp only [WebSocketStream.reads, ran, rans, Place.reads, bind, Except.bind, pure, Except.pure]

theorem traffic_reads (traffic : Traffic) (masks : Nat → MaskKey) (outcome : Nat → Option IoError) (sizes : List Nat) :
    ∃ final, ({ input := traffic.bytes, masks, outcome } : WebSocketStream).reads sizes =
        .ok ((Place.reads traffic.verdict outcome (.start traffic.body) sizes).1, final) ∧
      Stands traffic.incoming masks outcome (Place.reads traffic.verdict outcome (.start traffic.body) sizes).2 final :=
  reads_stand (stands_start traffic.incoming masks outcome) sizes

/-! ### What the reads of frames return -/

/-- All that a read of the frames can do. -/
inductive Reads (verdict : IoError) (outcome : Nat → Option IoError) (size : Nat) (place : Place) :
    Except IoError Bytes × Place → Prop where
  | unread (some : place.unread ≠ []) :
    Reads verdict outcome size place (.ok (place.unread.take size), { place with unread := place.unread.drop size })
  | message (payload : Bytes) (pongs : Nat) (later : List WireFrame) (drained : place.unread = [])
    (next : stored outcome place.pongs [] place.remaining = payload :: stored outcome pongs [] later)
    (whole : messages [] place.remaining = payload :: messages [] later)
    (first : reached outcome place.pongs [] place.remaining = payload :: reached outcome pongs [] later)
    (shorter : later.length < place.remaining.length) :
    Reads verdict outcome size place (.ok (payload.take size), ⟨payload.drop size, pongs, later, place.ended⟩)
  | unsent (error : IoError) (pongs : Nat) (later : List WireFrame) (drained : place.unread = [])
    (same : stored outcome place.pongs [] place.remaining = stored outcome pongs [] later)
    (failed : ∃ call, outcome call = some error) (none : reached outcome place.pongs [] place.remaining = [])
    (shorter : later.length < place.remaining.length) :
    Reads verdict outcome size place (.error error, ⟨[], pongs, later, place.ended⟩)
  | spent (pongs : Nat) (drained : place.unread = []) (none : stored outcome place.pongs [] place.remaining = [])
    (left : messages [] place.remaining = []) (last : reached outcome place.pongs [] place.remaining = []) :
    Reads verdict outcome size place (.error (if place.ended then eof else verdict), ⟨[], pongs, [], true⟩)

theorem read_reads (verdict : IoError) (outcome : Nat → Option IoError) (size : Nat) (place : Place) :
    Reads verdict outcome size place (place.read verdict outcome size) := by
  have next := stored_fill outcome place.pongs [] place.remaining
  have whole := messages_fill outcome place.pongs [] place.remaining
  have first := reached_fill outcome place.pongs [] place.remaining
  have shorter := fill_shorter outcome place.pongs [] place.remaining
  rw [Place.read]
  by_cases drained : place.unread = []
  · rw [if_pos drained]
    cases filling : fill outcome place.pongs [] place.remaining with
    | message payload pongs later =>
      simp only [filling] at next whole first shorter
      exact .message payload pongs later drained next whole first shorter
    | unsent error pongs later =>
      simp only [filling] at next whole first shorter
      exact .unsent error pongs later drained next whole first shorter
    | spent pongs =>
      simp only [filling] at next whole first
      exact .spent pongs drained next whole first
  · rw [if_neg drained]
    exact .unread drained

theorem front_append (size : Nat) (bytes rest : Bytes) :
    bytes ++ rest = bytes.take size ++ (bytes.drop size ++ rest) := by
  rw [← List.append_assoc, List.take_append_drop]

/-- What a read returns is taken off the messages stored, and what it leaves follows. -/
theorem read_account (verdict : IoError) (size : Nat) (place : Place) :
    place.unread ++ (stored outcome place.pongs [] place.remaining).flatten =
      (place.read verdict outcome size).1.toOption.getD [] ++ ((place.read verdict outcome size).2.unread ++
        (stored outcome (place.read verdict outcome size).2.pongs [] (place.read verdict outcome size).2.remaining).flatten) := by
  have reads := read_reads verdict outcome size place
  generalize place.read verdict outcome size = step at reads ⊢
  cases reads with
  | unread some => exact front_append size _ _
  | message payload pongs later drained next whole first shorter =>
    rw [drained, next]
    exact front_append size payload _
  | unsent error pongs later drained same failed none shorter =>
    rw [drained, same]
    rfl
  | spent pongs drained none left last =>
    rw [drained, none]
    rfl

/-- No fragment is lost in a read that succeeds. -/
theorem read_whole {size : Nat} {bytes : Bytes} (read : (place.read verdict outcome size).1 = .ok bytes) :
    place.unread ++ completed place.remaining =
      bytes ++ ((place.read verdict outcome size).2.unread ++ completed (place.read verdict outcome size).2.remaining) := by
  have reads := read_reads verdict outcome size place
  generalize place.read verdict outcome size = step at read reads ⊢
  cases reads with
  | unread some =>
    cases read
    exact front_append size _ _
  | message payload pongs later drained next whole first shorter =>
    cases read
    rw [drained, completed, whole]
    exact front_append size payload _
  | unsent error pongs later drained same failed none shorter => cases read
  | spent pongs drained none left last => cases read

/-- The tail is read with its error only. -/
theorem read_refused {size : Nat} (ended : (place.read verdict outcome size).2.ended = true) :
    place.ended = true ∨ (place.read verdict outcome size).1 = .error verdict := by
  have reads := read_reads verdict outcome size place
  generalize place.read verdict outcome size = step at ended reads ⊢
  cases reads with
  | unread | message | unsent => exact .inl ended
  | spent pongs drained none left last =>
    cases before : place.ended with
    | true => exact .inl rfl
    | false => exact .inr rfl

private theorem delivered_cons (result : Except IoError Bytes) (results : List (Except IoError Bytes)) :
    delivered (result :: results) = result.toOption.getD [] ++ delivered results := rfl

theorem reads_account (verdict : IoError) (sizes : List Nat) (place : Place) :
    place.unread ++ (stored outcome place.pongs [] place.remaining).flatten =
      delivered (place.reads verdict outcome sizes).1 ++ ((place.reads verdict outcome sizes).2.unread ++
        (stored outcome (place.reads verdict outcome sizes).2.pongs [] (place.reads verdict outcome sizes).2.remaining).flatten) := by
  induction sizes generalizing place with
  | nil => rfl
  | cons size sizes ih =>
    rw [read_account verdict size place, ih]
    simp only [Place.reads, delivered_cons, List.append_assoc]

theorem reads_prefix (sizes : List Nat) (place : Place) :
    delivered ((place.reads verdict outcome sizes).1.takeWhile Except.isOk) <+: place.unread ++ completed place.remaining := by
  induction sizes generalizing place with
  | nil => exact List.nil_prefix
  | cons size sizes ih =>
    simp only [Place.reads]
    cases read : (place.read verdict outcome size).1 with
    | error error => exact List.nil_prefix
    | ok bytes =>
      rw [read_whole read, List.takeWhile_cons_of_pos rfl, delivered_cons]
      exact (List.prefix_append_right_inj bytes).mpr (ih _)

theorem reads_refused (sizes : List Nat) (place : Place) (ended : (place.reads verdict outcome sizes).2.ended = true) :
    place.ended = true ∨ .error verdict ∈ (place.reads verdict outcome sizes).1 := by
  induction sizes generalizing place with
  | nil => exact .inl ended
  | cons size sizes ih =>
    rcases ih (place.read verdict outcome size).2 ended with spent | inside
    · refine (read_refused spent).imp id ?_
      intro failed
      simp only [Place.reads, failed]
      exact List.mem_cons_self
    · exact .inr (List.mem_cons_of_mem _ inside)

/-- Whatever buffers the reads bring, they hand out a prefix of the completed
messages: up to the first failure in any case, and throughout when no pong fails
to be sent, what is missing then being unread or not consumed. A pong that cannot
be sent costs the fragments before it and nothing else. Each ping consumed has its
pong, in order, consuming the frame that ends the traffic is an error, and after
any reads one more returns what it does to a reader of the frames. -/
theorem reads_deliver_messages (traffic : Traffic) (masks : Nat → MaskKey) (outcome : Nat → Option IoError)
    (sizes : List Nat) :
    ∃ results final consumed remaining ended,
      ({ input := traffic.bytes, masks, outcome } : WebSocketStream).reads sizes = .ok (results, final) ∧
      traffic.body = consumed ++ remaining ∧
      final.input = remaining.flatMap WireFrame.bytes ++ (if ended then [] else traffic.tail) ∧
      final.frames = answers masks consumed ∧
      delivered (results.takeWhile Except.isOk) <+: completed traffic.body ∧
      ((∀ call, outcome call = none) → delivered results <+: completed traffic.body ∧
        delivered results ++ (unread final ++ completed remaining) = completed traffic.body) ∧
      delivered results ++ (unread final ++ (stored outcome final.frames.length [] remaining).flatten) =
        (stored outcome 0 [] traffic.body).flatten ∧
      (∀ last ∈ traffic.ending, ended = true → .error (refusal last) ∈ results) ∧
      ∀ size, ∃ next, final.read size =
        .ok ((Place.read traffic.verdict outcome size ⟨unread final, final.frames.length, remaining, ended⟩).1, next) := by
  obtain ⟨final, ran, stands⟩ := traffic_reads traffic masks outcome sizes
  obtain ⟨consumed, reading⟩ := stands.reading
  have account := @reads_account outcome traffic.verdict sizes (.start traffic.body)
  rw [← stands.unread, ← stands.pongs] at account
  refine ⟨_, final, consumed, _, _, ran, reading.body, reading.input, reading.answered,
    reads_prefix sizes (.start traffic.body), ?_, account.symm, ?_, ?_⟩
  · intro sends
    rw [stored_answered sends, stored_answered sends] at account
    exact ⟨⟨_, account.symm⟩, account.symm⟩
  · intro last ending ended
    have verdict : traffic.verdict = refusal last := by
      rw [Traffic.verdict, Option.mem_def.mp ending]
      rfl
    rw [← verdict]
    exact (reads_refused sizes (.start traffic.body) ended).resolve_left nofun
  · intro size
    obtain ⟨next, answered, _⟩ := read_stands stands size
    refine ⟨next, ?_⟩
    rw [stands.unread, stands.pongs]
    exact answered

theorem pair_fits (first second : UInt8) : [first, second].length < LengthForm.short.limit := Nat.lt_of_sub_eq_succ rfl

theorem single_fits (byte : UInt8) : [byte].length < LengthForm.short.limit := Nat.lt_of_sub_eq_succ rfl

def ping : WireFrame := { first := 0x89, form := .short, mask := none, payload := [1], fits := single_fits 1 }

/-- A text in two fragments with a ping between them. -/
def interruptedFrames : List WireFrame := [
  { first := 0x01, form := .short, mask := none, payload := [0x41, 0x42], fits := pair_fits _ _ },
  ping,
  { first := 0x80, form := .short, mask := none, payload := [0x43, 0x44], fits := pair_fits _ _ }]

theorem interruptedFrames_ordinary : ∀ frame ∈ interruptedFrames, frame.ordinary := by
  simp only [interruptedFrames, List.forall_mem_cons]
  exact ⟨.inl (.inr (.inl rfl)), .inr (.inl rfl), .inl (.inl rfl), List.forall_mem_nil _⟩

theorem none_ends : ∀ frame ∈ (none : Option WireFrame), ¬ frame.ordinary := by simp

def interrupted : Traffic where
  body := interruptedFrames
  ending := none
  carries := interruptedFrames_ordinary
  ends := none_ends

def unwritable : IoError := ⟨.other, "Resource temporarily unavailable"⟩

/-- The first frame sent cannot be written, later ones can. -/
def failsOnce (call : Nat) : Option IoError := if call = 0 then some unwritable else none

/-- The read that meets the ping fails, and the next one hands out the end of a
message whose start is lost. -/
theorem unsent_pong_loses_fragments : ∃ final,
    ({ input := interrupted.bytes, masks := fun _ => ⟨[0, 0, 0, 0], rfl⟩, outcome := failsOnce } : WebSocketStream).reads [8, 8] =
      .ok ([.error unwritable, .ok [0x43, 0x44]], final) ∧
    ¬ delivered [.error unwritable, .ok [0x43, 0x44]] <+: completed interrupted.body := by
  obtain ⟨final, ran, _⟩ := traffic_reads interrupted (fun _ => ⟨[0, 0, 0, 0], rfl⟩) failsOnce [8, 8]
  exact ⟨final, ran, by decide⟩

end Xpra.Proofs.WebsocketReading
