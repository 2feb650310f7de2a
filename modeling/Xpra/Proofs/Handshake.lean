import Xpra.Library.Base64
import Xpra.Net.Handshake
import Xpra.Proofs.Sha1
import Xpra.Proofs.TargetGrammar

/-! The opening handshake takes the response off the stream up to its blank line and no
further, and accepts it exactly when the server has answered the key. -/

namespace Xpra.Proofs.Handshake
open Xpra.Net Xpra.Client Library
open TargetGrammar (AnyCase anyCase_iff)

/-! ### Collecting the response -/

variable {response input before after : Bytes}

theorem length_blankLine : BLANK_LINE.length = 4 := rfl

theorem readResponse_found (fresh : Split.Absent BLANK_LINE response)
    (first : Split.First BLANK_LINE (response ++ input) before after) (bound : before.length + 4 ≤ 8193) :
    readResponse response input = (.ok (before ++ BLANK_LINE), after) := by
  induction input generalizing response with
  | nil =>
    rw [List.append_nil] at first
    exact absurd first.split (fresh before after)
  | cons byte rest ih =>
    rw [readResponse]
    by_cases ends : BLANK_LINE <:+ response ++ [byte]
    · obtain ⟨head, here⟩ := ends
      obtain ⟨rfl, rfl⟩ := first.unique (fresh.first here.symm rest)
      rw [if_pos (List.isSuffixOf_iff_suffix.mpr ⟨before, here⟩), here]
    · have grown := fresh.grow ends
      rw [List.append_cons] at first
      have beyond := first.beyond grown
      have inside : ¬ (response ++ [byte]).length > 8192 := by
        rw [length_blankLine] at beyond
        omega
      rw [if_neg (mt List.isSuffixOf_iff_suffix.mp ends), if_neg inside]
      exact ih grown first

/-- Without a blank line in the first 8193 bytes, they are taken off the input and no
more. -/
theorem readResponse_missing (fresh : Split.Absent BLANK_LINE response) (short : response.length ≤ 8192)
    (missing : ∀ before after, Split.First BLANK_LINE (response ++ input) before after → 8193 < before.length + 4) :
    ∃ reason, readResponse response input = (.error reason, input.drop (8193 - response.length)) := by
  induction input generalizing response with
  | nil => exact ⟨eof.message, by rw [readResponse, List.drop_nil]⟩
  | cons byte rest ih =>
    have length : (response ++ [byte]).length = response.length + 1 := List.length_append
    have open' : ¬ BLANK_LINE <:+ response ++ [byte] := by
      rintro ⟨head, here⟩
      have late := missing head rest (fresh.first here.symm rest)
      have same := congrArg List.length here
      rw [List.length_append, length, length_blankLine] at same
      omega
    rw [readResponse, if_neg (mt List.isSuffixOf_iff_suffix.mp open'), length]
    by_cases full : response.length + 1 > 8192
    · refine ⟨"websocket handshake response too large", ?_⟩
      rw [if_pos full, show 8193 - response.length = 1 by omega, List.drop_one, List.tail_cons]
    · rw [if_neg full, show 8193 - response.length = 8193 - (response ++ [byte]).length + 1 by omega, List.drop_succ_cons]
      apply ih (fresh.grow open') (by omega)
      intro before after first
      rw [← List.append_cons] at first
      exact missing before after first

/-! ### The answer -/

/-- The name of a header is read in any letter case, and the white space around it and
around its value is left out. -/
def AcceptHeader (line : List Char) (value : String) : Prop :=
  ∃ name text, line = name ++ ':' :: text ∧ ':' ∉ name ∧
    AnyCase (trim (String.ofList name)) "sec-websocket-accept" ∧ trim (String.ofList text) = value

def LastAccept (headers : List (List Char)) (value : String) : Prop :=
  ∃ earlier line later, headers = earlier ++ line :: later ∧ AcceptHeader line value ∧
    ∀ other ∈ later, ∀ value, ¬ AcceptHeader other value

variable {headers : List (List Char)} {line : List Char} {value : String}

theorem lastAccept_append : LastAccept (headers ++ [line]) value ↔
    AcceptHeader line value ∨ (∀ value, ¬ AcceptHeader line value) ∧ LastAccept headers value := by
  constructor
  · rintro ⟨earlier, header, later, same, accept, last⟩
    rcases List.eq_nil_or_concat' later with rfl | ⟨later, final, rfl⟩
    · obtain ⟨-, rfl⟩ := List.append_inj' same rfl |>.imp_right List.singleton_inj.mp
      exact .inl accept
    · rw [← List.cons_append, ← List.append_assoc] at same
      obtain ⟨rfl, rfl⟩ := List.append_inj' same rfl |>.imp_right List.singleton_inj.mp
      refine .inr ⟨last line (by simp), earlier, header, later, rfl, accept, ?_⟩
      intro other member
      exact last other (List.mem_append_left _ member)
  · rintro (accept | ⟨none, earlier, header, later, rfl, accept, last⟩)
    · exact ⟨headers, line, [], rfl, accept, by simp⟩
    · refine ⟨earlier, header, later ++ [line], by simp, accept, ?_⟩
      intro other member
      rcases List.mem_append.mp member with before | final
      · exact last other before
      · rw [List.mem_singleton.mp final]
        exact none

theorem cut_colon {name text : List Char} : Split.cut [':'] line = some (name, text) ↔ line = name ++ ':' :: text ∧ ':' ∉ name := by
  constructor
  · intro found
    have whole := (Split.cut_eq_some_iff.mp found).split
    exact ⟨by rw [whole]; simp, (Split.cut_before found).1⟩
  · rintro ⟨rfl, absent⟩
    rw [List.append_cons]
    exact Split.cut_append absent text

theorem acceptHeader_cut : AcceptHeader line value ↔ ∃ name text, Split.cut [':'] line = some (name, text) ∧
    eqIgnoreAsciiCase (trim (String.ofList name)).toList "sec-websocket-accept" = true ∧ trim (String.ofList text) = value := by
  have lower : "sec-websocket-accept".toList.map Char.toLower = "sec-websocket-accept".toList := by decide
  simp only [AcceptHeader, cut_colon, anyCase_iff lower, and_assoc]

/-- The last header of the name is the one that is kept. -/
theorem acceptHeader_iff : acceptHeader headers = some value ↔ LastAccept headers value := by
  induction headers using List.reverseRecOn with
  | nil => simp [acceptHeader, LastAccept]
  | append_singleton headers line ih =>
    have kept : acceptHeader headers = some value ↔ LastAccept headers value := ih
    rw [lastAccept_append, ← kept, acceptHeader, List.foldl_append, List.foldl_cons, List.foldl_nil, ← acceptHeader]
    simp only [acceptHeader_cut]
    rcases Split.cut [':'] line with _ | ⟨name, text⟩
    · simp
    · by_cases named : eqIgnoreAsciiCase (trim (String.ofList name)).toList "sec-websocket-accept" = true
      · simp [named]
      · simp [named]

theorem contains_iff {text part : String} :
    contains text part = true ↔ ∃ front back, text.toList = front ++ part.toList ++ back := by
  simp only [contains, List.any_eq_true, List.mem_tails, List.isPrefixOf_iff_prefix]
  constructor
  · rintro ⟨tail, ⟨front, here⟩, back, rest⟩
    exact ⟨front, back, by rw [← here, ← rest, List.append_assoc]⟩
  · rintro ⟨front, back, whole⟩
    exact ⟨part.toList ++ back, ⟨front, by rw [whole, List.append_assoc]⟩, List.prefix_append _ _⟩

/-- What a server that knows the protocol answers a key with. -/
def answer (key : String) : String :=
  String.ofList (Base64.encode (Library.Sha1.hash (utf8 (key ++ "258EAFA5-E914-47DA-95CA-C5AB0DC85B11"))))

/-- The status line says 101, and the last accept header has the answer to the key. -/
def Answers (key : String) (response : Bytes) : Prop :=
  ∃ status headers, Split.Pieces ['\r', '\n'] (fromUtf8Lossy response).toList (status :: headers) ∧
    (∃ front back, status = front ++ " 101 ".toList ++ back) ∧ LastAccept headers (answer key)

variable (texts : Texts)

theorem checkResponse_ok_iff (standard : ∀ bytes, texts.encode bytes = String.ofList (Base64.encode bytes)) (key : String)
    (response : Bytes) : checkResponse texts key response = .ok () ↔ Answers key response := by
  have expected : acceptKey texts key = answer key := by
    rw [acceptKey, standard, Sha1.sha1_eq, ACCEPT_GUID, answer]
  have lawful (lines : List (List Char)) : Split.pieces '\r' ['\n'] (fromUtf8Lossy response).toList = lines ↔
      Split.Pieces ['\r', '\n'] (fromUtf8Lossy response).toList lines :=
    Split.pieces_iff (Split.Unbordered.pair (by decide))
  obtain ⟨status, headers, split⟩ := List.exists_cons_of_ne_nil ((lawful _).mp rfl).some
  have answers : Answers key response ↔
      (∃ front back, status = front ++ " 101 ".toList ++ back) ∧ LastAccept headers (answer key) := by
    constructor
    · rintro ⟨status', headers', pieces, switching, accept⟩
      obtain ⟨rfl, rfl⟩ := List.cons.inj (split.symm.trans ((lawful _).mpr pieces))
      exact ⟨switching, accept⟩
    · rintro ⟨switching, accept⟩
      exact ⟨status, headers, (lawful _).mp split, switching, accept⟩
  have switching : contains (String.ofList status) " 101 " = true ↔ ∃ front back, status = front ++ " 101 ".toList ++ back := by
    rw [contains_iff, String.toList_ofList]
  rw [answers, checkResponse, split, expected]
  simp only [List.headD_cons, List.tail_cons]
  rw [← switching, ← acceptHeader_iff]
  by_cases yes : contains (String.ofList status) " 101 " = true
  · by_cases accepted : acceptHeader headers = some (answer key)
    · simp [yes, accepted]
    · simp [yes, accepted]
  · simp [yes]

/-! ### The handshake -/

/-- The blank line that ends the response, where the client still looks for it. -/
structure BlankLine (input before after : Bytes) : Prop where
  first : Split.First BLANK_LINE input before after
  bound : before.length + 4 ≤ 8193

def Written (stream : CloneableStream) : Prop := stream.sink.outcome stream.sink.calls = .written

section Connecting

variable (random : Nonce) {stream : CloneableStream} (host path : String)

theorem connect_unwritten (unwritten : ¬ Written stream) : ∃ reason sink,
    WebSocketStream.connect texts random stream host path = (.error reason, { stream with sink }) := by
  rw [Written] at unwritten
  simp only [WebSocketStream.connect, Sink.writeAll]
  cases happened : stream.sink.outcome stream.sink.calls with
  | written => exact absurd happened unwritten
  | failed accepted error => exact ⟨_, _, rfl⟩

/-- Once the request is written the response decides. -/
theorem connect_written (written : Written stream) : ∃ sink,
    WebSocketStream.connect texts random stream host path =
      match readResponse [] stream.input with
      | (.error reason, input) => (.error reason, { stream with sink, input })
      | (.ok response, input) =>
        match checkResponse texts (texts.encode random.val) response with
        | .error reason => (.error reason, { stream with sink, input })
        | .ok () => (.ok { input, masks := stream.masks, outcome := stream.outcome }, { stream with sink, input }) := by
  rw [Written] at written
  simp only [WebSocketStream.connect, Sink.writeAll, written]
  exact ⟨_, rfl⟩

theorem connect_missing (written : Written stream) (missing : ∀ before after, ¬ BlankLine stream.input before after) :
    ∃ reason sink, WebSocketStream.connect texts random stream host path =
      (.error reason, { stream with sink, input := stream.input.drop 8193 }) := by
  have late : ∀ before after, Split.First BLANK_LINE ([] ++ stream.input) before after → 8193 < before.length + 4 := by
    intro before after first
    by_contra bound
    exact missing before after ⟨first, Nat.le_of_not_lt bound⟩
  obtain ⟨reason, read⟩ := readResponse_missing (.nil (List.cons_ne_nil _ _)) (Nat.zero_le 8192) late
  obtain ⟨sink, connected⟩ := connect_written texts random host path written
  rw [read] at connected
  exact ⟨reason, sink, connected⟩

theorem connect_found (written : Written stream) (line : BlankLine stream.input before after) : ∃ sink,
    WebSocketStream.connect texts random stream host path =
      match checkResponse texts (texts.encode random.val) (before ++ BLANK_LINE) with
      | .error reason => (.error reason, { stream with sink, input := after })
      | .ok () => (.ok { input := after, masks := stream.masks, outcome := stream.outcome }, { stream with sink, input := after }) := by
  have read : readResponse [] stream.input = (.ok (before ++ BLANK_LINE), after) :=
    readResponse_found (.nil (List.cons_ne_nil _ _)) line.first line.bound
  obtain ⟨sink, connected⟩ := connect_written texts random host path written
  rw [read] at connected
  exact ⟨sink, connected⟩

end Connecting

theorem BlankLine.unique {input before' after' : Bytes} (line : BlankLine input before after) (line' : BlankLine input before' after') :
    before = before' ∧ after = after' :=
  line.first.unique line'.first

/-- The one blank line decides which response is checked. -/
theorem answered_iff (standard : ∀ bytes, texts.encode bytes = String.ofList (Base64.encode bytes)) (key : String)
    (line : BlankLine input before after) :
    (∃ before after, BlankLine input before after ∧ Answers key (before ++ BLANK_LINE)) ↔
      checkResponse texts key (before ++ BLANK_LINE) = .ok () := by
  rw [checkResponse_ok_iff texts standard]
  constructor
  · rintro ⟨before', after', other, answers⟩
    rw [(line.unique other).1]
    exact answers
  · intro answers
    exact ⟨before, after, line, answers⟩

/-- Once the request is written, the handshake takes the response off the stream up to its
first blank line and nothing behind it, and gives up on one without a blank line in its
first 8193 bytes. It succeeds exactly on an answer to its key. A clone made for the reader
starts behind the blank line with nothing buffered. -/
theorem handshake_exact (texts : Texts) (standard : ∀ bytes, texts.encode bytes = String.ofList (Base64.encode bytes))
    (random : Nonce) (stream : CloneableStream) (host path : String) :
    ∃ result left, WebSocketStream.connect texts random stream host path = (result, left) ∧
      (¬ Written stream → (∃ reason, result = .error reason) ∧ left.input = stream.input) ∧
      (Written stream →
        (∀ before after, BlankLine stream.input before after → left.input = after) ∧
        ((∀ before after, ¬ BlankLine stream.input before after) →
          (∃ reason, result = .error reason) ∧ left.input = stream.input.drop 8193)) ∧
      ((∃ accepted, result = .ok accepted) ↔ Written stream ∧ ∃ before after, BlankLine stream.input before after ∧
        Answers (String.ofList (Base64.encode random.val)) (before ++ BLANK_LINE)) ∧
      ∀ accepted, result = .ok accepted → ∀ refused clone, accepted.tryClone refused = .ok clone →
        clone = { input := left.input, masks := stream.masks, outcome := stream.outcome } := by
  by_cases written : Written stream
  · by_cases found : ∃ before after, BlankLine stream.input before after
    · obtain ⟨before, after, line⟩ := found
      have behind : ∀ before' after', BlankLine stream.input before' after' → after = after' := by
        intro before' after' other
        exact (line.unique other).2
      obtain ⟨sink, connected⟩ := connect_found texts random host path written line
      rw [answered_iff texts standard _ line, ← standard]
      cases checked : checkResponse texts (texts.encode random.val) (before ++ BLANK_LINE) with
      | error reason =>
        rw [checked] at connected
        refine ⟨_, _, connected, fun unwritten => absurd written unwritten, fun _ => ⟨behind, ?_⟩, ?_, ?_⟩
        · intro missing
          exact absurd line (missing before after)
        · simp
        · intro accepted impossible
          cases impossible
      | ok =>
        rw [checked] at connected
        refine ⟨_, _, connected, fun unwritten => absurd written unwritten, fun _ => ⟨behind, ?_⟩, ?_, ?_⟩
        · intro missing
          exact absurd line (missing before after)
        · simp [written]
        · rintro accepted ⟨⟩ refused clone cloned
          cases refused with
          | none => cases cloned; rfl
          | some error => cases cloned
    · have missing : ∀ before after, ¬ BlankLine stream.input before after := by
        intro before after line
        exact found ⟨before, after, line⟩
      obtain ⟨reason, sink, connected⟩ := connect_missing texts random host path written missing
      refine ⟨_, _, connected, fun unwritten => absurd written unwritten, fun _ => ⟨?_, fun _ => ⟨⟨reason, rfl⟩, rfl⟩⟩, ?_, ?_⟩
      · intro before after line
        exact absurd line (missing before after)
      · simp [missing]
      · intro accepted impossible
        cases impossible
  · obtain ⟨reason, sink, connected⟩ := connect_unwritten texts random host path written
    refine ⟨_, _, connected, fun _ => ⟨⟨reason, rfl⟩, rfl⟩, fun now => absurd now written, ?_, ?_⟩
    · simp [written]
    · intro accepted impossible
      cases impossible

def plainTexts : Texts := ⟨fun bytes => String.ofList (Base64.encode bytes), fun text => text⟩

/-- The answer to a key of sixteen zeros, without its blank line. -/
def switching : Bytes :=
  ("HTTP/1.1 101 Switching Protocols\r\nUpgrade: websocket\r\nConnection: Upgrade\r\n" ++
    "Sec-WebSocket-Accept: ICX+Yqv66kxgM0FcWaLWlFLwTAI=").toList.map fun char => char.toNat.toUInt8

/-- The first bytes of a frame that has come with the answer. -/
def early : Bytes := [0x82, 1, 0x50]

theorem key_length : ([0, 0, 0, 0] : Bytes).length = 4 := rfl

def answered : CloneableStream where
  input := switching ++ BLANK_LINE ++ early
  sink := ⟨fun _ => .written, 0, []⟩
  masks := fun _ => ⟨[0, 0, 0, 0], key_length⟩
  outcome := fun _ => none

theorem switching_lines : Split.pieces '\r' ['\n'] (fromUtf8Lossy (switching ++ BLANK_LINE)).toList =
    ["HTTP/1.1 101 Switching Protocols".toList, "Upgrade: websocket".toList, "Connection: Upgrade".toList,
      "Sec-WebSocket-Accept: ICX+Yqv66kxgM0FcWaLWlFLwTAI=".toList, [], []] := by
  rw [fromUtf8Lossy, String.toList_ofList]
  decide +kernel

theorem switching_checked :
    checkResponse plainTexts (String.ofList (Base64.encode (List.replicate 16 0))) (switching ++ BLANK_LINE) = .ok () := by
  have status : contains "HTTP/1.1 101 Switching Protocols" " 101 " = true := by decide +kernel
  have header : acceptHeader ["Upgrade: websocket".toList, "Connection: Upgrade".toList,
      "Sec-WebSocket-Accept: ICX+Yqv66kxgM0FcWaLWlFLwTAI=".toList, [], []] = some "ICX+Yqv66kxgM0FcWaLWlFLwTAI=" := by
    decide +kernel
  have expected : acceptKey plainTexts (String.ofList (Base64.encode (List.replicate 16 0))) = "ICX+Yqv66kxgM0FcWaLWlFLwTAI=" := by
    decide +kernel
  simp only [checkResponse, switching_lines, List.headD_cons, List.tail_cons, String.ofList_toList, status, header, expected, not_true,
    if_false, if_true]

theorem handshake_stops : ∃ accepted left,
    WebSocketStream.connect plainTexts ⟨List.replicate 16 0, rfl⟩ answered "localhost" "" = (.ok accepted, left) ∧
      left.input = early ∧ ∀ clone, accepted.tryClone none = .ok clone → clone.input = early ∧ clone.readBuf = [] := by
  have line : BlankLine answered.input switching early := ⟨Split.cut_eq_some_iff.mp (by decide +kernel), by decide +kernel⟩
  have answers := (checkResponse_ok_iff plainTexts (fun _ => rfl) _ _).mp switching_checked
  obtain ⟨result, left, connected, -, written, accepts, clones⟩ :=
    handshake_exact plainTexts (fun _ => rfl) ⟨List.replicate 16 0, rfl⟩ answered "localhost" ""
  obtain ⟨accepted, rfl⟩ := accepts.mpr ⟨rfl, switching, early, line, answers⟩
  have behind := (written rfl).1 switching early line
  refine ⟨accepted, left, connected, behind, fun clone cloned => ?_⟩
  rw [clones accepted rfl none clone cloned]
  exact ⟨behind, rfl⟩

end Xpra.Proofs.Handshake
