import Xpra.Client.Pinentry
import Xpra.Proofs.Lossy

/-! The password prompt is one protocol line whatever the server asks, and the PIN
comes back as it was typed when it is sent on a single data line that no space ends. -/

namespace Xpra.Proofs.Pinentry
open Xpra.Net Xpra.Client Library

/-! ### Spelling a text -/

def hexDigits (value : Nat) : List Char := [Nat.digitChar value, (Nat.digitChar value).toUpper]

/-- Bytes in percent sequences, with digits of either case. -/
inductive Escapes : Bytes → List Char → Prop
  | nil : Escapes [] []
  | cons {byte : UInt8} {bytes : Bytes} {first second : Char} {text : List Char} (high : first ∈ hexDigits (byte.toNat / 16))
      (low : second ∈ hexDigits (byte.toNat % 16)) (rest : Escapes bytes text) :
      Escapes (byte :: bytes) ('%' :: first :: second :: text)

/-- What may stand for a character in an Assuan line: itself, or all of its bytes in
percent sequences. -/
inductive Spells (char : Char) : List Char → Prop
  | plain (safe : char ≠ '%' ∧ char ≠ '\r' ∧ char ≠ '\n') : Spells char [char]
  | escaped {text : List Char} (sequences : Escapes (String.utf8EncodeChar char) text) : Spells char text

theorem assuanEscapeChar_spells (char : Char) : Spells char (assuanEscapeChar char) := by
  have sequence (byte : UInt8) {first second : Char} (bytes : String.utf8EncodeChar char = [byte])
      (high : first ∈ hexDigits (byte.toNat / 16)) (low : second ∈ hexDigits (byte.toNat % 16)) :
      Spells char ['%', first, second] := by
    apply Spells.escaped
    rw [bytes]
    exact .cons high low .nil
  rw [assuanEscapeChar]
  split
  next percent => exact sequence 0x25 (by rw [percent]; rfl) (by decide) (by decide)
  next percent =>
    split
    next cr => exact sequence 0xD (by rw [cr]; rfl) (by decide) (by decide)
    next cr =>
      split
      next lf => exact sequence 0xA (by rw [lf]; rfl) (by decide) (by decide)
      next lf => exact .plain ⟨percent, cr, lf⟩

/-! ### Undoing it -/

theorem percentByte_plain {byte : UInt8} (plain : byte ≠ 0x25) (rest : Bytes) : percentByte (byte :: rest) = none := by
  rw [percentByte.eq_def]
  split
  next same =>
    cases same
    rw [if_neg plain]
  next => rfl

theorem unescape_plain {bytes : Bytes} (plain : ∀ byte ∈ bytes, byte ≠ 0x25) (rest : Bytes) :
    unescapeBytes (bytes ++ rest) = bytes ++ unescapeBytes rest := by
  induction bytes with
  | nil => rfl
  | cons byte bytes ih =>
    rw [List.cons_append, unescapeBytes, percentByte_plain (plain byte List.mem_cons_self)]
    simp only [List.cons_append, List.cons.injEq, true_and]
    exact ih fun other member => plain other (List.mem_cons_of_mem byte member)

theorem hexDigits_value {value : Nat} (small : value < 16) {digit : Char} (member : digit ∈ hexDigits value) :
    String.utf8EncodeChar digit = [UInt8.ofNat digit.toNat] ∧ toDigit (UInt8.ofNat digit.toNat) = some (UInt8.ofNat value) ∧
      digit ≠ '\r' ∧ digit ≠ '\n' ∧ isWhitespace digit = false := by
  have every : ∀ value < 16, (hexDigits value).all fun digit => digit.toNat < 128 ∧
      toDigit (UInt8.ofNat digit.toNat) = some (UInt8.ofNat value) ∧
      digit ≠ '\r' ∧ digit ≠ '\n' ∧ isWhitespace digit = false := by
    decide
  obtain ⟨low, rest⟩ := of_decide_eq_true (List.all_eq_true.mp (every value small) digit member)
  exact ⟨Utf8.encode_low low, rest⟩

theorem unescape_escaped {bytes : Bytes} {text : List Char} (sequences : Escapes bytes text) (rest : Bytes) :
    unescapeBytes (text.flatMap String.utf8EncodeChar ++ rest) = bytes ++ unescapeBytes rest := by
  induction sequences with
  | nil => rfl
  | @cons byte bytes first second text high low sequences ih =>
    obtain ⟨encodedHigh, high, -⟩ := hexDigits_value (Nat.div_lt_of_lt_mul byte.toNat_lt) high
    obtain ⟨encodedLow, low, -⟩ := hexDigits_value (Nat.mod_lt _ (by decide)) low
    have mark : String.utf8EncodeChar '%' = [0x25] := rfl
    have joined : UInt8.ofNat (byte.toNat / 16) * 16 + UInt8.ofNat (byte.toNat % 16) = byte := by
      apply UInt8.toNat_inj.mp
      have := byte.toNat_lt
      simp
      omega
    simp only [List.flatMap_cons, mark, encodedHigh, encodedLow, List.cons_append, List.nil_append]
    rw [unescapeBytes, percentByte, if_pos rfl, high, low]
    simp only [Option.bind_eq_bind, Option.bind_some, Option.pure_def, joined, List.drop_succ_cons, List.drop_zero, ih]

theorem unescape_spelled {char : Char} {text : List Char} (spelled : Spells char text) (rest : Bytes) :
    unescapeBytes (text.flatMap String.utf8EncodeChar ++ rest) = String.utf8EncodeChar char ++ unescapeBytes rest := by
  cases spelled with
  | plain safe =>
    rw [List.flatMap_singleton]
    apply unescape_plain
    intro byte member percent
    subst percent
    exact safe.1 (Utf8.ascii_of_mem (by decide) member)
  | escaped sequences => exact unescape_escaped sequences rest

theorem escaped_single {bytes : Bytes} {text : List Char} (sequences : Escapes bytes text) : '\r' ∉ text ∧ '\n' ∉ text := by
  induction sequences with
  | nil => simp
  | @cons byte bytes first second text high low sequences ih =>
    obtain ⟨-, -, highCr, highLf, -⟩ := hexDigits_value (Nat.div_lt_of_lt_mul byte.toNat_lt) high
    obtain ⟨-, -, lowCr, lowLf, -⟩ := hexDigits_value (Nat.mod_lt _ (by decide)) low
    simp only [List.mem_cons, not_or]
    exact ⟨⟨by decide, highCr.symm, lowCr.symm, ih.1⟩, by decide, highLf.symm, lowLf.symm, ih.2⟩

theorem spelled_single {char : Char} {text : List Char} (spelled : Spells char text) : '\r' ∉ text ∧ '\n' ∉ text := by
  cases spelled with
  | plain safe => simp [Ne.symm safe.2.1, Ne.symm safe.2.2]
  | escaped sequences => exact escaped_single sequences

/-- A character with its spelling. -/
structure Piece where
  char : Char
  text : List Char
  spelled : Spells char text

def written (pieces : List Piece) : List Char := pieces.flatMap Piece.text

theorem unescape_written (pieces : List Piece) :
    assuanUnescape (String.ofList (written pieces)) = String.ofList (pieces.map Piece.char) := by
  have bytes : unescapeBytes ((written pieces).flatMap String.utf8EncodeChar) =
      (pieces.map Piece.char).flatMap String.utf8EncodeChar := by
    induction pieces with
    | nil => rw [written, List.flatMap_nil, List.flatMap_nil, unescapeBytes]; rfl
    | cons piece pieces ih =>
      rw [written, List.flatMap_cons, List.flatMap_append, unescape_spelled piece.spelled]
      rw [written] at ih
      rw [ih, List.map_cons, List.flatMap_cons]
  rw [assuanUnescape, utf8, Utf8.toList_toUTF8, String.toList_ofList, bytes, fromUtf8Lossy, Lossy.decodeChars_text]

theorem assuanEscape_single (s : String) : '\r' ∉ (assuanEscape s).toList ∧ '\n' ∉ (assuanEscape s).toList := by
  have free (char : Char) := spelled_single (assuanEscapeChar_spells char)
  rw [assuanEscape, String.toList_ofList]
  simp only [List.mem_flatMap, not_exists, not_and]
  exact ⟨fun char _ => (free char).1, fun char _ => (free char).2⟩

/-- A character as Assuan's own escaping sends it. -/
def escapedPiece (char : Char) : Piece := ⟨char, assuanEscapeChar char, assuanEscapeChar_spells char⟩

theorem assuanUnescape_escape (s : String) : assuanUnescape (assuanEscape s) = s := by
  have text : written (s.toList.map escapedPiece) = s.toList.flatMap assuanEscapeChar := by
    rw [written, List.flatMap_map]
    rfl
  have chars : (s.toList.map escapedPiece).map Piece.char = s.toList := by
    rw [List.map_map]
    exact List.map_id s.toList
  rw [assuanEscape, ← text, unescape_written, chars, String.ofList_toList]

/-! ### Lines on the wire -/

theorem rawLines_ended (front rest : Bytes) :
    rawLines (front ++ NEWLINE :: rest) = rawLines (front ++ [NEWLINE]) ++ rawLines rest := by
  induction front with
  | nil => rfl
  | cons byte front ih =>
    have some : rawLines (front ++ [NEWLINE]) ≠ [] := by
      cases front with
      | nil => exact List.cons_ne_nil _ _
      | cons byte front =>
        rw [List.cons_append, rawLines]
        split
        · exact List.cons_ne_nil _ _
        · split <;> exact List.cons_ne_nil _ _
    obtain ⟨line, lines, cut⟩ := List.exists_cons_of_ne_nil some
    rw [List.cons_append, List.cons_append, rawLines, rawLines, ih, cut]
    split <;> rfl

theorem rawLines_single {line : Bytes} (single : NEWLINE ∉ line) : rawLines (line ++ [NEWLINE]) = [line ++ [NEWLINE]] := by
  induction line with
  | nil => rfl
  | cons byte line ih =>
    simp only [List.mem_cons, not_or] at single
    rw [List.cons_append, rawLines, if_neg (Ne.symm single.1), ih single.2]

/-- A line of text as it goes over a pipe. -/
def lineBytes (text : List Char) : Bytes := text.flatMap String.utf8EncodeChar ++ [NEWLINE]

theorem rawLines_text {text : List Char} (single : '\n' ∉ text) (rest : Bytes) :
    rawLines (lineBytes text ++ rest) = lineBytes text :: rawLines rest := by
  have free : NEWLINE ∉ text.flatMap String.utf8EncodeChar := by
    intro member
    obtain ⟨char, inside, byte⟩ := List.mem_flatMap.mp member
    have newline : char = '\n' := Utf8.ascii_of_mem (by decide) byte
    rw [newline] at inside
    exact single inside
  rw [lineBytes, List.append_assoc, List.singleton_append, rawLines_ended, rawLines_single free]
  rfl

/-- A command as the line it is sent as. -/
def commandLine (command : String) : Bytes := lineBytes command.toList

theorem rawLines_commands (commands : List String) :
    rawLines (commands.flatMap commandLine) = commands.flatMap (rawLines ∘ commandLine) := by
  induction commands with
  | nil => rfl
  | cons command commands ih =>
    have line := rawLines_ended (command.toList.flatMap String.utf8EncodeChar) (commands.flatMap commandLine)
    rw [ih] at line
    rw [List.flatMap_cons, List.flatMap_cons, commandLine, lineBytes, List.append_assoc]
    exact line

theorem utf8_line (command : String) : utf8 (command ++ "\n") = commandLine command := by
  rw [utf8, Utf8.toList_toUTF8, String.toList_append, List.flatMap_append]
  rfl

/-! ### Running the exchange -/

theorem run_bind {α β : Type} (first : Assuan α) (next : α → Assuan β) (start : Exchange) :
    (first >>= next).run start = match first.run start with
      | (.ok value, last) => (next value).run last
      | (.error reason, last) => (.error reason, last) := by
  change (first.run start >>= fun pair => ExceptT.bindCont next pair.1 pair.2) = _
  rcases first.run start with ⟨_ | _, last⟩ <;> rfl

theorem run_get (start : Exchange) : (get : Assuan Exchange).run start = (.ok start, start) := rfl

theorem readLine_run (start : Exchange) : readLine.run start = match nextLine start.reads with
    | .ok (line, reads) => (.ok line, { start with reads })
    | .error reason => (.error reason, start) := by
  simp only [readLine, run_bind, run_get]
  cases nextLine start.reads <;> rfl

theorem writeln_run (command : String) (start : Exchange) : (writeln command).run start =
    match start.stdin.writeAll (utf8 (command ++ "\n")) with
    | (.ok (), stdin) => (.ok (), { start with stdin })
    | (.error error, stdin) => (.error error.message, { start with stdin }) := by
  simp only [writeln, run_bind, run_get]
  rcases start.stdin.writeAll (utf8 (command ++ "\n")) with ⟨_ | _, stdin⟩ <;> rfl

theorem readPin_run (start : Exchange) : readPin.run start = match awaitPin none start.reads with
    | .ok (pin, reads) => (.ok pin, { start with reads })
    | .error reason => (.error reason, start) := by
  simp only [readPin, run_bind, run_get]
  cases awaitPin none start.reads <;> rfl

theorem run_catch {α : Type} (action : Assuan α) (handler : String → Assuan α) (start : Exchange) :
    (tryCatch action handler).run start = match action.run start with
      | (.ok value, last) => (.ok value, last)
      | (.error reason, last) => (handler reason).run last := by
  rw [ExceptT.run_tryCatch]
  simp only [bind, StateT.bind]
  rcases action.run start with ⟨_ | _, last⟩ <;> rfl

/-- The farewell changes nothing but what has been written. -/
theorem exchangePin_run (gpgTty : Option String) (prompt : String) (start : Exchange) :
    (exchangePin gpgTty prompt).run start = match (requestPin gpgTty prompt >>= fun _ => readPin).run start with
      | (.ok pin, asked) => (.ok pin, ((writeln "BYE").run asked).2)
      | (.error reason, last) => (.error reason, last) := by
  simp only [exchangePin, run_bind]
  rcases (requestPin gpgTty prompt).run start with ⟨_ | _, asked⟩
  · rfl
  · simp only
    rcases readPin.run asked with ⟨_ | pin, last⟩
    · rfl
    · simp only [run_catch]
      rcases (writeln "BYE").run last with ⟨_ | _, ended⟩ <;> rfl

/-! ### What is sent -/

/-- An action that succeeds has written these bytes. -/
structure Writes {α : Type} (bytes : Bytes) (action : Assuan α) : Prop where
  ok : ∀ start value last, action.run start = (.ok value, last) → last.stdin.wire = start.stdin.wire ++ bytes
  /-- One that fails has written a beginning of them. -/
  error : ∀ start reason last, action.run start = (.error reason, last) →
    ∃ part, part <+: bytes ∧ last.stdin.wire = start.stdin.wire ++ part

theorem Writes.bind {α β : Type} {first : Assuan α} {next : α → Assuan β} {bytes more : Bytes}
    (writes : Writes bytes first) (rest : ∀ value, Writes more (next value)) : Writes (bytes ++ more) (first >>= next) := by
  constructor
  · intro start value last ran
    rw [run_bind] at ran
    rcases done : first.run start with ⟨_ | middle, between⟩
    · simp only [done] at ran
      cases ran
    · simp only [done] at ran
      rw [(rest middle).ok between value last ran, writes.ok start middle between done, List.append_assoc]
  · intro start reason last ran
    rw [run_bind] at ran
    rcases done : first.run start with ⟨other | middle, between⟩
    · simp only [done] at ran
      cases ran
      obtain ⟨part, begins, wire⟩ := writes.error start reason last done
      exact ⟨part, begins.trans (List.prefix_append bytes more), wire⟩
    · simp only [done] at ran
      obtain ⟨part, begins, wire⟩ := (rest middle).error between reason last ran
      refine ⟨bytes ++ part, (List.prefix_append_right_inj bytes).mpr begins, ?_⟩
      rw [wire, writes.ok start middle between done, List.append_assoc]

theorem Writes.nothing {α : Type} {action : Assuan α}
    (quiet : ∀ start, (action.run start).2.stdin = start.stdin) : Writes [] action := by
  constructor
  · intro start value last ran
    have same := quiet start
    rw [ran] at same
    rw [same, List.append_nil]
  · intro start reason last ran
    have same := quiet start
    rw [ran] at same
    exact ⟨[], List.prefix_rfl, by rw [same, List.append_nil]⟩

theorem readLine_writes : Writes [] readLine := by
  apply Writes.nothing
  intro start
  rw [readLine_run]
  cases nextLine start.reads <;> rfl

theorem readPin_writes : Writes [] readPin := by
  apply Writes.nothing
  intro start
  rw [readPin_run]
  cases awaitPin none start.reads <;> rfl

theorem requireOk_writes : Writes [] requireOk := by
  apply Writes.bind readLine_writes
  intro line
  apply Writes.nothing
  intro start
  split <;> rfl

theorem writeln_writes (command : String) : Writes (commandLine command) (writeln command) := by
  constructor
  · intro start value last ran
    rw [writeln_run, utf8_line, Sink.writeAll] at ran
    cases outcome : start.stdin.outcome start.stdin.calls with
    | written =>
      simp only [outcome] at ran
      cases ran
      rfl
    | failed =>
      simp only [outcome] at ran
      cases ran
  · intro start reason last ran
    rw [writeln_run, utf8_line, Sink.writeAll] at ran
    cases outcome : start.stdin.outcome start.stdin.calls with
    | written =>
      simp only [outcome] at ran
      cases ran
    | failed accepted =>
      simp only [outcome] at ran
      cases ran
      exact ⟨_, List.take_prefix accepted _, rfl⟩

theorem sendOk_writes (command : String) : Writes (commandLine command) (sendOk command) := by
  have both := (writeln_writes command).bind fun _ => requireOk_writes
  rwa [List.append_nil] at both

/-- What is sent to the child, line by line. -/
def options (gpgTty : Option String) : List String := (gpgTty.map fun tty => s!"OPTION ttyname={tty}").toList

def requests (prompt : String) : List String :=
  ["SETTITLE Xpra Authentication", "SETPROMPT Password:", s!"SETDESC {assuanEscape prompt}", "GETPIN"]

theorem ttyOption_writes (gpgTty : Option String) : Writes ((options gpgTty).flatMap commandLine) (ttyOption gpgTty) := by
  cases gpgTty with
  | none => exact .nothing fun _ => rfl
  | some tty =>
    have both := (writeln_writes s!"OPTION ttyname={tty}").bind fun _ =>
      readLine_writes.bind fun _ => (Writes.nothing fun _ => rfl : Writes [] (pure () : Assuan Unit))
    exact both

theorem requestPin_writes (gpgTty : Option String) (prompt : String) :
    Writes ((options gpgTty ++ requests prompt).flatMap commandLine) (requestPin gpgTty prompt) := by
  have all := requireOk_writes.bind fun _ => (ttyOption_writes gpgTty).bind fun _ =>
    (sendOk_writes "SETTITLE Xpra Authentication").bind fun _ => (sendOk_writes "SETPROMPT Password:").bind fun _ =>
      (sendOk_writes s!"SETDESC {assuanEscape prompt}").bind fun _ => writeln_writes "GETPIN"
  rw [List.flatMap_append]
  exact all

theorem requests_single (prompt : String) : ∀ command ∈ requests prompt ++ ["BYE"], '\n' ∉ command.toList := by
  have escaped := (assuanEscape_single prompt).2
  intro command member
  simp only [requests, List.cons_append, List.nil_append, List.mem_cons, List.not_mem_nil, or_false] at member
  rcases member with rfl | rfl | rfl | rfl | rfl
  · decide
  · decide
  · simp only [String.toList_append, List.mem_append, not_or]
    exact ⟨by decide, escaped⟩
  · decide
  · decide

/-- Whatever the child replies, what it is sent is a beginning of these lines. -/
theorem exchangePin_writes (gpgTty : Option String) (prompt : String) (start : Exchange) :
    ∃ part, part <+: (options gpgTty ++ requests prompt ++ ["BYE"]).flatMap commandLine ∧
      ((exchangePin gpgTty prompt).run start).2.stdin.wire = start.stdin.wire ++ part := by
  have asks := (requestPin_writes gpgTty prompt).bind fun _ => readPin_writes
  have farewell := writeln_writes "BYE"
  rw [List.append_nil] at asks
  rw [exchangePin_run, List.flatMap_append, List.flatMap_singleton]
  rcases asked : (requestPin gpgTty prompt >>= fun _ => readPin).run start with ⟨reason | pin, last⟩
  · obtain ⟨part, begins, wire⟩ := asks.error start reason last asked
    exact ⟨part, begins.trans (List.prefix_append _ _), wire⟩
  · have wire := asks.ok start pin last asked
    rcases ended : (writeln "BYE").run last with ⟨reason | done, final⟩
    · obtain ⟨part, begins, more⟩ := farewell.error last reason final ended
      refine ⟨_ ++ part, (List.prefix_append_right_inj _).mpr begins, ?_⟩
      simp only [ended]
      rw [more, wire, List.append_assoc]
    · refine ⟨_, List.prefix_rfl, ?_⟩
      simp only [ended]
      rw [farewell.ok last done final ended, wire, List.append_assoc]

/-- The prompt stays within its command, which pinentry reads as one line, and comes
back unchanged when the escaping is undone. -/
theorem prompt_single_command (gpgTty : Option String) (prompt : String) (start : Exchange) :
    ('\r' ∉ (assuanEscape prompt).toList ∧ '\n' ∉ (assuanEscape prompt).toList) ∧
      (∃ part, part <+: (options gpgTty ++ requests prompt ++ ["BYE"]).flatMap commandLine ∧
        ((exchangePin gpgTty prompt).run start).2.stdin.wire = start.stdin.wire ++ part) ∧
      rawLines ((options gpgTty ++ requests prompt ++ ["BYE"]).flatMap commandLine) =
        rawLines ((options gpgTty).flatMap commandLine) ++ (requests prompt ++ ["BYE"]).map commandLine ∧
      assuanUnescape (assuanEscape prompt) = prompt := by
  refine ⟨assuanEscape_single prompt, exchangePin_writes gpgTty prompt start, ?_, assuanUnescape_escape prompt⟩
  have single : ∀ command ∈ requests prompt ++ ["BYE"], (rawLines ∘ commandLine) command = [commandLine command] := by
    intro command member
    have line := rawLines_text (requests_single prompt command member) []
    rwa [List.append_nil] at line
  rw [rawLines_commands, List.append_assoc, List.flatMap_append, rawLines_commands, List.flatMap_congr single,
    List.map_eq_flatMap]

end Xpra.Proofs.Pinentry
