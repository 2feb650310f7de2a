import Xpra.Proofs.Pinentry

/-! What the client makes of the replies to `GETPIN`. Every line is trimmed before
it is looked at, and each data line takes the place of the one before it. -/

namespace Xpra.Proofs.PinTranscript
open Xpra.Net Xpra.Client Library Pinentry

/-! ### Trimming -/

theorem rdropWhile_cons {α : Type} (test : α → Bool) (head : α) (rest : List α) :
    (head :: rest).rdropWhile test = if rest.rdropWhile test = [] then (if test head then [] else [head])
      else head :: rest.rdropWhile test := by
  rw [List.rdropWhile, List.rdropWhile, List.reverse_cons, List.dropWhile_append]
  cases kept : rest.reverse.dropWhile test with
  | nil => cases found : test head <;> simp [found]
  | cons last front => simp

theorem rdropWhile_solid {α : Type} {test : α → Bool} {head : α} (solid : test head = false) (rest : List α) :
    (head :: rest).rdropWhile test = head :: rest.rdropWhile test := by
  rw [rdropWhile_cons, solid]
  split
  next nothing => rw [nothing]; rfl
  next => rfl

/-- White space that is sent as it is. -/
def isLoose (piece : Piece) : Bool := piece.text == [piece.char] && isWhitespace piece.char

theorem escaped_last {bytes : Bytes} {text : List Char} (sequences : Escapes bytes text) (some : bytes ≠ []) :
    ∃ front last, text = front ++ [last] ∧ isWhitespace last = false := by
  induction sequences with
  | nil => exact absurd rfl some
  | @cons byte bytes first second text high low sequences ih =>
    rcases eq_or_ne bytes [] with rfl | more
    · cases sequences
      obtain ⟨-, -, -, -, solid⟩ := hexDigits_value (Nat.mod_lt _ (by decide)) low
      exact ⟨['%', first], second, rfl, solid⟩
    · obtain ⟨front, last, rfl, solid⟩ := ih more
      exact ⟨'%' :: first :: second :: front, last, rfl, solid⟩

theorem solid_last {piece : Piece} (solid : isLoose piece = false) :
    ∃ front last, piece.text = front ++ [last] ∧ isWhitespace last = false := by
  obtain ⟨char, text, spelled⟩ := piece
  cases spelled with
  | plain safe =>
    refine ⟨[], char, rfl, ?_⟩
    simpa [isLoose] using solid
  | escaped sequences =>
    apply escaped_last sequences
    intro nothing
    have length := String.length_utf8EncodeChar char
    rw [nothing] at length
    exact absurd length.symm (Nat.ne_of_gt (Char.utf8Size_pos char))

theorem loose_text {piece : Piece} (loose : isLoose piece = true) : piece.text = [piece.char] ∧ isWhitespace piece.char = true := by
  simpa [isLoose] using loose

theorem written_concat (pieces : List Piece) (piece : Piece) : written (pieces ++ [piece]) = written pieces ++ piece.text := by
  rw [written, written, List.flatMap_append, List.flatMap_singleton]

theorem written_eq_nil {pieces : List Piece} : written pieces = [] ↔ pieces = [] := by
  constructor
  · intro nothing
    rcases List.eq_nil_or_concat' pieces with rfl | ⟨pieces, piece, rfl⟩
    · rfl
    · rw [written_concat] at nothing
      have empty := (List.append_eq_nil_iff.mp nothing).2
      cases loose : isLoose piece with
      | true =>
        rw [(loose_text loose).1] at empty
        cases empty
      | false =>
        obtain ⟨front, last, text, -⟩ := solid_last loose
        rw [text] at empty
        simp at empty
  · rintro rfl
    rfl

/-- Trimming a line takes the loose pieces off its end and no others. -/
theorem written_trimmed (pieces : List Piece) :
    (written pieces).rdropWhile isWhitespace = written (pieces.rdropWhile isLoose) := by
  induction pieces using List.reverseRecOn with
  | nil => rfl
  | append_singleton pieces piece ih =>
    rw [written_concat]
    cases loose : isLoose piece with
    | true =>
      obtain ⟨text, white⟩ := loose_text loose
      rw [text, List.rdropWhile_concat_pos _ _ _ white, List.rdropWhile_concat_pos _ _ _ loose, ih]
    | false =>
      obtain ⟨front, last, text, solid⟩ := solid_last loose
      rw [List.rdropWhile_concat_neg _ _ _ (by simp [loose]), written_concat, text, ← List.append_assoc,
        List.rdropWhile_concat_neg _ _ _ (by simp [solid])]

/-! ### Transcripts -/

/-- A line that pinentry may send before its verdict. -/
inductive Line
  | data (pieces : List Piece)
  | status (text : List Char) (single : '\n' ∉ text)
  | comment (text : List Char) (single : '\n' ∉ text)

def Line.text : Line → List Char
  | .data pieces => 'D' :: ' ' :: written pieces
  | .status text _ => 'S' :: text
  | .comment text _ => '#' :: text

def Line.pieces : Line → List Piece
  | .data pieces => pieces
  | .status _ _ | .comment _ _ => []

inductive Verdict
  | ok (note : List Char) (single : '\n' ∉ note)
  | err (reason : List Char) (single : '\n' ∉ reason)

def Verdict.text : Verdict → List Char
  | .ok [] _ => ['O', 'K']
  | .ok note _ => 'O' :: 'K' :: ' ' :: note
  | .err reason _ => 'E' :: 'R' :: 'R' :: ' ' :: reason

def Verdict.accepts : Verdict → Bool
  | .ok _ _ => true
  | .err _ _ => false

/-- The replies to `GETPIN`. A PIN that has been entered is sent on one data line
or more. -/
structure Transcript where
  lines : List Line
  verdict : Verdict
  crlf : Bool
  sent : verdict.accepts = true → ∃ pieces, .data pieces ∈ lines

namespace Transcript

variable (t : Transcript)

def cr : List Char := if t.crlf then ['\r'] else []

def bytes : Bytes := (t.lines.map (fun line => line.text ++ t.cr) ++ [t.verdict.text ++ t.cr]).flatMap lineBytes

/-- The characters the user typed. -/
def pin : List Char := (t.lines.flatMap Line.pieces).map Piece.char

def answer : Option String := if t.verdict.accepts then some (String.ofList t.pin) else none

end Transcript

theorem Line.single (line : Line) : '\n' ∉ line.text := by
  cases line with
  | data pieces =>
    simp only [Line.text, written, List.mem_cons, List.mem_flatMap, not_or, not_exists, not_and]
    exact ⟨by decide, by decide, fun piece _ => (spelled_single piece.spelled).2⟩
  | status text single => simpa [Line.text] using single
  | comment text single => simpa [Line.text] using single

theorem Verdict.single (verdict : Verdict) : '\n' ∉ verdict.text := by
  cases verdict with
  | ok note single => cases note with
    | nil => simp [Verdict.text]
    | cons head note => simpa [Verdict.text] using single
  | err reason single => simpa [Verdict.text] using single

/-! ### Reading a line -/

theorem lineReads_text {text : List Char} (single : '\n' ∉ text) (rest : Bytes) (failure : Option String) :
    lineReads (lineBytes text ++ rest) failure = .ok (lineBytes text) :: lineReads rest failure := by
  have ended : (lineBytes text).getLast? = some NEWLINE := by rw [lineBytes, List.getLast?_concat]
  cases failure with
  | none => rw [lineReads, rawLines_text single]; rfl
  | some reason =>
    simp only [lineReads]
    rw [rawLines_text single, List.filter_cons_of_pos (by rw [ended]; rfl)]
    rfl

theorem lineReads_texts {texts : List (List Char)} (single : ∀ text ∈ texts, '\n' ∉ text) (rest : Bytes) (failure : Option String) :
    lineReads (texts.flatMap lineBytes ++ rest) failure = texts.map (fun text => .ok (lineBytes text)) ++ lineReads rest failure := by
  induction texts with
  | nil => rfl
  | cons text texts ih =>
    rw [List.flatMap_cons, List.append_assoc, lineReads_text (single text List.mem_cons_self),
      ih fun other member => single other (List.mem_cons_of_mem text member)]
    rfl

theorem nextLine_text {white : List Char} (blank : ∀ char ∈ white, isWhitespace char = true) (text : List Char)
    (reads : List (Except String Bytes)) :
    nextLine (.ok (lineBytes (text ++ white)) :: reads) =
      if skipped (String.ofList (text.rdropWhile isWhitespace)) then nextLine reads
      else .ok (String.ofList (text.rdropWhile isWhitespace), reads) := by
  have encoded : lineBytes (text ++ white) = (text ++ (white ++ ['\n'])).flatMap String.utf8EncodeChar := by
    simp only [lineBytes, List.flatMap_append, List.append_assoc]
    rfl
  have decoded : String.fromUTF8? (lineBytes (text ++ white)).toByteArray = some (String.ofList (text ++ (white ++ ['\n']))) := by
    have valid : (lineBytes (text ++ white)).toByteArray.IsValidUTF8 := ⟨_, congrArg List.toByteArray encoded⟩
    rw [String.fromUTF8?, dif_pos valid, Option.some.injEq, ← String.toByteArray_inj]
    exact congrArg List.toByteArray encoded
  have trimmed : trimEnd (String.ofList (text ++ (white ++ ['\n']))) = String.ofList (text.rdropWhile isWhitespace) := by
    have all : ∀ char ∈ white ++ ['\n'], isWhitespace char = true := by
      intro char member
      rcases List.mem_append.mp member with member | member
      · exact blank char member
      · rw [List.mem_singleton.mp member]
        decide
    rw [trimEnd, String.toList_ofList, List.rdropWhile, List.reverse_append, List.dropWhile_append_of_pos, List.rdropWhile]
    intro char member
    exact all char (List.mem_reverse.mp member)
  rw [nextLine, decoded]
  simp only [trimmed]

theorem awaitPin_line {reads rest : List (Except String Bytes)} {line : String} (next : nextLine reads = .ok (line, rest))
    (pin : Option String) : awaitPin pin reads =
      if startsWith line "D " then awaitPin (some (assuanUnescape (String.ofList (line.toList.drop 2)))) rest
      else if acknowledges line then .ok (pin, rest)
      else if startsWith line "ERR" then .ok (none, rest)
      else awaitPin pin rest := by
  rw [awaitPin]
  split
  next failed => rw [next] at failed; cases failed
  next found => rw [next] at found; cases found; rfl

theorem awaitPin_failed {reads : List (Except String Bytes)} {reason : String} (next : nextLine reads = .error reason)
    (pin : Option String) : awaitPin pin reads = .error reason := by
  rw [awaitPin]
  split
  next failed => rw [next] at failed; cases failed; rfl
  next found => rw [next] at found; cases found

theorem awaitPin_congr {reads others : List (Except String Bytes)} (same : nextLine reads = nextLine others)
    (pin : Option String) : awaitPin pin reads = awaitPin pin others := by
  cases next : nextLine others with
  | error reason => rw [awaitPin_failed next, awaitPin_failed (same.trans next)]
  | ok found => rw [awaitPin_line next, awaitPin_line (same.trans next)]

/-! ### Hearing a transcript -/

/-- What is known of the PIN after a line. A data line of nothing but loose pieces
leaves no trace. -/
def hear (pin : Option String) (line : Line) : Option String :=
  match line.pieces.rdropWhile isLoose with
  | [] => pin
  | kept => some (String.ofList (kept.map Piece.char))

theorem cr_blank (t : Transcript) : ∀ char ∈ t.cr, isWhitespace char = true := by
  intro char member
  rw [Transcript.cr] at member
  split at member
  · rw [List.mem_singleton.mp member]
    decide
  · cases member

theorem awaitPin_skipped {white text : List Char} (blank : ∀ char ∈ white, isWhitespace char = true)
    (skip : skipped (String.ofList (text.rdropWhile isWhitespace)) = true) (pin : Option String) (reads : List (Except String Bytes)) :
    awaitPin pin (.ok (lineBytes (text ++ white)) :: reads) = awaitPin pin reads := by
  apply awaitPin_congr
  rw [nextLine_text blank, if_pos skip]

theorem awaitPin_kept {white text : List Char} (blank : ∀ char ∈ white, isWhitespace char = true)
    {line : String} (kept : String.ofList (text.rdropWhile isWhitespace) = line) (read : skipped line = false)
    (pin : Option String) (reads : List (Except String Bytes)) :
    awaitPin pin (.ok (lineBytes (text ++ white)) :: reads) =
      if startsWith line "D " then awaitPin (some (assuanUnescape (String.ofList (line.toList.drop 2)))) reads
      else if acknowledges line then .ok (pin, reads)
      else if startsWith line "ERR" then .ok (none, reads)
      else awaitPin pin reads := by
  apply awaitPin_line
  rw [nextLine_text blank, kept, read]
  rfl

theorem startsWith_ofList (text : List Char) (start : String) :
    startsWith (String.ofList text) start = start.toList.isPrefixOf text := by
  rw [startsWith, String.toList_ofList]

theorem skipped_cons (head : Char) (rest : List Char) : skipped (String.ofList (head :: rest)) = ('S' == head || '#' == head) := by
  have some : (String.ofList (head :: rest) == "") = false := by simp
  have status : "S".toList.isPrefixOf (head :: rest) = ('S' == head) := by simp [List.isPrefixOf]
  have comment : "#".toList.isPrefixOf (head :: rest) = ('#' == head) := by simp [List.isPrefixOf]
  rw [skipped, startsWith_ofList, startsWith_ofList, some, status, comment, Bool.or_false]

theorem awaitPin_hear {white : List Char} (blank : ∀ char ∈ white, isWhitespace char = true) (line : Line)
    (pin : Option String) (reads : List (Except String Bytes)) :
    awaitPin pin (.ok (lineBytes (line.text ++ white)) :: reads) = awaitPin (hear pin line) reads := by
  cases line with
  | status text =>
    apply awaitPin_skipped blank
    rw [Line.text, rdropWhile_solid (by decide), skipped_cons]
    rfl
  | comment text =>
    apply awaitPin_skipped blank
    rw [Line.text, rdropWhile_solid (by decide), skipped_cons]
    rfl
  | data pieces =>
    have trimmed : (Line.data pieces).text.rdropWhile isWhitespace =
        'D' :: (if pieces.rdropWhile isLoose = [] then [] else ' ' :: written (pieces.rdropWhile isLoose)) := by
      rw [Line.text, rdropWhile_solid (by decide), rdropWhile_cons, written_trimmed]
      simp only [written_eq_nil]
      rfl
    rw [hear, Line.pieces]
    split
    next nothing =>
      rw [if_pos nothing] at trimmed
      rw [awaitPin_kept blank (congrArg String.ofList trimmed) (skipped_cons _ _)]
      rfl
    next some =>
      rw [if_neg some] at trimmed
      have data : startsWith (String.ofList ('D' :: ' ' :: written (pieces.rdropWhile isLoose))) "D " = true := by
        rw [startsWith_ofList]
        rfl
      rw [awaitPin_kept blank (congrArg String.ofList trimmed) (skipped_cons _ _), if_pos data, String.toList_ofList,
        ← unescape_written]
      rfl

theorem awaitPin_lines {white : List Char} (blank : ∀ char ∈ white, isWhitespace char = true) (lines : List Line)
    (pin : Option String) (reads : List (Except String Bytes)) :
    awaitPin pin (lines.map (fun line => .ok (lineBytes (line.text ++ white))) ++ reads) =
      awaitPin (lines.foldl hear pin) reads := by
  induction lines generalizing pin with
  | nil => rfl
  | cons line lines ih => rw [List.map_cons, List.cons_append, awaitPin_hear blank, ih, List.foldl_cons]

/-- An empty line or one that goes on with a space, after it has been trimmed. -/
theorem trimmed_tail (note : List Char) : (' ' :: note).rdropWhile isWhitespace = [] ∨
    ∃ rest, (' ' :: note).rdropWhile isWhitespace = ' ' :: rest := by
  rw [rdropWhile_cons]
  split
  next => exact .inl rfl
  next => exact .inr ⟨_, rfl⟩

theorem Verdict.trimmed (verdict : Verdict) : ∃ rest, (rest = [] ∨ ∃ note, rest = ' ' :: note) ∧
    verdict.text.rdropWhile isWhitespace = (if verdict.accepts then 'O' :: 'K' :: rest else 'E' :: 'R' :: 'R' :: rest) := by
  cases verdict with
  | err reason =>
    refine ⟨_, trimmed_tail reason, ?_⟩
    rw [Verdict.text, rdropWhile_solid (by decide), rdropWhile_solid (by decide), rdropWhile_solid (by decide)]
    rfl
  | ok note =>
    cases note with
    | nil => exact ⟨[], .inl rfl, rfl⟩
    | cons head note =>
      refine ⟨_, trimmed_tail (head :: note), ?_⟩
      rw [Verdict.text, rdropWhile_solid (by decide), rdropWhile_solid (by decide)]
      · rfl
      · intro nothing; cases nothing

theorem awaitPin_verdict {white : List Char} (blank : ∀ char ∈ white, isWhitespace char = true) (verdict : Verdict)
    (pin : Option String) (reads : List (Except String Bytes)) :
    awaitPin pin (.ok (lineBytes (verdict.text ++ white)) :: reads) =
      .ok (if verdict.accepts then pin else none, reads) := by
  obtain ⟨rest, tail, trimmed⟩ := verdict.trimmed
  cases accepts : verdict.accepts with
  | true =>
    rw [accepts, if_pos rfl] at trimmed
    have data : startsWith (String.ofList ('O' :: 'K' :: rest)) "D " = false := by
      rw [startsWith_ofList]
      rfl
    have ok : acknowledges (String.ofList ('O' :: 'K' :: rest)) = true := by
      rw [acknowledges, startsWith_ofList]
      rcases tail with rfl | ⟨note, rfl⟩
      · rfl
      · exact Bool.or_true _
    rw [awaitPin_kept blank (congrArg String.ofList trimmed) (skipped_cons _ _), data, ok]
    rfl
  | false =>
    rw [accepts, if_neg Bool.false_ne_true] at trimmed
    have data : startsWith (String.ofList ('E' :: 'R' :: 'R' :: rest)) "D " = false := by
      rw [startsWith_ofList]
      rfl
    have ok : acknowledges (String.ofList ('E' :: 'R' :: 'R' :: rest)) = false := by
      have other : String.ofList ('E' :: 'R' :: 'R' :: rest) ≠ "OK" := by
        intro same
        have letters := congrArg String.toList same
        rw [String.toList_ofList] at letters
        exact absurd (List.cons.inj letters).1 (by decide)
      rw [acknowledges, startsWith_ofList, beq_eq_false_iff_ne.mpr other]
      rfl
    have err : startsWith (String.ofList ('E' :: 'R' :: 'R' :: rest)) "ERR" = true := by
      rw [startsWith_ofList]
      rfl
    rw [awaitPin_kept blank (congrArg String.ofList trimmed) (skipped_cons _ _), data, ok, err]
    rfl

/-- What is left of a transcript once it has been read. -/
theorem awaitPin_transcript (t : Transcript) (rest : Bytes) (failure : Option String) :
    awaitPin none (lineReads (t.bytes ++ rest) failure) =
      .ok (if t.verdict.accepts then t.lines.foldl hear none else none, lineReads rest failure) := by
  have free {text : List Char} (single : '\n' ∉ text) : '\n' ∉ text ++ t.cr := by
    rw [Transcript.cr]
    split <;> simp [single]
  have single : ∀ text ∈ t.lines.map (fun line => line.text ++ t.cr) ++ [t.verdict.text ++ t.cr], '\n' ∉ text := by
    intro text member
    simp only [List.mem_append, List.mem_map, List.mem_singleton] at member
    rcases member with ⟨line, -, rfl⟩ | rfl
    · exact free line.single
    · exact free t.verdict.single
  have reads := lineReads_texts single rest failure
  rw [List.map_append, List.map_map, List.append_assoc] at reads
  rw [Transcript.bytes, reads]
  have heard := awaitPin_lines (cr_blank t) t.lines none
    (.ok (lineBytes (t.verdict.text ++ t.cr)) :: lineReads rest failure)
  exact heard.trans (awaitPin_verdict (cr_blank t) t.verdict _ _)

/-! ### Which PINs arrive -/

/-- One data line carries the whole PIN and does not end in white space that is sent
as it is. -/
def Carried (lines : List Line) : Prop :=
  ∃ before front last after, lines = before ++ .data (front ++ [last]) :: after ∧
    (∀ line ∈ before ++ after, line.pieces = []) ∧ isLoose last = false

theorem hear_silent {lines : List Line} (silent : ∀ line ∈ lines, line.pieces = []) (pin : Option String) :
    lines.foldl hear pin = pin := by
  induction lines with
  | nil => rfl
  | cons line lines ih =>
    rw [List.foldl_cons, hear, silent line List.mem_cons_self]
    exact ih fun other member => silent other (List.mem_cons_of_mem line member)

/-- What has been heard is the text of one line, less the loose pieces at its end. -/
theorem hear_some {lines : List Line} {text : String} (heard : lines.foldl hear none = some text) :
    ∃ before line after, lines = before ++ line :: after ∧ line.pieces.rdropWhile isLoose ≠ [] ∧
      text = String.ofList ((line.pieces.rdropWhile isLoose).map Piece.char) := by
  induction lines using List.reverseRecOn with
  | nil => cases heard
  | append_singleton lines line ih =>
    rw [List.foldl_append, List.foldl_cons, List.foldl_nil, hear] at heard
    split at heard
    next nothing =>
      obtain ⟨before, found, after, rfl, rest⟩ := ih heard
      exact ⟨before, found, after ++ [line], by simp, rest⟩
    next some => exact ⟨lines, line, [], rfl, some, (Option.some.inj heard).symm⟩

theorem pieces_silent {lines : List Line} (silent : ∀ line ∈ lines, line.pieces = []) : lines.flatMap Line.pieces = [] :=
  List.flatMap_eq_nil_iff.mpr silent

theorem heard_iff (t : Transcript) : t.lines.foldl hear none = some (String.ofList t.pin) ↔ Carried t.lines := by
  constructor
  · intro heard
    obtain ⟨before, line, after, lines, some, text⟩ := hear_some heard
    have chars := String.ofList_injective text
    rw [Transcript.pin, lines, List.flatMap_append, List.flatMap_cons] at chars
    have shorter := (List.rdropWhile_prefix isLoose line.pieces).length_le
    have lengths := congrArg List.length chars
    simp only [List.length_map, List.length_append] at lengths
    have silent : ∀ other ∈ before ++ after, other.pieces = [] := by
      have nothing : (before ++ after).flatMap Line.pieces = [] := by
        rw [← List.length_eq_zero_iff, List.flatMap_append, List.length_append]
        omega
      exact List.flatMap_eq_nil_iff.mp nothing
    have whole : line.pieces.rdropWhile isLoose = line.pieces :=
      (List.rdropWhile_prefix isLoose line.pieces).eq_of_length_le (by omega)
    cases line with
    | status => exact absurd rfl some
    | comment => exact absurd rfl some
    | data pieces =>
      rcases List.eq_nil_or_concat' pieces with rfl | ⟨front, last, rfl⟩
      · exact absurd rfl some
      · have same : (front ++ [last]).rdropWhile isLoose = front ++ [last] := whole
        have solid := List.rdropWhile_eq_self_iff.mp same (List.append_ne_nil_of_right_ne_nil front (List.cons_ne_nil last []))
        rw [List.getLast_append_singleton, Bool.not_eq_true] at solid
        exact ⟨before, front, last, after, lines, silent, solid⟩
  · rintro ⟨before, front, last, after, lines, silent, solid⟩
    have kept : (front ++ [last]).rdropWhile isLoose = front ++ [last] := List.rdropWhile_concat_neg _ _ _ (by simp [solid])
    have first := fun line member => silent line (List.mem_append_left after member)
    have later := fun line member => silent line (List.mem_append_right before member)
    rw [Transcript.pin, lines, List.foldl_append, List.foldl_cons, hear_silent later, hear_silent first, List.flatMap_append,
      List.flatMap_cons, pieces_silent first, pieces_silent later, hear, Line.pieces, kept, List.nil_append, List.append_nil]
    cases front <;> rfl

/-- The transcripts whose outcome is what pinentry said: those that end in an error,
and those that carry the PIN on one line. -/
def Transcript.Kept (t : Transcript) : Prop := t.verdict.accepts = true → Carried t.lines

theorem runPinentry_answer {prog prompt : String} {gpgTty : Option String} {child : Child} {state : Exchange} {t : Transcript}
    {rest : Bytes} (asked : (requestPin gpgTty prompt).run ⟨lineReads child.stdout child.failure, child.stdin⟩ = (.ok (), state))
    (replies : state.reads = lineReads (t.bytes ++ rest) child.failure) :
    runPinentry prog prompt gpgTty (.ok child) = .ok (if t.verdict.accepts then t.lines.foldl hear none else none) := by
  have heard := awaitPin_transcript t rest child.failure
  rw [runPinentry, exchangePin_run, run_bind, asked]
  simp only [readPin_run, replies, heard]

/-! ### A child that agrees to everything -/

def Takes (stdin : Sink) : Prop := ∀ call, stdin.outcome call = .written

theorem writeln_taken (command : String) (start : Exchange) (takes : Takes start.stdin) :
    ∃ stdin, Takes stdin ∧ (writeln command).run start = (.ok (), { start with stdin }) := by
  refine ⟨(start.stdin.writeAll (utf8 (command ++ "\n"))).2, ?_, ?_⟩
  · rw [Sink.writeAll, takes]
    exact takes
  · rw [writeln_run, Sink.writeAll, takes]

theorem readLine_ok (reads : List (Except String Bytes)) (stdin : Sink) :
    readLine.run ⟨.ok (lineBytes ['O', 'K']) :: reads, stdin⟩ = (.ok "OK", ⟨reads, stdin⟩) := by
  have blank : ∀ char ∈ ([] : List Char), isWhitespace char = true := by simp
  have next := nextLine_text blank ['O', 'K'] reads
  rw [List.append_nil] at next
  rw [readLine_run]
  simp only [next]
  rfl

theorem requireOk_ok (reads : List (Except String Bytes)) (stdin : Sink) :
    requireOk.run ⟨.ok (lineBytes ['O', 'K']) :: reads, stdin⟩ = (.ok (), ⟨reads, stdin⟩) := by
  rw [requireOk, run_bind, readLine_ok]
  rfl

theorem sendOk_taken (command : String) (reads : List (Except String Bytes)) {stdin : Sink} (takes : Takes stdin) :
    ∃ last, Takes last ∧ (sendOk command).run ⟨.ok (lineBytes ['O', 'K']) :: reads, stdin⟩ = (.ok (), ⟨reads, last⟩) := by
  obtain ⟨last, takes, sent⟩ := writeln_taken command ⟨.ok (lineBytes ['O', 'K']) :: reads, stdin⟩ takes
  refine ⟨last, takes, ?_⟩
  rw [sendOk, run_bind, sent]
  exact requireOk_ok reads last

theorem ttyOption_taken (gpgTty : Option String) (reads : List (Except String Bytes)) {stdin : Sink} (takes : Takes stdin) :
    ∃ last, Takes last ∧ (ttyOption gpgTty).run
      ⟨List.replicate (options gpgTty).length (.ok (lineBytes ['O', 'K'])) ++ reads, stdin⟩ = (.ok (), ⟨reads, last⟩) := by
  cases gpgTty with
  | none => exact ⟨stdin, takes, rfl⟩
  | some tty =>
    obtain ⟨last, takes, sent⟩ := writeln_taken s!"OPTION ttyname={tty}" ⟨.ok (lineBytes ['O', 'K']) :: reads, stdin⟩ takes
    refine ⟨last, takes, ?_⟩
    change (writeln s!"OPTION ttyname={tty}" >>= fun _ => readLine >>= fun _ => pure ()).run
      ⟨.ok (lineBytes ['O', 'K']) :: reads, stdin⟩ = _
    rw [run_bind, sent]
    simp only
    rw [run_bind, readLine_ok]
    rfl

/-- Replies of nothing but `OK`, up to the command that asks for the PIN. -/
def agreement (gpgTty : Option String) : List (List Char) :=
  ['O', 'K'] :: (List.replicate (options gpgTty).length ['O', 'K'] ++ List.replicate 3 ['O', 'K'])

theorem requestPin_agreed (gpgTty : Option String) (prompt : String) {stdin : Sink} (takes : Takes stdin) (rest : Bytes)
    (failure : Option String) :
    ∃ last, (requestPin gpgTty prompt).run ⟨lineReads ((agreement gpgTty).flatMap lineBytes ++ rest) failure, stdin⟩ =
      (.ok (), ⟨lineReads rest failure, last⟩) := by
  have single : ∀ text ∈ agreement gpgTty, '\n' ∉ text := by
    intro text member
    simp only [agreement, List.mem_cons, List.mem_append, List.mem_replicate] at member
    rcases member with rfl | ⟨-, rfl⟩ | ⟨-, rfl⟩ <;> decide
  have reads := lineReads_texts single rest failure
  simp only [agreement, List.map_cons, List.map_append, List.map_replicate, List.cons_append, List.append_assoc] at reads
  obtain ⟨first, takes, options⟩ := ttyOption_taken gpgTty
    (List.replicate 3 (.ok (lineBytes ['O', 'K'])) ++ lineReads rest failure) takes
  obtain ⟨second, takes, title⟩ := sendOk_taken "SETTITLE Xpra Authentication"
    (List.replicate 2 (.ok (lineBytes ['O', 'K'])) ++ lineReads rest failure) takes
  obtain ⟨third, takes, label⟩ := sendOk_taken "SETPROMPT Password:"
    (List.replicate 1 (.ok (lineBytes ['O', 'K'])) ++ lineReads rest failure) takes
  obtain ⟨fourth, takes, description⟩ := sendOk_taken s!"SETDESC {assuanEscape prompt}" (lineReads rest failure) takes
  obtain ⟨last, -, request⟩ := writeln_taken "GETPIN" ⟨lineReads rest failure, fourth⟩ takes
  refine ⟨last, ?_⟩
  rw [agreement, reads, requestPin, run_bind, requireOk_ok]
  simp only [run_bind, options]
  simp only [List.replicate_succ, List.replicate_zero, List.cons_append, List.nil_append] at title label ⊢
  simp only [title, label, description]
  exact request

/-- Once the PIN has been asked for, what pinentry says is what comes out exactly for
these transcripts. -/
theorem pin_kept_iff {prog prompt : String} {gpgTty : Option String} {child : Child} {state : Exchange} {t : Transcript}
    {rest : Bytes} (asked : (requestPin gpgTty prompt).run ⟨lineReads child.stdout child.failure, child.stdin⟩ = (.ok (), state))
    (replies : state.reads = lineReads (t.bytes ++ rest) child.failure) :
    runPinentry prog prompt gpgTty (.ok child) = .ok t.answer ↔ t.Kept := by
  rw [runPinentry_answer asked replies, Except.ok.injEq, Transcript.answer, Transcript.Kept]
  cases accepts : t.verdict.accepts with
  | true => simpa using heard_iff t
  | false => simp

/-- A PIN of one line as pinentry sends it. -/
def typed (pin : List Char) : Transcript where
  lines := [.data (pin.map escapedPiece)]
  verdict := .ok [] List.not_mem_nil
  crlf := false
  sent := fun _ => ⟨_, List.mem_singleton_self _⟩

/-- A child that agrees to everything, `BYE` included, and sends this PIN. -/
def willing (pin : List Char) : Child where
  stdout := (agreement none).flatMap lineBytes ++ ((typed pin).bytes ++ lineBytes ['O', 'K'])
  stdin := { outcome := fun _ => .written }

theorem willing_asked (prompt : String) (pin : List Char) :
    ∃ last, (requestPin none prompt).run ⟨lineReads (willing pin).stdout (willing pin).failure, (willing pin).stdin⟩ =
      (.ok (), ⟨lineReads ((typed pin).bytes ++ lineBytes ['O', 'K']) (willing pin).failure, last⟩) :=
  requestPin_agreed none prompt (fun _ => rfl) _ none

theorem pin_kept_inner_space :
    runPinentry "pinentry" "Enter password" none (.ok (willing ['a', ' ', 'b'])) = .ok (some "a b") := by
  obtain ⟨last, asked⟩ := willing_asked "Enter password" ['a', ' ', 'b']
  apply (pin_kept_iff asked rfl).mpr
  intro accepts
  exact ⟨[], [escapedPiece 'a', escapedPiece ' '], escapedPiece 'b', [], rfl, by simp, by decide⟩

/-- The user types a space at the end, and the client has the PIN without it. -/
theorem final_space_lost :
    (typed ['a', ' ']).answer = some "a " ∧
      runPinentry "pinentry" "Enter password" none (.ok (willing ['a', ' '])) = .ok (some "a") := by
  obtain ⟨last, asked⟩ := willing_asked "Enter password" ['a', ' ']
  refine ⟨rfl, ?_⟩
  rw [runPinentry_answer asked rfl]
  rfl

end Xpra.Proofs.PinTranscript
