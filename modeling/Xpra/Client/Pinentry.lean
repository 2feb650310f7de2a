import Mathlib.Data.List.DropRight
import Xpra.Client.Host
import Xpra.Net.Handshake

/-! Asking for a password through pinentry, `client/pinentry.rs`: a child process
driven over its two pipes in the Assuan line protocol. -/

namespace Xpra.Client
open Xpra.Net

/-! ### Escaping -/

def assuanEscapeChar (char : Char) : List Char :=
  if char = '%' then ['%', '2', '5']
  else if char = '\r' then ['%', '0', 'D']
  else if char = '\n' then ['%', '0', 'A']
  else [char]

def assuanEscape (s : String) : String := String.ofList (s.toList.flatMap assuanEscapeChar)

/-- `char::to_digit(16)` of the character with this code. -/
def toDigit (byte : UInt8) : Option UInt8 :=
  if 0x30 ≤ byte ∧ byte ≤ 0x39 then some (byte - 0x30)
  else if 0x61 ≤ byte ∧ byte ≤ 0x66 then some (byte - 0x61 + 10)
  else if 0x41 ≤ byte ∧ byte ≤ 0x46 then some (byte - 0x41 + 10)
  else none

/-- The byte that a percent sequence at the front stands for. -/
def percentByte : Bytes → Option UInt8
  | mark :: first :: second :: _ =>
    if mark = 0x25 then do
      let hi ← toDigit first
      let lo ← toDigit second
      return hi * 16 + lo
    else none
  | _ => none

def unescapeBytes : Bytes → Bytes
  | [] => []
  | byte :: rest =>
    match percentByte (byte :: rest) with
    | some value => value :: unescapeBytes (rest.drop 2)
    | none => byte :: unescapeBytes rest
termination_by bytes => bytes.length
decreasing_by
  · simp only [List.length_drop, List.length_cons]
    omega
  · exact Nat.lt_succ_self _

def assuanUnescape (s : String) : String := fromUtf8Lossy (unescapeBytes (utf8 s))

/-! ### Lines -/

def NEWLINE : UInt8 := 0xA

/-- The lines of a stream, each with the newline that ends it. The last one may
lack it. -/
def rawLines : Bytes → List Bytes
  | [] => []
  | byte :: rest =>
    if byte = NEWLINE then [byte] :: rawLines rest
    else match rawLines rest with
      | [] => [[byte]]
      | line :: lines => (byte :: line) :: lines

/-- What the calls of `BufRead::read_line` come to, one after the other: the
lines, then the end of the stream or, when reading fails, the error. -/
def lineReads (stream : Bytes) (failure : Option String) : List (Except String Bytes) :=
  match failure with
  | none => (rawLines stream).map .ok
  | some reason => ((rawLines stream).filter (·.getLast? = some NEWLINE)).map .ok ++ [.error reason]

def trimEnd (text : String) : String := String.ofList (text.toList.rdropWhile isWhitespace)

/-- A status line, a comment or a blank line. -/
def skipped (line : String) : Bool := startsWith line "S" || startsWith line "#" || line == ""

def acknowledges (line : String) : Bool := line == "OK" || startsWith line "OK "

/-! ### The exchange -/

structure Child where
  stdout : Bytes
  failure : Option String := none
  stdin : Sink

structure Exchange where
  reads : List (Except String Bytes)
  stdin : Sink

abbrev Assuan := ExceptT String (StateM Exchange)

def nextLine : List (Except String Bytes) → Except String (String × List (Except String Bytes))
  | [] => .error "pinentry closed the connection"
  | .error reason :: _ => .error reason
  | .ok bytes :: reads =>
    match String.fromUTF8? bytes.toByteArray with
    | none => .error "stream did not contain valid UTF-8"
    | some text => if skipped (trimEnd text) then nextLine reads else .ok (trimEnd text, reads)

/-- The exchange ends with the first error, so what a failed read leaves behind
does not matter. -/
def readLine : Assuan String := do
  let exchange ← get
  let (line, reads) ← nextLine exchange.reads
  set { exchange with reads }
  return line

def writeln (command : String) : Assuan Unit := do
  let exchange ← get
  let (outcome, stdin) := exchange.stdin.writeAll (utf8 (command ++ "\n"))
  set { exchange with stdin }
  match outcome with
  | .ok () => return
  | .error error => throw error.message

def requireOk : Assuan Unit := do
  let line ← readLine
  if acknowledges line then return else throw line

def sendOk (command : String) : Assuan Unit := do
  writeln command
  requireOk

def ttyOption : Option String → Assuan Unit
  | none => return
  | some tty => do
    writeln s!"OPTION ttyname={tty}"
    -- a rejection is ignored, a connection that has ended is not
    let _ ← readLine

/-- From the greeting to `GETPIN`. -/
def requestPin (gpgTty : Option String) (prompt : String) : Assuan Unit := do
  requireOk
  ttyOption gpgTty
  sendOk "SETTITLE Xpra Authentication"
  sendOk "SETPROMPT Password:"
  sendOk s!"SETDESC {assuanEscape prompt}"
  writeln "GETPIN"

theorem nextLine_shorter {reads rest : List (Except String Bytes)} {line : String}
    (next : nextLine reads = .ok (line, rest)) : rest.length < reads.length := by
  fun_induction nextLine reads with
  | case1 => cases next
  | case2 => cases next
  | case3 => cases next
  | case4 bytes reads text decoded skip ih => exact Nat.lt_succ_of_lt (ih next)
  | case5 bytes reads text decoded kept =>
    cases next
    exact Nat.lt_succ_self _

/-- The replies to `GETPIN`, with the text of the last data line so far. -/
def awaitPin (pin : Option String) (reads : List (Except String Bytes)) :
    Except String (Option String × List (Except String Bytes)) :=
  match _next : nextLine reads with
  | .error reason => .error reason
  | .ok (line, rest) =>
    if startsWith line "D " then awaitPin (some (assuanUnescape (String.ofList (line.toList.drop 2)))) rest
    else if acknowledges line then .ok (pin, rest)
    else if startsWith line "ERR" then .ok (none, rest)
    else awaitPin pin rest
termination_by reads.length
decreasing_by all_goals exact nextLine_shorter _next

def readPin : Assuan (Option String) := do
  let exchange ← get
  let (pin, reads) ← awaitPin none exchange.reads
  set { exchange with reads }
  return pin

def exchangePin (gpgTty : Option String) (prompt : String) : Assuan (Option String) := do
  requestPin gpgTty prompt
  let pin ← readPin
  try writeln "BYE" catch _ => pure ()
  return pin

def runPinentry (prog prompt : String) (gpgTty : Option String) : Except String Child → Except String (Option String)
  | .error reason => .error s!"cannot start {prog}: {reason}"
  | .ok child => ((exchangePin gpgTty prompt).run ⟨lineReads child.stdout child.failure, child.stdin⟩).1

end Xpra.Client
