import Mathlib.Data.List.Basic

/-! The shell command language of POSIX, as far as a line of quoted words, lists and
conditional clauses needs it. What a word would be expanded by is outside the subset: a
text with an expansion in it does not parse. -/

namespace Library.Shell

/-- A byte of a word, and whether it was quoted. -/
structure Letter where
  byte : UInt8
  quoted : Bool
  deriving DecidableEq, Repr

abbrev Word := List Letter

def plain (bytes : List UInt8) : Word := bytes.map fun byte => ⟨byte, false⟩

def quoted (bytes : List UInt8) : Word := bytes.map fun byte => ⟨byte, true⟩

inductive Operator where
  | newline
  | semicolon
  | semicolons
  | ampersand
  | ampersands
  | pipe
  | pipes
  | left
  | right
  | less
  | lesses
  | lessAmpersand
  | lessGreater
  | great
  | greats
  | greatAmpersand
  | greatPipe
  deriving DecidableEq, Repr

inductive Token where
  | word (word : Word)
  | number (digits : Word)
  | operator (operator : Operator)
  deriving DecidableEq, Repr

/-! ### Token recognition -/

def NUL : UInt8 := 0
def TAB : UInt8 := 9
def NEWLINE : UInt8 := 10
def SPACE : UInt8 := 32
def DOUBLE_QUOTE : UInt8 := 34
def HASH : UInt8 := 35
def DOLLAR : UInt8 := 36
def SINGLE_QUOTE : UInt8 := 39
def BACKSLASH : UInt8 := 92
def BACKQUOTE : UInt8 := 96

def operatorOf (byte : UInt8) : Option Operator :=
  if byte = NEWLINE then some .newline
  else if byte = 59 then some .semicolon
  else if byte = 38 then some .ampersand
  else if byte = 124 then some .pipe
  else if byte = 40 then some .left
  else if byte = 41 then some .right
  else if byte = 60 then some .less
  else if byte = 62 then some .great
  else none

/-- An operator that a second character makes longer. -/
def Operator.extend (operator : Operator) (byte : UInt8) : Option Operator :=
  match operator, operatorOf byte with
  | .semicolon, some .semicolon => some .semicolons
  | .ampersand, some .ampersand => some .ampersands
  | .pipe, some .pipe => some .pipes
  | .less, some .less => some .lesses
  | .less, some .ampersand => some .lessAmpersand
  | .less, some .great => some .lessGreater
  | .great, some .great => some .greats
  | .great, some .ampersand => some .greatAmpersand
  | .great, some .pipe => some .greatPipe
  | _, _ => none

inductive Mode where
  | between
  | comment
  | operator (operator : Operator)
  | word (word : Word)
  | escaped (word : Option Word)
  | single (word : Word)
  | double (word : Word)
  | doubleEscaped (word : Word)

/-- A character where a token may start. -/
def start (byte : UInt8) : Option (Mode × List Token) :=
  if byte = NUL ∨ byte = DOLLAR ∨ byte = BACKQUOTE then none
  else if byte = SPACE ∨ byte = TAB then some (.between, [])
  else if byte = HASH then some (.comment, [])
  else if byte = BACKSLASH then some (.escaped none, [])
  else if byte = SINGLE_QUOTE then some (.single [], [])
  else if byte = DOUBLE_QUOTE then some (.double [], [])
  else match operatorOf byte with
    | some operator => some (.operator operator, [])
    | none => some (.word [⟨byte, false⟩], [])

def isDigit (letter : Letter) : Bool := !letter.quoted && 48 ≤ letter.byte && letter.byte ≤ 57

/-- A word of digits before a redirection is the number of a file descriptor. -/
def delimited (word : Word) (byte : UInt8) : Token :=
  if word ≠ [] ∧ word.all isDigit ∧ (operatorOf byte = some .less ∨ operatorOf byte = some .great) then .number word
  else .word word

def step (mode : Mode) (byte : UInt8) : Option (Mode × List Token) :=
  if byte = NUL then none
  else match mode with
    | .between => start byte
    | .comment => if byte = NEWLINE then start byte else some (.comment, [])
    | .operator operator => match operator.extend byte with
      | some longer => some (.operator longer, [])
      | none => (start byte).map fun (mode, tokens) => (mode, .operator operator :: tokens)
    | .word word =>
      if byte = DOLLAR ∨ byte = BACKQUOTE then none
      else if byte = BACKSLASH then some (.escaped (some word), [])
      else if byte = SINGLE_QUOTE then some (.single word, [])
      else if byte = DOUBLE_QUOTE then some (.double word, [])
      else if byte = SPACE ∨ byte = TAB ∨ (operatorOf byte).isSome then
        (start byte).map fun (mode, tokens) => (mode, delimited word byte :: tokens)
      else some (.word (word ++ [⟨byte, false⟩]), [])
    | .escaped word =>
      -- an escaped newline joins two lines and leaves no character
      if byte = NEWLINE then some (word.elim .between .word, [])
      else some (.word (word.getD [] ++ [⟨byte, true⟩]), [])
    | .single word =>
      if byte = SINGLE_QUOTE then some (.word word, []) else some (.single (word ++ [⟨byte, true⟩]), [])
    | .double word =>
      if byte = DOLLAR ∨ byte = BACKQUOTE then none
      else if byte = BACKSLASH then some (.doubleEscaped word, [])
      else if byte = DOUBLE_QUOTE then some (.word word, [])
      else some (.double (word ++ [⟨byte, true⟩]), [])
    | .doubleEscaped word =>
      if byte = NEWLINE then some (.double word, [])
      else if byte = DOLLAR ∨ byte = BACKQUOTE ∨ byte = BACKSLASH ∨ byte = DOUBLE_QUOTE then
        some (.double (word ++ [⟨byte, true⟩]), [])
      else some (.double (word ++ [⟨BACKSLASH, true⟩, ⟨byte, true⟩]), [])

/-- What is left at the end of the text; an open quotation has no tokens. -/
def finish : Mode → Option (List Token)
  | .between | .comment => some []
  | .operator operator => some [.operator operator]
  | .word word => some [.word word]
  | .escaped _ | .single _ | .double _ | .doubleEscaped _ => none

def run (mode : Mode) : List UInt8 → Option (Mode × List Token)
  | [] => some (mode, [])
  | byte :: rest => do
    let (mode, here) ← step mode byte
    let (mode, later) ← run mode rest
    return (mode, here ++ later)

def tokens (text : List UInt8) : Option (List Token) := do
  let (mode, here) ← run .between text
  let last ← finish mode
  return here ++ last

/-! ### The grammar -/

structure Redirect where
  number : Option Word
  operator : Operator
  target : Word
  deriving DecidableEq, Repr

inductive Program where
  | simple (words : List Word) (redirects : List Redirect)
  | negated (program : Program)
  | pipeline (first second : Program)
  | conjunction (first second : Program)
  | disjunction (first second : Program)
  | sequence (first second : Program)
  | background (program : Program)
  | ifThen (condition body : Program)
  | ifElse (condition body otherwise : Program)
  deriving DecidableEq, Repr

def keyword (text : String) : Word := plain (text.toList.map fun char => UInt8.ofNat char.toNat)

/-- Reserved words are recognised where a command may start, if nothing in them is
quoted. -/
def reserved : List Word :=
  ["!", "\x7b", "\x7d", "case", "do", "done", "elif", "else", "esac", "fi", "for", "if", "in", "then", "until", "while"].map
    keyword

def Operator.redirects : Operator → Bool
  | .less | .lessAmpersand | .lessGreater | .great | .greats | .greatAmpersand | .greatPipe => true
  | _ => false

/-- `name=value` before the name of a command would be an assignment. -/
def assignment (word : Word) : Bool := (⟨61, false⟩ : Letter) ∈ word

def parseSimple : (words : List Word) → (redirects : List Redirect) → List Token → Option (Program × List Token)
  | words, redirects, .word word :: rest =>
    if words = [] ∧ assignment word then none else parseSimple (words ++ [word]) redirects rest
  | words, redirects, .number number :: .operator operator :: .word target :: rest =>
    if operator.redirects then parseSimple words (redirects ++ [⟨some number, operator, target⟩]) rest else none
  | words, redirects, .operator operator :: .word target :: rest =>
    if operator.redirects then parseSimple words (redirects ++ [⟨none, operator, target⟩]) rest
    else if words = [] ∧ redirects = [] then none
    else some (.simple words redirects, .operator operator :: .word target :: rest)
  | words, redirects, rest => if words = [] ∧ redirects = [] then none else some (.simple words redirects, rest)

def skipNewlines : List Token → List Token
  | .operator .newline :: rest => skipNewlines rest
  | rest => rest

/-- A list ends at the end of the text and before a word that closes or continues the
clause around it. -/
def ends : List Token → Bool
  | [] => true
  | .word word :: _ => word ∈ ["then", "else", "elif", "fi", "do", "done", "esac", "\x7d"].map keyword
  | .operator .right :: _ => true
  | _ => false

def expect (word : Word) : List Token → Option (List Token)
  | .word other :: rest => if other = word then some rest else none
  | _ => none

mutual

def parseList : (fuel : Nat) → List Token → Option (Program × List Token)
  | 0, _ => none
  | fuel + 1, input => do
    let (first, rest) ← parseAndOr fuel (skipNewlines input)
    match rest with
    | .operator .semicolon :: rest | .operator .newline :: rest =>
      let rest := skipNewlines rest
      if ends rest then return (first, rest)
      let (second, rest) ← parseList fuel rest
      return (.sequence first second, rest)
    | .operator .ampersand :: rest =>
      let rest := skipNewlines rest
      if ends rest then return (.background first, rest)
      let (second, rest) ← parseList fuel rest
      return (.sequence (.background first) second, rest)
    | rest => return (first, rest)

def parseAndOr : (fuel : Nat) → List Token → Option (Program × List Token)
  | 0, _ => none
  | fuel + 1, input => do
    let (first, rest) ← parsePipeline fuel input
    parseMore fuel first rest

/-- `&&` and `||` have one precedence and group to the left. -/
def parseMore : (fuel : Nat) → Program → List Token → Option (Program × List Token)
  | 0, _, _ => none
  | fuel + 1, first, .operator .ampersands :: rest => do
    let (second, rest) ← parsePipeline fuel (skipNewlines rest)
    parseMore fuel (.conjunction first second) rest
  | fuel + 1, first, .operator .pipes :: rest => do
    let (second, rest) ← parsePipeline fuel (skipNewlines rest)
    parseMore fuel (.disjunction first second) rest
  | _ + 1, first, rest => some (first, rest)

def parsePipeline : (fuel : Nat) → List Token → Option (Program × List Token)
  | 0, _ => none
  | fuel + 1, input => match expect (keyword "!") input with
    | some rest => do
      let (program, rest) ← parsePiped fuel rest
      return (.negated program, rest)
    | none => parsePiped fuel input

def parsePiped : (fuel : Nat) → List Token → Option (Program × List Token)
  | 0, _ => none
  | fuel + 1, input => do
    let (first, rest) ← parseCommand fuel input
    match rest with
    | .operator .pipe :: rest =>
      let (second, rest) ← parsePiped fuel (skipNewlines rest)
      return (.pipeline first second, rest)
    | rest => return (first, rest)

def parseCommand : (fuel : Nat) → List Token → Option (Program × List Token)
  | 0, _ => none
  | fuel + 1, .word word :: rest =>
    if word = keyword "if" then parseIf fuel rest
    else if word ∈ reserved then none
    else parseSimple [] [] (.word word :: rest)
  | _ + 1, input => parseSimple [] [] input

def parseIf : (fuel : Nat) → List Token → Option (Program × List Token)
  | 0, _ => none
  | fuel + 1, input => do
    let (condition, rest) ← parseList fuel input
    let rest ← expect (keyword "then") rest
    let (body, rest) ← parseList fuel rest
    match rest with
    | .word word :: rest =>
      if word = keyword "fi" then return (.ifThen condition body, rest)
      else if word = keyword "elif" then
        let (otherwise, rest) ← parseIf fuel rest
        return (.ifElse condition body otherwise, rest)
      else if word = keyword "else" then
        let (otherwise, rest) ← parseList fuel rest
        let rest ← expect (keyword "fi") rest
        return (.ifElse condition body otherwise, rest)
      else none
    | _ => none

end

/-- Every token costs at most seven calls of the functions above. -/
def parseTokens (input : List Token) : Option Program :=
  match parseList (7 * input.length + 7) input with
  | some (program, []) => some program
  | _ => none

def parse (text : List UInt8) : Option Program := (tokens text).bind parseTokens

/-- What a word stands for, if no unquoted character of it asks for another expansion:
a tilde, or a pattern for file names. -/
def field (word : Word) : Option (List UInt8) :=
  if word.all fun letter => letter.quoted || letter.byte ∉ [42, 63, 91, 126] then some (word.map Letter.byte) else none

/-! ### Quoting -/

/-- A text in single quotes, with every single quote in it written as a quotation that
ends, an escaped quote and a quotation that begins. -/
def quote (text : List UInt8) : List UInt8 :=
  SINGLE_QUOTE :: text.flatMap (fun byte =>
    if byte = SINGLE_QUOTE then [SINGLE_QUOTE, BACKSLASH, SINGLE_QUOTE, SINGLE_QUOTE] else [byte]) ++ [SINGLE_QUOTE]

theorem quote_clean {text : List UInt8} (clean : NUL ∉ text) : NUL ∉ quote text := by
  simp only [quote, List.cons_append, List.mem_cons, List.mem_append, List.mem_flatMap, List.not_mem_nil, or_false, not_or,
    not_exists, not_and]
  refine ⟨by decide, fun byte member => ?_, by decide⟩
  split
  next => decide
  next =>
    intro here
    rw [List.mem_singleton] at here
    exact clean (here ▸ member)

theorem run_cons {mode last : Mode} {byte : UInt8} {rest : List UInt8} {read : List Token} :
    run mode (byte :: rest) = some (last, read) ↔
      ∃ middle here later, step mode byte = some (middle, here) ∧ run middle rest = some (last, later) ∧ here ++ later = read := by
  rw [run]
  simp only [Option.bind_eq_bind, Option.bind_eq_some_iff, Option.pure_def, Option.some.injEq, Prod.mk.injEq, Prod.exists]
  constructor
  · rintro ⟨middle, here, stepped, _, later, ran, rfl, rfl⟩
    exact ⟨middle, here, later, stepped, ran, rfl⟩
  · rintro ⟨middle, here, later, stepped, ran, rfl⟩
    exact ⟨middle, here, stepped, last, later, ran, rfl, rfl⟩

theorem run_then {mode middle last : Mode} {first rest : List UInt8} {here later : List Token}
    (start : run mode first = some (middle, here)) (finish : run middle rest = some (last, later)) :
    run mode (first ++ rest) = some (last, here ++ later) := by
  induction first generalizing mode here with
  | nil =>
    cases start
    exact finish
  | cons byte first ih =>
    obtain ⟨next, one, others, stepped, ran, rfl⟩ := run_cons.mp start
    exact run_cons.mpr ⟨next, one, others ++ later, stepped, ih ran, (List.append_assoc _ _ _).symm⟩

theorem run_single {text : List UInt8} (clean : NUL ∉ text) (word : Word) :
    run (.single word) (text.flatMap (fun byte =>
      if byte = SINGLE_QUOTE then [SINGLE_QUOTE, BACKSLASH, SINGLE_QUOTE, SINGLE_QUOTE] else [byte])) =
        some (.single (word ++ quoted text), []) := by
  induction text generalizing word with
  | nil => simp [run, quoted]
  | cons byte text ih =>
    obtain ⟨here, later⟩ := not_or.mp (mt List.mem_cons.mpr clean)
    have rest := ih later (word ++ [⟨byte, true⟩])
    have first : run (.single word) (if byte = SINGLE_QUOTE then [SINGLE_QUOTE, BACKSLASH, SINGLE_QUOTE, SINGLE_QUOTE] else [byte]) =
        some (.single (word ++ [⟨byte, true⟩]), []) := by
      split
      next quote =>
        subst quote
        rfl
      next other => simp [run, step, other, Ne.symm here]
    rw [List.flatMap_cons, run_then first rest, List.append_assoc]
    rfl

/-- A quoted text is read as its own characters, all of them quoted. -/
theorem run_quote {text : List UInt8} (clean : NUL ∉ text) : run .between (quote text) = some (.word (quoted text), []) := by
  have inside := run_single clean []
  have opened : run .between [SINGLE_QUOTE] = some (.single [], []) := rfl
  have closed : run (.single (quoted text)) [SINGLE_QUOTE] = some (.word (quoted text), []) := rfl
  have both := run_then opened inside
  rw [List.nil_append] at both
  exact run_then both closed

@[simp] theorem bytes_quoted (text : List UInt8) : (quoted text).map Letter.byte = text := by
  simp [quoted, Function.comp_def]

theorem field_quoted (text : List UInt8) : field (quoted text) = some text := by
  rw [field, if_pos (by simp [quoted]), bytes_quoted]

end Library.Shell
