import Mathlib.Data.List.Basic

/-! Command lines as POSIX `getopt` reads them: options up to the first argument that is
none, each a letter behind a dash, alone or with a value. -/

namespace Library.Getopt

inductive Kind where
  | flag
  | valued
  deriving DecidableEq, Repr

/-- What a program is told by one option. -/
inductive Setting where
  | flag (letter : Char)
  | value (letter : Char) (text : String)
  deriving DecidableEq, Repr

inductive Problem where
  | unknown (letter : Char)
  | missing (letter : Char)
  | usage
  deriving DecidableEq, Repr

/-- The letters of one argument. A letter that takes a value takes what stands behind it
in the argument, or else waits for the next one. -/
def cluster (kind : Char → Option Kind) : List Char → Except Problem (List Setting × Option Char)
  | [] => .ok ([], none)
  | letter :: letters =>
    match kind letter with
    | none => .error (.unknown letter)
    | some .flag => (cluster kind letters).map fun (settings, waiting) => (.flag letter :: settings, waiting)
    | some .valued =>
      if letters = [] then .ok ([], some letter) else .ok ([.value letter (String.ofList letters)], none)

/-- The settings at the front of the arguments, and the operands behind them. -/
def options (kind : Char → Option Kind) : (arguments : List String) → Except Problem (List Setting × List String)
  | [] => .ok ([], [])
  | argument :: rest =>
    match argument.toList with
    | '-' :: letter :: letters =>
      if letter = '-' ∧ letters = [] then .ok ([], rest)
      else match cluster kind (letter :: letters) with
        | .error problem => .error problem
        | .ok (settings, none) => (options kind rest).map fun (more, operands) => (settings ++ more, operands)
        | .ok (settings, some waiting) =>
          match rest with
          | [] => .error (.missing waiting)
          | text :: rest => (options kind rest).map fun (more, operands) => (settings ++ .value waiting text :: more, operands)
    | _ => .ok ([], argument :: rest)
termination_by structural arguments => arguments

/-- A program that connects somewhere and runs a command there. -/
structure Invocation where
  settings : List Setting
  destination : String
  command : List String
  deriving DecidableEq, Repr

/-- Options, the destination, and options again up to the command. -/
def invocation (kind : Char → Option Kind) (arguments : List String) : Except Problem Invocation :=
  match options kind arguments with
  | .error problem => .error problem
  | .ok (_, []) => .error .usage
  | .ok (settings, destination :: rest) =>
    match options kind rest with
    | .error problem => .error problem
    | .ok (more, command) => .ok ⟨settings ++ more, destination, command⟩

/-! ### Writing and reading back -/

def Setting.words : Setting → List String
  | .flag letter => [String.ofList ['-', letter]]
  | .value letter text => [String.ofList ['-', letter], text]

/-- The program knows the option, and takes a value with it where there is one. -/
def Setting.Known (kind : Char → Option Kind) : Setting → Prop
  | .flag letter => letter ≠ '-' ∧ kind letter = some .flag
  | .value letter _ => letter ≠ '-' ∧ kind letter = some .valued

/-- Arguments that do not begin with an option. -/
def Plain (arguments : List String) : Prop := ∀ first ∈ arguments.head?, first.toList.head? ≠ some '-'

variable {kind : Char → Option Kind}

theorem options_plain {arguments : List String} (plain : Plain arguments) : options kind arguments = .ok ([], arguments) := by
  cases arguments with
  | nil => rw [options]
  | cons first rest =>
    have head := plain first rfl
    rw [options]
    split
    next letter letters same =>
      rw [same] at head
      exact absurd rfl head
    next => rfl

theorem options_words (setting : Setting) (known : setting.Known kind) (rest : List String) :
    options kind (setting.words ++ rest) = (options kind rest).map fun (more, operands) => (setting :: more, operands) := by
  cases setting with
  | flag letter =>
    obtain ⟨other, flag⟩ := known
    rw [Setting.words, List.cons_append, List.nil_append, options]
    simp only [String.toList_ofList, other, false_and, if_false, cluster, flag]
    rfl
  | value letter text =>
    obtain ⟨other, valued⟩ := known
    rw [Setting.words, List.cons_append, List.cons_append, List.nil_append, options]
    simp only [String.toList_ofList, other, false_and, if_false, cluster, valued, if_true]
    rfl

/-- The value of an option may stand behind its letter. -/
theorem options_attached {letter : Char} {text : List Char} (other : letter ≠ '-') (valued : kind letter = some .valued)
    (present : text ≠ []) (rest : List String) :
    options kind (String.ofList ('-' :: letter :: text) :: rest) =
      (options kind rest).map fun (more, operands) => (.value letter (String.ofList text) :: more, operands) := by
  rw [options]
  simp only [String.toList_ofList, other, false_and, if_false, cluster, valued, present]
  rfl

/-- Settings are read back as they were written, whatever their values. -/
theorem options_settings (settings : List Setting) (known : ∀ setting ∈ settings, setting.Known kind) (rest : List String) :
    options kind (settings.flatMap Setting.words ++ rest) =
      (options kind rest).map fun (more, operands) => (settings ++ more, operands) := by
  induction settings with
  | nil =>
    rw [List.flatMap_nil, List.nil_append]
    cases options kind rest <;> rfl
  | cons setting settings ih =>
    have later := ih fun other member => known other (List.mem_cons_of_mem setting member)
    rw [List.flatMap_cons, List.append_assoc, options_words setting (known setting List.mem_cons_self), later]
    cases options kind rest <;> rfl

theorem invocation_settings (settings : List Setting) (known : ∀ setting ∈ settings, setting.Known kind) {destination : String}
    (host : destination.toList.head? ≠ some '-') {command : List String} (plain : Plain command) :
    invocation kind (settings.flatMap Setting.words ++ destination :: command) = .ok ⟨settings, destination, command⟩ := by
  have stop : Plain (destination :: command) := by
    intro first member
    cases member
    exact host
  rw [invocation, options_settings settings known, options_plain stop]
  simp only [Except.map, options_plain plain, List.append_nil]

end Library.Getopt
