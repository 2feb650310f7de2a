import Xpra.Library.Shell
import Xpra.Library.Utf8
import Xpra.Net.Ssh
import Xpra.Client.Audio

/-! What a shell makes of the remote command. Quoting is undone twice, and between the
two shells the display is nothing but a run of quoted characters. -/

namespace Xpra.Proofs.RemoteCommand
open Xpra.Net Xpra.Net.Ssh Xpra.Client Library Library.Shell

/-! ### Texts and their bytes -/

theorem textBytes_eq (text : String) : textBytes text = text.toList.flatMap String.utf8EncodeChar := Utf8.toList_toUTF8 text

theorem textBytes_append (first rest : String) : textBytes (first ++ rest) = textBytes first ++ textBytes rest := by
  rw [textBytes_eq, textBytes_eq, textBytes_eq, String.toList_append, List.flatMap_append]

/-- Only the quote itself is encoded with the byte of a quote. -/
theorem quote_of_encode {char : Char} (member : SINGLE_QUOTE ∈ String.utf8EncodeChar char) : char = '\x27' := by
  rcases Nat.lt_or_ge char.toNat 128 with low | high
  · rw [Utf8.encode_low low, List.mem_singleton, ← UInt8.toNat_inj, UInt8.toNat_ofNat'] at member
    have same : char.toNat = 39 := by
      have value : SINGLE_QUOTE.toNat = 39 := rfl
      omega
    exact Char.ext (UInt32.toNat_inj.mp same)
  · exact absurd (Utf8.encode_high high member) (by decide)

theorem textBytes_shellQuote (s : String) : textBytes (shellQuote s) = Shell.quote (textBytes s) := by
  have each (char : Char) : (if char = '\x27' then "'\\''".toList else [char]).flatMap String.utf8EncodeChar =
      (String.utf8EncodeChar char).flatMap fun byte =>
        if byte = SINGLE_QUOTE then [SINGLE_QUOTE, BACKSLASH, SINGLE_QUOTE, SINGLE_QUOTE] else [byte] := by
    split
    next quote =>
      subst quote
      rfl
    next other =>
      have none : ∀ byte ∈ String.utf8EncodeChar char, byte ≠ SINGLE_QUOTE :=
        fun byte member same => other (quote_of_encode (same ▸ member))
      have kept : (String.utf8EncodeChar char).flatMap (fun byte =>
          if byte = SINGLE_QUOTE then [SINGLE_QUOTE, BACKSLASH, SINGLE_QUOTE, SINGLE_QUOTE] else [byte]) =
            (String.utf8EncodeChar char).flatMap fun byte => [byte] :=
        List.flatMap_congr fun byte member => if_neg (none byte member)
      rw [kept, List.flatMap_singleton, List.flatMap_singleton']
  have middle : textBytes (String.ofList (s.toList.flatMap fun char => if char = '\x27' then "'\\''".toList else [char])) =
      (textBytes s).flatMap fun byte =>
        if byte = SINGLE_QUOTE then [SINGLE_QUOTE, BACKSLASH, SINGLE_QUOTE, SINGLE_QUOTE] else [byte] := by
    rw [textBytes_eq, String.toList_ofList, textBytes_eq, List.flatMap_assoc, List.flatMap_assoc]
    simp only [each]
  have mark : textBytes "'" = [SINGLE_QUOTE] := by
    rw [textBytes_eq]
    rfl
  rw [shellQuote, textBytes_append, textBytes_append, middle, mark]
  rfl

/-! ### The outer shell -/

theorem outer_parse {script : String} (clean : NUL ∉ textBytes script) :
    Shell.parse (textBytes ("sh -c " ++ shellQuote script)) =
      some (.simple [keyword "sh", keyword "-c", quoted (textBytes script)] []) := by
  have start : run .between (textBytes "sh -c ") = some (.between, [.word (keyword "sh"), .word (keyword "-c")]) := by
    rw [textBytes_eq]
    rfl
  have read := run_then start (run_quote clean)
  rw [Shell.parse, Shell.tokens, textBytes_append, textBytes_shellQuote, read]
  rfl

/-! ### The inner shell -/

/-- The condition of the script. -/
def probe : Program :=
  .simple [keyword "command", keyword "-v", quoted (textBytes "xpra")]
    [⟨none, .great, keyword "/dev/null"⟩, ⟨some (keyword "2"), .greatAmpersand, keyword "1"⟩]

/-- What the script does on a host without the program. -/
def missing : Program :=
  .sequence (.simple [keyword "echo", quoted (textBytes "no xpra command found")]
      [⟨some (keyword "1"), .greatAmpersand, keyword "2"⟩])
    (.simple [keyword "exit", keyword "1"] [])

def guardTokens : List Token := [
  .word (keyword "if"), .word (keyword "command"), .word (keyword "-v"), .word (quoted (textBytes "xpra")),
  .operator .great, .word (keyword "/dev/null"), .number (keyword "2"), .operator .greatAmpersand, .word (keyword "1"),
  .operator .semicolon, .word (keyword "then")]

def missingTokens : List Token := [
  .operator .semicolon, .word (keyword "else"), .word (keyword "echo"), .word (quoted (textBytes "no xpra command found")),
  .number (keyword "1"), .operator .greatAmpersand, .word (keyword "2"), .operator .semicolon, .word (keyword "exit"),
  .word (keyword "1"), .operator .semicolon]

theorem run_guard : run .between (textBytes "if command -v \"xpra\" > /dev/null 2>&1; then ") = some (.between, guardTokens) := by
  rw [guardTokens, textBytes_eq, textBytes_eq]
  rfl

theorem run_missing (word : Word) :
    run (.word word) (textBytes "; else echo \"no xpra command found\" 1>&2; exit 1; fi") =
      some (.word (keyword "fi"), .word word :: missingTokens) := by
  have ended : step (.word word) 59 = some (.operator .semicolon, [.word word]) := by
    have separate : delimited word 59 = .word word := if_neg fun all => absurd all.2.2 (by decide)
    rw [← separate]
    rfl
  rw [missingTokens, textBytes_eq, textBytes_eq]
  exact run_cons.mpr ⟨_, _, _, ended, rfl, rfl⟩

/-- The words of the command that the script runs on a host with the program. -/
def proxyWords (display : String) : List Word :=
  keyword "xpra" :: keyword "_proxy" :: if display.isEmpty then [] else [quoted (textBytes display)]

theorem inner_parse {display : String} (clean : NUL ∉ textBytes display) :
    Shell.parse (textBytes ("if command -v \"xpra\" > /dev/null 2>&1; then " ++
      (if display.isEmpty then "xpra _proxy" else "xpra _proxy " ++ shellQuote display) ++
      "; else echo \"no xpra command found\" 1>&2; exit 1; fi")) = some (.ifElse probe (.simple (proxyWords display) []) missing) := by
  rw [proxyWords]
  cases display.isEmpty with
  | true =>
    have called : run .between (textBytes "xpra _proxy") = some (.word (keyword "_proxy"), [.word (keyword "xpra")]) := by
      rw [textBytes_eq]
      rfl
    have read := run_then (run_then run_guard called) (run_missing _)
    rw [Shell.parse, Shell.tokens, textBytes_append, textBytes_append, if_pos rfl, read]
    rw [guardTokens, missingTokens, probe, missing]
    rfl
  | false =>
    have called : run .between (textBytes "xpra _proxy ") =
        some (.between, [.word (keyword "xpra"), .word (keyword "_proxy")]) := by
      rw [textBytes_eq]
      rfl
    have read := run_then (run_then run_guard (run_then called (run_quote clean))) (run_missing _)
    rw [Shell.parse, Shell.tokens, textBytes_append, textBytes_append, if_neg (by decide), textBytes_append,
      textBytes_shellQuote, read]
    rw [guardTokens, missingTokens, probe, missing]
    rfl

/-! ### Both shells -/

theorem script_clean {display : String} (clean : NUL ∉ textBytes display) :
    NUL ∉ textBytes ("if command -v \"xpra\" > /dev/null 2>&1; then " ++
      (if display.isEmpty then "xpra _proxy" else "xpra _proxy " ++ shellQuote display) ++
      "; else echo \"no xpra command found\" 1>&2; exit 1; fi") := by
  have fixed {text : String} (ascii : NUL ∉ text.toList.flatMap String.utf8EncodeChar) : NUL ∉ textBytes text := by
    rwa [textBytes_eq]
  rw [textBytes_append, textBytes_append, List.mem_append, List.mem_append, not_or, not_or]
  refine ⟨⟨fixed (by decide), ?_⟩, fixed (by decide)⟩
  split
  next => exact fixed (by decide)
  next =>
    rw [textBytes_append, textBytes_shellQuote, List.mem_append, not_or]
    exact ⟨fixed (by decide), quote_clean clean⟩

theorem fields_proxyWords (display : String) : (proxyWords display).mapM field =
    some ([textBytes "xpra", textBytes "_proxy"] ++ if display = "" then [] else [textBytes display]) := by
  have xpra : field (keyword "xpra") = some (textBytes "xpra") := by
    rw [textBytes_eq]
    rfl
  have proxy : field (keyword "_proxy") = some (textBytes "_proxy") := by
    rw [textBytes_eq]
    rfl
  by_cases empty : display = ""
  · subst empty
    simp [proxyWords, xpra, proxy]
  · have some : display.isEmpty = false := by
      simpa using empty
    simp [proxyWords, xpra, proxy, empty, field_quoted]

/-- The outer shell sees three words, the last of them all quoted, and the script in it is
one conditional that runs `xpra _proxy` with the display, all quoted, as one argument.
What else the shells read is the same for every display. -/
theorem remote_command_quotes {display : String} (clean : NUL ∉ textBytes display) : ∃ script,
    Shell.parse (textBytes (remoteCommand display)) = some (.simple [keyword "sh", keyword "-c", quoted script] []) ∧
    [keyword "sh", keyword "-c", quoted script].mapM field = some [textBytes "sh", textBytes "-c", script] ∧
    Shell.parse script = some (.ifElse probe (.simple (proxyWords display) []) missing) ∧
    (proxyWords display).mapM field =
      some ([textBytes "xpra", textBytes "_proxy"] ++ if display = "" then [] else [textBytes display]) := by
  refine ⟨_, outer_parse (script_clean clean), ?_, inner_parse clean, fields_proxyWords display⟩
  have sh : field (keyword "sh") = some (textBytes "sh") := by
    rw [textBytes_eq]
    rfl
  have option : field (keyword "-c") = some (textBytes "-c") := by
    rw [textBytes_eq]
    rfl
  simp [sh, option, field_quoted]

theorem remote_command_quotes_metacharacters : ∃ script,
    Shell.parse (textBytes (remoteCommand "10'; \"rm\" $HOME\n\\")) =
      some (.simple [keyword "sh", keyword "-c", quoted script] []) ∧
    [keyword "sh", keyword "-c", quoted script].mapM field = some [textBytes "sh", textBytes "-c", script] ∧
    Shell.parse script = some (.ifElse probe (.simple (proxyWords "10'; \"rm\" $HOME\n\\") []) missing) ∧
    (proxyWords "10'; \"rm\" $HOME\n\\").mapM field =
      some ([textBytes "xpra", textBytes "_proxy"] ++
        if "10'; \"rm\" $HOME\n\\" = "" then [] else [textBytes "10'; \"rm\" $HOME\n\\"]) :=
  remote_command_quotes (by rw [textBytes_eq]; decide)

end Xpra.Proofs.RemoteCommand
