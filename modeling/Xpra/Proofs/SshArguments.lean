import Xpra.Library.Getopt
import Xpra.Proofs.SshAuthority

/-! What `ssh` makes of the arguments it is started with for a target. -/

namespace Xpra.Proofs.SshArguments
open Xpra.Net Library Getopt TargetGrammar SshAuthority

/-- The options of `ssh` that are used, as its manual has them. -/
structure Documented (kind : Char → Option Kind) : Prop where
  noForwarding : kind 'x' = some .flag
  noTerminal : kind 'T' = some .flag
  port : kind 'p' = some .valued
  login : kind 'l' = some .valued

/-- The settings that are meant: the fixed options, the port and the username. -/
def intended (port : String) (username : Option String) : List Setting :=
  [.flag 'x', .flag 'T'] ++ (if port ≠ "22" then [.value 'p' port] else []) ++
    match username with
    | some user => [.value 'l' user]
    | none => []

/-- `ssh` is told the fixed options, the port and the user, goes to the host and runs the
one command there; and the destination is a host at all. -/
def Obeyed (quote : String → String) (kind : Char → Option Kind) (target : Target) : Prop :=
  ∃ host port arguments, rsplitOnce target.address = some (host, port) ∧
    Ssh.arguments quote target.address target.username target.path = .ok arguments ∧
    invocation kind arguments = .ok ⟨intended port target.username, host, [Ssh.remoteCommand target.path]⟩ ∧
    host ≠ "" ∧ host.toList.head? ≠ some '-'

/-- Of an `ssh://` target, what stands behind the user and before the path. -/
def hostPiece (target : String) : List Char :=
  match Split.cut "://".toList target.toList with
  | none => []
  | some (_, rest) =>
    let authority := rest.takeWhile (· ≠ '/')
    match Split.cut ['@'] authority with
    | some (_, piece) => piece
    | none => authority

/-- A piece that names a host which cannot be taken for an option. -/
structure NamesHost (piece : List Char) : Prop where
  present : piece ≠ []
  harmless : piece.head? ≠ some '-'
  hosted : ∀ port, ':' ∉ port → piece ≠ ':' :: port

variable {quote : String → String} {kind : Char → Option Kind} {target : String} {parsed : Target}

theorem intended_words (port : String) (username : Option String) :
    (intended port username).flatMap Setting.words =
      ["-x", "-T"] ++ (if port ≠ "22" then ["-p", port] else []) ++ login username := by
  unfold intended
  split <;> cases username <;> rfl

theorem intended_known (documented : Documented kind) (port : String) (username : Option String) :
    ∀ setting ∈ intended port username, setting.Known kind := by
  intro setting member
  have fixed : setting = .flag 'x' ∨ setting = .flag 'T' ∨ setting = .value 'p' port ∨ ∃ user, setting = .value 'l' user := by
    unfold intended at member
    split at member <;> cases username <;> simp at member <;> grind
  rcases fixed with rfl | rfl | rfl | ⟨user, rfl⟩
  · exact ⟨by decide, documented.noForwarding⟩
  · exact ⟨by decide, documented.noTerminal⟩
  · exact ⟨by decide, documented.port⟩
  · exact ⟨by decide, documented.login⟩

/-- The remote command begins with the name of a shell. -/
theorem remoteCommand_plain (display : String) : Plain [Ssh.remoteCommand display] := by
  intro first member
  cases member
  simp [Ssh.remoteCommand]

/-- The last colon, or the one of the port that is put in. -/
def address (piece : List Char) : String := String.ofList (if ':' ∈ piece then piece else piece ++ ":22".toList)

theorem address_colon (piece : List Char) : ':' ∈ (address piece).toList := by
  rw [address, String.toList_ofList]
  split
  next colon => exact colon
  next => simp

theorem accepted_address (accepted : parseTarget quote target = .ok parsed) (ssh : parsed.scheme = .ssh) :
    parsed.address = address (hostPiece target) := by
  rw [parseTarget] at accepted
  split at accepted
  · cases accepted
    cases ssh
  split at accepted
  · cases accepted
    cases ssh
  next schemeStr rest found =>
    dsimp only at accepted
    split at accepted
    · repeat' split at accepted
      all_goals
        cases accepted
      cases ssh
    split at accepted
    · cases accepted
    split at accepted
    · cases accepted
    · cases accepted
      rw [hostPiece, parseSsh, address]
      simp only [found]
      cases Split.cut ['@'] (rest.takeWhile (· ≠ '/')) <;> rfl
    next other _ =>
      cases accepted
      exact (other ssh).elim

private theorem named_with_port {piece : List Char} {host port : String} (colon : ':' ∈ piece)
    (found : rsplitOnce (address piece) = some (host, port)) :
    NamesHost piece ↔ host ≠ "" ∧ host.toList.head? ≠ some '-' := by
  obtain ⟨same, free⟩ := rsplitOnce_iff.mp found
  have spelled : piece = host.toList ++ ':' :: port.toList := by
    rw [address, if_pos colon, ← String.toList_inj] at same
    simpa using same
  rw [ne_eq, ← String.toList_eq_nil_iff]
  cases letters : host.toList with
  | nil =>
    rw [letters, List.nil_append] at spelled
    refine iff_of_false ?_ (by simp)
    intro named
    exact named.hosted port.toList free spelled
  | cons first later =>
    rw [letters, List.cons_append] at spelled
    constructor
    · intro named
      have harmless := named.harmless
      rw [spelled] at harmless
      exact ⟨List.cons_ne_nil _ _, harmless⟩
    · rintro ⟨_, harmless⟩
      refine ⟨by simp [spelled], by rw [spelled]; exact harmless, ?_⟩
      intro other absent same
      rw [spelled] at same
      obtain ⟨rfl, rfl⟩ := List.cons.inj same
      simp at absent

theorem namesHost_iff {piece : List Char} {host port : String} (found : rsplitOnce (address piece) = some (host, port)) :
    NamesHost piece ↔ host ≠ "" ∧ host.toList.head? ≠ some '-' := by
  by_cases colon : ':' ∈ piece
  · exact named_with_port colon found
  · have default : address piece = String.ofList piece ++ ":" ++ "22" := by
      rw [address, if_neg colon, ← String.toList_inj]
      simp
    have same := rsplitOnce_iff.mpr ⟨default, by decide⟩
    rw [found] at same
    cases same
    rw [ne_eq, ← String.toList_eq_nil_iff, String.toList_ofList]
    constructor
    · intro named
      exact ⟨named.present, named.harmless⟩
    · rintro ⟨present, harmless⟩
      refine ⟨present, harmless, ?_⟩
      intro port _ same
      rw [same] at colon
      exact colon List.mem_cons_self

/-- The command line for a target with a host. -/
private theorem obeyed_with_host (documented : Documented kind) {host port : String}
    (found : rsplitOnce parsed.address = some (host, port)) (present : host ≠ "") (harmless : host.toList.head? ≠ some '-') :
    Obeyed quote kind parsed := by
  refine ⟨host, port, (intended port parsed.username).flatMap Setting.words ++ [host, Ssh.remoteCommand parsed.path],
    found, ?_, ?_, present, harmless⟩
  · rw [arguments_eq, found, intended_words]
  · exact invocation_settings _ (intended_known documented port parsed.username) harmless (remoteCommand_plain parsed.path)

/-- No text of a target is taken for an option exactly when a host is named where one
belongs. -/
theorem ssh_obeys_iff (documented : Documented kind) (accepted : parseTarget quote target = .ok parsed)
    (ssh : parsed.scheme = .ssh) : Obeyed quote kind parsed ↔ NamesHost (hostPiece target) := by
  have same := accepted_address accepted ssh
  obtain ⟨host, port, found⟩ := rsplitOnce_colon (address_colon (hostPiece target))
  rw [namesHost_iff found]
  constructor
  · rintro ⟨host', port', _, found', _, _, present, harmless⟩
    rw [same, found] at found'
    cases found'
    exact ⟨present, harmless⟩
  · rintro ⟨present, harmless⟩
    rw [← same] at found
    exact obeyed_with_host documented found present harmless

/-- The options of OpenSSH's `ssh`. -/
def openSsh (letter : Char) : Option Kind :=
  if letter ∈ "46AaCfGgKkMNnqsTtVvXxYy".toList then some .flag
  else if letter ∈ "BbcDEeFIiJLlmOoPpQRSWw".toList then some .valued
  else none

theorem openSsh_documented : Documented openSsh where
  noForwarding := by decide
  noTerminal := by decide
  port := by decide
  login := by decide

theorem ssh_obeys_loopback : Obeyed id openSsh ⟨.ssh, "[::1]:2222", "7", some "user"⟩ ↔
    NamesHost (hostPiece "ssh://user@[::1]:2222/7") :=
  ssh_obeys_iff openSsh_documented (by rfl) rfl

private theorem injected (command : String) (plain : Plain [command]) :
    invocation openSsh ["-x", "-T", "-oProxyCommand=x", command] =
      .ok ⟨[.flag 'x', .flag 'T', .value 'o' "ProxyCommand=x"], command, []⟩ := by
  have attached : options openSsh ["-oProxyCommand=x", command] = .ok ([.value 'o' "ProxyCommand=x"], [command]) := by
    have read : options openSsh (String.ofList ('-' :: 'o' :: "ProxyCommand=x".toList) :: [command]) = _ :=
      options_attached (by decide) (by decide) (by decide) [command]
    rw [options_plain plain] at read
    exact read
  have known : ∀ setting ∈ [Setting.flag 'x', .flag 'T'], setting.Known openSsh := by
    simp only [List.mem_cons, List.not_mem_nil, or_false, forall_eq_or_imp, forall_eq]
    exact ⟨⟨by decide, openSsh_documented.noForwarding⟩, ⟨by decide, openSsh_documented.noTerminal⟩⟩
  have whole := options_settings _ known ["-oProxyCommand=x", command]
  rw [attached] at whole
  have front : options openSsh ["-x", "-T", "-oProxyCommand=x", command] =
      .ok ([.flag 'x', .flag 'T', .value 'o' "ProxyCommand=x"], [command]) := whole
  rw [invocation, front]
  simp only [options]
  rfl

private def proxyTarget : Target := { scheme := .ssh, address := "-oProxyCommand=x:22", path := "", username := none }

private theorem proxy_split : rsplitOnce proxyTarget.address = some ("-oProxyCommand=x", "22") :=
  rsplitOnce_iff.mpr ⟨by rfl, by decide⟩

/-- The host is read as an option, and the remote command as the host. -/
theorem proxy_command_injected :
    ∃ parsed arguments, parseTarget id "ssh://-oProxyCommand=x" = .ok parsed ∧ parsed.scheme = .ssh ∧
      Ssh.arguments id parsed.address parsed.username parsed.path = .ok arguments ∧
      invocation openSsh arguments =
        .ok ⟨[.flag 'x', .flag 'T', .value 'o' "ProxyCommand=x"], Ssh.remoteCommand parsed.path, []⟩ ∧
      ¬ Obeyed id openSsh parsed := by
  refine ⟨proxyTarget, ["-x", "-T", "-oProxyCommand=x", Ssh.remoteCommand proxyTarget.path], ?_, ?_, ?_, ?_, ?_⟩
  · rfl
  · rfl
  · rw [arguments_eq, proxy_split]
    rfl
  · exact injected _ (remoteCommand_plain proxyTarget.path)
  · rintro ⟨host, port, arguments, found, _, _, _, harmless⟩
    rw [proxy_split] at found
    cases found
    exact harmless rfl

end Xpra.Proofs.SshArguments
