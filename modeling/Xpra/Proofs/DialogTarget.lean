import Xpra.Client.ConnectDialog
import Mathlib.Data.List.TakeWhile

/-! What the connection dialog hands over is read back by `parse_target`. The host may
not contain a separator of the URI; the username is not checked for one. -/

namespace Xpra.Proofs.DialogTarget
open Xpra.Net Xpra.Client Library

/-! ### What has been entered -/

def chosenScheme (protocol : Fin PROTOCOLS.length) : Scheme :=
  [Scheme.tcp, .tls, .webSocket, .webSocketTls, .ssh][protocol]

def addressHost (host : String) : String :=
  if ':' ∈ host.toList ∧ host.toList.head? ≠ some '[' then "[" ++ host ++ "]" else host

def entered (fields : Fields) (port : UInt16) : Target where
  scheme := chosenScheme fields.protocol
  address := addressHost (trim fields.host) ++ ":" ++ toString port
  path := if chosenScheme fields.protocol = .ssh then "" else "/"
  username := if chosenScheme fields.protocol = .ssh then nonEmpty fields.username else none

/-! ### Reading a URI -/

variable {quote : String → String}

theorem parseTarget_uri {name authority : List Char} {scheme : Scheme} (named : ':' ∉ name) (relative : name.head? ≠ some '/')
    (nonempty : name ≠ []) (known : schemeOf name = some scheme) (remote : eqIgnoreAsciiCase name "socket" = false)
    (plain : '/' ∉ authority) (present : authority ≠ []) :
    parseTarget quote (String.ofList (name ++ "://".toList ++ authority ++ ['/'])) =
      .ok (if scheme = .ssh then parseSsh authority ['/'] else
        { scheme, address := String.ofList authority, path := "/", username := none }) := by
  have found : Split.cut "://".toList (name ++ "://".toList ++ (authority ++ ['/'])) = some (name, authority ++ ['/']) :=
    Split.cut_append named (authority ++ ['/'])
  have head : (name ++ "://".toList ++ authority ++ ['/']).head? ≠ some '/' := by
    cases name with
    | nil => exact absurd rfl nonempty
    | cons first rest => simpa using relative
  have free : ∀ char ∈ authority, decide (char ≠ '/') = true := by
    intro char member
    rw [decide_eq_true_eq]
    rintro rfl
    exact plain member
  have before : (authority ++ ['/']).takeWhile (· ≠ '/') = authority := by
    rw [List.takeWhile_append_of_pos free]
    simp
  have after : (authority ++ ['/']).dropWhile (· ≠ '/') = ['/'] := by
    rw [List.dropWhile_append_of_pos free]
    simp
  rw [parseTarget, String.toList_ofList, if_neg head]
  rw [List.append_assoc (name ++ "://".toList)]
  simp only [found, remote, Bool.false_eq_true, if_false, before, after, if_neg present, known]
  cases scheme <;> rfl

theorem parseSsh_user {user hostPort : List Char} (absent : '@' ∉ user) (colon : ':' ∈ hostPort) :
    parseSsh (user ++ '@' :: hostPort) ['/'] =
      { scheme := .ssh, address := String.ofList hostPort, path := "", username := some (String.ofList user) } := by
  have found : Split.cut ['@'] (user ++ '@' :: hostPort) = some (user, hostPort) :=
    List.append_assoc user ['@'] hostPort ▸ Split.cut_append absent hostPort
  simp [parseSsh, found, colon]

theorem parseSsh_plain {hostPort : List Char} (absent : '@' ∉ hostPort) (colon : ':' ∈ hostPort) :
    parseSsh hostPort ['/'] = { scheme := .ssh, address := String.ofList hostPort, path := "", username := none } := by
  simp [parseSsh, Split.cut_eq_none absent, colon]

/-- A username that has been read stands before the first slash and the first `@`. -/
theorem parseTarget_username {target user : String} {parsed : Target} (read : parseTarget quote target = .ok parsed)
    (brought : parsed.username = some user) : '/' ∉ user.toList ∧ '@' ∉ user.toList := by
  rw [parseTarget] at read
  split at read
  next =>
    cases read
    cases brought
  next =>
    split at read
    next =>
      cases read
      cases brought
    next schemeStr rest found =>
      simp only [] at read
      repeat' split at read
      all_goals cases read
      all_goals first | cases brought | skip
      rw [parseSsh] at brought
      cases cut : Split.cut ['@'] (rest.takeWhile (· ≠ '/')) with
      | none => simp only [cut, reduceCtorEq] at brought
      | some halves =>
        obtain ⟨absent, within⟩ := Split.cut_before cut
        simp only [cut, Option.some.injEq] at brought
        rw [← brought, String.toList_ofList]
        refine ⟨fun slash => ?_, absent⟩
        have early := List.mem_takeWhile_imp (within _ slash)
        simp at early

/-! ### What is handed over -/

variable {dialog after : ConnectDialog} {details : ConnectDetails}

theorem submit_connect (accepted : dialog.submit = (.connect details, after)) :
    ∃ port, parseU16 (trim dialog.port) = some port ∧ '/' ∉ (trim dialog.host).toList ∧ '@' ∉ (trim dialog.host).toList ∧
      details.uri = buildUri (PROTOCOLS.get dialog.protocol).1 (trim dialog.host) port (nonEmpty dialog.username) ∧
      details.password = nonEmpty dialog.password := by
  rw [ConnectDialog.submit] at accepted
  simp only [ConnectDialog.reject] at accepted
  split at accepted
  next => cases accepted
  next =>
    split at accepted
    next => cases accepted
    next valid =>
      simp only [not_or] at valid
      split at accepted
      next port entered =>
        split at accepted
        next =>
          simp only [Prod.mk.injEq, ConnectAction.connect.injEq] at accepted
          refine ⟨port, entered, valid.2.1, valid.2.2, ?_⟩
          rw [← accepted.1]
          constructor
          · rfl
          · rfl
        next => cases accepted
      next => cases accepted

theorem digit_of_mem {port : UInt16} {char : Char} (member : char ∈ (toString port).toList) : char.isDigit = true := by
  have repr : (toString port).toList = Nat.toDigits 10 port.toNat := by
    simp [toString]
  rw [repr] at member
  exact Nat.isDigit_of_mem_toDigits (by decide) (by decide) member

def hostPort (host : String) (port : UInt16) : List Char := (addressHost host ++ ":" ++ toString port).toList

theorem colon_hostPort (host : String) (port : UInt16) : ':' ∈ hostPort host port := by
  simp [hostPort]

theorem ofList_hostPort (host : String) (port : UInt16) :
    String.ofList (hostPort host port) = addressHost host ++ ":" ++ toString port :=
  String.ofList_toList

/-- Neither the port nor the brackets bring in a separator. -/
theorem not_mem_hostPort {char : Char} {host : String} (absent : char ∉ host.toList)
    (other : char ∉ [':', '[', ']'] ∧ char.isDigit = false) (port : UInt16) : char ∉ hostPort host port := by
  have digits : char ∉ (toString port).toList := fun member => by simp [digit_of_mem member] at other
  have bracketed : char ∉ (addressHost host).toList := by
    rw [addressHost]
    split
    · simp_all
    · exact absent
  simp_all [hostPort]

/-! ### There and back -/

theorem protocol_facts : ∀ protocol : Fin PROTOCOLS.length, ':' ∉ (PROTOCOLS.get protocol).1.toList ∧
    (PROTOCOLS.get protocol).1.toList.head? ≠ some '/' ∧ (PROTOCOLS.get protocol).1.toList ≠ [] ∧
    schemeOf (PROTOCOLS.get protocol).1.toList = some (chosenScheme protocol) ∧
    eqIgnoreAsciiCase (PROTOCOLS.get protocol).1.toList "socket" = false ∧
    ((PROTOCOLS.get protocol).1 = "ssh" ↔ chosenScheme protocol = .ssh) := by
  decide

def authority (scheme : Scheme) (username : Option String) (hostPort : List Char) : List Char :=
  match scheme, username with
  | .ssh, some user => user.toList ++ '@' :: hostPort
  | _, _ => hostPort

theorem authority_plain {scheme : Scheme} {username : Option String} (other : scheme ≠ .ssh ∨ username = none)
    (hostPort : List Char) : authority scheme username hostPort = hostPort := by
  rcases other with other | rfl
  · cases scheme <;> simp_all [authority]
  · cases scheme <;> rfl

theorem buildUri_eq (protocol : Fin PROTOCOLS.length) (host : String) (port : UInt16) (username : Option String) :
    buildUri (PROTOCOLS.get protocol).1 host port username =
      String.ofList ((PROTOCOLS.get protocol).1.toList ++ "://".toList ++
        authority (chosenScheme protocol) username (hostPort host port) ++ ['/']) := by
  have ssh := (protocol_facts protocol).2.2.2.2.2
  have plain : s!"{(PROTOCOLS.get protocol).1}://{addressHost host}:{port}/" =
      String.ofList ((PROTOCOLS.get protocol).1.toList ++ "://".toList ++ hostPort host port ++ ['/']) := by
    rw [← String.toList_inj]
    simp [hostPort, toString]
  cases username with
  | none => rw [authority_plain (.inr rfl), ← plain]; rfl
  | some user =>
    by_cases chosen : chosenScheme protocol = .ssh
    · have named := ssh.mpr chosen
      rw [buildUri, if_pos named, chosen, authority, ← String.toList_inj]
      simp [hostPort, addressHost, toString]
    · have named := mt ssh.mp chosen
      rw [authority_plain (.inl chosen), ← plain, buildUri, if_neg named]
      rfl

theorem parseTarget_buildUri {fields : Fields} {port : UInt16} (slash : '/' ∉ (trim fields.host).toList)
    (separator : '@' ∉ (trim fields.host).toList)
    (plain : chosenScheme fields.protocol = .ssh → ∀ username, nonEmpty fields.username = some username →
      '/' ∉ username.toList ∧ '@' ∉ username.toList) :
    parseTarget quote (buildUri (PROTOCOLS.get fields.protocol).1 (trim fields.host) port (nonEmpty fields.username)) =
      .ok (entered fields port) := by
  have noSlash := not_mem_hostPort slash (by decide) port
  have noSeparator := not_mem_hostPort separator (by decide) port
  have colon := colon_hostPort (trim fields.host) port
  obtain ⟨named, relative, nonempty, known, remote, -⟩ := protocol_facts fields.protocol
  rw [buildUri_eq]
  by_cases ssh : chosenScheme fields.protocol = .ssh
  · cases username : nonEmpty fields.username with
    | none =>
      rw [authority_plain (.inr rfl), parseTarget_uri named relative nonempty known remote noSlash
        (List.ne_nil_of_mem colon), if_pos ssh, parseSsh_plain noSeparator colon]
      simp [entered, ssh, username, ofList_hostPort]
    | some user =>
      obtain ⟨userSlash, userSeparator⟩ := plain ssh user username
      have free : '/' ∉ user.toList ++ '@' :: hostPort (trim fields.host) port := by
        simp [userSlash, noSlash]
      rw [ssh] at known ⊢
      rw [authority, parseTarget_uri named relative nonempty known remote free (by simp), if_pos rfl,
        parseSsh_user userSeparator colon]
      simp [entered, ssh, username, ofList_hostPort]
  · rw [authority_plain (.inl ssh), parseTarget_uri named relative nonempty known remote noSlash
      (List.ne_nil_of_mem colon), if_neg ssh]
    simp [entered, ssh, ofList_hostPort]

/-- What the dialog accepts is read back as entered, unless a username for ssh has a
separator of the URI in it. -/
theorem target_as_entered_iff (quote : String → String) (dialog after : ConnectDialog) (details : ConnectDetails)
    (accepted : dialog.submit = (.connect details, after)) :
    (∃ port, parseU16 (trim dialog.port) = some port ∧
        parseTarget quote details.uri = .ok (entered dialog.toFields port)) ↔
      (chosenScheme dialog.protocol = .ssh → ∀ username, nonEmpty dialog.username = some username →
        '/' ∉ username.toList ∧ '@' ∉ username.toList) := by
  obtain ⟨port, number, slash, separator, uri, -⟩ := submit_connect accepted
  constructor
  · rintro ⟨other, -, read⟩ ssh username given
    exact parseTarget_username read (by simp [entered, ssh, given])
  · intro plain
    rw [uri]
    exact ⟨port, number, parseTarget_buildUri slash separator plain⟩

theorem target_as_entered_iff_address :
    parseTarget id "wss://[::1]:443/" =
      .ok { scheme := .webSocketTls, address := "[::1]:443", path := "/", username := none } := by
  let dialog : ConnectDialog := { window := 1, protocol := 3, host := " ::1", port := "+443", username := "a@b" }
  have accepted : dialog.submit =
      (.connect { uri := "wss://[::1]:443/", username := some "a@b", password := none }, dialog) := by decide +kernel
  obtain ⟨port, number, read⟩ := (target_as_entered_iff id dialog dialog _ accepted).mpr (by decide)
  have entered_ : parseU16 (trim dialog.port) = some 443 := by decide +kernel
  rw [read]
  cases number.symm.trans entered_
  decide +kernel

/-- The part of a username behind an `@` becomes part of the host. -/
theorem username_ends_up_in_host :
    ∃ dialog after details, ConnectDialog.submit dialog = (.connect details, after) ∧
      parseU16 (trim dialog.port) = some 22 ∧ entered dialog.toFields 22 =
        { scheme := .ssh, address := "example.org:22", path := "", username := some "a@b" } ∧
      parseTarget id details.uri =
        .ok { scheme := .ssh, address := "b@example.org:22", path := "", username := some "a" } := by
  let dialog : ConnectDialog := { window := 1, protocol := 4, host := "example.org", port := "22", username := "a@b" }
  refine ⟨dialog, dialog, { uri := "ssh://a@b@example.org:22/", username := some "a@b", password := none }, ?_, ?_, ?_, ?_⟩
  all_goals decide +kernel

end Xpra.Proofs.DialogTarget
