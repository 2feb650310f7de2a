import Xpra.Net.Ssh
import Xpra.Proofs.TargetGrammar

/-! The authority of an `ssh://` URI, from the text to the host and the port that `ssh`
is started with. -/

namespace Xpra.Proofs.SshAuthority
open Xpra.Net Library TargetGrammar

/-! ### The last colon -/

/-- `rsplit_once(':')`. -/
def rsplitOnce (address : String) : Option (String × String) :=
  (Split.cut [':'] address.toList.reverse).map fun (port, host) => (String.ofList host.reverse, String.ofList port.reverse)

theorem rsplitOnce_iff {address host port : String} :
    rsplitOnce address = some (host, port) ↔ address = host ++ ":" ++ port ∧ ':' ∉ port.toList := by
  have spelled : address = host ++ ":" ++ port ↔ address.toList = host.toList ++ ':' :: port.toList := by
    rw [← String.toList_inj]
    simp
  rw [spelled, ← Split.cut_reverse_iff, rsplitOnce, Option.map_eq_some_iff]
  constructor
  · rintro ⟨⟨mirroredPort, mirroredHost⟩, found, same⟩
    simp only [Prod.mk.injEq] at same
    obtain ⟨rfl, rfl⟩ := same
    simpa using found
  · intro found
    exact ⟨_, found, by simp⟩

theorem rsplitOnce_colon {address : String} (colon : ':' ∈ address.toList) : ∃ host port, rsplitOnce address = some (host, port) := by
  cases found : Split.cut [':'] address.toList.reverse with
  | none =>
    obtain ⟨before, after, same⟩ := List.append_of_mem (List.mem_reverse.mpr colon)
    exact absurd (by simpa using same) (Split.cut_eq_none_iff.mp found before after)
  | some halves => exact ⟨_, _, by rw [rsplitOnce, found]; rfl⟩

/-- The option for a username. -/
def login : Option String → List String
  | some user => ["-l", user]
  | none => []

theorem arguments_eq (quote : String → String) (address : String) (username : Option String) (display : String) :
    Ssh.arguments quote address username display = match rsplitOnce address with
      | none => .error s!"missing port in {quote address}"
      | some (host, port) => .ok (["-x", "-T"] ++ (if port ≠ "22" then ["-p", port] else []) ++ login username ++
          [host, Ssh.remoteCommand display]) := by
  unfold Ssh.arguments rsplitOnce
  cases Split.cut [':'] address.toList.reverse with
  | none => rfl
  | some halves => cases username <;> rfl

/-! ### The authority -/

/-- The hosts that an authority may name. -/
inductive Host where
  /-- A name or an IPv4 address. -/
  | plain (text : String) (present : text ≠ "") (free : ∀ separator ∈ [':', '@', '/'], separator ∉ text.toList)
  | ipv6 (text : String) (colon : ':' ∈ text.toList) (free : ∀ separator ∈ ['@', '/'], separator ∉ text.toList)

def Host.text : Host → String
  | .plain text _ _ => text
  | .ipv6 text _ _ => "[" ++ text ++ "]"

def Host.bracketed : Host → Prop
  | .plain _ _ _ => False
  | .ipv6 _ _ _ => True

/-- An `ssh://` URI by its parts. -/
structure SshUri where
  scheme : String
  user : Option String
  host : Host
  port : Option String
  path : String
  named : AnyCase scheme "ssh"
  userFree : ∀ text ∈ user, '@' ∉ text.toList ∧ '/' ∉ text.toList
  digits : ∀ text ∈ port, ∀ char ∈ text.toList, char.isDigit = true
  rooted : path = "" ∨ Absolute path

namespace SshUri

def hostPort (uri : SshUri) : String :=
  match uri.port with
  | some port => uri.host.text ++ ":" ++ port
  | none => uri.host.text

def authority (uri : SshUri) : String :=
  match uri.user with
  | some user => user ++ "@" ++ uri.hostPort
  | none => uri.hostPort

def text (uri : SshUri) : String := uri.scheme ++ "://" ++ (uri.authority ++ uri.path)

end SshUri

/-- The user, the host and the port come out as they went in. -/
def Recovered (quote : String → String) (uri : SshUri) : Prop :=
  ∃ parsed, parseTarget quote uri.text = .ok parsed ∧ parsed.scheme = .ssh ∧ parsed.username = uri.user ∧
    rsplitOnce parsed.address = some (uri.host.text, uri.port.getD "22")

variable {quote : String → String} {uri : SshUri}

theorem Host.text_free {host : Host} {separator : Char} (listed : separator ∈ ['@', '/']) : separator ∉ host.text.toList := by
  cases host with
  | plain text _ free =>
    exact free separator (List.mem_cons_of_mem _ listed)
  | ipv6 text _ free =>
    have inside := free separator listed
    simp only [List.mem_cons, List.not_mem_nil, or_false] at listed
    rcases listed with rfl | rfl <;> simpa [Host.text] using inside

theorem colon_iff {host : Host} : ':' ∈ host.text.toList ↔ host.bracketed := by
  cases host with
  | plain text _ free =>
    exact iff_of_false (free ':' List.mem_cons_self) id
  | ipv6 text colon _ =>
    exact iff_of_true (by simp [Host.text, colon]) trivial

theorem hostPort_free {separator : Char} (listed : separator ∈ ['@', '/']) : separator ∉ uri.hostPort.toList := by
  have other : separator ≠ ':' ∧ separator.isDigit = false := by
    simp only [List.mem_cons, List.not_mem_nil, or_false] at listed
    rcases listed with rfl | rfl <;> decide
  have host : separator ∉ uri.host.text.toList := Host.text_free listed
  rw [SshUri.hostPort]
  cases given : uri.port with
  | none => exact host
  | some port =>
    have port_free : separator ∉ port.toList := by
      intro member
      have digit := uri.digits port given separator member
      rw [other.2] at digit
      cases digit
    simp [host, other.1, port_free]

theorem Host.text_present {host : Host} : host.text ≠ "" := by
  cases host with
  | plain text present _ => exact present
  | ipv6 text _ _ =>
    intro nothing
    have length := congrArg String.length nothing
    simp [Host.text] at length

theorem hostPort_present : uri.hostPort ≠ "" := by
  rw [SshUri.hostPort]
  cases uri.port with
  | none => exact Host.text_present
  | some port => simp

theorem authority_present : uri.authority ≠ "" := by
  rw [SshUri.authority]
  cases uri.user with
  | none => exact hostPort_present
  | some user => simp

theorem authority_free : '/' ∉ uri.authority.toList := by
  have behind : '/' ∉ uri.hostPort.toList := hostPort_free (by simp)
  rw [SshUri.authority]
  cases given : uri.user with
  | none => exact behind
  | some user =>
    have before := (uri.userFree user given).2
    simp [before, behind]

/-- A scheme in any letter case has none of the other characters. -/
theorem scheme_free {char : Char} (same : char.toLower = char) (other : char ∉ "ssh".toList) : char ∉ uri.scheme.toList := by
  intro member
  have mapped := List.mem_map_of_mem (f := Char.toLower) member
  rw [uri.named, same] at mapped
  exact other mapped

private theorem path_stops (uri : SshUri) :
    uri.path.toList.takeWhile (· ≠ '/') = [] ∧ uri.path.toList.dropWhile (· ≠ '/') = uri.path.toList := by
  rcases uri.rooted with nothing | absolute
  · simp [nothing]
  · rw [Absolute] at absolute
    obtain ⟨rest, path⟩ := List.head?_eq_some_iff.mp absolute
    simp [path]

theorem parseTarget_ssh : parseTarget quote uri.text = .ok (parseSsh uri.authority.toList uri.path.toList) := by
  have colon : ':' ∉ uri.scheme.toList := scheme_free (by decide) (by decide)
  have slash : '/' ∉ uri.scheme.toList := scheme_free (by decide) (by decide)
  have relative : ¬ Absolute uri.text := by
    rw [Absolute, SshUri.text, String.toList_append, String.toList_append]
    cases letters : uri.scheme.toList with
    | nil =>
      have named := uri.named
      rw [AnyCase, letters] at named
      cases named
    | cons first rest =>
      rw [letters] at slash
      simp only [List.mem_cons, not_or] at slash
      simpa using Ne.symm slash.1
  have cut : Cut uri.text uri.scheme (uri.authority ++ uri.path) := by
    rw [Cut, SshUri.text, String.toList_append, String.toList_append]
    exact Split.cut_eq_some_iff.mp (Split.cut_append colon _)
  have remote : ¬ AnyCase uri.scheme "socket" := by
    intro socket
    exact absurd (uri.named.unique socket) (by decide)
  have free : ∀ char ∈ uri.authority.toList, decide (char ≠ '/') = true := by
    intro char member
    rw [decide_eq_true_eq]
    rintro rfl
    exact authority_free member
  obtain ⟨stopped, kept⟩ := path_stops uri
  have before : (uri.authority ++ uri.path).toList.takeWhile (· ≠ '/') = uri.authority.toList := by
    rw [String.toList_append, List.takeWhile_append_of_pos free, stopped, List.append_nil]
  have after : (uri.authority ++ uri.path).toList.dropWhile (· ≠ '/') = uri.path.toList := by
    rw [String.toList_append, List.dropWhile_append_of_pos free, kept]
  have present : uri.authority.toList ≠ [] := mt String.toList_eq_nil_iff.mp authority_present
  have known : schemeOf uri.scheme.toList = some .ssh := schemeOf_iff.mpr ⟨"ssh", by decide, uri.named⟩
  rw [parseTarget_remote relative cut remote, before, after, if_neg present, known]

theorem parseSsh_authority (path : List Char) :
    parseSsh uri.authority.toList path = {
      scheme := .ssh
      address := if ':' ∈ uri.hostPort.toList then uri.hostPort else uri.hostPort ++ ":22"
      path := String.ofList (path.dropWhile (· = '/'))
      username := uri.user } := by
  have address : String.ofList (if ':' ∈ uri.hostPort.toList then uri.hostPort.toList else uri.hostPort.toList ++ ":22".toList) =
      if ':' ∈ uri.hostPort.toList then uri.hostPort else uri.hostPort ++ ":22" := by
    split <;> simp
  cases given : uri.user with
  | none =>
    have same : uri.authority = uri.hostPort := by rw [SshUri.authority, given]
    have free : '@' ∉ uri.hostPort.toList := hostPort_free (by simp)
    have whole := Split.cut_eq_none free
    rw [parseSsh, same, whole]
    simp only [address]
  | some user =>
    have same : uri.authority.toList = user.toList ++ ['@'] ++ uri.hostPort.toList := by
      rw [SshUri.authority, given]
      simp
    have found : Split.cut ['@'] (user.toList ++ ['@'] ++ uri.hostPort.toList) = some (user.toList, uri.hostPort.toList) :=
      Split.cut_append (uri.userFree user given).1 uri.hostPort.toList
    rw [parseSsh, same, found]
    simp only [address, String.ofList_toList]

private theorem recovered_address : Recovered quote uri ↔
    rsplitOnce (if ':' ∈ uri.hostPort.toList then uri.hostPort else uri.hostPort ++ ":22") =
      some (uri.host.text, uri.port.getD "22") := by
  rw [Recovered, parseTarget_ssh, parseSsh_authority]
  simp

private theorem recovered_with_port {port : String} (given : uri.port = some port) : Recovered quote uri := by
  have hostPort : uri.hostPort = uri.host.text ++ ":" ++ port := by rw [SshUri.hostPort, given]
  have colon : ':' ∈ uri.hostPort.toList := by simp [hostPort]
  have digits : ':' ∉ port.toList := by
    intro member
    exact absurd (uri.digits port given ':' member) (by decide)
  rw [recovered_address, rsplitOnce_iff, if_pos colon, given]
  exact ⟨hostPort, digits⟩

private theorem recovered_without_port (left_out : uri.port = none) (plain : ¬ uri.host.bracketed) : Recovered quote uri := by
  have hostPort : uri.hostPort = uri.host.text := by rw [SshUri.hostPort, left_out]
  rw [recovered_address, rsplitOnce_iff, hostPort, if_neg (mt colon_iff.mp plain), left_out, String.append_assoc]
  exact ⟨rfl, by decide⟩

/-- The last colon of the host itself is taken for the one before a port. -/
private theorem not_recovered (left_out : uri.port = none) (bracketed : uri.host.bracketed) : ¬ Recovered quote uri := by
  have hostPort : uri.hostPort = uri.host.text := by rw [SshUri.hostPort, left_out]
  rw [recovered_address, rsplitOnce_iff, hostPort, if_pos (colon_iff.mpr bracketed)]
  rintro ⟨same, _⟩
  have length := congrArg String.length same
  have one : ":".length = 1 := rfl
  simp only [String.length_append] at length
  omega

/-- The host and the port come out as they went in unless the port is left out behind a
bracketed host. -/
theorem ssh_recovered_iff (quote : String → String) (uri : SshUri) :
    Recovered quote uri ↔ ¬ (uri.host.bracketed ∧ uri.port = none) := by
  constructor
  · rintro recovered ⟨bracketed, left_out⟩
    exact not_recovered left_out bracketed recovered
  · intro condition
    cases given : uri.port with
    | some port => exact recovered_with_port given
    | none =>
      apply recovered_without_port given
      intro bracketed
      exact condition ⟨bracketed, given⟩

private def loopback : SshUri where
  scheme := "ssh"
  user := none
  host := .ipv6 "::1" (by simp) (by simp)
  port := none
  path := ""
  named := by decide
  userFree text member := by cases member
  digits text member := by cases member
  rooted := .inl rfl

theorem loopback_split_inside :
    ∃ uri : SshUri, uri.text = "ssh://[::1]" ∧ uri.host.text = "[::1]" ∧ ∀ quote, ¬ Recovered quote uri := by
  refine ⟨loopback, by decide, by decide, ?_⟩
  intro quote
  exact not_recovered rfl trivial

end Xpra.Proofs.SshAuthority
