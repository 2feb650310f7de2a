import Xpra.Library.Split

/-! Connection targets (`net/uri.rs`). -/

namespace Xpra.Net
open Library

inductive Scheme where
  | tcp
  | tls
  | webSocket
  | webSocketTls
  | ssh
  | socket
  deriving DecidableEq, Repr

structure Target where
  scheme : Scheme
  address : String
  path : String
  /-- Only ever set for ssh, from a `user@host` authority. -/
  username : Option String
  deriving DecidableEq, Repr

def eqIgnoreAsciiCase (text : List Char) (name : String) : Bool :=
  text.map Char.toLower = name.toList.map Char.toLower

def schemeOf (schemeStr : List Char) : Option Scheme :=
  if eqIgnoreAsciiCase schemeStr "tcp" then some .tcp
  else if eqIgnoreAsciiCase schemeStr "ssl" then some .tls
  else if eqIgnoreAsciiCase schemeStr "ws" then some .webSocket
  else if eqIgnoreAsciiCase schemeStr "wss" then some .webSocketTls
  else if eqIgnoreAsciiCase schemeStr "ssh" then some .ssh
  else none

/-- A `user@` and an optional port, which ssh alone has. -/
def parseSsh (authority path : List Char) : Target :=
  let (username, hostPort) := match Split.cut ['@'] authority with
    | some (user, hostPort) => (some (String.ofList user), hostPort)
    | none => (none, authority)
  { scheme := .ssh
    address := String.ofList (if ':' ∈ hostPort then hostPort else hostPort ++ ":22".toList)
    path := String.ofList (path.dropWhile (· = '/'))
    username }

/-- `parse_target`; `quote` renders a text as `{:?}` does. -/
def parseTarget (quote : String → String) (target : String) : Except String Target :=
  if target.toList.head? = some '/' then .ok { scheme := .socket, address := target, path := "", username := none }
  else match Split.cut "://".toList target.toList with
    | none => .ok { scheme := .tcp, address := target, path := "", username := none }
    | some (schemeStr, rest) =>
      if eqIgnoreAsciiCase schemeStr "socket" then
        if rest = [] then .error s!"missing absolute socket path in {quote target}"
        else if rest.head? ≠ some '/' then .error s!"socket path must be absolute in {quote target}"
        else .ok { scheme := .socket, address := String.ofList rest, path := "", username := none }
      else
        let authority := rest.takeWhile (· ≠ '/')
        let path := rest.dropWhile (· ≠ '/')
        if authority = [] then .error s!"missing host:port in {quote target}"
        else match schemeOf schemeStr with
          | none => .error (s!"unsupported protocol {quote (String.ofList schemeStr)}: only 'tcp', 'ssl', 'ws', 'wss', " ++
              "'ssh' and 'socket' are supported")
          | some .ssh => .ok (parseSsh authority path)
          | some scheme =>
            .ok { scheme, address := String.ofList authority, path := String.ofList path, username := none }

/-- `host_only`: the part before the last colon. -/
def hostOnly (address : String) : String :=
  match Split.cut [':'] address.toList.reverse with
  | some (_, host) => String.ofList host.reverse
  | none => address

end Xpra.Net
