import Xpra.Library.Split

/-! The `ssh://` transport as far as its arguments go (`net/ssh.rs`): the command line
of the local `ssh`, and the remote command that is its last argument. -/

namespace Xpra.Net.Ssh
open Library

def shellQuote (s : String) : String :=
  "'" ++ String.ofList (s.toList.flatMap fun char => if char = '\x27' then "'\\''".toList else [char]) ++ "'"

def remoteCommand (display : String) : String :=
  let proxyCmd := if display.isEmpty then "xpra _proxy" else "xpra _proxy " ++ shellQuote display
  let inner := "if command -v \"xpra\" > /dev/null 2>&1; then " ++ proxyCmd ++
    "; else echo \"no xpra command found\" 1>&2; exit 1; fi"
  "sh -c " ++ shellQuote inner

/-- The arguments `connect` starts `ssh` with; `quote` renders a text as `{:?}` does. -/
def arguments (quote : String → String) (address : String) (username : Option String) (display : String) :
    Except String (List String) :=
  -- the last colon separates the port
  match Split.cut [':'] address.toList.reverse with
  | none => .error s!"missing port in {quote address}"
  | some (port, host) =>
    let port := String.ofList port.reverse
    let host := String.ofList host.reverse
    .ok (["-x", "-T"] ++ (if port ≠ "22" then ["-p", port] else []) ++
      (match username with
        | some user => ["-l", user]
        | none => []) ++ [host, remoteCommand display])

end Xpra.Net.Ssh
