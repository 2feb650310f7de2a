import Xpra.Client.Hello
import Xpra.Client.Input

/-! Answering the server's `challenge`: where the password comes from, the
response computed from it, and the built-in dialog. -/

namespace Xpra.Client
open Xpra.Net

inductive DialogAction where
  | none
  | submit
  | cancel
  deriving DecidableEq, Repr

def AuthDialog.handleKey (dialog : AuthDialog) (event : KeyEvent) : DialogAction × AuthDialog :=
  if event.pressed = false then (.none, dialog)
  else match event.key with
    | .named .enter => (.submit, dialog)
    | .named .escape => (.cancel, dialog)
    | .named .backspace => (.none, { dialog with password := dialog.password.dropLast })
    | _ => match event.text with
      | some text =>
        (.none, { dialog with password := dialog.password ++ text.toList.filter fun c => !isControl c })
      | none => (.none, dialog)

/-- Both ends run the password and the salts through this digest. -/
def HMAC_SHA256 : String := "hmac+sha256"

/-- The client salt is sent as hex digits, so that it is the same text at both
ends. -/
def makeReply (serverSalt clientSalt : Bytes) (password : String) : Reply :=
  let clientSalt := Sha256.toHex clientSalt
  let salt := Sha256.hmacSha256Hex (textBytes clientSalt) serverSalt
  { serverSalt, clientSalt, password, response := Sha256.hmacSha256Hex (textBytes password) (textBytes salt) }

variable (host : Host) (env : Env) (client : XpraClient)

def answerChallenge (password : String) : XpraClient :=
  match client.pendingChallenge with
  | none => client
  | some serverSalt =>
    let reply := makeReply serverSalt env.clientSalt password
    let client := { client with pendingChallenge := none, authLog := client.authLog ++ [.answered reply] }
    sendHello host client (some (reply.response, reply.clientSalt, Sha256.toHex env.padding))

def showAuthDialog (promptText : String) : XpraClient :=
  if client.softbufferCtx = false then client.quit .authenticationFailed
  else match env.createWindow with
    | .ok window =>
      if env.surface then
        { client with authDialog := some { window, prompt := promptText }, authLog := client.authLog ++ [.prompted] }
      else client.quit .authenticationFailed
    | .error _ => client.quit .authenticationFailed

def cancelAuth : XpraClient :=
  let cleared : XpraClient :=
    { client with authDialog := none, pendingChallenge := none, authLog := client.authLog ++ [.cancelled] }
  cleared.quit .authenticationFailed

def findPassword (prompt : String) : XpraClient :=
  match client.password.filter (· ≠ "") with
  | some password => answerChallenge host env client password
  | none => match env.xpraPassword.filter (· ≠ "") with
    | some password => answerChallenge host env client password
    | none =>
      let promptText := s!"Enter {prompt}"
      match env.pinentry with
      | some _ =>
        { client with pinentries := client.pinentries ++ [promptText], authLog := client.authLog ++ [.prompted] }
      | none => showAuthDialog env client promptText

def processChallenge (packet : Packet) : Except Panic XpraClient :=
  if client.pendingChallenge.isSome || client.authDialog.isSome then .ok client
  else do
    let (serverSalt, packet) ← packet.getBytes host.base64 1
    let digest ← packet.getStr 3
    let saltDigest := if packet.len ≥ 5 then yamlStr (packet.get 4) else "xor"
    let prompt := if packet.len ≥ 6 then yamlStr (packet.get 5) else "password"
    if serverSalt = [] then return client.quit .authenticationFailed
    else if digest ≠ HMAC_SHA256 ∨ saltDigest ≠ HMAC_SHA256 then return client.quit .authenticationFailed
    else return findPassword host env { client with
      pendingChallenge := some serverSalt
      authLog := client.authLog ++ [.accepted serverSalt digest saltDigest] } prompt

def handleAuthDialogEvent (event : WindowEvent) : XpraClient :=
  match event with
  | .closeRequested => cancelAuth client
  | .keyboardInput event isSynthetic =>
    if isSynthetic then client
    else match client.authDialog with
      | none => client
      | some dialog =>
        match dialog.handleKey event with
        | (.none, dialog) => { client with authDialog := some dialog }
        | (.submit, dialog) =>
          answerChallenge host env { client with authDialog := none } (String.ofList dialog.password)
        | (.cancel, dialog) => cancelAuth { client with authDialog := some dialog }
  | _ => client

end Xpra.Client
