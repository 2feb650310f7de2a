import Xpra.Client.Host
import Xpra.Client.Input
import Xpra.Client.Window
import Xpra.Net.Uri

/-! The connection dialog of `client/connect_dialog.rs`, but for its painting. The
rectangles of its layout come down to the controls the pointer is over. -/

namespace Xpra.Client
open Xpra.Net

/-! ### Texts -/

/-- `str::parse::<u16>`. -/
def parseU16 (text : String) : Option UInt16 :=
  (parseU128 text).bind fun value => if value < 2 ^ 16 then some (UInt16.ofNat value) else none

def nonEmpty (value : String) : Option String := if trim value = "" then none else some (trim value)

/-! ### The dialog -/

def PROTOCOLS : List (String × UInt16) := [("tcp", 10000), ("ssl", 10000), ("ws", 10000), ("wss", 10000), ("ssh", 22)]

instance : NeZero PROTOCOLS.length := ⟨by decide⟩

structure ConnectDetails where
  uri : String
  username : Option String
  password : Option String
  deriving DecidableEq, Repr

inductive ConnectAction where
  | none
  | cancel
  | connect (details : ConnectDetails)
  deriving DecidableEq, Repr

inductive Status where
  | none
  | error (message : String)
  | connecting (uri : String)
  deriving DecidableEq, Repr

inductive Focus where
  | protocol | host | port | username | password | cancel | connect
  deriving DecidableEq, Repr

def FOCUS_ORDER : List Focus := [.protocol, .host, .port, .username, .password, .cancel, .connect]

def Focus.textField : Focus → Bool
  | .host | .port | .username | .password => true
  | .protocol | .cancel | .connect => false

inductive Control where
  | field (row : Nat)
  | item (index : Fin PROTOCOLS.length)
  | cancelButton
  | connectButton
  deriving DecidableEq, Repr

structure Fields where
  protocol : Fin PROTOCOLS.length := 0
  host : String := ""
  port : String := "10000"
  username : String := ""
  password : String := ""
  deriving DecidableEq, Repr

structure ConnectDialog extends Fields where
  window : WindowId
  dropdown : Bool := false
  focus : Focus := .host
  shift : Bool := false
  status : Status := .none
  deriving DecidableEq, Repr

def buildUri (scheme host : String) (port : UInt16) (username : Option String) : String :=
  let host := if ':' ∈ host.toList ∧ host.toList.head? ≠ some '[' then s!"[{host}]" else host
  match username with
  | some username => if scheme = "ssh" then s!"{scheme}://{username}@{host}:{port}/" else s!"{scheme}://{host}:{port}/"
  | none => s!"{scheme}://{host}:{port}/"

namespace ConnectDialog

variable (dialog : ConnectDialog)

def setError (message : String) : ConnectDialog := { dialog with status := .error message }

def setConnecting (uri : String) : ConnectDialog := { dialog with status := .connecting uri }

def connecting : Bool :=
  match dialog.status with
  | .connecting _ => true
  | .none | .error _ => false

def reject (message : String) (focus : Focus) : ConnectAction × ConnectDialog :=
  (.none, { dialog with status := .error message, focus })

def submit : ConnectAction × ConnectDialog :=
  let host := trim dialog.host
  if host = "" then dialog.reject "please enter a hostname or IP address" .host
  else if host.toList.any isWhitespace ∨ '/' ∈ host.toList ∨ '@' ∈ host.toList then
    dialog.reject "the hostname contains invalid characters" .host
  else match parseU16 (trim dialog.port) with
    | some port =>
      if port > 0 then
        let scheme := PROTOCOLS[dialog.protocol].1
        let username := nonEmpty dialog.username
        (.connect { uri := buildUri scheme host port username, username, password := nonEmpty dialog.password },
          { dialog with status := .none })
      else dialog.reject "the port must be a number between 1 and 65535" .port
    | none => dialog.reject "the port must be a number between 1 and 65535" .port

def setProtocol (index : Fin PROTOCOLS.length) : ConnectDialog :=
  if index = dialog.protocol then dialog
  else { dialog with protocol := index, port := toString PROTOCOLS[index].2 }

def step (delta : Int) : ConnectDialog :=
  let count : Int := FOCUS_ORDER.length
  let current : Int := (FOCUS_ORDER.idxOf? dialog.focus).getD 0
  { dialog with focus := FOCUS_ORDER.getD ((current + delta) % count).toNat .protocol }

def stepOrProtocol (delta : Int) : ConnectDialog :=
  if dialog.focus ≠ .protocol ∧ dialog.dropdown = false then dialog.step delta
  else dialog.setProtocol (Fin.ofNat PROTOCOLS.length ((dialog.protocol.val + delta) % PROTOCOLS.length).toNat)

/-- `field_mut`, put to use. -/
def updateField (update : String → String) : ConnectDialog :=
  match dialog.focus with
  | .host => { dialog with host := update dialog.host }
  | .port => { dialog with port := update dialog.port }
  | .username => { dialog with username := update dialog.username }
  | .password => { dialog with password := update dialog.password }
  | .protocol | .cancel | .connect => dialog

def typeInto (digitsOnly : Bool) (text field : String) : String :=
  text.toList.foldl (fun field char =>
    if isControl char ∨ (digitsOnly ∧ ¬ char.isDigit) then field
    else if field.length < (if digitsOnly then 5 else 128) then field.push char
    else field) field

def key (event : KeyEvent) : ConnectAction × ConnectDialog :=
  if dialog.connecting then
    match event.key with
    | .named .escape => (.cancel, dialog)
    | _ => (.none, dialog)
  else match event.key with
    | .named .escape => if dialog.dropdown then (.none, { dialog with dropdown := false }) else (.cancel, dialog)
    | .named .enter =>
      if dialog.dropdown then (.none, { dialog with dropdown := false })
      else if dialog.focus = .cancel then (.cancel, dialog)
      else dialog.submit
    | .named .tab => (.none, { dialog with dropdown := false }.step (if dialog.shift then -1 else 1))
    | .named .arrowDown => (.none, dialog.stepOrProtocol 1)
    | .named .arrowUp => (.none, dialog.stepOrProtocol (-1))
    | .named .backspace =>
      (.none, { dialog with status := .none }.updateField fun field => String.ofList field.toList.dropLast)
    | key =>
      if key = .named .space ∧ dialog.focus.textField = false then
        match dialog.focus with
        | .protocol => (.none, { dialog with dropdown := !dialog.dropdown })
        | .cancel => (.cancel, dialog)
        | _ => dialog.submit
      else match event.text with
        | none => (.none, dialog)
        | some text => (.none, { dialog with status := .none }.updateField (typeInto (dialog.focus == Focus.port) text))

def handleKey (event : KeyEvent) : ConnectAction × ConnectDialog :=
  if event.pressed = false then (.none, dialog) else dialog.key event

def click (pointed : Control → Bool) : ConnectAction × ConnectDialog :=
  if dialog.connecting then (if pointed .cancelButton then .cancel else .none, dialog)
  else if dialog.dropdown then
    let dialog := match (List.finRange PROTOCOLS.length).find? fun index => pointed (.item index) with
      | some index => dialog.setProtocol index
      | none => dialog
    (.none, { dialog with dropdown := false })
  else if pointed (.field 0) then (.none, { dialog with focus := .protocol, dropdown := true })
  else match [(1, Focus.host), (2, .port), (3, .username), (4, .password)].find? fun row => pointed (.field row.1) with
    | some (_, focus) => (.none, { dialog with focus })
    | none =>
      if pointed .cancelButton then (.cancel, dialog)
      else if pointed .connectButton then { dialog with focus := .connect }.submit
      else (.none, dialog)

def handleMouse (pressed : Bool) (button : MouseButton) (pointed : Control → Bool) : ConnectAction × ConnectDialog :=
  if pressed = false ∨ button ≠ .left then (.none, dialog) else dialog.click pointed

end ConnectDialog
end Xpra.Client
