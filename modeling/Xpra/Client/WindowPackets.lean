import Xpra.Client.Hello
import Xpra.Client.Input

/-! Handlers of the packets about windows, the pointer, the cursor and
notifications, and of the platform's window events. What only the platform gets
to see (titles, positions, icons, tones) leaves no trace in the state. -/

namespace Xpra.Client
open Xpra.Net

variable (host : Host) (env : Env) (client : XpraClient)

/-! ### What is sent about windows -/

/-- The first monitor that contains the point, and the point seen from its
corner. -/
def monitorRelativePosition (monitors : List MonitorInfo) (x y : Int32) : Option (Nat × Int32 × Int32) :=
  (monitors.zipIdx.find? fun entry =>
    let (mx, my, w, h) := entry.1.geometry
    decide (x.toInt ≥ mx.toInt ∧ x.toInt < mx.toInt + w.toNat ∧ y.toInt ≥ my.toInt ∧ y.toInt < my.toInt + h.toNat)).map
    fun entry => (entry.2, x - entry.1.geometry.1, y - entry.1.geometry.2.1)

def descriptor (index : Nat) (x y : Int32) : Json := .object [("index", index), ("position", .array [x, y])]

def monitorDescriptor (x y : Int32) : Option Json :=
  (monitorRelativePosition client.monitors x y).map fun (index, mx, my) => descriptor index mx my

def windowMonitorDescriptor (wid : UInt64) (x y : Int32) : Option Json :=
  let current := (client.windows wid).bind fun _ => env.currentMonitor.bind fun geometry =>
    client.monitors.zipIdx.find? fun entry => entry.1.geometry = geometry
  match current with
  | some (monitor, index) => some (descriptor index (x - monitor.geometry.1) (y - monitor.geometry.2.1))
  | none => monitorDescriptor client x y

def pointerProps (x y : Int32) : Json :=
  .object (((monitorDescriptor client x y).map fun monitor => ("monitor", monitor)).toList)

def sendFocus (wid : UInt64) : XpraClient := client.writeJson host (.array ["window-focus", wid])

def sendPointerPosition (wid : UInt64) (x y : Int32) : XpraClient :=
  client.writeJson host (.array ["pointer-motion", (0 : Nat), (0 : Nat), wid, .array [x, y], pointerProps client x y])

def sendPointerButton (wid : UInt64) (button : Int) (pressed : Bool) (x y : Int32) : XpraClient :=
  client.writeJson host (.array ["pointer-button", (0 : Nat), (0 : Nat), wid, button, pressed, .array [x, y],
    pointerProps client x y])

def getModifierState : List Json :=
  let shift : List Json := if client.modifiers.shift then ["shift"] else []
  let control : List Json := if client.modifiers.control then ["control"] else []
  let alt : List Json := if client.modifiers.alt then ["mod1"] else []
  shift ++ control ++ alt

def sendKeyEvent (wid : UInt64) (keycode : UInt32) (keyname keystr : String) (pressed : Bool) : XpraClient :=
  client.writeJson host (.array ["keyboard-event", wid, keyname, pressed,
    .object [("modifiers", .array (getModifierState client)), ("keyval", (0 : Nat)), ("string", keystr),
      ("keycode", keycode), ("group", (0 : Nat))]])

def sendWindowMap (wid : UInt64) (x y : Int32) (w h : UInt32) : XpraClient :=
  let fields : List Json := ["window-map", wid, x, y, w, h, .object [], .object []]
  client.writeJson host (.array (fields ++ (windowMonitorDescriptor env client wid x y).toList))

def sendWindowConfigure (wid : UInt64) (x y : Int32) (w h : UInt32) : XpraClient :=
  let geometry : Json.Fields := [("geometry", .array [x, y, w, h])]
  let monitor := ((windowMonitorDescriptor env client wid x y).map fun monitor => ("monitor", monitor)).toList
  client.writeJson host (.array ["window-configure", wid, .object (geometry ++ monitor)])

def sendWindowClose (wid : UInt64) : XpraClient := client.writeJson host (.array ["window-close", wid])

/-! ### Packets about windows -/

/-- The metadata that the client itself remembers. -/
def applyWindowMetadata (window : XpraWindow) (metadata : Yaml) : XpraWindow :=
  let window := match yamlHashBool metadata "above" with
    | some above => { window with above, below := if above then false else window.below }
    | none => window
  match yamlHashBool metadata "below" with
  | some below => { window with below, above := if below then false else window.above }
  | none => window

def processNewCommon (packet : Packet) (overrideRedirect : Bool) : Except Panic XpraClient := do
  let wid ← packet.getU64 1
  let x ← packet.getI32 2
  let y ← packet.getI32 3
  let w ← packet.getU32 4
  let h ← packet.getU32 5
  let metadata ← packet.field 6
  match env.createWindow with
  | .error _ => return client
  | .ok id =>
    if client.softbufferCtx = false then .error .expect
    else
      let window ← XpraWindow.new env.surface host.debugAssertions wid id w h overrideRedirect
      let window := { applyWindowMetadata window metadata with mapped := true }
      let client : XpraClient :=
        { client with idMap := client.idMap.insert id wid, windows := client.windows.insert wid window }
      return if overrideRedirect then client else sendWindowMap host env client wid x y w h

def processWindowMoveResize (packet : Packet) : Except Panic XpraClient := do
  let wid ← packet.getU64 1
  match client.windows wid with
  | none => return client
  | some _ =>
    let _ ← packet.getI32 2
    let _ ← packet.getI32 3
    let _ ← packet.getU32 4
    let _ ← packet.getU32 5
    return client

def processInitiateMoveresize (packet : Packet) : Except Panic XpraClient := do
  let _ ← packet.getU64 1
  let _ ← packet.getU32 4
  return client

def processRaiseWindow (packet : Packet) : Except Panic XpraClient := do
  let _ ← packet.getU64 1
  return client

def releasePointerGrab : XpraClient :=
  match client.pointerGrabbed with
  | none => client
  | some wid =>
    let client : XpraClient := { client with pointerGrabbed := none }
    match client.windows wid with
    | some window =>
      if env.release then { client with windows := client.windows.insert wid { window with grab := .none } }
      else client
    | none => client

def processPointerGrab (packet : Packet) : XpraClient :=
  if packet.len < 2 then client
  else
    let wid := yamlU64 (packet.get 1)
    if client.pointerGrabbed = some wid then client
    else
      let client := if client.pointerGrabbed.isSome then releasePointerGrab env client else client
      match client.windows wid with
      | none => client
      | some window =>
        -- locking is the fallback where confining is not supported
        if env.confine || env.lock then
          let grab := if env.confine then CursorGrab.confined else .locked
          { client with windows := client.windows.insert wid { window with grab }, pointerGrabbed := some wid }
        else client

def processLostWindow (packet : Packet) : Except Panic XpraClient := do
  let wid ← packet.getU64 1
  let client := if client.pointerGrabbed = some wid then releasePointerGrab env client else client
  match client.windows wid with
  | some window =>
    return { client with windows := client.windows.remove wid, idMap := client.idMap.remove window.id }
  | none => return client

def processWindowMetadata (packet : Packet) : Except Panic XpraClient := do
  let wid ← packet.getU64 1
  let metadata ← packet.field 2
  match client.windows wid with
  | some window => return { client with windows := client.windows.insert wid (applyWindowMetadata window metadata) }
  | none => return client

/-! ### Cursor, icon, bell and notifications -/

def processCursor (packet : Packet) : Except Panic XpraClient :=
  if packet.len ≤ 2 then .ok { client with currentCursor := none }
  else if afterColon (yamlStr (packet.get 1)) ≠ "png" then .ok client
  else do
    let xhot ← packet.getU32 6
    let yhot ← packet.getU32 7
    let (data, _) ← packet.getBytes host.base64 9
    match host.pngRgba data with
    | .error _ => return client
    | .ok (w, h, rgba) =>
      let cursor : CustomCursor := {
        rgba
        width := min w.toNat 65535
        height := min h.toNat 65535
        hotspot := (min xhot.toNat (w.toNat - 1) % 65536, min yhot.toNat (h.toNat - 1) % 65536) }
      return if env.image then { client with currentCursor := some cursor } else client

def processWindowIcon (packet : Packet) : Except Panic XpraClient := do
  let _ ← packet.getU64 1
  let encoding ← packet.getStr 4
  if encoding ≠ "png" then return client
  else
    let _ ← packet.getBytes host.base64 5
    return client

def processBell (packet : Packet) : Except Panic XpraClient := do
  let _ ← packet.getI32 4
  let _ ← packet.getI32 5
  return client

def processNotifyShow (packet : Packet) : Except Panic XpraClient := do
  let _ ← packet.getStr 3
  let _ ← packet.getStr 6
  let _ ← packet.getStr 7
  if host.windows && client.tray then
    let _ ← packet.getU64 2
    return client
  else return client

def processNotifyClose (packet : Packet) : Except Panic XpraClient := do
  let _ ← packet.getU64 1
  return client

/-! ### The platform's events for a forwarded window -/

def buttonNumber : MouseButton → Int
  | .left => 1
  | .middle => 2
  | .right => 3
  | .back => 8
  | .forward => 9
  | .other number => number.toUInt8.toInt8.toInt

/-- A press and a release for a scroll in one direction, none for no scroll. -/
def sendScroll (wid : UInt64) (sign : Ordering) (forward backward : Int) (x y : Int32) : XpraClient :=
  match sign with
  | .eq => client
  | sign =>
    let button := if sign = .gt then forward else backward
    sendPointerButton host (sendPointerButton host client wid button true x y) wid button false x y

def handleWindowEvent (wid : UInt64) (event : WindowEvent) : XpraClient :=
  match event with
  | .focused isFocused =>
    let overrideRedirect := ((client.windows wid).map XpraWindow.overrideRedirect).getD true
    if isFocused && !overrideRedirect then sendFocus host client wid else client
  | .moved | .resized =>
    match client.windows wid with
    | none => client
    | some window =>
      let window := window.resize env.surface env.innerSize.1 env.innerSize.2
      let client : XpraClient := { client with windows := client.windows.insert wid window }
      let (x, y) := env.innerPosition.getD (0, 0)
      sendWindowConfigure host env client wid x y (max env.innerSize.1 1) (max env.innerSize.2 1)
  | .cursorMoved px py =>
    match client.windows wid with
    | none => client
    | some window =>
      let (ox, oy) := env.innerPosition.getD (0, 0)
      let lastCursor := (ox + px, oy + py)
      let client : XpraClient := { client with windows := client.windows.insert wid { window with lastCursor } }
      sendPointerPosition host client wid lastCursor.1 lastCursor.2
  | .mouseInput pressed button =>
    match client.windows wid with
    | none => client
    | some window =>
      sendPointerButton host client wid (buttonNumber button) pressed window.lastCursor.1 window.lastCursor.2
  | .mouseWheel dx dy =>
    match client.windows wid with
    | none => client
    | some window =>
      let (x, y) := window.lastCursor
      sendScroll host (sendScroll host client wid dy 4 5 x y) wid dx 6 7 x y
  | .modifiersChanged shift control alt => { client with modifiers := { shift, control, alt } }
  | .keyboardInput event _ =>
    let keystr := match event.key with
      | .character text => text
      | _ => ""
    sendKeyEvent host client wid (physicalKeyToXpraKeycode host.linux event.scancode) (keyToXpraKeyname event.key)
      keystr event.pressed
  | .closeRequested => sendWindowClose host client wid
  | .redrawRequested | .other => client

end Xpra.Client
