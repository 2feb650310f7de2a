import Xpra.Client.System

/-! What the platform is asked to make of the forwarded windows: their attributes as they are
created, the calls that window metadata comes down to, and the session's cursor
(`client/client.rs`). What the platform answers comes with each packet. -/

namespace Xpra.Client.Screen
open Xpra.Net

/-! ### Window metadata -/

structure WindowSizeConstraints where
  minimum : Option (UInt32 × UInt32) := none
  maximum : Option (UInt32 × UInt32) := none
  increment : Option (UInt32 × UInt32) := none
  deriving DecidableEq, Repr

structure WindowMetadataUpdate where
  title : Option String := none
  decorations : Option Bool := none
  fullscreen : Option Bool := none
  maximized : Option Bool := none
  iconic : Option Bool := none
  above : Option Bool := none
  below : Option Bool := none
  sizeConstraints : Option WindowSizeConstraints := none
  deriving DecidableEq, Repr

def metadataHash (metadata : Yaml) (key : String) : Option Yaml :=
  (yamlHash metadata key).filter fun value => match value with
    | .hash _ => true
    | _ => false

def metadataStr (metadata : Yaml) (key : String) : Option String :=
  match yamlHash metadata key with
  | some (.string value) => some value
  | _ => none

abbrev metadataBool (metadata : Yaml) (key : String) : Option Bool := yamlHashBool metadata key

/-- A pair of sizes counts only if both are positive and fit 32 bits. -/
def metadataPair (metadata : Yaml) (key : String) : Option (UInt32 × UInt32) :=
  match yamlHash metadata key with
  | some (.array (.integer width :: .integer height :: _)) =>
    if width ≤ 0 ∨ height ≤ 0 ∨ width > 4294967295 ∨ height > 4294967295 then none
    else some (width.toUInt64.toUInt32, height.toUInt64.toUInt32)
  | _ => none

def WindowMetadataUpdate.parse (metadata : Yaml) : WindowMetadataUpdate where
  title := metadataStr metadata "title"
  decorations := metadataBool metadata "decorations"
  fullscreen := metadataBool metadata "fullscreen"
  maximized := metadataBool metadata "maximized"
  iconic := metadataBool metadata "iconic"
  above := metadataBool metadata "above"
  below := metadataBool metadata "below"
  sizeConstraints := (metadataHash metadata "size-constraints").map fun constraints =>
    { minimum := metadataPair constraints "minimum-size"
      maximum := metadataPair constraints "maximum-size"
      increment := metadataPair constraints "increment" }

/-! ### The calls -/

inductive WindowLevel where
  | normal
  | alwaysOnTop
  | alwaysOnBottom
  deriving DecidableEq, Repr

inductive ResizeDirection where
  | northWest | north | northEast | east | southEast | south | southWest | west
  deriving DecidableEq, Repr

/-- What has been asked for and lasts. -/
structure Look where
  title : String
  decorated : Bool
  resizable : Bool
  constraints : WindowSizeConstraints := {}
  fullscreen : Bool := false
  maximized : Bool := false
  minimized : Bool := false
  level : WindowLevel := .normal
  /-- None is the default cursor. -/
  cursor : Option CustomCursor := none

structure PlatformWindow extends Look where
  position : Int32 × Int32
  innerSize : UInt32 × UInt32
  icon : Option (UInt32 × UInt32 × Bytes) := none
  /-- How often the focus was asked for. -/
  focused : Nat := 0
  /-- The drags that were started; none is a move. -/
  drags : List (Option ResizeDirection) := []

inductive WindowCall where
  | setTitle (title : String)
  | setDecorations (decorated : Bool)
  | setMinInnerSize (size : Option (UInt32 × UInt32))
  | setMaxInnerSize (size : Option (UInt32 × UInt32))
  | setResizeIncrements (size : Option (UInt32 × UInt32))
  | setResizable (resizable : Bool)
  | setFullscreen (fullscreen : Bool)
  | setMaximized (maximized : Bool)
  | setMinimized (minimized : Bool)
  | setWindowLevel (level : WindowLevel)
  | setCursor (cursor : Option CustomCursor)
  | setOuterPosition (x y : Int32)
  | requestInnerSize (w h : UInt32)
  | setWindowIcon (w h : UInt32) (rgba : Bytes)
  | focusWindow
  | drag (direction : Option ResizeDirection)

def PlatformWindow.call (window : PlatformWindow) : WindowCall → PlatformWindow
  | .setTitle title => { window with title }
  | .setDecorations decorated => { window with decorated }
  | .setMinInnerSize minimum => { window with constraints := { window.constraints with minimum } }
  | .setMaxInnerSize maximum => { window with constraints := { window.constraints with maximum } }
  | .setResizeIncrements increment => { window with constraints := { window.constraints with increment } }
  | .setResizable resizable => { window with resizable }
  | .setFullscreen fullscreen => { window with fullscreen }
  | .setMaximized maximized => { window with maximized }
  | .setMinimized minimized => { window with minimized }
  | .setWindowLevel level => { window with level }
  | .setCursor cursor => { window with cursor }
  | .setOuterPosition x y => { window with position := (x, y) }
  | .requestInnerSize w h => { window with innerSize := (w, h) }
  | .setWindowIcon w h rgba => { window with icon := some (w, h, rgba) }
  | .focusWindow => { window with focused := window.focused + 1 }
  | .drag direction => { window with drags := window.drags ++ [direction] }

def levelOf (window : XpraWindow) : WindowLevel :=
  if window.above then .alwaysOnTop else if window.below then .alwaysOnBottom else .normal

def constraintCalls (window : XpraWindow) (constraints : WindowSizeConstraints) : List WindowCall :=
  let fixedSize := constraints.minimum.isSome && constraints.minimum = constraints.maximum
  [.setMinInnerSize constraints.minimum, .setMaxInnerSize constraints.maximum, .setResizeIncrements constraints.increment,
    .setResizable (!window.overrideRedirect && !fixedSize)]

/-- The calls of `apply_window_metadata`; the window is the one after it. -/
def metadataCalls (window : XpraWindow) (update : WindowMetadataUpdate) : List WindowCall :=
  (update.title.map .setTitle).toList ++
    (update.decorations.map fun decorations => .setDecorations (decorations && !window.overrideRedirect)).toList ++
    ((update.sizeConstraints.map (constraintCalls window)).getD []) ++
    (update.fullscreen.map .setFullscreen).toList ++
    (update.maximized.map .setMaximized).toList ++
    (update.iconic.map .setMinimized).toList ++
    (if update.above.isSome || update.below.isSome then [.setWindowLevel (levelOf window)] else [])

/-! ### The packets -/

/-- The windows that are open. -/
abbrev OpenWindows := Table WindowId PlatformWindow

/-- What the platform answers about a window. -/
structure ScreenEnv where
  outerPosition : Option (Int32 × Int32) := none
  focused : Bool := false

variable (host : Host) (env : Env) (screenEnv : ScreenEnv) (client next : XpraClient) (packet : Packet) (screen : OpenWindows)

def callWindow (id : WindowId) (calls : List WindowCall) : OpenWindows :=
  match screen id with
  | some window => screen.insert id (calls.foldl .call window)
  | none => screen

/-- A call for every window. -/
def callAll (call : WindowCall) : OpenWindows := fun id => (screen id).map (·.call call)

/-- The window as it is created, with its attributes and the session's cursor. -/
def createdWindow (update : WindowMetadataUpdate) (overrideRedirect : Bool) : PlatformWindow where
  title := update.title.getD ""
  position := (yamlI32 (packet.get 2), yamlI32 (packet.get 3))
  innerSize := (max (yamlU32 (packet.get 4)) 1, max (yamlU32 (packet.get 5)) 1)
  decorated := !overrideRedirect && update.decorations.getD true
  resizable := !overrideRedirect
  cursor := client.currentCursor

/-- A window that has the wid already is dropped, and so closed. -/
def closeReplaced (wid : UInt64) : OpenWindows :=
  match client.windows wid with
  | some replaced => screen.remove replaced.id
  | none => screen

def processNewCommon (overrideRedirect : Bool) : OpenWindows :=
  let wid := yamlU64 (packet.get 1)
  let update := WindowMetadataUpdate.parse (packet.get 6)
  match env.createWindow, next.windows wid with
  | .ok id, some window =>
    (closeReplaced client screen wid).insert id ((metadataCalls window update).foldl .call (createdWindow client packet update overrideRedirect))
  | _, _ => screen

/-- The position that puts the inside of the window where the server wants it. -/
def toOuterPosition (x y : Int32) : Option (Int32 × Int32) :=
  screenEnv.outerPosition.bind fun outer => env.innerPosition.map fun inner => (x + (outer.1 - inner.1), y + (outer.2 - inner.2))

def moveResizeCalls : List WindowCall :=
  (((toOuterPosition env screenEnv (yamlI32 (packet.get 2)) (yamlI32 (packet.get 3))).map fun (x, y) => .setOuterPosition x y).toList) ++
    [.requestInnerSize (max (yamlU32 (packet.get 4)) 1) (max (yamlU32 (packet.get 5)) 1)]

/-- The edges have the numbers of `_NET_WM_MOVERESIZE`, with 8 for a move. -/
def dragCalls : List WindowCall :=
  let edges : List ResizeDirection := [.northWest, .north, .northEast, .east, .southEast, .south, .southWest, .west]
  let direction := (yamlU32 (packet.get 4)).toNat
  if direction = 8 then [.drag none] else ((edges[direction]?).map fun edge => .drag (some edge)).toList

def showsCursor : Bool :=
  decide (packet.len ≤ 2) || (afterColon (yamlStr (packet.get 1)) = "png" && match packet.getBytes host.base64 9 with
    | .ok (data, _) => (host.pngRgba data).isOk && env.image
    | .error _ => false)

def iconCalls : List WindowCall :=
  if yamlStr (packet.get 4) ≠ "png" then []
  else match packet.getBytes host.base64 5 with
    | .error _ => []
    | .ok (data, _) => match host.pngRgba data with
      | .ok (w, h, rgba) => if env.image then [.setWindowIcon w h rgba] else []
      | .error _ => []

/-- The calls on the window that the packet names. -/
def callNamed (calls : List WindowCall) : OpenWindows :=
  match client.windows (yamlU64 (packet.get 1)) with
  | some window => callWindow screen window.id calls
  | none => screen

/-- What a packet makes of the screen; `next` is the client after it. -/
def processPacket (kind : Kind) : OpenWindows :=
  match kind with
  | .newWindow => processNewCommon env client next packet screen false
  | .newOverrideRedirect => processNewCommon env client next packet screen true
  | .windowMetadata => match next.windows (yamlU64 (packet.get 1)) with
    | some window => callWindow screen window.id (metadataCalls window (.parse (packet.get 2)))
    | none => screen
  | .windowMoveResize => callNamed client packet screen (moveResizeCalls env screenEnv packet)
  | .raiseWindow => callNamed client packet screen (if screenEnv.focused then [] else [.focusWindow])
  | .initiateMoveresize => callNamed client packet screen (dragCalls packet)
  | .windowIcon => callNamed client packet screen (iconCalls host env packet)
  | .showDesktop => callAll screen (.setMinimized (packet.len ≥ 2 && yamlBool (packet.get 1)))
  | .cursor => if showsCursor host env packet then callAll screen (.setCursor next.currentCursor) else screen
  | .lostWindow => match client.windows (yamlU64 (packet.get 1)) with
    | some window => screen.remove window.id
    | none => screen
  | _ => screen

/-! ### The client with its screen -/

structure Displayed where
  system : System
  screen : OpenWindows := fun _ => none

def step (event : Event × ScreenEnv) (displayed : Displayed) : Except Stop Displayed :=
  match System.step host event.1 displayed.system with
  | .error stop => .error stop
  | .ok system =>
    let screen := match event.1, displayed.system.client.proxy with
      | .deliver env, packet :: _ =>
        processPacket host env event.2 displayed.system.client system.client packet displayed.screen (kindOf host packet)
      | _, _ => displayed.screen
    .ok { system, screen }

abbrev run (events : List (Event × ScreenEnv)) (displayed : Displayed) : Except Stop Displayed :=
  Library.Machine.run (step host) events displayed

end Xpra.Client.Screen
