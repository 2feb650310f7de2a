import Xpra.Client.App
import Xpra.Client.Font

/-! The painting of the connection dialog and of the password dialog
(`client/connect_dialog.rs`, `client/auth_dialog.rs`). -/

namespace Xpra.Client
open Xpra.Net Paint
open Checked (Fault)

abbrev Picture := List UInt32

/-- What a dialog finds when it draws. The factor of the display is a floating-point
number, and comes down to what `px` makes of the design's units. -/
structure Viewport where
  innerWidth : UInt32
  innerHeight : UInt32
  px : Int32 → Int32
  roundedScale : Int32
  /-- The size of the surface's buffer, when there is one. -/
  buffer : Option Nat

structure Rect where
  x : Int32
  y : Int32
  w : Int32
  h : Int32
  deriving DecidableEq, Repr

def GLYPH_H : Int32 := 16

def MARGIN : Int32 := 16
def LABEL_X : Int32 := 16
def FIELD_X : Int32 := 96
def ROW_Y : Int32 := 44
def ROW_H : Int32 := 32
def FIELD_H : Int32 := 24
def ITEM_H : Int32 := 22
def BUTTON_W : Int32 := 80
def BUTTON_H : Int32 := 26
def PAD : Int32 := 6

def BG : UInt32 := 0x00202020
def FG : UInt32 := 0x00E0E0E0
def HINT : UInt32 := 0x00909090
def FIELD_BG : UInt32 := 0x00181818
def BUTTON_BG : UInt32 := 0x002E2E2E
def BORDER : UInt32 := 0x00505050
def ACCENT : UInt32 := 0x00599EFF
def ERROR : UInt32 := 0x00FF6B6B

def tail (text : String) (max : Nat) : String :=
  if text.length ≤ max then text else String.ofList (text.toList.drop (text.length - max))

def clip (text : String) (max : Nat) : String :=
  if text.length ≤ max then text else String.ofList (text.toList.take (max - 3)) ++ "..."

namespace Paint

variable (checks : Bool)

def add (a b : Int32) : Except Fault Int32 := i32 checks (a.toInt + b.toInt)

def sub (a b : Int32) : Except Fault Int32 := i32 checks (a.toInt - b.toInt)

def mul (a b : Int32) : Except Fault Int32 := i32 checks (a.toInt * b.toInt)

/-- A division stops the program in every build where it has no 32-bit result. -/
def div (a b : Int32) : Except Fault Int32 :=
  if b = 0 ∨ (a = Int32.minValue ∧ b = -1) then .error .overflow else .ok (a / b)

end Paint

namespace Viewport

variable (checks : Bool) (view : Viewport)

def width : UInt32 := max view.innerWidth 1

def height : UInt32 := max view.innerHeight 1

/-- `self.width as i32`. -/
def columns : Int32 := .ofNat view.width.toNat

def rows : Int32 := .ofNat view.height.toNat

def canvas : Except Fault Picture :=
  let size := view.width.toNat * view.height.toNat
  if checks ∧ 2 ^ 32 ≤ size then .error .overflow else .ok (List.replicate (size % 2 ^ 32) BG)

/-- `present`: what the surface comes to show. -/
def present (picture : Picture) : Option Picture := if view.buffer = some picture.length then some picture else none

def fontScale : Int32 := max view.roundedScale 1

def glyphW : Except Fault Int32 := mul checks Font.GLYPH_W view.fontScale

def glyphH : Except Fault Int32 := mul checks GLYPH_H view.fontScale

/-- `font::text_width`. -/
def textWidth (text : String) : Except Fault Int32 := do
  mul checks (← mul checks (.ofNat text.length) Font.GLYPH_W) view.fontScale

def centreY (rect : Rect) : Except Fault Int32 := do
  add checks rect.y ((← sub checks rect.h (← view.glyphH checks)) / 2)

def fieldRect (row : Int32) : Except Fault Rect := do
  let x := view.px FIELD_X
  let right ← sub checks (← sub checks view.columns (view.px MARGIN)) x
  return {
    x
    y := view.px (← add checks ROW_Y (← mul checks ROW_H row))
    w := max right (view.px 60)
    h := view.px FIELD_H }

def itemRect (index : Nat) : Except Fault Rect := do
  let field ← view.fieldRect checks 0
  let below ← add checks field.y field.h
  return {
    x := field.x
    y := ← add checks below (← mul checks (view.px ITEM_H) (.ofNat index))
    w := field.w
    h := view.px ITEM_H }

def buttonRect (connect : Bool) : Except Fault Rect := do
  let w := view.px BUTTON_W
  let h := view.px BUTTON_H
  let right ← sub checks view.columns (view.px MARGIN)
  let x ← if connect then sub checks right w
    else do sub checks (← sub checks right (← mul checks 2 w)) (view.px 12)
  return { x, y := ← sub checks (← sub checks view.rows (view.px MARGIN)) h, w, h }

def statusY : Except Fault Int32 := do
  let button ← view.buttonRect checks true
  sub checks (← sub checks button.y (view.px 6)) (← view.glyphH checks)

def fill (fb : Picture) (rect : Rect) (color : UInt32) : Except Fault Picture :=
  fillRect checks fb view.width.toNat rect.x rect.y rect.w rect.h color

def frame (fb : Picture) (rect : Rect) (color : UInt32) : Except Fault Picture :=
  outline checks fb view.width.toNat rect.x rect.y rect.w rect.h color

def textPx (fb : Picture) (x y : Int32) (text : String) (color : UInt32) : Except Fault Picture :=
  Font.blitStr checks fb view.width.toNat x y view.fontScale text color

def text (fb : Picture) (x y : Int32) (text : String) (color : UInt32) : Except Fault Picture :=
  view.textPx checks fb (view.px x) (view.px y) text color

end Viewport

namespace ConnectDialog

variable (checks : Bool) (view : Viewport) (dialog : ConnectDialog)

def drawCaret (fb : Picture) (rect : Rect) (text shown : String) : Except Fault Picture := do
  let glyphW ← view.glyphW checks
  let innerX ← add checks rect.x (view.px PAD)
  let typed : Int32 := if text = "" then 0 else .ofNat shown.length
  let after ← add checks innerX (← mul checks typed glyphW)
  let last ← sub checks (← add checks rect.x rect.w) (view.px 3)
  view.fill checks fb {
    x := min after last
    y := ← view.centreY checks rect
    w := max (view.px 2) 1
    h := ← view.glyphH checks } FG

def drawField (row : Int32) (label : String) (focus : Focus) (text placeholder : String) (fb : Picture) :
    Except Fault Picture := do
  let rect ← view.fieldRect checks row
  let focused := dialog.focus == focus
  let textY ← view.centreY checks rect
  let fb ← view.textPx checks fb (view.px LABEL_X) textY label FG
  let fb ← view.fill checks fb rect FIELD_BG
  let fb ← view.frame checks fb rect (if focused then ACCENT else BORDER)
  let innerX ← add checks rect.x (view.px PAD)
  let innerW ← sub checks rect.w (← mul checks 2 (view.px PAD))
  let maxChars := asUsize (max (← div innerW (← view.glyphW checks)) 1)
  let shown := if text = "" then clip placeholder maxChars else tail text maxChars
  let fb ← view.textPx checks fb innerX textY shown (if text = "" then HINT else FG)
  if focused && focus.textField then drawCaret checks view fb rect text shown else return fb

def drawArrow (fb : Picture) : Except Fault Picture := do
  let rect ← view.fieldRect checks 0
  let size := max (view.px 9) 3
  let right ← add checks rect.x rect.w
  let cx ← sub checks (← sub checks right (view.px PAD)) (size / 2)
  let top ← add checks rect.y ((← sub checks rect.h (size / 2)) / 2)
  (range 0 (size / 2)).foldlM (fun fb row => do
    let half ← sub checks (size / 2) row
    view.fill checks fb {
      x := ← sub checks cx half
      y := ← add checks top row
      w := ← add checks (← mul checks 2 half) 1
      h := 1 } (if dialog.dropdown then ACCENT else FG)) fb

def drawItem (fb : Picture) (index : Fin PROTOCOLS.length) : Except Fault Picture := do
  let rect ← view.itemRect checks index
  let selected := index == dialog.protocol
  let fb ← view.fill checks fb rect (if selected then ACCENT else FIELD_BG)
  let fb ← view.frame checks fb rect BORDER
  let name := String.ofList ((PROTOCOLS.get index).1.toList.rightpad 4 ' ')
  let label := s!"{name}  (port {(PROTOCOLS.get index).2})"
  view.textPx checks fb (← add checks rect.x (view.px PAD)) (← view.centreY checks rect) label (if selected then BG else FG)

def drawDropdown (fb : Picture) : Except Fault Picture :=
  (List.finRange PROTOCOLS.length).foldlM (dialog.drawItem checks view) fb

def drawButton (connect : Bool) (label : String) (fb : Picture) : Except Fault Picture := do
  let rect ← view.buttonRect checks connect
  let focused := dialog.focus == if connect then Focus.connect else .cancel
  let fb ← view.fill checks fb rect BUTTON_BG
  let fb ← view.frame checks fb rect (if focused then ACCENT else BORDER)
  let x ← add checks rect.x ((← sub checks rect.w (← view.textWidth checks label)) / 2)
  view.textPx checks fb x (← view.centreY checks rect) label FG

def drawMessage (message : String) (color : UInt32) (fb : Picture) : Except Fault Picture := do
  let width ← sub checks view.columns (← mul checks 2 (view.px MARGIN))
  let maxChars := asUsize (max (← div width (← view.glyphW checks)) 4)
  view.textPx checks fb (view.px LABEL_X) (← view.statusY checks) (clip message maxChars) color

def drawStatus (fb : Picture) : Except Fault Picture :=
  match dialog.status with
  | .none => .ok fb
  | .error message => drawMessage checks view message ERROR fb
  | .connecting uri => drawMessage checks view s!"connecting to {uri} ..." HINT fb

def paint : Except Fault Picture := do
  let fb ← view.canvas checks
  let fb ← view.text checks fb LABEL_X 14 "Connect to an Xpra server" FG
  let fb ← dialog.drawField checks view 0 "Protocol" .protocol (PROTOCOLS.get dialog.protocol).1 "" fb
  let fb ← dialog.drawArrow checks view fb
  let fb ← dialog.drawField checks view 1 "Host" .host dialog.host "hostname or IP address" fb
  let fb ← dialog.drawField checks view 2 "Port" .port dialog.port "" fb
  let fb ← dialog.drawField checks view 3 "Username" .username dialog.username "optional" fb
  let password := String.ofList (List.replicate dialog.password.length '*')
  let fb ← dialog.drawField checks view 4 "Password" .password password "optional" fb
  let fb ← dialog.drawStatus checks view fb
  let fb ← dialog.drawButton checks view false "Cancel" fb
  let fb ← dialog.drawButton checks view true "Connect" fb
  let hintY ← view.centreY checks (← view.buttonRect checks true)
  let fb ← view.textPx checks fb (view.px LABEL_X) hintY "Enter=connect  Esc=cancel" HINT
  if dialog.dropdown then dialog.drawDropdown checks view fb else return fb

def draw : Except Fault (Option Picture) := view.present <$> dialog.paint checks view

/-- Whether the handler of an event draws the dialog once it has dealt with it. A change
of the display's factor is a resize to the dialog. -/
def redraws (event : WindowEvent) : Bool :=
  match event with
  | .redrawRequested | .resized => true
  | .mouseInput pressed button => pressed && button == .left
  | .keyboardInput event isSynthetic => !isSynthetic && event.pressed
  | _ => false

end ConnectDialog

namespace AuthDialog

variable (checks : Bool) (view : Viewport) (dialog : AuthDialog)

def paint : Except Fault Picture := do
  let fb ← view.canvas checks
  let width := view.width.toNat
  let fb ← Font.blitStr checks fb width 12 16 1 dialog.prompt FG
  let fb ← outline checks fb width 12 56 (← sub checks view.columns 24) 26 FG
  let mask := String.ofList (List.replicate dialog.password.length '*')
  let fb ← Font.blitStr checks fb width (← add checks 12 8) (← add checks 56 5) 1 mask FG
  Font.blitStr checks fb width 12 (← sub checks view.rows 26) 1 "Enter = OK     Esc = cancel" HINT

def draw : Except Fault (Option Picture) := view.present <$> dialog.paint checks view

end AuthDialog

/-! ### What the prompts show -/

namespace App

variable (checks : Bool) (host : Host) (view : Viewport) (app : App)

def drawn : List (Except Fault (Option Picture)) := app.dialog.toList.map fun dialog => dialog.draw checks view

/-- The pictures that the dialog draws while an event is handled. -/
def pictures (event : AppEvent) : List (Except Fault (Option Picture)) :=
  match event with
  | .resumed _ shown => if app.started ∨ app.dialog.isSome then [] else (app.showDialog shown).drawn checks view
  | .input id event pointed _ => match app.dialog with
    | none => []
    | some dialog =>
      if dialog.window ≠ id then []
      else
        let (action, dialog) := dialog.windowEvent event pointed
        let app := { app with state := .prompt (some dialog) }
        (if ConnectDialog.redraws event then app.drawn checks view else []) ++
        match action with
        | .none | .cancel => []
        | .connect details => (app.startConnect host details).drawn checks view
  | .deliver env audioWorker => match app.proxy with
    | [] => []
    | packet :: rest =>
      if packet.len > 0 ∧ yamlStr (packet.get 0) = CONNECT_RESULT ∧ app.pending.isSome then
        match app.connectRx.bind app.results with
        | some (.error _) => ({ app with proxy := rest }.userEvent host env audioWorker packet).drawn checks view
        | some (.ok _) | none => []
      else []
  | .connects _ _ | .posts _ | .session _ => []

/-- The application until a session takes the dialog's place. -/
def promptStep (event : AppEvent × Viewport) (app : App) : Except Unit App :=
  match app.state, step host event.1 app with
  | .prompt _, .ok next => match next.state with
    | .prompt _ => .ok next
    | .session _ => .error ()
  | _, _ => .error ()

end App

/-- The client while its password dialog is open. -/
def authStep (host : Host) (event : WindowEvent × Env × Viewport) (client : XpraClient) : Except Unit XpraClient :=
  let next := handleAuthDialogEvent host event.2.1 client event.1
  if client.authDialog.isSome ∧ next.authDialog.isSome then .ok next else .error ()

/-- The pictures that the password dialog draws. Enter and Escape return before they
would. -/
def authPictures (checks : Bool) (event : WindowEvent) (view : Viewport) (client : XpraClient) :
    List (Except Fault (Option Picture)) :=
  match client.authDialog, event with
  | some dialog, .redrawRequested => [dialog.draw checks view]
  | some dialog, .keyboardInput event isSynthetic =>
    if isSynthetic ∨ event.pressed = false then []
    else match dialog.handleKey event with
      | (.none, dialog) => [dialog.draw checks view]
      | (.submit, _) | (.cancel, _) => []
  | _, _ => []

end Xpra.Client
