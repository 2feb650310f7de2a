/-! User input as the platform reports it, and the names the server knows keys
by. -/

namespace Xpra.Client

inductive NamedKey where
  | enter | tab | space | backspace | delete | escape
  | arrowUp | arrowDown | arrowLeft | arrowRight
  | home | endKey | pageUp | pageDown | insert
  | shift | control | alt | altGraph | super
  | capsLock | numLock | scrollLock
  | f1 | f2 | f3 | f4 | f5 | f6 | f7 | f8 | f9 | f10 | f11 | f12
  | contextMenu | printScreen | pause
  | other
  deriving DecidableEq, Repr

inductive Key where
  | character (text : String)
  | named (key : NamedKey)
  | other
  deriving DecidableEq, Repr

structure KeyEvent where
  pressed : Bool
  key : Key
  text : Option String
  scancode : Option UInt32
  deriving DecidableEq, Repr

inductive MouseButton where
  | left | middle | right | back | forward
  | other (number : UInt16)
  deriving DecidableEq, Repr

inductive WindowEvent where
  | focused (isFocused : Bool)
  | moved
  | resized
  | redrawRequested
  /-- The position within the window, in whole pixels. -/
  | cursorMoved (x y : Int32)
  | mouseInput (pressed : Bool) (button : MouseButton)
  /-- The signs of the two scroll distances. -/
  | mouseWheel (dx dy : Ordering)
  | modifiersChanged (shift control alt : Bool)
  | keyboardInput (event : KeyEvent) (isSynthetic : Bool)
  | closeRequested
  | other
  deriving DecidableEq, Repr

/-- Linux scancodes are eight below the X11 keycodes. -/
def physicalKeyToXpraKeycode (linux : Bool) : Option UInt32 → UInt32
  | some scancode => if linux then scancode + 8 else scancode
  | none => 0

def NamedKey.xpraName : NamedKey → String
  | .enter => "Return" | .tab => "Tab" | .space => "space" | .backspace => "BackSpace"
  | .delete => "Delete" | .escape => "Escape"
  | .arrowUp => "Up" | .arrowDown => "Down" | .arrowLeft => "Left" | .arrowRight => "Right"
  | .home => "Home" | .endKey => "End" | .pageUp => "Prior" | .pageDown => "Next" | .insert => "Insert"
  | .shift => "shift" | .control => "control" | .alt => "mod1" | .altGraph => "mod5" | .super => "super"
  | .capsLock => "Caps_Lock" | .numLock => "Num_Lock" | .scrollLock => "Scroll_Lock"
  | .f1 => "F1" | .f2 => "F2" | .f3 => "F3" | .f4 => "F4" | .f5 => "F5" | .f6 => "F6"
  | .f7 => "F7" | .f8 => "F8" | .f9 => "F9" | .f10 => "F10" | .f11 => "F11" | .f12 => "F12"
  | .contextMenu => "Menu" | .printScreen => "Print" | .pause => "Pause"
  | .other => ""

def keyToXpraKeyname : Key → String
  | .character text =>
    if text = "-" then "minus"
    else if text = "=" then "equal"
    else if text = "," then "comma"
    else if text = "." then "period"
    else if text = "/" then "slash"
    else if text = ";" then "semicolon"
    else if text = "'" then "apostrophe"
    else if text = String.singleton (Char.ofNat 0x60) then "grave"
    else if text = "[" then "bracketleft"
    else if text = "]" then "bracketright"
    else if text = "\\" then "backslash"
    else text
  | .named key => key.xpraName
  | .other => ""

/-- `char::is_control`. -/
def isControl (char : Char) : Bool := char.toNat ≤ 0x1F || (0x7F ≤ char.toNat && char.toNat ≤ 0x9F)

end Xpra.Client
