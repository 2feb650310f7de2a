import Xpra.Client.Mmap

/-! A forwarded window and its framebuffer (`client/window.rs`). Coordinates are
the 32-bit integers of the source and wrap as they do in a release build. -/

namespace Xpra.Client
open Xpra.Net

/-- How the platform holds the pointer for a window. -/
inductive CursorGrab where
  | none
  | confined
  | locked
  deriving DecidableEq, Repr

abbrev WindowId := Nat

structure XpraWindow where
  wid : UInt64
  id : WindowId
  framebuffer : List UInt32
  width : UInt32
  height : UInt32
  mapped : Bool := false
  overrideRedirect : Bool
  above : Bool := false
  below : Bool := false
  paintDebug : Bool
  lastCursor : Int32 × Int32 := (0, 0)
  grab : CursorGrab := .none

/-- `v as i32`. -/
def asI32 (value : UInt32) : Int32 := value.toInt32

/-- `v as u32`. -/
def asU32 (value : Int32) : UInt32 := value.toUInt32

namespace XpraWindow

/-- `surface` tells whether the platform could create and size the surface. -/
def new (surface : Bool) (paintDebug : Bool) (wid : UInt64) (id : WindowId) (width height : UInt32)
    (overrideRedirect : Bool) : Except Panic XpraWindow :=
  if surface then
    let rw := max width 1
    let rh := max height 1
    .ok { wid, id, framebuffer := List.replicate (rw * rh).toNat 0, width := rw, height := rh,
          overrideRedirect, paintDebug }
  else .error .expect

def setPixel (window : XpraWindow) (x y : UInt32) (color : UInt32) : Except Panic XpraWindow :=
  if x < window.width ∧ y < window.height then
    let off := y.toNat * window.width.toNat + x.toNat
    if off < window.framebuffer.length then
      .ok { window with framebuffer := window.framebuffer.set off color }
    else .error .bounds
  else .ok window

def span (start stop : UInt32) : List UInt32 :=
  (List.range (stop.toNat - start.toNat)).map fun i => start + UInt32.ofNat i

def drawDebugBorder (window : XpraWindow) (x y : Int32) (w h : UInt32) : Except Panic XpraWindow :=
  let color : UInt32 := 0x00FF0000
  let x0 := asU32 (max x 0)
  let y0 := asU32 (max y 0)
  let x1 := min (asU32 (max (x + asI32 w) 0)) window.width
  let y1 := min (asU32 (max (y + asI32 h) 0)) window.height
  if x1 ≤ x0 ∨ y1 ≤ y0 then .ok window
  else do
    let window ← (span x0 x1).foldlM (fun window col => do
      let window ← setPixel window col y0 color
      setPixel window col (y1 - 1) color) window
    (span y0 y1).foldlM (fun window row => do
      let window ← setPixel window x0 row color
      setPixel window (x1 - 1) row color) window

def bgr (coding : String) : Bool := coding = "jpeg" || coding = "h264" || coding = "webp" || coding = "mmap"

/-- The conversion to softbuffer's `0x00RRGGBB`. -/
def toPixel (bgr : Bool) (px : Bytes) : UInt32 :=
  let channel (i : Nat) : UInt32 := (px.getD i 0).toUInt32
  if bgr then channel 2 <<< 16 ||| channel 1 <<< 8 ||| channel 0
  else channel 0 <<< 16 ||| channel 1 <<< 8 ||| channel 2

def paintPixel (coding : String) (pixels : Bytes) (x dstY : Int32) (srcRowStart : Nat)
    (window : XpraWindow) (col : Nat) : Except Panic XpraWindow :=
  let dstX := x + asI32 (UInt32.ofNat col)
  if dstX < 0 ∨ asU32 dstX ≥ window.width then .ok window
  else
    let srcOff := (srcRowStart + col * 4) % USIZE
    let dstOff := (asU32 dstY).toNat * window.width.toNat + (asU32 dstX).toNat
    if srcOff + 4 ≤ pixels.length ∧ dstOff < window.framebuffer.length then
      let px := toPixel (bgr coding) ((pixels.drop srcOff).take 4)
      .ok { window with framebuffer := window.framebuffer.set dstOff px }
    else .error .bounds

def paintRow (coding : String) (pixels : Bytes) (x y : Int32) (w : UInt32) (window : XpraWindow) (row : Nat) :
    Except Panic XpraWindow :=
  let dstY := y + asI32 (UInt32.ofNat row)
  if dstY < 0 ∨ asU32 dstY ≥ window.height then .ok window
  else (List.range w.toNat).foldlM (paintPixel coding pixels x dstY (row * w.toNat * 4 % USIZE)) window

def paint (window : XpraWindow) (x y : Int32) (w h : UInt32) (coding : String) (pixels : Bytes) :
    Except Panic XpraWindow :=
  let expected := w.toNat * h.toNat * 4 % USIZE
  if pixels.length < expected then .ok window
  else do
    let window ← (List.range h.toNat).foldlM (paintRow coding pixels x y w) window
    if window.paintDebug then window.drawDebugBorder x y w h else return window

/-- `surface` tells whether the surface could be resized. -/
def resize (surface : Bool) (window : XpraWindow) (width height : UInt32) : XpraWindow :=
  let rw := max width 1
  let rh := max height 1
  if rw = window.width ∧ rh = window.height then window
  else if surface then
    { window with width := rw, height := rh, framebuffer := List.replicate (rw * rh).toNat 0 }
  else window

end XpraWindow
end Xpra.Client
