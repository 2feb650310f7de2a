import Xpra.Client.Checked

/-! The shapes that the hand-drawn dialogs share (`client/paint.rs`). Coordinates are the
32-bit integers of the source. A build with overflow checks stops where a sum leaves
them, and a release build wraps. -/

namespace Xpra.Client.Paint
open Checked (Fault)

/-- A sum or a product of 32-bit integers, from its exact value. -/
def i32 (checks : Bool) (exact : Int) : Except Fault Int32 :=
  if checks ∧ ¬ (-2 ^ 31 ≤ exact ∧ exact < 2 ^ 31) then .error .overflow else .ok (.ofInt exact)

/-- The same for sizes. -/
def usize (checks : Bool) (exact : Nat) : Except Fault Nat :=
  if checks ∧ USIZE ≤ exact then .error .overflow else .ok (exact % USIZE)

/-- `v as usize`. -/
def asUsize (value : Int32) : Nat := (value.toInt % USIZE).toNat

/-- `start..stop`. -/
def range (start stop : Int32) : List Int32 := (List.range (stop.toInt - start.toInt).toNat).map fun i => start + .ofNat i

def store (fb : List UInt32) (index : Nat) (color : UInt32) : Except Fault (List UInt32) :=
  if index < fb.length then .ok (fb.set index color) else .error (.panic .bounds)

def fillRow (checks : Bool) (fbw : Nat) (x w : Int32) (color : UInt32) (fb : List UInt32) (py : Int32) : Except Fault (List UInt32) := do
  let row ← usize checks (asUsize py * fbw)
  let right ← i32 checks (x.toInt + w.toInt)
  (range (max x 0) (min right (.ofNat fbw))).foldlM (fun fb px => do
    let index ← usize checks (row + asUsize px)
    store fb index color) fb

def fillRect (checks : Bool) (fb : List UInt32) (fbw : Nat) (x y w h : Int32) (color : UInt32) : Except Fault (List UInt32) :=
  if fbw = 0 then .ok fb
  else do
    let fbh : Int32 := .ofNat (fb.length / fbw)
    let bottom ← i32 checks (y.toInt + h.toInt)
    (range (max y 0) (min bottom fbh)).foldlM (fillRow checks fbw x w color) fb

/-- The closure of `outline`. `blit_str` has the same test around its own writes. -/
def put (checks : Bool) (fbw : Nat) (fbh : Int32) (color : UInt32) (fb : List UInt32) (px py : Int32) : Except Fault (List UInt32) :=
  if px ≥ 0 ∧ px < .ofNat fbw ∧ py ≥ 0 ∧ py < fbh then do
    let row ← usize checks (asUsize py * fbw)
    let index ← usize checks (row + asUsize px)
    store fb index color
  else .ok fb

/-- The pixels of one column at the top and at the bottom. -/
def outlineColumn (checks : Bool) (fbw : Nat) (fbh y h : Int32) (color : UInt32) (fb : List UInt32) (px : Int32) :
    Except Fault (List UInt32) := do
  let fb ← put checks fbw fbh color fb px y
  let bottom ← i32 checks (y.toInt + h.toInt)
  let last ← i32 checks (bottom.toInt - 1)
  put checks fbw fbh color fb px last

def outlineRow (checks : Bool) (fbw : Nat) (fbh x w : Int32) (color : UInt32) (fb : List UInt32) (py : Int32) :
    Except Fault (List UInt32) := do
  let fb ← put checks fbw fbh color fb x py
  let right ← i32 checks (x.toInt + w.toInt)
  let last ← i32 checks (right.toInt - 1)
  put checks fbw fbh color fb last py

def outline (checks : Bool) (fb : List UInt32) (fbw : Nat) (x y w h : Int32) (color : UInt32) : Except Fault (List UInt32) :=
  if fbw = 0 ∨ w ≤ 0 ∨ h ≤ 0 then .ok fb
  else do
    let fbh : Int32 := .ofNat (fb.length / fbw)
    let right ← i32 checks (x.toInt + w.toInt)
    let fb ← (range x right).foldlM (outlineColumn checks fbw fbh y h color) fb
    let bottom ← i32 checks (y.toInt + h.toInt)
    (range y bottom).foldlM (outlineRow checks fbw fbh x w color) fb

end Xpra.Client.Paint
