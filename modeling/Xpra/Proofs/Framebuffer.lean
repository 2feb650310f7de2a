import Xpra.Client.Window
import Xpra.Library.Machine

/-! The framebuffer of a window. Its size is computed in 32 bits, and every index into
it in 64, so they fit together only where the product of the sides does not wrap. -/

namespace Xpra.Proofs.Framebuffer
open Xpra.Net Xpra.Client Library

/-! ### Calls on a window -/

inductive WindowCall where
  | resize (surface : Bool) (width height : UInt32)
  | paint (x y : Int32) (w h : UInt32) (coding : String) (pixels : Bytes)

def windowCall (call : WindowCall) (window : XpraWindow) : Except Panic XpraWindow :=
  match call with
  | .resize surface width height => .ok (window.resize surface width height)
  | .paint x y w h coding pixels => window.paint x y w h coding pixels

/-! ### The indices computed on the way -/

variable (window : XpraWindow)

def pixelOffset (x y : UInt32) : List Nat :=
  if x < window.width ∧ y < window.height then [y.toNat * window.width.toNat + x.toNat] else []

def borderOffsets (x y : Int32) (w h : UInt32) : List Nat :=
  let x0 := asU32 (max x 0)
  let y0 := asU32 (max y 0)
  let x1 := min (asU32 (max (x + asI32 w) 0)) window.width
  let y1 := min (asU32 (max (y + asI32 h) 0)) window.height
  if x1 ≤ x0 ∨ y1 ≤ y0 then []
  else (XpraWindow.span x0 x1).flatMap (fun col => pixelOffset window col y0 ++ pixelOffset window col (y1 - 1)) ++
    (XpraWindow.span y0 y1).flatMap fun row => pixelOffset window x0 row ++ pixelOffset window (x1 - 1) row

def columnOffset (x dstY : Int32) (col : Nat) : List Nat :=
  let dstX := x + asI32 (UInt32.ofNat col)
  if dstX < 0 ∨ asU32 dstX ≥ window.width then []
  else [(asU32 dstY).toNat * window.width.toNat + (asU32 dstX).toNat]

def rowOffsets (x y : Int32) (w : UInt32) (row : Nat) : List Nat :=
  let dstY := y + asI32 (UInt32.ofNat row)
  if dstY < 0 ∨ asU32 dstY ≥ window.height then [] else (List.range w.toNat).flatMap (columnOffset window x dstY)

/-- The framebuffer indices that a call computes, in their order, if it gets that far. -/
def offsets : WindowCall → List Nat
  | .resize _ _ _ => []
  | .paint x y w h _ pixels =>
    if pixels.length < w.toNat * h.toNat * 4 % USIZE then []
    else (List.range h.toNat).flatMap (rowOffsets window x y w) ++
      if window.paintDebug then borderOffsets window x y w h else []

variable {window}

/-! ### What drawing touches -/

structure SameShape (window next : XpraWindow) : Prop where
  width : next.width = window.width
  height : next.height = window.height
  length : next.framebuffer.length = window.framebuffer.length
  paintDebug : next.paintDebug = window.paintDebug

theorem SameShape.refl (window : XpraWindow) : SameShape window window := ⟨rfl, rfl, rfl, rfl⟩

theorem SameShape.set {next : XpraWindow} (same : SameShape window next) (offset : Nat) (pixel : UInt32) :
    SameShape window { next with framebuffer := next.framebuffer.set offset pixel } :=
  ⟨same.width, same.height, by simpa using same.length, same.paintDebug⟩

/-- Drawing leaves the shape of the window alone. Where the source covers it, it goes
through exactly when every index lies in the framebuffer. -/
structure Touches (covered : Prop) (window : XpraWindow) (offsets : List Nat) (result : Except Panic XpraWindow) : Prop where
  returns : covered → ((∃ next, result = .ok next) ↔ ∀ offset ∈ offsets, offset < window.framebuffer.length)
  keeps : ∀ next, result = .ok next → SameShape window next

namespace Touches

variable {covered : Prop} {next : XpraWindow} {first second : List Nat}

theorem done (same : SameShape window next) : Touches covered window [] (.ok next) := by
  refine ⟨fun _ => ⟨nofun, fun _ => ⟨next, rfl⟩⟩, ?_⟩
  intro other equal
  cases equal
  exact same

theorem bind {begun : Except Panic XpraWindow} {rest : XpraWindow → Except Panic XpraWindow}
    (start : Touches covered window first begun) (later : ∀ next, SameShape window next → Touches covered window second (rest next)) :
    Touches covered window (first ++ second) (begun >>= rest) := by
  constructor
  · intro sourced
    simp only [List.forall_mem_append, ← start.returns sourced]
    constructor
    · rintro ⟨last, returned⟩
      obtain ⟨middle, here, there⟩ := bind_ok returned
      exact ⟨⟨middle, here⟩, ((later middle (start.keeps middle here)).returns sourced).mp ⟨last, there⟩⟩
    · rintro ⟨⟨middle, here⟩, inside⟩
      rw [here]
      exact ((later middle (start.keeps middle here)).returns sourced).mpr inside
  · intro last returned
    obtain ⟨middle, here, there⟩ := bind_ok returned
    exact (later middle (start.keeps middle here)).keeps last there

theorem fold {α : Type} {step : XpraWindow → α → Except Panic XpraWindow} {part : α → List Nat} {items : List α}
    (each : ∀ item ∈ items, ∀ next, SameShape window next → Touches covered window (part item) (step next item))
    (same : SameShape window next) : Touches covered window (items.flatMap part) (items.foldlM step next) := by
  induction items generalizing next with
  | nil => exact done same
  | cons item items ih =>
    rw [List.flatMap_cons, List.foldlM_cons]
    exact (each item List.mem_cons_self next same).bind fun middle kept =>
      ih (fun other member => each other (List.mem_cons_of_mem _ member)) kept

end Touches

section Drawing

variable {covered : Prop} {next : XpraWindow} {x y : Int32} {w h : UInt32} {coding : String} {pixels : Bytes}

theorem setPixel_touches (same : SameShape window next) (x y color : UInt32) :
    Touches covered window (pixelOffset window x y) (next.setPixel x y color) := by
  have shaped : pixelOffset window x y = pixelOffset next x y := by
    rw [pixelOffset, pixelOffset, same.width, same.height]
  rw [shaped, XpraWindow.setPixel, pixelOffset]
  split
  next =>
    dsimp only
    split
    next fits =>
      rw [same.length] at fits
      refine ⟨fun _ => ⟨fun _ => by simpa using fits, fun _ => ⟨_, rfl⟩⟩, fun other set => ?_⟩
      cases set
      exact same.set _ _
    next outside =>
      rw [same.length] at outside
      exact ⟨fun _ => ⟨nofun, fun all => absurd (all _ (List.mem_singleton.mpr rfl)) outside⟩, nofun⟩
  next => exact .done same

theorem drawDebugBorder_touches (same : SameShape window next) (x y : Int32) (w h : UInt32) :
    Touches covered window (borderOffsets window x y w h) (next.drawDebugBorder x y w h) := by
  rw [XpraWindow.drawDebugBorder, borderOffsets, same.width, same.height]
  split
  · exact .done same
  · refine .bind (.fold (fun col _ next same => ?_) same) fun next same => .fold (fun row _ next same => ?_) same
    · exact .bind (setPixel_touches same col _ _) fun next same => setPixel_touches same col _ _
    · exact .bind (setPixel_touches same _ row _) fun next same => setPixel_touches same _ row _

/-- The source offsets of a pixel inside the image do not wrap. -/
theorem source_offset {row col : Nat} (down : row < h.toNat) (across : col < w.toNat)
    (covers : w.toNat * h.toNat * 4 ≤ pixels.length) :
    (row * w.toNat * 4 % USIZE + col * 4) % USIZE + 4 ≤ pixels.length := by
  have below : (row * w.toNat * 4 % USIZE + col * 4) % USIZE ≤ row * w.toNat * 4 + col * 4 :=
    (Nat.mod_le _ _).trans (Nat.add_le_add_right (Nat.mod_le _ _) _)
  have rows : (row + 1) * w.toNat ≤ w.toNat * h.toNat := by
    rw [Nat.mul_comm w.toNat]
    exact Nat.mul_le_mul_right _ down
  rw [Nat.succ_mul] at rows
  omega

theorem paintPixel_touches (same : SameShape window next) {row col : Nat} (down : row < h.toNat) (across : col < w.toNat)
    (dstY : Int32) :
    Touches (w.toNat * h.toNat * 4 ≤ pixels.length) window (columnOffset window x dstY col)
      (XpraWindow.paintPixel coding pixels x dstY (row * w.toNat * 4 % USIZE) next col) := by
  have shaped : columnOffset window x dstY col = columnOffset next x dstY col := by
    rw [columnOffset, columnOffset, same.width]
  rw [shaped, XpraWindow.paintPixel, columnOffset]
  split
  next => exact .done same
  next =>
    constructor
    · intro covers
      have source := source_offset down across covers
      rw [same.length]
      simp only [source, true_and, List.mem_singleton, forall_eq]
      split
      next fits => exact ⟨fun _ => fits, fun _ => ⟨_, rfl⟩⟩
      next outside => exact ⟨nofun, fun fits => absurd fits outside⟩
    · intro other painted
      dsimp only at painted
      split at painted
      next =>
        cases painted
        exact same.set _ _
      next => cases painted

theorem paintRow_touches (same : SameShape window next) {row : Nat} (down : row < h.toNat) :
    Touches (w.toNat * h.toNat * 4 ≤ pixels.length) window (rowOffsets window x y w row)
      (XpraWindow.paintRow coding pixels x y w next row) := by
  rw [XpraWindow.paintRow, rowOffsets, same.height]
  split
  · exact .done same
  · exact .fold (fun col across next same => paintPixel_touches same down (List.mem_range.mp across) _) same

/-- Where the pixels cover the image, a call returns exactly when all of its indices lie
in the framebuffer. -/
theorem paint_touches (window : XpraWindow) (x y : Int32) (w h : UInt32) (coding : String) (pixels : Bytes) :
    Touches (w.toNat * h.toNat * 4 ≤ pixels.length) window (offsets window (.paint x y w h coding pixels))
      (window.paint x y w h coding pixels) := by
  rw [XpraWindow.paint, offsets]
  split
  · exact .done (.refl window)
  · refine .bind (.fold (fun row down next same => paintRow_touches same (List.mem_range.mp down)) (.refl window))
      fun next same => ?_
    rw [same.paintDebug]
    split
    · exact drawDebugBorder_touches same x y w h
    · exact .done same

end Drawing

/-! ### A framebuffer of the right size -/

structure Framed (window : XpraWindow) : Prop where
  wide : 1 ≤ window.width
  high : 1 ≤ window.height
  length : window.framebuffer.length = window.width.toNat * window.height.toNat

theorem inside_framebuffer (length : window.framebuffer.length = window.width.toNat * window.height.toNat) {dx dy : Nat}
    (across : dx < window.width.toNat) (down : dy < window.height.toNat) :
    dy * window.width.toNat + dx < window.framebuffer.length := by
  have rows : (dy + 1) * window.width.toNat ≤ window.height.toNat * window.width.toNat := Nat.mul_le_mul_right _ down
  rw [Nat.succ_mul] at rows
  rw [length, Nat.mul_comm window.width.toNat]
  omega

theorem Framed.same {next : XpraWindow} (framed : Framed window) (same : SameShape window next) : Framed next :=
  ⟨same.width ▸ framed.wide, same.height ▸ framed.high, by rw [same.length, same.width, same.height, framed.length]⟩

theorem Framed.inside (framed : Framed window) {x y : UInt32} (across : x < window.width) (down : y < window.height) :
    y.toNat * window.width.toNat + x.toNat < window.framebuffer.length := by
  have across : x.toNat < window.width.toNat := across
  have down : y.toNat < window.height.toNat := down
  have rows : (y.toNat + 1) * window.width.toNat ≤ window.height.toNat * window.width.toNat := Nat.mul_le_mul_right _ down
  rw [framed.length, Nat.mul_comm window.width.toNat]
  rw [Nat.succ_mul] at rows
  omega

theorem Framed.pixelOffset (framed : Framed window) {x y : UInt32} :
    ∀ offset ∈ pixelOffset window x y, offset < window.framebuffer.length := by
  rw [Framebuffer.pixelOffset]
  split
  next inside => simpa using framed.inside inside.1 inside.2
  next => nofun

theorem Framed.borderOffsets (framed : Framed window) {x y : Int32} {w h : UInt32} :
    ∀ offset ∈ borderOffsets window x y w h, offset < window.framebuffer.length := by
  rw [Framebuffer.borderOffsets]
  split
  · nofun
  · intro offset member
    simp only [List.mem_append, List.mem_flatMap] at member
    rcases member with ⟨_, -, member | member⟩ | ⟨_, -, member | member⟩
    all_goals exact framed.pixelOffset offset member

theorem Framed.rowOffsets (framed : Framed window) {x y : Int32} {w : UInt32} {row : Nat} :
    ∀ offset ∈ rowOffsets window x y w row, offset < window.framebuffer.length := by
  rw [Framebuffer.rowOffsets]
  split
  · nofun
  next down =>
    intro offset member
    obtain ⟨col, -, member⟩ := List.mem_flatMap.mp member
    rw [columnOffset] at member
    split at member
    next => cases member
    next across =>
      cases List.mem_singleton.mp member
      simp only [not_or, ge_iff_le, UInt32.not_le] at down across
      exact framed.inside across.2 down.2

theorem Framed.offsets (framed : Framed window) (call : WindowCall) :
    ∀ offset ∈ offsets window call, offset < window.framebuffer.length := by
  cases call with
  | resize surface width height => nofun
  | paint x y w h coding pixels =>
    rw [Framebuffer.offsets]
    split
    · nofun
    · intro offset member
      rcases List.mem_append.mp member with painted | bordered
      · obtain ⟨row, -, member⟩ := List.mem_flatMap.mp painted
        exact framed.rowOffsets offset member
      · split at bordered
        next => exact framed.borderOffsets offset bordered
        next => cases bordered

/-! ### Sizes that do not wrap -/

/-- The product of the sides, as `new` and `resize` take them, is a 32-bit number. -/
def Fits (width height : UInt32) : Prop := (max width 1).toNat * (max height 1).toNat < 2 ^ 32

theorem one_le_side (side : UInt32) : 1 ≤ max side 1 := by
  by_cases small : side ≤ 1
  · simp [max, small]
  · simpa [max, maxOfLe, small] using UInt32.le_of_lt (UInt32.not_le.mp small)

theorem framed_iff_fits {width height : UInt32} (wide : window.width = max width 1) (high : window.height = max height 1)
    (made : window.framebuffer = List.replicate (max width 1 * max height 1).toNat 0) :
    Framed window ↔ Fits width height := by
  have length : window.framebuffer.length = (max width 1).toNat * (max height 1).toNat % 2 ^ 32 := by
    rw [made, List.length_replicate, UInt32.toNat_mul]
  constructor
  · intro framed
    have whole := framed.length
    rw [length, wide, high] at whole
    rw [Fits, ← whole]
    exact Nat.mod_lt _ (by decide)
  · intro fits
    refine ⟨wide ▸ one_le_side width, high ▸ one_le_side height, ?_⟩
    rw [length, wide, high, Nat.mod_eq_of_lt fits]

/-- The call makes no framebuffer, or one whose size does not wrap. -/
def FitsCall (call : WindowCall) (window : XpraWindow) : Prop :=
  match call with
  | .resize surface width height =>
    surface = true → ¬ (max width 1 = window.width ∧ max height 1 = window.height) → Fits width height
  | .paint _ _ _ _ _ _ => True

/-- What a call leaves behind: a framebuffer of the window's size, and after a surface
that could not be resized everything as it was. -/
structure Leaves (call : WindowCall) (window next : XpraWindow) : Prop where
  framed : Framed next
  unsized : ∀ width height, call = .resize false width height →
    next.width = window.width ∧ next.height = window.height ∧ next.framebuffer = window.framebuffer

theorem resize_without_surface (window : XpraWindow) (width height : UInt32) :
    window.resize false width height = window := by
  simp [XpraWindow.resize]

theorem windowCall_leaves_iff (call : WindowCall) (framed : Framed window) :
    (∀ next, windowCall call window = .ok next → Leaves call window next) ↔ FitsCall call window := by
  cases call with
  | paint x y w h coding pixels =>
    have touches := paint_touches window x y w h coding pixels
    exact ⟨fun _ => trivial, fun _ next painted => ⟨framed.same (touches.keeps next painted), nofun⟩⟩
  | resize surface width height =>
    simp only [windowCall, Except.ok.injEq, forall_eq']
    cases surface with
    | false =>
      rw [resize_without_surface]
      exact ⟨fun _ => nofun, fun _ => ⟨framed, fun _ _ _ => ⟨rfl, rfl, rfl⟩⟩⟩
    | true =>
      by_cases same : max width 1 = window.width ∧ max height 1 = window.height
      · have still : window.resize true width height = window := by
          simp [XpraWindow.resize, same]
        rw [still]
        exact ⟨fun _ _ other => absurd same other, fun _ => ⟨framed, nofun⟩⟩
      · have sized : Framed (window.resize true width height) ↔ Fits width height := by
          apply framed_iff_fits <;> simp [XpraWindow.resize, same]
        exact ⟨fun leaves _ _ => sized.mp leaves.framed, fun fits => ⟨sized.mpr (fits rfl same), nofun⟩⟩

/-! ### Any sequence of calls -/

/-- The pixels are as many as the call says. -/
def Covered : WindowCall → Prop
  | .resize _ _ _ => True
  | .paint _ _ w h _ pixels => w.toNat * h.toNat * 4 ≤ pixels.length

/-- A call computes no index outside the framebuffer, so nothing but missing pixels can
end the program, and it leaves a framebuffer of the window's size. -/
structure Sound (call : WindowCall) (window : XpraWindow) : Prop where
  inside : ∀ offset ∈ offsets window call, offset < window.framebuffer.length
  returns : Covered call → ∃ next, windowCall call window = .ok next
  leaves : ∀ next, windowCall call window = .ok next → Leaves call window next

theorem Framed.returns (framed : Framed window) (call : WindowCall) (covered : Covered call) :
    ∃ next, windowCall call window = .ok next := by
  cases call with
  | resize surface width height => exact ⟨_, rfl⟩
  | paint x y w h coding pixels =>
    exact ((paint_touches window x y w h coding pixels).returns covered).mpr (framed.offsets _)

theorem sound_along_iff (calls : List WindowCall) (framed : Framed window) :
    Machine.Along windowCall Sound calls window ↔ Machine.Along windowCall FitsCall calls window := by
  have always : Machine.Along windowCall (fun _ _ => True) calls window := .of_forall _ _ _ fun _ _ => trivial
  have leaves := Machine.along_after_iff windowCall Framed Leaves
    (fun call before next _ _ left => left.framed) (fun call before _ kept => windowCall_leaves_iff call kept) always framed
  constructor
  · intro sound
    exact leaves.mp (sound.mono windowCall fun call before kept => kept.leaves)
  · intro fits
    apply fits.of_invariant_along windowCall Framed _ _ framed
    · intro call before next fit kept called
      exact ((windowCall_leaves_iff call kept).mpr fit next called).framed
    · intro call before fit kept
      exact ⟨kept.offsets call, kept.returns call, (windowCall_leaves_iff call kept).mpr fit⟩

/-- The sides are positive, the framebuffer is as long as their product and no call
leaves it, in every sequence of calls, exactly when no product of sides wraps. -/
theorem framebuffer_kept_iff {surface paintDebug overrideRedirect : Bool} {wid : UInt64} {id : WindowId}
    {width height : UInt32} {window : XpraWindow}
    (made : XpraWindow.new surface paintDebug wid id width height overrideRedirect = .ok window) (calls : List WindowCall) :
    Framed window ∧ Machine.Along windowCall Sound calls window ↔
      Fits width height ∧ Machine.Along windowCall FitsCall calls window := by
  have sized : Framed window ↔ Fits width height := by
    cases surface with
    | false => cases made
    | true =>
      cases made
      exact framed_iff_fits rfl rfl rfl
  rw [sized]
  apply and_congr_right
  intro fits
  exact sound_along_iff calls (sized.mpr fits)

/-- A window that grows and is painted on, past its right edge as well. -/
def painting : List WindowCall := [.resize true 3 2, .paint 2 1 2 1 "png" [255, 128, 64, 255, 1, 2, 3, 255]]

theorem framebuffer_kept_small : ∃ window painted, XpraWindow.new true false 1 1 0 2 false = .ok window ∧
    Machine.run windowCall painting window = .ok painted ∧ painted.framebuffer = [0, 0, 0, 0, 0, 0xFF8040] ∧
    (Framed window ∧ Machine.Along windowCall Sound painting window) := by
  obtain ⟨window, made⟩ : ∃ window, XpraWindow.new true false 1 1 0 2 false = .ok window := ⟨_, rfl⟩
  have fits : Fits 0 2 ∧ Machine.Along windowCall FitsCall painting window :=
    ⟨by rw [Fits]; decide, fun _ _ => by rw [Fits]; decide, fun _ _ => ⟨trivial, fun _ _ => trivial⟩⟩
  obtain ⟨painted, ran, shown⟩ : ∃ painted, Machine.run windowCall painting window = .ok painted ∧
      (painted.framebuffer == [0, 0, 0, 0, 0, 0xFF8040]) = true := by
    cases made
    exact Machine.ends_in (by decide +kernel)
  exact ⟨window, painted, made, ran, beq_iff_eq.mp shown, (framebuffer_kept_iff made painting).mpr fits⟩

/-- A window of 65536 by 65536 has an empty framebuffer, and the first pixel painted on
it ends the program. -/
theorem framebuffer_wraps : ∃ window,
    XpraWindow.new true false 1 1 65536 65536 false = .ok window ∧ window.framebuffer = [] ∧
      windowCall (.paint 0 0 1 1 "png" [255, 255, 255, 255]) window = .error .bounds :=
  ⟨_, rfl, rfl, rfl⟩

end Xpra.Proofs.Framebuffer
