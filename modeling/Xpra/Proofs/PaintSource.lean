import Xpra.Proofs.Framebuffer

/-! The slices that `paint` takes from the pixels. Its length check computes the size of
the image in 64 bits, where the product of two sides and four may wrap. -/

namespace Xpra.Proofs.PaintSource
open Xpra.Net Xpra.Client Library Framebuffer

/-! ### The slices on the way -/

section Sources

variable (window : XpraWindow)

def columnSource (x : Int32) (srcRowStart col : Nat) : List Nat :=
  let dstX := x + asI32 (UInt32.ofNat col)
  if dstX < 0 ∨ asU32 dstX ≥ window.width then [] else [(srcRowStart + col * 4) % USIZE]

def rowSources (x y : Int32) (w : UInt32) (row : Nat) : List Nat :=
  let dstY := y + asI32 (UInt32.ofNat row)
  if dstY < 0 ∨ asU32 dstY ≥ window.height then []
  else (List.range w.toNat).flatMap (columnSource window x (row * w.toNat * 4 % USIZE))

/-- The offsets of the four-byte slices that a draw takes once it is past the length
check, in their order, if it gets that far. -/
def sources (x y : Int32) (w h : UInt32) (pixels : Bytes) : List Nat :=
  if pixels.length < w.toNat * h.toNat * 4 % USIZE then [] else (List.range h.toNat).flatMap (rowSources window x y w)

end Sources

variable {window next : XpraWindow} {x y : Int32} {w h : UInt32} {coding : String} {pixels : Bytes}

/-- Drawing that goes through has found every slice in the pixels. -/
def Takes (pixels : Bytes) (window : XpraWindow) (sources : List Nat) (result : Except Panic XpraWindow) : Prop :=
  ∀ next, result = .ok next → (∀ source ∈ sources, source + 4 ≤ pixels.length) ∧ SameShape window next

namespace Takes

variable {first second : List Nat}

theorem done (same : SameShape window next) : Takes pixels window [] (.ok next) := by
  intro other equal
  cases equal
  exact ⟨nofun, same⟩

theorem fold {α : Type} {step : XpraWindow → α → Except Panic XpraWindow} {part : α → List Nat} {items : List α}
    (each : ∀ item next, SameShape window next → Takes pixels window (part item) (step next item)) (same : SameShape window next) :
    Takes pixels window (items.flatMap part) (items.foldlM step next) := by
  induction items generalizing next with
  | nil => exact done same
  | cons item items ih =>
    intro last returned
    rw [List.foldlM_cons] at returned
    obtain ⟨middle, here, there⟩ := bind_ok returned
    obtain ⟨inside, kept⟩ := each item next same middle here
    obtain ⟨later, shape⟩ := ih kept last there
    refine ⟨?_, shape⟩
    rw [List.flatMap_cons]
    exact List.forall_mem_append.mpr ⟨inside, later⟩

end Takes

theorem paintPixel_takes (same : SameShape window next) (dstY : Int32) (srcRowStart col : Nat) :
    Takes pixels window (columnSource window x srcRowStart col)
      (XpraWindow.paintPixel coding pixels x dstY srcRowStart next col) := by
  have shaped : columnSource window x srcRowStart col = columnSource next x srcRowStart col := by
    rw [columnSource, columnSource, same.width]
  rw [shaped, XpraWindow.paintPixel, columnSource]
  split
  next => exact .done same
  next =>
    intro last painted
    dsimp only at painted
    split at painted
    next fits =>
      cases painted
      exact ⟨by simpa using fits.1, same.set _ _⟩
    next => cases painted

theorem paintRow_takes (same : SameShape window next) (row : Nat) :
    Takes pixels window (rowSources window x y w row) (XpraWindow.paintRow coding pixels x y w next row) := by
  rw [XpraWindow.paintRow, rowSources, same.height]
  split
  next => exact .done same
  next => exact .fold (fun col next same => paintPixel_takes same _ _ col) same

theorem paint_takes {painted : XpraWindow} (returned : window.paint x y w h coding pixels = .ok painted) :
    ∀ source ∈ sources window x y w h pixels, source + 4 ≤ pixels.length := by
  rw [XpraWindow.paint] at returned
  rw [sources]
  split
  · intro source impossible
    cases impossible
  next enough =>
    simp only [enough, if_false] at returned
    obtain ⟨middle, rows, -⟩ := bind_ok returned
    have taken : Takes pixels window ((List.range h.toNat).flatMap (rowSources window x y w))
        ((List.range h.toNat).foldlM (XpraWindow.paintRow coding pixels x y w) window) :=
      .fold (fun row next same => paintRow_takes same row) (.refl window)
    exact (taken middle rows).1

/-! ### Draws that cannot abort -/

/-- The bytes of an image, in exact integers. -/
def imageSize (w h : UInt32) : Nat := w.toNat * h.toNat * 4

structure Safe (window : XpraWindow) (x y : Int32) (w h : UInt32) (coding : String) (pixels : Bytes) : Prop where
  inside : ∀ source ∈ sources window x y w h pixels, source + 4 ≤ pixels.length
  rejected : pixels.length < imageSize w h → window.paint x y w h coding pixels = .ok window
  returns : Framed window → ∃ painted, window.paint x y w h coding pixels = .ok painted

theorem safe_of_rejected (small : pixels.length < imageSize w h % USIZE) : Safe window x y w h coding pixels := by
  have rejected : window.paint x y w h coding pixels = .ok window := if_pos small
  have none : sources window x y w h pixels = [] := if_pos small
  refine ⟨?_, fun _ => rejected, fun _ => ⟨window, rejected⟩⟩
  rw [none]
  nofun

theorem safe_of_covered (covered : imageSize w h ≤ pixels.length) : Safe window x y w h coding pixels := by
  constructor
  · intro source member
    rw [sources] at member
    split at member
    next => cases member
    next =>
      obtain ⟨row, down, member⟩ := List.mem_flatMap.mp member
      rw [rowSources] at member
      split at member
      next => cases member
      next =>
        obtain ⟨col, across, member⟩ := List.mem_flatMap.mp member
        rw [columnSource] at member
        split at member
        next => cases member
        next =>
          cases List.mem_singleton.mp member
          exact source_offset (List.mem_range.mp down) (List.mem_range.mp across) covered
  · intro missing
    exact absurd missing (Nat.not_lt.mpr covered)
  · intro framed
    exact framed.returns (.paint x y w h coding pixels) covered

/-- A window of one pixel. -/
def dot : XpraWindow where
  wid := 1
  id := 1
  framebuffer := [0]
  width := 1
  height := 1
  overrideRedirect := false
  paintDebug := false

/-- The position that brings a row or a column of the image to the first one of a window. -/
def bring (place : Nat) : Int32 := 0 - asI32 (UInt32.ofNat place)

theorem brought (place : Nat) : bring place + asI32 (UInt32.ofNat place) = 0 := Int32.sub_add_cancel _ _

/-- The pixel that lies at the wrapped size is of the image, and the slice for it starts
where the check has stopped looking. -/
theorem wrapped_source (wraps : USIZE ≤ imageSize w h) (enough : imageSize w h % USIZE ≤ pixels.length) :
    imageSize w h % USIZE ∈ sources dot (bring (imageSize w h % USIZE / 4 % w.toNat)) (bring (imageSize w h % USIZE / 4 / w.toNat)) w h
      pixels := by
  have positive : 0 < w.toNat := by
    rcases Nat.eq_zero_or_pos w.toNat with zero | positive
    · rw [imageSize, zero, Nat.zero_mul, Nat.zero_mul] at wraps
      cases wraps
    · exact positive
  generalize rest : imageSize w h % USIZE = size at *
  have multiple : 4 * (size / 4) = size := by
    rw [imageSize, USIZE] at rest
    omega
  have below : size / 4 < w.toNat * h.toNat := by
    have less : size < USIZE := by
      rw [← rest]
      exact Nat.mod_lt _ (by decide)
    rw [imageSize] at wraps
    omega
  have parts := Nat.div_add_mod (size / 4) w.toNat
  have row : size / 4 / w.toNat < h.toNat := Nat.div_lt_of_lt_mul below
  have col : size / 4 % w.toNat < w.toNat := Nat.mod_lt _ positive
  have offset : (size / 4 / w.toNat * w.toNat * 4 % USIZE + size / 4 % w.toNat * 4) % USIZE = size := by
    rw [Nat.mod_add_mod, ← Nat.add_mul, Nat.mul_comm (size / 4 / w.toNat), parts, Nat.mul_comm, multiple, ← rest, Nat.mod_mod]
  have down : ¬ ((0 : Int32) < 0 ∨ asU32 0 ≥ dot.height) := by decide
  have across : ¬ ((0 : Int32) < 0 ∨ asU32 0 ≥ dot.width) := by decide
  rw [sources, ← imageSize, rest, if_neg (Nat.not_lt.mpr enough)]
  refine List.mem_flatMap.mpr ⟨_, List.mem_range.mpr row, ?_⟩
  rw [rowSources, brought]
  rw [if_neg down]
  refine List.mem_flatMap.mpr ⟨_, List.mem_range.mpr col, ?_⟩
  rw [columnSource, brought]
  rw [if_neg across, offset]
  exact List.mem_singleton_self _

/-- No vector is longer than the largest `isize`, so a wrapped size beyond it still
rejects every draw. -/
theorem paint_safe_iff (w h : UInt32) :
    (∀ window x y coding pixels, pixels.length < 2 ^ 63 → Safe window x y w h coding pixels) ↔
      imageSize w h < 2 ^ 64 ∨ 2 ^ 63 ≤ imageSize w h % 2 ^ 64 := by
  constructor
  · intro safe
    by_contra exceeds
    rw [not_or, not_lt, not_le] at exceeds
    let pixels : Bytes := List.replicate (max (imageSize w h % 2 ^ 64) 1) 0
    have length : pixels.length = max (imageSize w h % 2 ^ 64) 1 := List.length_replicate
    have short : pixels.length < 2 ^ 63 := by omega
    have enough : imageSize w h % USIZE ≤ pixels.length := by
      rw [length, USIZE]
      exact Nat.le_max_left _ _
    have taken := wrapped_source exceeds.1 enough
    have inside := (safe dot _ _ "png" pixels short).inside _ taken
    rw [length, USIZE] at inside
    omega
  · intro fits window x y coding pixels short
    by_cases small : pixels.length < imageSize w h % USIZE
    · exact safe_of_rejected small
    · apply safe_of_covered
      rw [USIZE] at small
      omega

/-- The size of an image of 2147418113 by 2147549185 is 2^64 + 4 and wraps to 4, so that a
single pixel is enough for the check. The second one is not there. -/
theorem wrapped_size_aborts : ¬ Safe dot (-1) 0 2147418113 2147549185 "png" [1, 2, 3, 4] ∧
    ∃ cause, dot.paint (-1) 0 2147418113 2147549185 "png" [1, 2, 3, 4] = .error cause := by
  have outside : 4 ∈ sources dot (-1) 0 2147418113 2147549185 [1, 2, 3, 4] := wrapped_source (by decide) (by decide)
  constructor
  · intro safe
    exact absurd (safe.inside 4 outside) (by decide)
  · cases result : dot.paint (-1) 0 2147418113 2147549185 "png" [1, 2, 3, 4] with
    | error cause => exact ⟨cause, rfl⟩
    | ok painted => exact absurd (paint_takes result 4 outside) (by decide)

end Xpra.Proofs.PaintSource
