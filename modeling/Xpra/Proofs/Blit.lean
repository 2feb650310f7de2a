import Xpra.Library.Loop
import Xpra.Library.Raster
import Xpra.Proofs.Framebuffer

/-! What `paint` puts into the framebuffer: the image, without the parts that hang over
the edges of the window. -/

namespace Xpra.Proofs.Blit
open Xpra.Net Xpra.Client Library Framebuffer

/-! ### Colours -/

/-- `0x00RRGGBB`. -/
def colour (red green blue : UInt8) : UInt32 := .ofNat (red.toNat * 2 ^ 16 + green.toNat * 2 ^ 8 + blue.toNat)

/-- The colour of one pixel of an image, which these codings have with blue first. -/
def converted (coding : String) (pixels : Bytes) (index : Nat) : UInt32 :=
  let channel (i : Nat) : UInt8 := pixels.getD (4 * index + i) 0
  if coding ∈ ["jpeg", "h264", "webp", "mmap"] then colour (channel 2) (channel 1) (channel 0)
  else colour (channel 0) (channel 1) (channel 2)

theorem shifted_colour (red green blue : UInt8) :
    red.toUInt32 <<< 16 ||| green.toUInt32 <<< 8 ||| blue.toUInt32 = colour red green blue := by
  have first := red.toNat_lt
  have second := green.toNat_lt
  have third := blue.toNat_lt
  apply UInt32.toNat_inj.mp
  have high : (red.toUInt32 <<< 16).toNat = red.toNat <<< 16 := by
    rw [UInt32.toNat_shiftLeft, UInt8.toNat_toUInt32]
    exact Nat.mod_eq_of_lt (by rw [Nat.shiftLeft_eq]; simp; omega)
  have middle : (green.toUInt32 <<< 8).toNat = green.toNat <<< 8 := by
    rw [UInt32.toNat_shiftLeft, UInt8.toNat_toUInt32]
    exact Nat.mod_eq_of_lt (by rw [Nat.shiftLeft_eq]; simp; omega)
  have lower : green.toNat <<< 8 < 2 ^ 16 := by
    rw [Nat.shiftLeft_eq]
    omega
  have rest : green.toNat <<< 8 ||| blue.toNat < 2 ^ 16 := Nat.or_lt_two_pow lower (by omega)
  rw [UInt32.toNat_or, UInt32.toNat_or, high, middle, UInt8.toNat_toUInt32, Nat.or_assoc, ← Nat.shiftLeft_add_eq_or_of_lt rest,
    ← Nat.shiftLeft_add_eq_or_of_lt (by omega : blue.toNat < 2 ^ 8), Nat.shiftLeft_eq, Nat.shiftLeft_eq, colour, UInt32.toNat_ofNat']
  omega

theorem toPixel_converted (coding : String) (pixels : Bytes) (index : Nat) :
    XpraWindow.toPixel (XpraWindow.bgr coding) ((pixels.drop (4 * index)).take 4) = converted coding pixels index := by
  have channel {i : Nat} (small : i < 4) : ((pixels.drop (4 * index)).take 4).getD i 0 = pixels.getD (4 * index + i) 0 := by
    simp [List.getD_eq_getElem?_getD, small]
  have listed : XpraWindow.bgr coding = true ↔ coding ∈ ["jpeg", "h264", "webp", "mmap"] := by
    simp [XpraWindow.bgr, or_assoc]
  simp only [XpraWindow.toPixel, converted, listed, channel (by decide : 0 < 4), channel (by decide : 1 < 4), channel (by decide : 2 < 4),
    shifted_colour]

/-! ### Coordinates -/

/-- A sum that wraps is negative, and so beside the window like one past its far side. -/
theorem wrapped_cases (start : Int32) {offset : Nat} (small : offset < 2 ^ 31) {side : UInt32} (narrow : side.toNat < 2 ^ 31) :
    ((start + asI32 (.ofNat offset) < 0 ∨ asU32 (start + asI32 (.ofNat offset)) ≥ side) ∧
        ∀ place < side.toNat, (place : Int) ≠ start.toInt + offset) ∨
      ∃ place < side.toNat, (place : Int) = start.toInt + offset ∧
        (asU32 (start + asI32 (.ofNat offset))).toNat = place ∧
        ¬ (start + asI32 (.ofNat offset) < 0 ∨ asU32 (start + asI32 (.ofNat offset)) ≥ side) := by
  have low := start.le_toInt
  have high := start.toInt_lt
  have shift : (asI32 (.ofNat offset)).toInt = offset := by
    have same : (asI32 (.ofNat offset)).toInt = ((UInt32.ofNat offset).toNat : Int).bmod (2 ^ 32) :=
      BitVec.toInt_eq_toNat_bmod (UInt32.ofNat offset).toBitVec
    rw [same, UInt32.toNat_ofNat', Nat.mod_eq_of_lt (by omega), Int.bmod_def]
    omega
  generalize target_eq : start + asI32 (.ofNat offset) = target
  have sum : target.toInt = (start.toInt + offset).bmod (2 ^ 32) := by
    rw [← target_eq, Int32.toInt_add, shift]
  have bits : target.toInt = ((asU32 target).toNat : Int).bmod (2 ^ 32) := BitVec.toInt_eq_toNat_bmod target.toBitVec
  have below := (asU32 target).toNat_lt
  have negative : target < 0 ↔ target.toInt < 0 := Int32.lt_iff_toInt_lt
  have far : asU32 target ≥ side ↔ side.toNat ≤ (asU32 target).toNat := UInt32.le_iff_toNat_le
  rw [negative, far]
  rw [Int.bmod_def] at sum bits
  by_cases inside : 0 ≤ start.toInt + offset ∧ start.toInt + offset < side.toNat
  · refine .inr ⟨(start.toInt + offset).toNat, ?_, ?_, ?_, ?_⟩
    all_goals omega
  · refine .inl ⟨?_, ?_⟩
    · omega
    · intro place within same
      omega

/-! ### Painting -/

section Painting

variable {window next : XpraWindow} {coding : String} {pixels : Bytes} {x y : Int32} {w h : UInt32} {drawn other : Nat → Nat → Prop}

/-- In the region drawn so far the framebuffer shows the image, and it is the old one
everywhere else. -/
structure Shows (window : XpraWindow) (coding : String) (pixels : Bytes) (x y : Int32) (w : UInt32)
    (drawn : Nat → Nat → Prop) (next : XpraWindow) : Prop where
  kept : next = { window with framebuffer := next.framebuffer }
  length : next.framebuffer.length = window.framebuffer.length
  image : ∀ dx < window.width.toNat, ∀ dy < window.height.toNat, drawn dx dy →
    next.framebuffer[dy * window.width.toNat + dx]? =
      some (converted coding pixels ((dy - y.toInt).toNat * w.toNat + (dx - x.toInt).toNat))
  old : ∀ dx < window.width.toNat, ∀ dy < window.height.toNat, ¬ drawn dx dy →
    next.framebuffer[dy * window.width.toNat + dx]? = window.framebuffer[dy * window.width.toNat + dx]?

theorem Shows.congr (shows : Shows window coding pixels x y w drawn next)
    (same : ∀ dx < window.width.toNat, ∀ dy < window.height.toNat, drawn dx dy ↔ other dx dy) :
    Shows window coding pixels x y w other next where
  kept := shows.kept
  length := shows.length
  image dx across dy down inside := shows.image dx across dy down ((same dx across dy down).mpr inside)
  old dx across dy down outside := shows.old dx across dy down (mt (same dx across dy down).mp outside)

theorem Shows.set (shows : Shows window coding pixels x y w drawn next) {dx dy row col : Nat} (across : dx < window.width.toNat)
    (column : (dx : Int) = x.toInt + col) (line : (dy : Int) = y.toInt + row)
    (fits : dy * window.width.toNat + dx < window.framebuffer.length) :
    Shows window coding pixels x y w (fun a b => drawn a b ∨ (a : Int) = x.toInt + col ∧ (b : Int) = y.toInt + row)
      { next with framebuffer :=
          next.framebuffer.set (dy * window.width.toNat + dx) (converted coding pixels (row * w.toNat + col)) } := by
  have source : (dy - y.toInt).toNat = row ∧ (dx - x.toInt).toNat = col := by
    omega
  constructor
  · rw [shows.kept]
  · simpa using shows.length
  · intro a left b top inside
    rw [List.getElem?_set]
    split
    next same =>
      obtain ⟨rfl, rfl⟩ := Raster.offset_inj across left same
      rw [if_pos (by rw [shows.length]; exact fits), source.1, source.2]
    next apart =>
      apply shows.image a left b top
      rcases inside with before | ⟨here, there⟩
      · exact before
      · have a_eq : a = dx := by omega
        have b_eq : b = dy := by omega
        rw [a_eq, b_eq] at apart
        exact absurd rfl apart
  · intro a left b top outside
    rw [List.getElem?_set]
    split
    next same =>
      obtain ⟨rfl, rfl⟩ := Raster.offset_inj across left same
      exact absurd (Or.inr ⟨column, line⟩) outside
    next => exact shows.old a left b top fun before => outside (.inl before)

/-- What the loops have drawn after some rows and some columns of the next one. -/
def Region (x y : Int32) (w : UInt32) (rows cols dx dy : Nat) : Prop :=
  x.toInt ≤ dx ∧ dx < x.toInt + w.toNat ∧ y.toInt ≤ dy ∧ dy < y.toInt + rows ∨
    dy = y.toInt + rows ∧ x.toInt ≤ dx ∧ dx < x.toInt + cols

/-- The sizes are those of a window and of an image, and the pixels cover the image. -/
structure Sized (window : XpraWindow) (w h : UInt32) (pixels : Bytes) : Prop where
  framebuffer : window.framebuffer.length = window.width.toNat * window.height.toNat
  width : window.width.toNat < 2 ^ 31
  height : window.height.toNat < 2 ^ 31
  wide : w.toNat < 2 ^ 31
  tall : h.toNat < 2 ^ 31
  covered : 4 * (w.toNat * h.toNat) ≤ pixels.length

theorem Sized.area (sized : Sized window w h pixels) : w.toNat * h.toNat ≤ (2 ^ 31 - 1) * (2 ^ 31 - 1) :=
  Nat.mul_le_mul (Nat.le_pred_of_lt sized.wide) (Nat.le_pred_of_lt sized.tall)

theorem Sized.offset (sized : Sized window w h pixels) {dx dy : Nat} (across : dx < window.width.toNat) (down : dy < window.height.toNat) :
    dy * window.width.toNat + dx < window.framebuffer.length :=
  inside_framebuffer sized.framebuffer across down

/-- The offset of a pixel in the image does not wrap, and the pixel lies in it. -/
theorem Sized.source (sized : Sized window w h pixels) {row col : Nat} (down : row < h.toNat) (across : col < w.toNat) :
    (row * w.toNat * 4 % USIZE + col * 4) % USIZE = 4 * (row * w.toNat + col) ∧
      4 * (row * w.toNat + col) + 4 ≤ pixels.length := by
  have rows : (row + 1) * w.toNat ≤ h.toNat * w.toNat := Nat.mul_le_mul_right _ down
  have area := sized.area
  have covered := sized.covered
  rw [Nat.succ_mul, Nat.mul_comm h.toNat] at rows
  simp only [USIZE]
  omega

theorem paintPixel_shows (sized : Sized window w h pixels) {row col dy : Nat} {dstY : Int32} (below : row < h.toNat)
    (within : col < w.toNat) (down : dy < window.height.toNat) (line : (dy : Int) = y.toInt + row) (place : (asU32 dstY).toNat = dy)
    (shows : Shows window coding pixels x y w (Region x y w row col) next) :
    ∃ painted, XpraWindow.paintPixel coding pixels x dstY (row * w.toNat * 4 % USIZE) next col = .ok painted ∧
      Shows window coding pixels x y w (Region x y w row (col + 1)) painted := by
  obtain ⟨buffer, rfl⟩ : ∃ buffer, next = { window with framebuffer := buffer } := ⟨_, shows.kept⟩
  have small := Nat.lt_trans within sized.wide
  have length : buffer.length = window.framebuffer.length := shows.length
  rw [XpraWindow.paintPixel]
  rcases wrapped_cases x small sized.width with ⟨skipped, beside⟩ | ⟨dx, across, column, same, shown⟩
  · refine ⟨_, if_pos skipped, shows.congr ?_⟩
    intro a left b top
    have apart := beside a left
    simp only [Region]
    omega
  · obtain ⟨source, inside⟩ := sized.source below within
    have fits := sized.offset across down
    rw [if_neg shown]
    dsimp only
    rw [source, same, place, length, if_pos ⟨inside, fits⟩, toPixel_converted]
    refine ⟨_, rfl, (shows.set across column line fits).congr ?_⟩
    intro a left b top
    simp only [Region]
    omega

theorem paintRow_shows (sized : Sized window w h pixels) {row : Nat} (below : row < h.toNat)
    (shows : Shows window coding pixels x y w (Region x y w row 0) next) :
    ∃ painted, XpraWindow.paintRow coding pixels x y w next row = .ok painted ∧
      Shows window coding pixels x y w (Region x y w (row + 1) 0) painted := by
  obtain ⟨buffer, rfl⟩ : ∃ buffer, next = { window with framebuffer := buffer } := ⟨_, shows.kept⟩
  have small := Nat.lt_trans below sized.tall
  rw [XpraWindow.paintRow]
  rcases wrapped_cases y small sized.height with ⟨skipped, beside⟩ | ⟨dy, down, line, place, shown⟩
  · refine ⟨_, if_pos skipped, shows.congr ?_⟩
    intro a left b top
    have apart := beside b top
    simp only [Region]
    omega
  · rw [if_neg shown]
    obtain ⟨painted, returned, shows⟩ := Loop.range (fun col => Shows window coding pixels x y w (Region x y w row col)) shows
      fun col within next shows => paintPixel_shows sized below within down line place shows
    refine ⟨painted, returned, shows.congr ?_⟩
    intro a left b top
    simp only [Region]
    omega

end Painting

/-- The image covers a pixel of the window, in exact integers. -/
structure Covers (x y : Int32) (w h : UInt32) (dx dy : Nat) : Prop where
  left : x.toInt ≤ dx
  right : dx < x.toInt + w.toNat
  top : y.toInt ≤ dy
  bottom : dy < y.toInt + h.toNat

/-- Painting never fails, changes nothing but the framebuffer, and in the framebuffer the
pixels that the image covers and no others. -/
theorem paint_clips (window : XpraWindow) (x y : Int32) (w h : UInt32) (coding : String) (pixels : Bytes)
    (framebuffer : window.framebuffer.length = window.width.toNat * window.height.toNat) (width : window.width.toNat < 2 ^ 31)
    (height : window.height.toNat < 2 ^ 31) (wide : w.toNat < 2 ^ 31) (high : h.toNat < 2 ^ 31)
    (covered : 4 * w.toNat * h.toNat ≤ pixels.length) (release : window.paintDebug = false) :
    ∃ painted, window.paint x y w h coding pixels = .ok painted ∧
      Shows window coding pixels x y w (Covers x y w h) painted := by
  have sized : Sized window w h pixels := ⟨framebuffer, width, height, wide, high, by rw [← Nat.mul_assoc]; exact covered⟩
  have area := sized.area
  have enough : ¬ pixels.length < w.toNat * h.toNat * 4 % USIZE := by
    have covered := sized.covered
    simp only [USIZE]
    omega
  have begun : Shows window coding pixels x y w (Region x y w 0 0) window := by
    constructor
    · rfl
    · rfl
    · intro dx _ dy _ inside
      simp only [Region] at inside
      omega
    · intro dx _ dy _ _
      rfl
  obtain ⟨painted, returned, shows⟩ := Loop.range (fun row => Shows window coding pixels x y w (Region x y w row 0)) begun
    fun row below next shows => paintRow_shows sized below shows
  have plain : painted.paintDebug = false := by rw [shows.kept]; exact release
  refine ⟨painted, ?_, shows.congr ?_⟩
  · rw [XpraWindow.paint]
    simp only [enough, if_false, returned, bind, Except.bind, plain, Bool.false_eq_true]
    rfl
  · intro dx _ dy _
    constructor
    · intro inside
      simp only [Region] at inside
      constructor
      all_goals omega
    · intro covers
      exact .inl ⟨covers.left, covers.right, covers.top, covers.bottom⟩

def corner : XpraWindow where
  wid := 1
  id := 1
  framebuffer := [1, 2, 3, 4]
  width := 2
  height := 2
  overrideRedirect := false
  paintDebug := false

def image : Bytes := [0, 0, 0, 255, 1, 1, 1, 255, 2, 2, 2, 255, 7, 8, 9, 255]

theorem paint_clips_corner :
    ∃ painted, corner.paint (-1) (-1) 2 2 "png" image = .ok painted ∧
      Shows corner "png" image (-1) (-1) 2 (Covers (-1) (-1) 2 2) painted :=
  paint_clips corner (-1) (-1) 2 2 "png" image rfl (by decide) (by decide) (by decide) (by decide) (by decide) rfl

end Xpra.Proofs.Blit
