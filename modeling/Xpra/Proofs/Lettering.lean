import Xpra.Client.Font
import Xpra.Library.Utf8
import Xpra.Proofs.Shapes
import Mathlib.Data.Nat.Bitwise
import Mathlib.Tactic.IntervalCases

/-! What the text of the hand-drawn dialogs covers, one cell a byte. -/

namespace Xpra.Proofs.Lettering
open Xpra.Net Xpra.Client Xpra.Client.Paint Xpra.Client.Font Library Library.Raster Shapes

/-! ### Glyphs -/

/-- The glyph of the character has the bit of this row and column. -/
def Dot (ch : UInt8) (row col : Nat) : Prop := ∃ bits, (glyph ch)[row]? = some bits ∧ bits.toNat.testBit col = true

/-- One cell a byte. In its cell every bit of a glyph is a square. -/
def Inked (x y scale : ℤ) (text : Bytes) (px py : ℤ) : Prop := ∃ (cell : Nat) (ch : UInt8) (row col : Nat),
  text[cell]? = some ch ∧ Dot ch row col ∧ InRect (x + cell * (8 * scale) + col * scale) (y + row * scale) scale scale px py

/-- The sums for a bit in this row, of a cell that begins at `cx`. Where overflow is looked
for, the products have to fit too. -/
structure DotFits (checks : Bool) (cx y scale : ℤ) (row : Nat) : Prop where
  across : Fits (cx + 8 * scale)
  down : Fits (y + row * scale + scale - 1)
  products : checks = true → Fits (8 * scale) ∧ Fits (row * scale)

/-- The text ends at a coordinate of 32 bits, and so does every bit of its glyphs. -/
structure TextFits (checks : Bool) (x y scale : ℤ) (text : Bytes) : Prop where
  across : Fits (x + text.length * (8 * scale))
  down : 0 < scale → ∀ ch ∈ text, ∀ row col, Dot ch row col → Fits (y + row * scale + scale - 1)
  products : checks = true → (text ≠ [] → Fits (8 * scale)) ∧
    (0 < scale → ∀ ch ∈ text, ∀ row col, Dot ch row col → Fits (row * scale))

variable {checks : Bool}

theorem clear_iff (bits : UInt8) {col : Nat} (inside : col < 8) :
    bits &&& (1 <<< UInt8.ofNat col) = 0 ↔ ¬ bits.toNat.testBit col = true := by
  have power : (1 <<< UInt8.ofNat col : UInt8).toNat = 2 ^ col := by
    interval_cases col <;> rfl
  rw [← UInt8.toNat_inj, UInt8.toNat_and, power, Nat.and_two_pow]
  cases bits.toNat.testBit col with
  | false => simp
  | true => simp

theorem Dot.inside {ch : UInt8} {row col : Nat} (dot : Dot ch row col) : row < 16 ∧ col < 8 := by
  obtain ⟨bits, here, bit⟩ := dot
  refine ⟨(Vector.getElem?_eq_some_iff.mp here).1, ?_⟩
  by_contra far
  have small : bits.toNat < 2 ^ col := Nat.lt_of_lt_of_le bits.toNat_lt (Nat.pow_le_pow_right (by decide) (not_lt.mp far))
  rw [Nat.testBit_lt_two_pow small] at bit
  cases bit

theorem mem_lines {ch : UInt8} {bits : UInt8} {row : Nat} : (bits, row) ∈ (glyph ch).toList.zipIdx ↔ (glyph ch)[row]? = some bits := by
  rw [List.mem_zipIdx_iff_getElem?, Vector.getElem?_toList]

theorem TextFits.step {x y scale : ℤ} {ch : UInt8} {text : Bytes} (left : Fits x) (fits : TextFits checks x y scale (ch :: text)) :
    Fits (x + 8 * scale) ∧ TextFits checks (x + 8 * scale) y scale text := by
  have across := fits.across
  rw [List.length_cons, Int.natCast_succ, Int.add_mul, Int.one_mul] at across
  have between : Fits (x + 8 * scale) := by
    rcases Int.le_total 0 (8 * scale) with forward | backward
    · have later := Int.mul_nonneg (Int.natCast_nonneg text.length) forward
      simp only [Fits] at *
      omega
    · have later := Int.mul_nonpos_of_nonneg_of_nonpos (Int.natCast_nonneg text.length) backward
      simp only [Fits] at *
      omega
  refine ⟨between, ?_, ?_, ?_⟩
  · rwa [Int.add_assoc, Int.add_comm (8 * scale)]
  · intro positive other member
    exact fits.down positive other (List.mem_cons_of_mem ch member)
  · intro checked
    have products := fits.products checked
    exact ⟨fun _ => products.1 (List.cons_ne_nil ch text), fun positive other member =>
      products.2 positive other (List.mem_cons_of_mem ch member)⟩

theorem TextFits.dot {x y scale : ℤ} {ch : UInt8} {text : Bytes} (left : Fits x) (fits : TextFits checks x y scale (ch :: text))
    (positive : 0 < scale) {row col : Nat} (dot : Dot ch row col) : DotFits checks x y scale row where
  across := (fits.step left).1
  down := fits.down positive ch List.mem_cons_self row col dot
  products checked := ⟨(fits.products checked).1 (List.cons_ne_nil ch text),
    (fits.products checked).2 positive ch List.mem_cons_self row col dot⟩

theorem inked_cons {x y scale px py : ℤ} {ch : UInt8} {text : Bytes} : Inked x y scale (ch :: text) px py ↔
    (∃ row col : Nat, Dot ch row col ∧ InRect (x + col * scale) (y + row * scale) scale scale px py) ∨
      Inked (x + 8 * scale) y scale text px py := by
  have later (cell col : Nat) : x + (cell + 1 : Nat) * (8 * scale) + col * scale = x + 8 * scale + cell * (8 * scale) + col * scale := by
    rw [Int.natCast_succ, Int.add_mul, Int.one_mul]
    omega
  constructor
  · rintro ⟨cell, other, row, col, here, dot, covered⟩
    cases cell with
    | zero =>
      cases here
      rw [Int.ofNat_zero, Int.zero_mul, Int.add_zero] at covered
      exact .inl ⟨row, col, dot, covered⟩
    | succ cell =>
      rw [later] at covered
      exact .inr ⟨cell, other, row, col, here, dot, covered⟩
  · rintro (⟨row, col, dot, covered⟩ | ⟨cell, other, row, col, here, dot, covered⟩)
    · refine ⟨0, ch, row, col, rfl, dot, ?_⟩
      rwa [Int.ofNat_zero, Int.zero_mul, Int.add_zero]
    · refine ⟨cell + 1, other, row, col, here, dot, ?_⟩
      rwa [later]

/-- A bit that ends within 32 bits in the last row of a glyph does so in each. -/
theorem textFits_of_ends {x y scale : ℤ} {text : Bytes} (start : Fits y) (across : Fits (x + text.length * (8 * scale)))
    (down : Fits (y + 16 * scale)) (products : checks = true → Fits (16 * scale)) : TextFits checks x y scale text := by
  have rows (positive : 0 < scale) {ch : UInt8} {row col : Nat} (dot : Dot ch row col) : 0 ≤ row * scale ∧ row * scale ≤ 15 * scale := by
    have inside := dot.inside
    exact ⟨Int.mul_nonneg (Int.natCast_nonneg row) (by omega), Int.mul_le_mul_of_nonneg_right (by omega) (by omega)⟩
  refine ⟨across, fun positive ch _ row col dot => ?_, fun checked => ⟨fun _ => ?_, fun positive ch _ row col dot => ?_⟩⟩
  · have between := rows positive dot
    simp only [Fits] at *
    omega
  · have most := products checked
    simp only [Fits] at *
    omega
  · have between := rows positive dot
    have most := products checked
    simp only [Fits] at *
    omega

/-- The two innermost loops fill a square. -/
theorem exists_square {scale : Int32} {left top px py : ℤ} :
    (∃ dy ∈ range 0 scale, ∃ dx ∈ range 0 scale, px = left + dx.toInt ∧ py = top + dy.toInt) ↔
      InRect left top scale.toInt scale.toInt px py := by
  have first : (0 : Int32).toInt = 0 := Int32.toInt_zero
  constructor
  · rintro ⟨dy, down, dx, across, column, row⟩
    have right := mem_range.mp across
    have bottom := mem_range.mp down
    rw [InRect]
    omega
  · rintro ⟨_, _, _, _⟩
    obtain ⟨dx, across, column⟩ : ∃ dx ∈ range 0 scale, dx.toInt = px - left := exists_of_range (by omega) (by omega)
    obtain ⟨dy, down, row⟩ : ∃ dy ∈ range 0 scale, dy.toInt = py - top := exists_of_range (by omega) (by omega)
    exact ⟨dy, down, dx, across, by omega, by omega⟩

/-! ### Drawing -/

section Drawing
variable {size fbw : Nat} {fbh cx y scale : Int32} (canvas : Canvas size fbw) (color : UInt32)
include canvas

theorem blitPixel_draws (high : 0 < fbw → fbh.toInt = (size / fbw : Nat)) {row : Nat} (below : row < 16)
    (fits : DotFits checks cx.toInt y.toInt scale.toInt row) {col dx dy : Int32} (inside : 0 ≤ col.toInt ∧ col.toInt < 8)
    (across : 0 ≤ dx.toInt ∧ dx.toInt < scale.toInt) (down : 0 ≤ dy.toInt ∧ dy.toInt < scale.toInt) :
    Draws fbw size color (fun a b => a = cx.toInt + col.toInt * scale.toInt + dx.toInt ∧ b = y.toInt + row * scale.toInt + dy.toInt)
      fun fb => blitPixel checks fbw fbh cx y scale color row col dy fb dx := by
  have left := fits_toInt cx
  have top := fits_toInt y
  obtain ⟨sums, lines, products⟩ := fits
  have height : (Int32.ofNat row).toInt = row := Int32.toInt_ofNat_of_lt (by omega)
  have shift : 0 ≤ col.toInt * scale.toInt ∧ col.toInt * scale.toInt ≤ 7 * scale.toInt :=
    ⟨Int.mul_nonneg inside.1 (by omega), Int.mul_le_mul_of_nonneg_right (by omega) (by omega)⟩
  have drop : 0 ≤ row * scale.toInt := Int.mul_nonneg (Int.natCast_nonneg row) (by omega)
  generalize shift_eq : col.toInt * scale.toInt = shift' at *
  generalize drop_eq : row * scale.toInt = drop' at *
  have shiftFits : checks = true → Fits shift' := by
    intro checked
    have whole := (products checked).1
    simp only [Fits] at *
    omega
  have leftFits : Fits (cx.toInt + shift') := by
    simp only [Fits] at *
    omega
  have topFits : Fits (y.toInt + drop') := by
    simp only [Fits] at *
    omega
  have pxFits : Fits (cx.toInt + shift' + dx.toInt) := by
    simp only [Fits] at *
    omega
  have pyFits : Fits (y.toInt + drop' + dy.toInt) := by
    simp only [Fits] at *
    omega
  rw [← toInt_ofInt pxFits, ← toInt_ofInt pyFits]
  refine (put_draws checks canvas color high _ _).of_eq fun fb _ => ?_
  have dropFits (checked : checks = true) : Fits drop' := (products checked).2
  simp only [blitPixel, height, shift_eq, drop_eq, i32_ok shiftFits, i32_ok dropFits, i32_add_ofInt shiftFits leftFits,
    i32_add_ofInt dropFits topFits, toInt_ofInt leftFits, toInt_ofInt topFits, i32_ok fun _ => pxFits, i32_ok fun _ => pyFits,
    bind, Except.bind]

/-- The square of a bit that is set. -/
theorem blitBit_draws (high : 0 < fbw → fbh.toInt = (size / fbw : Nat)) {bits : UInt8} {row : Nat} (below : row < 16) {col : Int32}
    (inside : 0 ≤ col.toInt ∧ col.toInt < 8)
    (fits : 0 < scale.toInt → bits.toNat.testBit col.toInt.toNat = true → DotFits checks cx.toInt y.toInt scale.toInt row) :
    Draws fbw size color (fun a b => bits.toNat.testBit col.toInt.toNat = true ∧
        InRect (cx.toInt + col.toInt * scale.toInt) (y.toInt + row * scale.toInt) scale.toInt scale.toInt a b)
      fun fb => blitBit checks fbw fbh cx y scale color bits row fb col := by
  have place : asUsize col = col.toInt.toNat := asUsize_of_toInt (by omega)
  have clear := clear_iff bits (by omega : col.toInt.toNat < 8)
  by_cases bit : bits.toNat.testBit col.toInt.toNat = true
  · have pixels (dy : Int32) (down : dy ∈ range 0 scale) : Draws fbw size color _ fun fb =>
        (range 0 scale).foldlM (blitPixel checks fbw fbh cx y scale color row col dy) fb :=
      .fold fun dx across => by
        have right := mem_range.mp across
        have bottom := mem_range.mp down
        rw [Int32.toInt_zero] at right bottom
        exact blitPixel_draws canvas color high below (fits (by omega) bit) inside right bottom
    refine ((Draws.fold pixels).congr ?_).of_eq fun fb _ => ?_
    · intro column _ line _
      rw [exists_square]
      exact (and_iff_right bit).symm
    · rw [blitBit, place, if_neg (mt clear.mp (not_not_intro bit))]
  · refine (Draws.nothing.congr ?_).of_eq fun fb _ => ?_
    · intro column _ line _
      exact iff_of_false not_false fun covered => bit covered.1
    · rw [blitBit, place, if_pos (clear.mpr bit)]

theorem blitGlyph_draws (high : 0 < fbw → fbh.toInt = (size / fbw : Nat)) {ch : UInt8}
    (fits : 0 < scale.toInt → ∀ row col, Dot ch row col → DotFits checks cx.toInt y.toInt scale.toInt row) :
    Draws fbw size color (fun a b => ∃ row col : Nat, Dot ch row col ∧
        InRect (cx.toInt + col * scale.toInt) (y.toInt + row * scale.toInt) scale.toInt scale.toInt a b)
      fun fb => blitGlyph checks fbw fbh cx y scale color (glyph ch) fb := by
  have width : GLYPH_W.toInt = 8 := rfl
  have first : (0 : Int32).toInt = 0 := Int32.toInt_zero
  have rows (line : UInt8 × Nat) (member : line ∈ (glyph ch).toList.zipIdx) : Draws fbw size color _ fun fb =>
      (range 0 GLYPH_W).foldlM (blitBit checks fbw fbh cx y scale color line.1 line.2) fb :=
    .fold fun col within => by
      have inside := mem_range.mp within
      have here := mem_lines.mp member
      have below : line.2 < 16 := (Vector.getElem?_eq_some_iff.mp here).1
      exact blitBit_draws canvas color high below (by omega) fun positive bit => fits positive _ _ ⟨_, here, bit⟩
  refine ((Draws.fold rows).congr ?_).of_eq fun fb _ => rfl
  intro column _ row _
  constructor
  · rintro ⟨line, member, col, within, bit, covered⟩
    have inside := mem_range.mp within
    refine ⟨line.2, col.toInt.toNat, ⟨_, mem_lines.mp member, bit⟩, ?_⟩
    rwa [Int.toNat_of_nonneg (by omega)]
  · rintro ⟨line, col, dot, covered⟩
    have inside := dot.inside
    obtain ⟨bits, here, bit⟩ := dot
    obtain ⟨item, within, same⟩ : ∃ item ∈ range 0 GLYPH_W, item.toInt = col := exists_of_range (by omega) (by omega)
    refine ⟨(bits, line), mem_lines.mpr here, item, within, ?_, ?_⟩
    · rwa [same]
    · rwa [same]

/-- The bytes one after another, induction being on the text. -/
theorem blitBytes_draws (high : 0 < fbw → fbh.toInt = (size / fbw : Nat)) {text : Bytes}
    (fits : TextFits checks cx.toInt y.toInt scale.toInt text) :
    Draws fbw size color (Inked cx.toInt y.toInt scale.toInt text) fun fb => blitBytes checks fbw fbh y scale color fb cx text := by
  induction text generalizing cx with
  | nil =>
    refine Draws.nothing.congr fun _ _ _ _ => iff_of_false not_false ?_
    rintro ⟨cell, ch, row, col, here, -⟩
    cases here
  | cons ch text ih =>
    have left := fits_toInt cx
    obtain ⟨next, tail⟩ := fits.step left
    have glyphs := blitGlyph_draws canvas color high fun positive row col dot => fits.dot left positive dot
    rw [← toInt_ofInt next] at tail
    refine ((glyphs.bind (ih tail)).congr ?_).of_eq fun fb _ => ?_
    · intro column _ row _
      rw [inked_cons, toInt_ofInt next]
    · have advance : i32 checks (GLYPH_W.toInt * scale.toInt) = .ok (.ofInt (8 * scale.toInt)) :=
        i32_ok fun checked => (fits.products checked).1 (List.cons_ne_nil ch text)
      have moved : i32 checks (cx.toInt + (Int32.ofInt (8 * scale.toInt)).toInt) = .ok (.ofInt (cx.toInt + 8 * scale.toInt)) :=
        i32_add_ofInt (fun checked => (fits.products checked).1 (List.cons_ne_nil ch text)) next
      rw [blitBytes, advance]
      simp only [bind, Except.bind, moved]

theorem blitStr_draws {x : Int32} {text : String} (fits : TextFits checks x.toInt y.toInt scale.toInt (textBytes text)) :
    Draws fbw size color (Inked x.toInt y.toInt scale.toInt (textBytes text)) fun fb => blitStr checks fb fbw x y scale text color := by
  have high : 0 < fbw → (Int32.ofNat (size / max fbw 1)).toInt = (size / fbw : Nat) := by
    intro positive
    rw [canvas.height, Nat.max_eq_left positive]
  refine (blitBytes_draws canvas color high fits).of_eq fun fb sized => ?_
  rw [blitStr, sized]

end Drawing

/-- Nothing fails, and no other pixel changes. A release build needs the products only
where a sum of them is a coordinate. -/
theorem drawings_exact (checks : Bool) (fb : List UInt32) (fbw : Nat) (few : fb.length < 2 ^ 31) (narrow : fbw < 2 ^ 31) (color : UInt32) :
    (∀ x y w h, RectFits x y w h → ∃ next, fillRect checks fb fbw x y w h color = .ok next ∧
        Painted fbw color (InRect x.toInt y.toInt w.toInt h.toInt) fb next) ∧
      (∀ x y w h, RectFits x y w h → ∃ next, outline checks fb fbw x y w h color = .ok next ∧
        Painted fbw color (OnBorder x.toInt y.toInt w.toInt h.toInt) fb next) ∧
      ∀ x y scale text, TextFits checks x.toInt y.toInt scale.toInt (textBytes text) →
        ∃ next, blitStr checks fb fbw x y scale text color = .ok next ∧
          Painted fbw color (Inked x.toInt y.toInt scale.toInt (textBytes text)) fb next := by
  have canvas : Canvas fb.length fbw := ⟨few, narrow⟩
  refine ⟨fun x y w h fits => ?_, fun x y w h fits => ?_, fun x y scale text fits => ?_⟩
  · exact fillRect_draws checks canvas color fits fb rfl
  · exact outline_draws checks canvas color fits fb rfl
  · exact blitStr_draws canvas color fits fb rfl

theorem drawings_exact_overhanging :
    (∃ next, fillRect true [1, 2, 3, 4, 5] 2 (-1) 1 2 9 7 = .ok next ∧ Painted 2 7 (InRect (-1) 1 2 9) [1, 2, 3, 4, 5] next) ∧
      (∃ next, outline true [1, 2, 3, 4, 5] 2 (-1) 0 2 1 7 = .ok next ∧ Painted 2 7 (OnBorder (-1) 0 2 1) [1, 2, 3, 4, 5] next) ∧
      ∃ next, blitStr true [1, 2, 3, 4, 5] 2 (-3) (-2) 1 "!" 7 = .ok next ∧
        Painted 2 7 (Inked (-3) (-2) 1 (textBytes "!")) [1, 2, 3, 4, 5] next := by
  obtain ⟨fills, outlines, writes⟩ := drawings_exact true [1, 2, 3, 4, 5] 2 (by decide) (by decide) 7
  have text : (textBytes "!").length = 1 := by
    rw [textBytes, Utf8.toList_toUTF8]
    rfl
  refine ⟨fills (-1) 1 2 9 ⟨by decide, by decide⟩, outlines (-1) 0 2 1 ⟨by decide, by decide⟩, writes (-3) (-2) 1 "!" ?_⟩
  apply textFits_of_ends
  · decide
  · rw [text]
    decide
  · decide
  · intro _
    decide

/-! ### What the sums have to fit for -/

section Overflow
variable {fb next : List UInt32} {fbw : Nat} {color : UInt32} {x y scale : Int32}

theorem blitPixel_stops {fbh cx : Int32} {row : Nat} (below : row < 16) {col dy dx : Int32}
    (done : blitPixel true fbw fbh cx y scale color row col dy fb dx = .ok next) :
    Fits (row * scale.toInt) ∧ Fits (y.toInt + row * scale.toInt + dy.toInt) := by
  have height : (Int32.ofNat row).toInt = row := Int32.toInt_ofNat_of_lt (by omega)
  obtain ⟨_, _, rest⟩ := bind_ok done
  obtain ⟨_, _, rest⟩ := bind_ok rest
  obtain ⟨_, _, rest⟩ := bind_ok rest
  obtain ⟨drop, dropped, rest⟩ := bind_ok rest
  obtain ⟨top, topped, rest⟩ := bind_ok rest
  obtain ⟨_, placed, _⟩ := bind_ok rest
  rw [height] at dropped
  obtain ⟨dropFits, rfl⟩ := fits_of_i32 dropped
  rw [toInt_ofInt dropFits] at topped
  obtain ⟨topFits, rfl⟩ := fits_of_i32 topped
  rw [toInt_ofInt topFits] at placed
  exact ⟨dropFits, (fits_of_i32 placed).1⟩

theorem blitGlyph_stops {fbh cx : Int32} {ch : UInt8} (positive : 0 < scale.toInt) {row col : Nat} (dot : Dot ch row col)
    (done : blitGlyph true fbw fbh cx y scale color (glyph ch) fb = .ok next) :
    Fits (row * scale.toInt) ∧ Fits (y.toInt + row * scale.toInt + scale.toInt - 1) := by
  have inside := dot.inside
  have width : GLYPH_W.toInt = 8 := rfl
  have first : (0 : Int32).toInt = 0 := Int32.toInt_zero
  obtain ⟨bits, here, bit⟩ := dot
  obtain ⟨item, within, same⟩ : ∃ item ∈ range 0 GLYPH_W, item.toInt = col := exists_of_range (by omega) (by omega)
  obtain ⟨dx, across, _⟩ : ∃ dx ∈ range 0 scale, dx.toInt = 0 := exists_of_range (by omega) (by omega)
  obtain ⟨dy, down, last⟩ : ∃ dy ∈ range 0 scale, dy.toInt = scale.toInt - 1 := exists_of_range (by omega) (by omega)
  obtain ⟨_, _, line⟩ := Loop.each_ok done (mem_lines.mpr here)
  obtain ⟨_, _, square⟩ := Loop.each_ok line within
  rw [blitBit, asUsize_of_toInt same, if_neg (mt (clear_iff bits inside.2).mp (not_not_intro bit))] at square
  obtain ⟨_, _, strip⟩ := Loop.each_ok square down
  obtain ⟨_, _, pixel⟩ := Loop.each_ok strip across
  have fits := blitPixel_stops inside.1 pixel
  rwa [last, ← Int.add_sub_assoc] at fits

theorem blitBytes_stops {fbh cx : Int32} {text : Bytes} (done : blitBytes true fbw fbh y scale color fb cx text = .ok next) :
    TextFits true cx.toInt y.toInt scale.toInt text := by
  induction text generalizing cx fb with
  | nil =>
    refine ⟨?_, fun _ ch member => absurd member List.not_mem_nil, fun _ => ⟨fun some => absurd rfl some, fun _ ch member => ?_⟩⟩
    · rw [List.length_nil, Int.ofNat_zero, Int.zero_mul, Int.add_zero]
      exact fits_toInt cx
    · exact absurd member List.not_mem_nil
  | cons ch text ih =>
    obtain ⟨_, glyphs, rest⟩ := bind_ok done
    obtain ⟨_, advance, rest⟩ := bind_ok rest
    obtain ⟨_, moved, rest⟩ := bind_ok rest
    obtain ⟨cell, rfl⟩ := fits_of_i32 advance
    rw [toInt_ofInt cell] at moved
    obtain ⟨next, rfl⟩ := fits_of_i32 moved
    obtain ⟨across, down, products⟩ := ih rest
    have width : GLYPH_W.toInt = 8 := rfl
    rw [width] at cell next across
    rw [toInt_ofInt next] at across
    refine ⟨?_, fun positive other member row col dot => ?_, fun checked => ⟨fun _ => cell, fun positive other member row col dot => ?_⟩⟩
    · rwa [List.length_cons, Int.natCast_succ, Int.add_mul, Int.one_mul, Int.add_comm (_ * _), ← Int.add_assoc]
    · rcases List.mem_cons.mp member with rfl | later
      · exact (blitGlyph_stops positive dot glyphs).2
      · exact down positive other later row col dot
    · rcases List.mem_cons.mp member with rfl | later
      · exact (blitGlyph_stops positive dot glyphs).1
      · exact (products checked).2 positive other later row col dot

/-- A build with overflow checks writes a text exactly when all of it fits. -/
theorem blitStr_returns_iff (few : fb.length < 2 ^ 31) (narrow : fbw < 2 ^ 31) {text : String} :
    (∃ next, blitStr true fb fbw x y scale text color = .ok next) ↔ TextFits true x.toInt y.toInt scale.toInt (textBytes text) := by
  constructor
  · rintro ⟨next, done⟩
    exact blitBytes_stops done
  · intro fits
    obtain ⟨next, done, _⟩ := blitStr_draws ⟨few, narrow⟩ color fits fb rfl
    exact ⟨next, done⟩

end Overflow

end Xpra.Proofs.Lettering
