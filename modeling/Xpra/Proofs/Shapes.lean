import Xpra.Client.Paint
import Xpra.Library.Loop
import Xpra.Library.Raster
import Xpra.Net.Packet

/-! What the rectangles of the hand-drawn dialogs cover, and when a build with overflow
checks draws them. -/

namespace Xpra.Proofs.Shapes
open Xpra.Net Xpra.Client Xpra.Client.Paint Library Library.Raster

/-! ### Integers of 32 bits -/

def Fits (exact : ℤ) : Prop := -2 ^ 31 ≤ exact ∧ exact < 2 ^ 31

instance : DecidablePred Fits := fun exact => inferInstanceAs (Decidable (-2 ^ 31 ≤ exact ∧ exact < 2 ^ 31))

variable {checks : Bool} {exact : ℤ} {start stop value : Int32}

theorem fits_toInt (value : Int32) : Fits value.toInt := ⟨value.le_toInt, value.toInt_lt⟩

theorem fits_last {side : ℤ} (fits : Fits (start.toInt + side)) (some : 0 < side) : Fits (start.toInt + side - 1) := by
  have first := fits_toInt start
  simp only [Fits] at *
  omega

theorem toInt_ofInt (fits : Fits exact) : (Int32.ofInt exact).toInt = exact := Int32.toInt_ofInt_of_le fits.1 fits.2

theorem i32_ok (fits : checks = true → Fits exact) : i32 checks exact = .ok (.ofInt exact) := if_neg fun overflow => overflow.2 (fits overflow.1)

/-- A release build may leave the range and come back. -/
theorem i32_add_ofInt (fits : checks = true → Fits exact) (sum : Fits (value.toInt + exact)) :
    i32 checks (value.toInt + (Int32.ofInt exact).toInt) = .ok (.ofInt (value.toInt + exact)) := by
  rw [i32_ok]
  · rw [Int32.ofInt_add, Int32.ofInt_add, Int32.ofInt_toInt, Int32.ofInt_toInt]
  · intro checked
    rw [toInt_ofInt (fits checked)]
    exact sum

theorem toInt_max (first second : Int32) : (max first second).toInt = max first.toInt second.toInt := by
  have whole : max first second = if first ≤ second then second else first := rfl
  rw [whole, Int.max_def]
  by_cases order : first ≤ second
  · rw [if_pos order, if_pos (Int32.le_iff_toInt_le.mp order)]
  · rw [if_neg order, if_neg (mt Int32.le_iff_toInt_le.mpr order)]

theorem toInt_min (first second : Int32) : (min first second).toInt = min first.toInt second.toInt := by
  have whole : min first second = if first ≤ second then first else second := rfl
  rw [whole, Int.min_def]
  by_cases order : first ≤ second
  · rw [if_pos order, if_pos (Int32.le_iff_toInt_le.mp order)]
  · rw [if_neg order, if_neg (mt Int32.le_iff_toInt_le.mpr order)]

theorem mem_range : value ∈ range start stop ↔ start.toInt ≤ value.toInt ∧ value.toInt < stop.toInt := by
  have low := fits_toInt start
  have high := fits_toInt stop
  have turn {i : Nat} (below : i < (stop.toInt - start.toInt).toNat) : (start + .ofNat i).toInt = start.toInt + i := by
    rw [Int32.toInt_add, Int32.toInt_ofNat']
    simp only [Fits] at low high
    simp only [Int32.size, Int.bmod_def]
    omega
  rw [range, List.mem_map]
  constructor
  · rintro ⟨i, counted, rfl⟩
    have below := List.mem_range.mp counted
    rw [turn below]
    omega
  · rintro ⟨after, before⟩
    have below : (value.toInt - start.toInt).toNat < (stop.toInt - start.toInt).toNat := by omega
    refine ⟨(value.toInt - start.toInt).toNat, List.mem_range.mpr below, ?_⟩
    rw [← Int32.toInt_inj, turn below]
    omega

theorem exists_of_range (after : start.toInt ≤ exact) (before : exact < stop.toInt) : ∃ item ∈ range start stop, item.toInt = exact := by
  have low := fits_toInt start
  have high := fits_toInt stop
  have fits : Fits exact := by
    simp only [Fits] at *
    omega
  refine ⟨.ofInt exact, mem_range.mpr ?_, toInt_ofInt fits⟩
  rw [toInt_ofInt fits]
  exact ⟨after, before⟩

/-- A loop over a range runs over integers. -/
theorem exists_mem_range (holds : ℤ → Prop) :
    (∃ item ∈ range start stop, holds item.toInt) ↔ ∃ exact, start.toInt ≤ exact ∧ exact < stop.toInt ∧ holds exact := by
  constructor
  · rintro ⟨item, member, held⟩
    exact ⟨item.toInt, (mem_range.mp member).1, (mem_range.mp member).2, held⟩
  · rintro ⟨exact, after, before, held⟩
    obtain ⟨item, member, rfl⟩ := exists_of_range after before
    exact ⟨item, member, held⟩

theorem asUsize_of_toInt {index : Nat} (same : value.toInt = index) : asUsize value = index := by
  have high := value.toInt_lt
  rw [asUsize, same, USIZE]
  omega

theorem usize_ok {size : Nat} (small : size < 2 ^ 31) : usize checks size = .ok size := by
  have fits : size < USIZE := Nat.lt_trans small (by decide)
  rw [usize, if_neg fun overflow => absurd overflow.2 (Nat.not_le.mpr fits), Nat.mod_eq_of_lt fits]

theorem fits_of_i32 (done : i32 true exact = .ok value) : Fits exact ∧ value = .ofInt exact := by
  rw [i32] at done
  split at done
  next => cases done
  next fits =>
    cases done
    exact ⟨not_not.mp fun beyond => fits ⟨rfl, beyond⟩, rfl⟩

/-! ### One pixel -/

/-- A framebuffer of fewer than 2^31 pixels, in rows of fewer than 2^31. -/
structure Canvas (size fbw : Nat) : Prop where
  few : size < 2 ^ 31
  narrow : fbw < 2 ^ 31

section Drawing
variable {size fbw : Nat}

theorem Canvas.width (canvas : Canvas size fbw) : (Int32.ofNat fbw).toInt = fbw := Int32.toInt_ofNat_of_lt canvas.narrow

theorem Canvas.height (canvas : Canvas size fbw) (divisor : Nat) : (Int32.ofNat (size / divisor)).toInt = (size / divisor : Nat) :=
  Int32.toInt_ofNat_of_lt (Nat.lt_of_le_of_lt (Nat.div_le_self _ _) canvas.few)

variable (checks) (canvas : Canvas size fbw) (color : UInt32)
include canvas

theorem store_at {fb : List UInt32} (sized : fb.length = size) {column row : Nat} (across : column < fbw)
    (down : row < size / fbw) : usize checks (row * fbw) = .ok (row * fbw) ∧ usize checks (row * fbw + column) = .ok (row * fbw + column) ∧
      store fb (row * fbw + column) color = .ok (fb.set (row * fbw + column) color) := by
  have inside := offset_lt across down
  have few := canvas.few
  exact ⟨usize_ok (by omega), usize_ok (by omega), if_pos (by rwa [sized])⟩

/-- The test keeps every write inside the framebuffer. -/
theorem put_draws {fbh : Int32} (high : 0 < fbw → fbh.toInt = (size / fbw : Nat)) (px py : Int32) :
    Draws fbw size color (fun a b => a = px.toInt ∧ b = py.toInt) fun fb => put checks fbw fbh color fb px py := by
  by_cases shown : px ≥ 0 ∧ px < .ofNat fbw ∧ py ≥ 0 ∧ py < fbh
  · have limits := shown
    simp only [ge_iff_le, Int32.le_iff_toInt_le, Int32.lt_iff_toInt_lt, canvas.width, Int32.toInt_zero] at limits
    obtain ⟨left, right, top, bottom⟩ := limits
    obtain ⟨column, column_eq⟩ := Int.eq_ofNat_of_zero_le left
    obtain ⟨row, row_eq⟩ := Int.eq_ofNat_of_zero_le top
    have across : column < fbw := by omega
    have down : row < size / fbw := by
      have height := high (by omega)
      omega
    rw [column_eq, row_eq]
    refine (Draws.set across down).of_eq fun fb sized => ?_
    obtain ⟨rows, index, stored⟩ := store_at checks canvas color sized across down
    rw [put, if_pos shown, asUsize_of_toInt column_eq, asUsize_of_toInt row_eq]
    simp only [rows, index, stored, bind, Except.bind]
  · refine (Draws.nothing.congr ?_).of_eq fun fb _ => if_neg shown
    intro column across row down
    have height := high (by omega)
    simp only [ge_iff_le, Int32.le_iff_toInt_le, Int32.lt_iff_toInt_lt, canvas.width, Int32.toInt_zero] at shown
    refine iff_of_false not_false ?_
    rintro ⟨left, top⟩
    omega

/-! ### Rectangles -/

/-- `x ≤ px < x + w` and `y ≤ py < y + h`, in exact integers. -/
def InRect (x y w h px py : ℤ) : Prop := x ≤ px ∧ px < x + w ∧ y ≤ py ∧ py < y + h

/-- The pixels of a rectangle at one of its four sides. -/
def OnBorder (x y w h px py : ℤ) : Prop := InRect x y w h px py ∧ (px = x ∨ px = x + w - 1 ∨ py = y ∨ py = y + h - 1)

/-- The corner across from the origin has coordinates of 32 bits. -/
structure RectFits (x y w h : Int32) : Prop where
  across : Fits (x.toInt + w.toInt)
  down : Fits (y.toInt + h.toInt)

variable {x y w h : Int32}

theorem fillRow_draws (fits : Fits (x.toInt + w.toInt)) {py : Int32} {row : Nat} (row_eq : py.toInt = row)
    (down : row < size / fbw) :
    Draws fbw size color (fun a b => x.toInt ≤ a ∧ a < x.toInt + w.toInt ∧ b = row) fun fb => fillRow checks fbw x w color fb py := by
  have pixels : ∀ px ∈ range (max x 0) (min (.ofInt (x.toInt + w.toInt)) (.ofNat fbw)),
      Draws fbw size color (fun a b => a = px.toInt ∧ b = row) fun fb =>
        usize checks (row * fbw + asUsize px) >>= fun index => store fb index color := by
    intro px member
    have inside := mem_range.mp member
    rw [toInt_max, toInt_min, toInt_ofInt fits, canvas.width, Int32.toInt_zero] at inside
    obtain ⟨column, column_eq⟩ := Int.eq_ofNat_of_zero_le (by omega : 0 ≤ px.toInt)
    have across : column < fbw := by omega
    rw [column_eq]
    refine (Draws.set across down).of_eq fun fb sized => ?_
    obtain ⟨-, index, stored⟩ := store_at checks canvas color sized across down
    rw [asUsize_of_toInt column_eq, index]
    exact stored
  refine ((Draws.fold pixels).congr ?_).of_eq ?_
  · intro column across _ _
    rw [exists_mem_range (fun exact => (column : ℤ) = exact ∧ _), toInt_max, toInt_min, toInt_ofInt fits, canvas.width, Int32.toInt_zero]
    constructor
    · rintro ⟨exact, after, before, rfl, top⟩
      omega
    · rintro ⟨after, before, top⟩
      exact ⟨column, by omega, by omega, rfl, top⟩
  · intro fb sized
    have start : usize checks (row * fbw) = .ok (row * fbw) :=
      usize_ok (Nat.lt_of_le_of_lt ((Nat.mul_le_mul_right _ (Nat.le_of_lt down)).trans (Nat.div_mul_le_self _ _)) canvas.few)
    rw [fillRow, asUsize_of_toInt row_eq, start, i32_ok fun _ => fits]
    rfl

theorem fillRect_draws (fits : RectFits x y w h) :
    Draws fbw size color (InRect x.toInt y.toInt w.toInt h.toInt) fun fb => fillRect checks fb fbw x y w h color := by
  by_cases none : fbw = 0
  · subst none
    exact Draws.no_columns.of_eq fun fb _ => if_pos rfl
  have rows : ∀ py ∈ range (max y 0) (min (.ofInt (y.toInt + h.toInt)) (.ofNat (size / fbw))),
      Draws fbw size color (fun a b => x.toInt ≤ a ∧ a < x.toInt + w.toInt ∧ b = py.toInt) fun fb =>
        fillRow checks fbw x w color fb py := by
    intro py member
    have inside := mem_range.mp member
    rw [toInt_max, toInt_min, toInt_ofInt fits.down, canvas.height, Int32.toInt_zero] at inside
    obtain ⟨row, row_eq⟩ := Int.eq_ofNat_of_zero_le (by omega : 0 ≤ py.toInt)
    rw [row_eq]
    exact fillRow_draws checks canvas color fits.across row_eq (by omega)
  refine ((Draws.fold rows).congr ?_).of_eq ?_
  · intro column _ row down
    rw [exists_mem_range (fun exact => _ ∧ _ ∧ (row : ℤ) = exact), toInt_max, toInt_min, toInt_ofInt fits.down,
      canvas.height, Int32.toInt_zero, InRect]
    constructor
    · rintro ⟨exact, after, before, left, right, rfl⟩
      omega
    · rintro ⟨left, right, after, before⟩
      exact ⟨row, by omega, by omega, left, right, rfl⟩
  · intro fb sized
    rw [fillRect, if_neg none, sized, i32_ok fun _ => fits.down]
    rfl

theorem outlineColumn_draws {fbh : Int32} (high : 0 < fbw → fbh.toInt = (size / fbw : Nat))
    (fits : Fits (y.toInt + h.toInt)) (tall : 0 < h.toInt) (px : Int32) :
    Draws fbw size color (fun a b => a = px.toInt ∧ b = y.toInt ∨ a = px.toInt ∧ b = y.toInt + h.toInt - 1) fun fb =>
      outlineColumn checks fbw fbh y h color fb px := by
  have last := fits_last fits tall
  have bottom : Draws fbw size color (fun a b => a = px.toInt ∧ b = (Int32.ofInt (y.toInt + h.toInt - 1)).toInt) fun fb =>
      put checks fbw fbh color fb px (.ofInt (y.toInt + h.toInt - 1)) := put_draws checks canvas color high _ _
  rw [toInt_ofInt last] at bottom
  refine ((put_draws checks canvas color high _ _).bind bottom).of_eq fun fb _ => ?_
  rw [outlineColumn, i32_ok fun _ => fits]
  simp only [bind, Except.bind, toInt_ofInt fits, i32_ok fun _ => last]

theorem outlineRow_draws {fbh : Int32} (high : 0 < fbw → fbh.toInt = (size / fbw : Nat))
    (fits : Fits (x.toInt + w.toInt)) (wide : 0 < w.toInt) (py : Int32) :
    Draws fbw size color (fun a b => a = x.toInt ∧ b = py.toInt ∨ a = x.toInt + w.toInt - 1 ∧ b = py.toInt) fun fb =>
      outlineRow checks fbw fbh x w color fb py := by
  have last := fits_last fits wide
  have right : Draws fbw size color (fun a b => a = (Int32.ofInt (x.toInt + w.toInt - 1)).toInt ∧ b = py.toInt) fun fb =>
      put checks fbw fbh color fb (.ofInt (x.toInt + w.toInt - 1)) py := put_draws checks canvas color high _ _
  rw [toInt_ofInt last] at right
  refine ((put_draws checks canvas color high _ _).bind right).of_eq fun fb _ => ?_
  rw [outlineRow, i32_ok fun _ => fits]
  simp only [bind, Except.bind, toInt_ofInt fits, i32_ok fun _ => last]

theorem outline_draws (fits : RectFits x y w h) :
    Draws fbw size color (OnBorder x.toInt y.toInt w.toInt h.toInt) fun fb => outline checks fb fbw x y w h color := by
  have guard : (fbw = 0 ∨ w ≤ 0 ∨ h ≤ 0) ↔ fbw = 0 ∨ w.toInt ≤ 0 ∨ h.toInt ≤ 0 := by
    rw [Int32.le_iff_toInt_le, Int32.le_iff_toInt_le, Int32.toInt_zero]
  by_cases none : fbw = 0 ∨ w ≤ 0 ∨ h ≤ 0
  · refine (Draws.nothing.congr ?_).of_eq fun fb _ => if_pos none
    rw [guard] at none
    intro column across row _
    refine iff_of_false not_false ?_
    rintro ⟨⟨left, right, top, bottom⟩, -⟩
    omega
  have sides := mt guard.mpr none
  have wide : 0 < w.toInt := by omega
  have tall : 0 < h.toInt := by omega
  have columns (px : Int32) (_ : px ∈ range x (.ofInt (x.toInt + w.toInt))) :=
    outlineColumn_draws checks canvas color (fun _ => canvas.height fbw) fits.down tall px
  have rows (py : Int32) (_ : py ∈ range y (.ofInt (y.toInt + h.toInt))) :=
    outlineRow_draws checks canvas color (fun _ => canvas.height fbw) fits.across wide py
  refine (((Draws.fold columns).bind (Draws.fold rows)).congr ?_).of_eq ?_
  · intro column _ row _
    rw [exists_mem_range (fun exact => (column : ℤ) = exact ∧ _ ∨ (column : ℤ) = exact ∧ _),
      exists_mem_range (fun exact => _ ∧ (row : ℤ) = exact ∨ _ ∧ (row : ℤ) = exact), toInt_ofInt fits.across, toInt_ofInt fits.down,
      OnBorder, InRect]
    constructor
    · rintro (⟨exact, after, before, covered⟩ | ⟨exact, after, before, covered⟩)
      all_goals omega
    · rintro ⟨⟨left, right, top, bottom⟩, side⟩
      by_cases level : (row : ℤ) = y.toInt ∨ (row : ℤ) = y.toInt + h.toInt - 1
      · exact .inl ⟨column, left, right, by omega⟩
      · exact .inr ⟨row, top, bottom, by omega⟩
  · intro fb sized
    rw [outline, if_neg none, sized, i32_ok fun _ => fits.across, i32_ok fun _ => fits.down]
    rfl

end Drawing

/-! ### What the sums have to fit for -/

section Overflow
variable {fb next : List UInt32} {fbw : Nat} {color : UInt32} {x y w h : Int32}

/-- A build with overflow checks stops at every outline whose corner does not fit. -/
theorem outline_returns_iff (few : fb.length < 2 ^ 31) (narrow : fbw < 2 ^ 31) :
    (∃ next, outline true fb fbw x y w h color = .ok next) ↔ fbw = 0 ∨ w ≤ 0 ∨ h ≤ 0 ∨ RectFits x y w h := by
  by_cases none : fbw = 0 ∨ w ≤ 0 ∨ h ≤ 0
  · exact iff_of_true ⟨fb, if_pos none⟩ (none.imp_right fun side => side.imp_right .inl)
  · constructor
    · rintro ⟨next, done⟩
      rw [outline, if_neg none] at done
      obtain ⟨right, across, rest⟩ := bind_ok done
      obtain ⟨middle, _, rest⟩ := bind_ok rest
      obtain ⟨bottom, down, _⟩ := bind_ok rest
      exact .inr (.inr (.inr ⟨(fits_of_i32 across).1, (fits_of_i32 down).1⟩))
    · intro fits
      have corner : RectFits x y w h := by
        rcases fits with zero | zero | zero | fits
        · exact absurd (.inl zero) none
        · exact absurd (.inr (.inl zero)) none
        · exact absurd (.inr (.inr zero)) none
        · exact fits
      obtain ⟨next, done, _⟩ := outline_draws true ⟨few, narrow⟩ color corner fb rfl
      exact ⟨next, done⟩

theorem fillRow_stops {py : Int32} (done : fillRow true fbw x w color fb py = .ok next) : Fits (x.toInt + w.toInt) := by
  obtain ⟨_, _, rest⟩ := bind_ok done
  obtain ⟨_, across, _⟩ := bind_ok rest
  exact (fits_of_i32 across).1

/-- The right side is not looked at where the framebuffer has no row of the rectangle. -/
theorem fillRect_returns_iff (few : fb.length < 2 ^ 31) (narrow : fbw < 2 ^ 31) :
    (∃ next, fillRect true fb fbw x y w h color = .ok next) ↔ fbw = 0 ∨ Fits (y.toInt + h.toInt) ∧
      (Fits (x.toInt + w.toInt) ∨ ∀ row < fb.length / fbw, ¬ (y.toInt ≤ row ∧ row < y.toInt + h.toInt)) := by
  have canvas : Canvas fb.length fbw := ⟨few, narrow⟩
  by_cases none : fbw = 0
  · exact iff_of_true ⟨fb, if_pos none⟩ (.inl none)
  constructor
  · rintro ⟨next, done⟩
    rw [fillRect, if_neg none] at done
    obtain ⟨bottom, down, rest⟩ := bind_ok done
    obtain ⟨fits, rfl⟩ := fits_of_i32 down
    refine .inr ⟨fits, or_iff_not_imp_right.mpr fun some => ?_⟩
    obtain ⟨row, below, top, inside⟩ : ∃ row < fb.length / fbw, y.toInt ≤ (row : ℤ) ∧ (row : ℤ) < y.toInt + h.toInt := by
      by_contra empty
      exact some fun row below covered => empty ⟨row, below, covered⟩
    obtain ⟨py, member, _⟩ : ∃ py ∈ range (max y 0) (min (.ofInt (y.toInt + h.toInt)) (.ofNat (fb.length / fbw))), py.toInt = row := by
      apply exists_of_range
      · rw [toInt_max, Int32.toInt_zero]
        omega
      · rw [toInt_min, toInt_ofInt fits, canvas.height]
        omega
    obtain ⟨_, _, painted⟩ := Loop.each_ok rest member
    exact fillRow_stops painted
  · intro fits
    obtain ⟨down, across⟩ := fits.resolve_left none
    rcases across with across | empty
    · obtain ⟨next, done, _⟩ := fillRect_draws true canvas color ⟨across, down⟩ fb rfl
      exact ⟨next, done⟩
    · have rows : range (max y 0) (min (.ofInt (y.toInt + h.toInt)) (.ofNat (fb.length / fbw))) = [] := by
        rw [List.eq_nil_iff_forall_not_mem]
        intro py member
        have inside := mem_range.mp member
        rw [toInt_max, toInt_min, toInt_ofInt down, canvas.height, Int32.toInt_zero] at inside
        obtain ⟨row, row_eq⟩ := Int.eq_ofNat_of_zero_le (by omega : 0 ≤ py.toInt)
        exact empty row (by omega) (by omega)
      refine ⟨fb, ?_⟩
      rw [fillRect, if_neg none, i32_ok fun _ => down]
      simp only [bind, Except.bind, rows, List.foldlM_nil]
      rfl

end Overflow

end Xpra.Proofs.Shapes
