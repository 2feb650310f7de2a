import Mathlib.Data.Int.Notation
import Mathlib.Data.List.Basic

/-! Drawing in one colour. What a drawing leaves behind is the set of pixels that it
covers, so that drawings are put together in any order, and what lies outside the picture
falls away. -/

namespace Library.Raster

/-- Offsets tell the pixels of rows of one width apart. -/
theorem offset_inj {width a b c d : Nat} (first : a < width) (second : c < width) (same : b * width + a = d * width + c) :
    a = c ∧ b = d := by
  have columns := congrArg (· % width) same
  simp only [Nat.mul_add_mod_self_right, Nat.mod_eq_of_lt first, Nat.mod_eq_of_lt second] at columns
  subst columns
  exact ⟨rfl, Nat.eq_of_mul_eq_mul_right (by omega) (Nat.add_right_cancel same)⟩

theorem offset_lt {width size column row : Nat} (across : column < width) (down : row < size / width) :
    row * width + column < size := by
  have rows : (row + 1) * width ≤ size := Nat.le_trans (Nat.mul_le_mul_right _ down) (Nat.div_mul_le_self _ _)
  rw [Nat.succ_mul] at rows
  omega

variable {α ε : Type*} {width size : Nat} {colour : α} {region other : ℤ → ℤ → Prop} {old middle next : List α}

/-- The picture is the whole rows of a list. The pixels of the region have the colour, and
every other place of the list has what it had. -/
structure Painted (width : Nat) (colour : α) (region : ℤ → ℤ → Prop) (old next : List α) : Prop where
  length : next.length = old.length
  inside : ∀ column < width, ∀ row < old.length / width, region column row → next[row * width + column]? = some colour
  outside : ∀ index, (∀ column < width, ∀ row < old.length / width, index = row * width + column → ¬ region column row) →
    next[index]? = old[index]?

namespace Painted

theorem refl (old : List α) : Painted width colour (fun _ _ => False) old old where
  length := rfl
  inside _ _ _ _ never := never.elim
  outside _ _ := rfl

theorem congr (painted : Painted width colour region old next)
    (same : ∀ column < width, ∀ row < old.length / width, region column row ↔ other column row) :
    Painted width colour other old next where
  length := painted.length
  inside column across row down covered := painted.inside column across row down ((same column across row down).mpr covered)
  outside index beside := painted.outside index fun column across row down here covered =>
    beside column across row down here ((same column across row down).mp covered)

/-- What is painted twice stays painted. -/
theorem trans (first : Painted width colour region old middle) (second : Painted width colour other middle next) :
    Painted width colour (fun column row => region column row ∨ other column row) old next := by
  constructor
  · exact second.length.trans first.length
  · intro column across row down covered
    by_cases again : other column row
    · exact second.inside column across row (by rwa [first.length]) again
    · rw [second.outside, first.inside column across row down (covered.resolve_right again)]
      intro column' across' row' _ same
      obtain ⟨rfl, rfl⟩ := offset_inj across across' same
      exact again
  · intro index beside
    rw [second.outside, first.outside]
    · intro column across row down here covered
      exact beside column across row down here (.inl covered)
    · intro column across row down here covered
      exact beside column across row (by rwa [← first.length]) here (.inr covered)

theorem set {column row : Nat} (across : column < width) (down : row < old.length / width) :
    Painted width colour (fun a b => a = column ∧ b = row) old (old.set (row * width + column) colour) := by
  constructor
  · exact List.length_set
  · rintro a _ b _ ⟨left, top⟩
    obtain rfl := Int.ofNat_inj.mp left
    obtain rfl := Int.ofNat_inj.mp top
    rw [List.getElem?_set_self (offset_lt across down)]
  · intro index beside
    rw [List.getElem?_set_ne]
    intro here
    exact beside column across row down here.symm ⟨rfl, rfl⟩

end Painted

/-- A drawing never fails on a list of the size, and covers the region. -/
def Draws (width size : Nat) (colour : α) (region : ℤ → ℤ → Prop) (draw : List α → Except ε (List α)) : Prop :=
  ∀ old, old.length = size → ∃ next, draw old = .ok next ∧ Painted width colour region old next

namespace Draws

variable {draw later : List α → Except ε (List α)}

theorem nothing : Draws (ε := ε) width size colour (fun _ _ => False) .ok := fun old _ => ⟨old, rfl, .refl old⟩

theorem congr (drawn : Draws width size colour region draw)
    (same : ∀ column < width, ∀ row < size / width, region column row ↔ other column row) : Draws width size colour other draw := by
  intro old sized
  obtain ⟨next, done, painted⟩ := drawn old sized
  exact ⟨next, done, painted.congr (by rwa [sized])⟩

theorem no_columns : Draws (ε := ε) 0 size colour region .ok :=
  nothing.congr fun _ across => absurd across (Nat.not_lt_zero _)

theorem of_eq (drawn : Draws width size colour region later) (same : ∀ old, old.length = size → draw old = later old) :
    Draws width size colour region draw := by
  intro old sized
  rw [same old sized]
  exact drawn old sized

theorem set {column row : Nat} (across : column < width) (down : row < size / width) :
    Draws (ε := ε) width size colour (fun a b => a = column ∧ b = row) fun old => .ok (old.set (row * width + column) colour) :=
  fun _ sized => ⟨_, rfl, .set across (by rwa [sized])⟩

theorem bind (first : Draws width size colour region draw) (second : Draws width size colour other later) :
    Draws width size colour (fun column row => region column row ∨ other column row) fun old => draw old >>= later := by
  intro old sized
  obtain ⟨middle, begun, half⟩ := first old sized
  obtain ⟨next, done, whole⟩ := second middle (half.length.trans sized)
  refine ⟨next, ?_, half.trans whole⟩
  change draw old >>= later = .ok next
  rw [begun]
  exact done

/-- A loop covers what any of its turns covers. -/
theorem fold {β : Type*} {items : List β} {turn : List α → β → Except ε (List α)} {region : β → ℤ → ℤ → Prop}
    (each : ∀ item ∈ items, Draws width size colour (region item) fun old => turn old item) :
    Draws width size colour (fun column row => ∃ item ∈ items, region item column row) fun old => items.foldlM turn old := by
  induction items with
  | nil => exact nothing.congr fun _ _ _ _ => by simp
  | cons item items ih =>
    have rest := ih fun later member => each later (List.mem_cons_of_mem item member)
    refine (((each item List.mem_cons_self).bind rest).congr fun _ _ _ _ => ?_).of_eq fun _ _ => List.foldlM_cons
    rw [List.exists_mem_cons_iff]

end Draws

end Library.Raster
