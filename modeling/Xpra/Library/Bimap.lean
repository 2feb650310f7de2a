import Mathlib.Data.Finset.Basic

/-! Two partial maps that are meant to be inverse to each other, and are kept so
entry by entry. -/

namespace Library.Bimap

variable {α β : Type*}

/-- Each map leads back to where the other one comes from. -/
def Inverse (forward : α → Option β) (backward : β → Option α) : Prop :=
  ∀ a b, forward a = some b ↔ backward b = some a

variable [DecidableEq α] [DecidableEq β] {forward : α → Option β} {backward : β → Option α} {a : α} {b : β}

theorem Inverse.insert (inverse : Inverse forward backward) (fresh : forward a = none) (free : backward b = none) :
    Inverse (fun x => if x = a then some b else forward x) (fun y => if y = b then some a else backward y) := by
  intro x y
  have apart := inverse x y
  by_cases key : x = a <;> by_cases value : y = b
  · simp [key, value]
  · subst key
    have none : backward y ≠ some x := fun back => by simp [fresh] at apart; exact apart back
    simp [value, Ne.symm value, none]
  · subst value
    have none : forward x ≠ some y := fun forth => by simp [free] at apart; exact apart forth
    simp [key, Ne.symm key, none]
  · simp [key, value, apart]

/-- An entry put over another one leaves the other's key behind. -/
theorem Inverse.not_replace (inverse : Inverse forward backward) (fresh : forward a = none) {old : α}
    (taken : backward b = some old) :
    ¬ Inverse (fun x => if x = a then some b else forward x) (fun y => if y = b then some a else backward y) := by
  intro after
  have held : forward old = some b := (inverse old b).mpr taken
  have other : old ≠ a := by
    rintro rfl
    simp [fresh] at held
  have stale := (after old b).mp (by simp [other, held])
  simp [Ne.symm other] at stale

theorem Inverse.remove (inverse : Inverse forward backward) (held : backward b = some a) :
    Inverse (fun x => if x = a then none else forward x) (fun y => if y = b then none else backward y) := by
  intro x y
  by_cases key : x = a <;> by_cases value : y = b
  · simp [key, value]
  · subst key
    have other : backward y ≠ some x := by
      intro back
      have first := (inverse x y).mpr back
      rw [(inverse x b).mpr held] at first
      exact value (Option.some.inj first).symm
    simp [value, other]
  · subst value
    have other : forward x ≠ some y := by
      intro forth
      have first := (inverse x y).mp forth
      rw [held] at first
      exact key (Option.some.inj first).symm
    simp [key, other]
  · simp [key, value, inverse x y]

end Library.Bimap
