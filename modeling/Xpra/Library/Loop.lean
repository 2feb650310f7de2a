import Mathlib.Data.List.Basic

/-! Loops over a range of numbers. -/

namespace Library.Loop

variable {α ε : Type*} {step : α → Nat → Except ε α} {count : Nat}

/-- Where any turn may fail: what holds at the start and is handed on by every turn holds
at the end, and no turn has failed. -/
theorem range (holds : Nat → α → Prop) {start : α} (begun : holds 0 start)
    (turn : ∀ index < count, ∀ state, holds index state → ∃ next, step state index = .ok next ∧ holds (index + 1) next) :
    ∃ final, (List.range count).foldlM step start = .ok final ∧ holds count final := by
  induction count with
  | zero => exact ⟨start, rfl, begun⟩
  | succ count ih =>
    obtain ⟨middle, before, kept⟩ := ih fun index below => turn index (Nat.lt_succ_of_lt below)
    obtain ⟨final, last, reached⟩ := turn count (Nat.lt_succ_self count) middle kept
    refine ⟨final, ?_, reached⟩
    rw [List.range_succ, List.foldlM_append, before]
    simp [bind, Except.bind, last, pure, Except.pure]

/-- A loop that has not failed has failed at no item. -/
theorem each_ok {β : Type*} {items : List β} {turn : α → β → Except ε α} {start final : α} (ran : items.foldlM turn start = .ok final)
    {item : β} (member : item ∈ items) : ∃ state next, turn state item = .ok next := by
  induction items generalizing start with
  | nil => cases member
  | cons first items ih =>
    rw [List.foldlM_cons] at ran
    cases begun : turn start first with
    | error failure =>
      rw [begun] at ran
      cases ran
    | ok middle =>
      rw [begun] at ran
      rcases List.mem_cons.mp member with rfl | later
      · exact ⟨start, middle, begun⟩
      · exact ih ran later

/-- A table that each turn extends by the entry of a recurrence is that recurrence's. -/
theorem grown {extend : List α → Nat → List α} (entry : Nat → α) (first : Nat)
    (turn : ∀ index, first ≤ index → extend ((List.range index).map entry) index = (List.range index).map entry ++ [entry index])
    (count : Nat) :
    (List.range' first count).foldl extend ((List.range first).map entry) = (List.range (first + count)).map entry := by
  induction count with
  | zero => rfl
  | succ count ih =>
    rw [List.range'_concat, List.foldl_append, ih, List.foldl_cons, List.foldl_nil, Nat.one_mul, turn _ (by omega),
      ← Nat.add_assoc, List.range_succ, List.map_append]
    rfl

/-- An entry of a table that a recurrence reads back. -/
theorem getD_table (entry : Nat → α) {count index : Nat} (below : index < count) (default : α) :
    ((List.range count).map entry).getD index default = entry index := by
  simp [List.getD_eq_getElem?_getD, below]

/-- Two folds whose turns agree on every item agree. -/
theorem foldl_agree {β γ δ : Type*} {turn : α → β → α} {turn' : γ → δ → γ} (view : α → γ) (item : β → δ) {items : List β}
    (same : ∀ each ∈ items, ∀ state, view (turn state each) = turn' (view state) (item each)) (start : α) :
    view (items.foldl turn start) = (items.map item).foldl turn' (view start) := by
  induction items generalizing start with
  | nil => rfl
  | cons each items ih =>
    have rest := ih fun other member => same other (List.mem_cons_of_mem each member)
    rw [List.foldl_cons, rest, List.map_cons, List.foldl_cons, same each List.mem_cons_self]

end Library.Loop
