import Mathlib.Data.List.Sort

/-! Places in a sorted list. The item at a place has a property that carries over to
smaller items exactly when more items than the place counts have it. -/

namespace Library.Rank

variable {α : Type*} [LinearOrder α] {items : List α} {place : ℕ} {holds : α → Bool}

theorem lt_countP_iff (sorted : items.Pairwise (· ≤ ·)) (smaller : ∀ low high, low ≤ high → holds high → holds low)
    (inside : place < items.length) : place < items.countP holds ↔ holds items[place] := by
  induction items generalizing place with
  | nil => cases inside
  | cons item rest ih =>
    obtain ⟨least, sorted⟩ := List.pairwise_cons.mp sorted
    by_cases first : holds item
    · rw [List.countP_cons_of_pos first]
      cases place with
      | zero => simpa using first
      | succ place => simpa using ih sorted (by simpa using inside)
    · have none : rest.countP holds = 0 := by
        apply List.countP_eq_zero.mpr
        intro other member
        exact mt (smaller item other (least other member)) first
      rw [List.countP_cons_of_neg first, none]
      cases place with
      | zero => simpa using first
      | succ place =>
        have inside : place < rest.length := by simpa using inside
        have later : ¬ holds rest[place] := mt (smaller item _ (least _ (List.getElem_mem _))) first
        simpa using later

/-- The item at a place once the items are sorted. -/
def atPlace (items : List α) (place : ℕ) (inside : place < items.length) : α :=
  (items.insertionSort (· ≤ ·)).get ⟨place, by rwa [List.length_insertionSort]⟩

theorem lt_countP_atPlace (smaller : ∀ low high, low ≤ high → holds high → holds low) (inside : place < items.length) :
    place < items.countP holds ↔ holds (atPlace items place inside) := by
  have sorted : (items.insertionSort (· ≤ ·)).Pairwise (· ≤ ·) := List.pairwise_insertionSort _ _
  rw [← (List.perm_insertionSort (· ≤ ·) items).countP_eq]
  exact lt_countP_iff sorted smaller _

theorem atPlace_mem (inside : place < items.length) : atPlace items place inside ∈ items := by
  rw [← List.mem_insertionSort (· ≤ ·)]
  exact List.getElem_mem _

theorem place_lt_countP_le (inside : place < items.length) : place < items.countP (· ≤ atPlace items place inside) := by
  apply (lt_countP_atPlace _ inside).mpr
  · exact decide_eq_true le_rfl
  · intro low high order below
    exact decide_eq_true (order.trans (of_decide_eq_true below))

theorem atPlace_lt_iff {bound : α} (inside : place < items.length) :
    atPlace items place inside < bound ↔ place < items.countP (· < bound) := by
  rw [lt_countP_atPlace _ inside, decide_eq_true_iff]
  intro low high order below
  exact decide_eq_true (order.trans_lt (of_decide_eq_true below))

end Library.Rank
