import Mathlib.Data.List.Nodup

/-! Items that a consumer takes in their order, and a word to which it stores the mark of the
last one that it took. The producer, who gets to see only the word, can tell from it which
items have been taken, as long as no two marks in use are alike. -/

namespace Library.Watermark

variable {α μ : Type*} {mark : α → μ}

/-- `known` is the word that the producer has seen last; since then the items `taken` have
been taken. -/
structure Tracks (mark : α → μ) (known word : μ) (taken waiting : List α) : Prop where
  word : word = (taken.getLast?.map mark).getD known
  apart : (known :: (taken ++ waiting).map mark).Nodup

namespace Tracks

variable {known word : μ} {taken waiting : List α} {item : α}

theorem start (known : μ) : Tracks mark known known [] [] := ⟨rfl, by simp⟩

theorem enter (tracks : Tracks mark known word taken waiting) (fresh : mark item ∉ known :: (taken ++ waiting).map mark) :
    Tracks mark known word taken (waiting ++ [item]) := by
  refine ⟨tracks.word, ?_⟩
  rw [← List.append_assoc, List.map_append, ← List.cons_append]
  exact tracks.apart.append (List.nodup_singleton _) (List.disjoint_singleton.mpr fresh)

theorem take (tracks : Tracks mark known word taken (item :: waiting)) : Tracks mark known (mark item) (taken ++ [item]) waiting := by
  refine ⟨by simp, ?_⟩
  rw [List.append_assoc]
  exact tracks.apart

/-- The producer looks at the word, and takes the items up to its mark for taken. -/
theorem renew (tracks : Tracks mark known word taken waiting) : Tracks mark word word [] waiting := by
  refine ⟨rfl, ?_⟩
  have apart := tracks.apart
  rw [tracks.word, List.nil_append]
  rcases List.eq_nil_or_concat taken with rfl | ⟨before, last, rfl⟩
  · exact apart
  · rw [List.concat_eq_append, List.getLast?_concat, Option.map_some, Option.getD_some]
    rw [List.concat_eq_append, List.append_assoc, List.singleton_append, List.map_append, List.map_cons] at apart
    exact (List.nodup_append.mp (List.nodup_cons.mp apart).2).2.1

end Tracks

/-! ### What the producer makes of the word -/

variable [DecidableEq μ]

/-- The items behind the one with the mark. -/
def behind (mark : α → μ) (word : μ) : List α → Option (List α)
  | [] => none
  | item :: rest => if mark item = word then some rest else behind mark word rest

/-- The items that the producer has to take for waiting. -/
def reclaim (mark : α → μ) (word : μ) (items : List α) : List α := (behind mark word items).getD items

theorem behind_of_not_mem {word : μ} {items : List α} (foreign : word ∉ items.map mark) : behind mark word items = none := by
  induction items with
  | nil => rfl
  | cons item rest ih =>
    simp only [List.map_cons, List.mem_cons, not_or] at foreign
    rw [behind, if_neg (Ne.symm foreign.1), ih foreign.2]

theorem behind_append {last : α} {before after : List α} (first : mark last ∉ before.map mark) :
    behind mark (mark last) (before ++ last :: after) = some after := by
  induction before with
  | nil => exact if_pos rfl
  | cons item rest ih =>
    simp only [List.map_cons, List.mem_cons, not_or] at first
    rw [List.cons_append, behind, if_neg (Ne.symm first.1), ih first.2]

/-- The word tells neither too much nor too little. -/
theorem Tracks.reclaimed {known word : μ} {taken waiting : List α} (tracks : Tracks mark known word taken waiting) :
    reclaim mark word (taken ++ waiting) = waiting := by
  have apart := tracks.apart
  rw [tracks.word, reclaim]
  rcases List.eq_nil_or_concat taken with rfl | ⟨before, last, rfl⟩
  · rw [List.nil_append] at apart ⊢
    exact congrArg (fun found : Option (List α) => found.getD waiting) (behind_of_not_mem (List.nodup_cons.mp apart).1)
  · rw [List.concat_eq_append, List.append_assoc, List.singleton_append] at apart ⊢
    rw [List.getLast?_concat, Option.map_some, Option.getD_some]
    have first : mark last ∉ before.map mark := by
      rw [List.map_append, List.map_cons] at apart
      have alone := (List.nodup_append.mp (List.nodup_cons.mp apart).2).2.2
      exact fun member => alone _ member _ List.mem_cons_self rfl
    rw [behind_append first, Option.getD_some]

end Library.Watermark
