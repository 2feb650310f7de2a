import Mathlib.Data.List.Forall2
import Mathlib.Logic.Relation

/-! What passes through a queue that may lose items and may change those that wait. The
items that have left it, then those that wait, go back to items that entered: each at most
once, and in their order. -/

namespace Library.Passage

variable {α : Type*}

/-- `seen` are the items that left and then those that wait. -/
def Passed (change : α → α → Prop) (entered seen : List α) : Prop :=
  ∃ origins, origins.Sublist entered ∧ List.Forall₂ (Relation.ReflTransGen change) origins seen

namespace Passed

variable {change : α → α → Prop} {entered seen : List α}

theorem empty : Passed change [] [] := ⟨[], List.Sublist.refl _, .nil⟩

theorem enter (passed : Passed change entered seen) (items : List α) : Passed change (entered ++ items) (seen ++ items) := by
  obtain ⟨origins, kept, changed⟩ := passed
  exact ⟨origins ++ items, kept.append (List.Sublist.refl items),
    List.rel_append changed (List.forall₂_same.mpr fun _ _ => .refl)⟩

/-- Some of the items that wait are lost from the front. -/
theorem lose {left waiting : List α} (passed : Passed change entered (left ++ waiting)) (count : Nat) :
    Passed change entered (left ++ waiting.drop count) := by
  obtain ⟨origins, kept, changed⟩ := passed
  have gone := List.forall₂_take_append origins left waiting changed
  have still := List.forall₂_drop_append origins left waiting changed
  refine ⟨origins.take left.length ++ (origins.drop left.length).drop count, List.Sublist.trans ?_ kept,
    List.rel_append gone (List.forall₂_drop count still)⟩
  have rest := (List.Sublist.refl (origins.take left.length)).append (List.drop_sublist count (origins.drop left.length))
  rwa [List.take_append_drop] at rest

theorem alter {left waiting altered : List α} (passed : Passed change entered (left ++ waiting))
    (each : List.Forall₂ (Relation.ReflTransGen change) waiting altered) : Passed change entered (left ++ altered) := by
  obtain ⟨origins, kept, changed⟩ := passed
  have gone := List.forall₂_take_append origins left waiting changed
  have still := List.forall₂_drop_append origins left waiting changed
  refine ⟨origins, kept, ?_⟩
  rw [← List.take_append_drop left.length origins]
  refine List.rel_append gone ?_
  clear changed gone
  generalize origins.drop left.length = behind at still
  induction still generalizing altered with
  | nil =>
    cases each
    exact .nil
  | cons first _ ih =>
    cases each with
    | cons last rest => exact .cons (first.trans last) (ih rest)

/-- What holds of the items that enter and survives a change. -/
theorem forall_seen (passed : Passed change entered seen) (holds : α → Prop) (begun : ∀ item ∈ entered, holds item)
    (survives : ∀ item altered, holds item → change item altered → holds altered) : ∀ item ∈ seen, holds item := by
  obtain ⟨origins, kept, changed⟩ := passed
  have origin : ∀ item ∈ origins, holds item := fun item member => begun item (kept.subset member)
  clear kept begun
  induction changed with
  | nil => exact nofun
  | cons first _ ih =>
    obtain ⟨here, later⟩ := List.forall_mem_cons.mp origin
    refine List.forall_mem_cons.mpr ⟨?_, ih later⟩
    induction first with
    | refl => exact here
    | tail _ last held => exact survives _ _ held last

end Passed
end Library.Passage
