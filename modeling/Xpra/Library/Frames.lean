import Mathlib.Data.List.Basic

/-! Samples of several channels, cut into frames with one sample of every channel.
A partial frame at the end is not a frame. -/

namespace Library.Frames

variable {α : Type*} {width : Nat} {samples : List α}

def cut (width : Nat) (samples : List α) : List (List α) :=
  (List.range (samples.length / width)).map fun index => (samples.drop (index * width)).take width

@[simp] theorem length_cut (width : Nat) (samples : List α) : (cut width samples).length = samples.length / width := by
  simp [cut]

theorem getElem?_cut (width : Nat) (samples : List α) (index : Nat) :
    (cut width samples)[index]? =
      if index < samples.length / width then some ((samples.drop (index * width)).take width) else none := by
  by_cases inside : index < samples.length / width
  · simp [cut, inside]
  · simp [cut, inside]

theorem length_of_mem_cut {frame : List α} (member : frame ∈ cut width samples) : frame.length = width := by
  obtain ⟨index, inside, rfl⟩ := List.mem_map.mp member
  have room : (index + 1) * width ≤ samples.length :=
    Nat.le_trans (Nat.mul_le_mul_right width (List.mem_range.mp inside)) (Nat.div_mul_le_self _ _)
  rw [Nat.succ_mul] at room
  rw [List.length_take, List.length_drop]
  omega

/-- Frames that follow one another are a run of samples. -/
theorem flatten_cut (first count : Nat) (fits : first + count ≤ samples.length / width) :
    (((cut width samples).drop first).take count).flatten = (samples.drop (first * width)).take (count * width) := by
  induction count generalizing first with
  | zero => simp
  | succ count ih =>
    have inside : first < (cut width samples).length := by
      rw [length_cut]
      omega
    have head : (cut width samples)[first] = (samples.drop (first * width)).take width := by
      simp [cut]
    rw [List.drop_eq_getElem_cons inside, List.take_succ_cons, List.flatten_cons, ih (first + 1) (by omega), head,
      Nat.succ_mul count, Nat.add_comm (count * width), List.take_add, List.drop_drop, Nat.succ_mul]

/-- The samples of a partial frame do not count. -/
theorem cut_whole (width : Nat) (samples : List α) :
    cut width (samples.take (samples.length - samples.length % width)) = cut width samples := by
  have whole : samples.length - samples.length % width = samples.length / width * width := by
    have parts := Nat.div_add_mod samples.length width
    rw [Nat.mul_comm] at parts
    omega
  have length : (samples.take (samples.length - samples.length % width)).length / width = samples.length / width := by
    rw [List.length_take, Nat.min_eq_left (Nat.sub_le _ _), whole]
    rcases Nat.eq_zero_or_pos width with none | some
    · simp [none]
    · exact Nat.mul_div_cancel _ some
  apply List.ext_getElem?
  intro frame
  rw [getElem?_cut, getElem?_cut, length]
  split
  next inside =>
    have kept : frame * width + width ≤ samples.length / width * width := by
      rw [← Nat.succ_mul]
      exact Nat.mul_le_mul_right width inside
    rw [whole, List.drop_take, List.take_take, Nat.min_eq_left (by omega)]
  next => rfl

theorem cut_drop (count : Nat) : cut width (samples.drop (count * width)) = (cut width samples).drop count := by
  have left : (samples.drop (count * width)).length / width = samples.length / width - count := by
    rw [List.length_drop, Nat.mul_comm, Nat.sub_mul_div]
  apply List.ext_getElem?
  intro index
  rw [getElem?_cut, List.getElem?_drop, getElem?_cut, left, List.drop_drop, Nat.add_mul]
  by_cases inside : index < samples.length / width - count
  · rw [if_pos inside, if_pos (by omega)]
  · rw [if_neg inside, if_neg (by omega)]

theorem length_flatten {frames : List (List α)} (each : ∀ frame ∈ frames, frame.length = width) :
    frames.flatten.length = frames.length * width := by
  induction frames with
  | nil => simp
  | cons frame frames ih =>
    obtain ⟨here, later⟩ := List.forall_mem_cons.mp each
    rw [List.flatten_cons, List.length_append, here, ih later, List.length_cons, Nat.succ_mul, Nat.add_comm]

theorem cut_flatten (positive : 0 < width) {frames : List (List α)} (each : ∀ frame ∈ frames, frame.length = width) :
    cut width frames.flatten = frames := by
  induction frames with
  | nil => simp [cut]
  | cons frame frames ih =>
    obtain ⟨here, later⟩ := List.forall_mem_cons.mp each
    have size : (frame ++ frames.flatten).length / width = frames.length + 1 := by
      rw [List.length_append, here, length_flatten later, Nat.add_comm, ← Nat.succ_mul, Nat.mul_div_cancel _ positive]
    rw [List.flatten_cons, cut, size, List.range_succ_eq_map, List.map_cons, List.map_map, Nat.zero_mul, List.drop_zero,
      List.take_left' here]
    congr 1
    refine Eq.trans ?_ (ih later)
    rw [cut, length_flatten later, Nat.mul_div_cancel _ positive]
    refine List.map_congr_left fun index _ => ?_
    rw [Function.comp_apply, Nat.succ_mul, Nat.add_comm, ← List.drop_drop, List.drop_left' here]

theorem frame_of_offset {frame index offset : Nat} (within : offset < width) :
    (index * width ≤ frame * width + offset ∧ frame * width + offset < index * width + width) ↔ frame = index := by
  rcases Nat.lt_trichotomy frame index with before | same | after
  · have far : (frame + 1) * width ≤ index * width := Nat.mul_le_mul_right width before
    rw [Nat.succ_mul] at far
    omega
  · subst same
    omega
  · have far : (index + 1) * width ≤ frame * width := Nat.mul_le_mul_right width after
    rw [Nat.succ_mul] at far
    omega

/-- A change of all samples of one frame changes that frame only. -/
theorem cut_modify {changed : List α} (index : Nat) (change : α → α) (length : changed.length = samples.length)
    (same : ∀ i, changed[i]? =
      if index * width ≤ i ∧ i < index * width + width then samples[i]?.map change else samples[i]?) :
    cut width changed = (cut width samples).modify index (List.map change) := by
  apply List.ext_getElem?
  intro frame
  rw [List.getElem?_modify, getElem?_cut, getElem?_cut, length]
  split
  next =>
    simp only [Option.map_eq_map, Option.map_some, Option.some_inj]
    apply List.ext_getElem?
    intro offset
    by_cases within : offset < width
    · rw [List.getElem?_take_of_lt within, List.getElem?_drop, same]
      simp only [frame_of_offset within]
      by_cases here : frame = index
      · simp [here, within]
      · simp [here, Ne.symm here, within]
    · rw [List.getElem?_take_eq_none (Nat.le_of_not_lt within)]
      by_cases here : index = frame
      · simp [here, List.getElem?_take_eq_none (Nat.le_of_not_lt within)]
      · simp [here, List.getElem?_take_eq_none (Nat.le_of_not_lt within)]
  next => simp

end Library.Frames
