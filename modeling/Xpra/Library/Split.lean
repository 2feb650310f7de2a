import Mathlib.Data.List.Basic

/-! Cutting a list in two at the first occurrence of a separator. -/

namespace Library.Split

variable {α : Type*} {part text before after : List α}

/-- The first occurrence of a part: no other has less before it. -/
structure First (part text before after : List α) : Prop where
  split : text = before ++ part ++ after
  least : ∀ other later, text = other ++ part ++ later → before.length ≤ other.length

theorem First.unique {before' after' : List α} (first : First part text before after) (first' : First part text before' after') :
    before = before' ∧ after = after' := by
  have length : before.length = before'.length :=
    Nat.le_antisymm (first.least _ _ first'.split) (first'.least _ _ first.split)
  have same := first.split.symm.trans first'.split
  rw [List.append_assoc, List.append_assoc] at same
  obtain ⟨rfl, rest⟩ := List.append_inj same length
  exact ⟨rfl, List.append_cancel_left rest⟩

/-- The part occurs nowhere. -/
def Absent (part text : List α) : Prop := ∀ before after, text ≠ before ++ part ++ after

theorem Absent.nil (some : part ≠ []) : Absent part [] := by
  intro before after same
  have occurs := (List.append_eq_nil_iff.mp same.symm).1
  exact some (List.append_eq_nil_iff.mp occurs).2

theorem First.absent (first : First part text before after) (some : part ≠ []) : Absent part before := by
  intro other rest same
  have least := first.least other (rest ++ part ++ after) (by rw [first.split, same]; simp)
  have length := List.length_pos_of_ne_nil some
  rw [same] at least
  simp only [List.length_append] at least
  omega

/-! ### A text that grows until the part ends it -/

theorem Absent.grow {item : α} (absent : Absent part text) (open' : ¬ part <:+ text ++ [item]) : Absent part (text ++ [item]) := by
  intro before after same
  rcases List.eq_nil_or_concat' after with rfl | ⟨after, last, rfl⟩
  · apply open'
    rw [same, List.append_nil]
    exact List.suffix_append before part
  · rw [← List.append_assoc] at same
    exact absent before after (List.append_inj' same rfl).1

/-- Where the part comes to an end for the first time, its first occurrence has ended. -/
theorem Absent.first {item : α} (absent : Absent part text) (ends : text ++ [item] = before ++ part) (after : List α) :
    First part (text ++ item :: after) before after := by
  have whole : text ++ item :: after = before ++ part ++ after := by
    rw [← ends, List.append_assoc, List.singleton_append]
  refine ⟨whole, ?_⟩
  intro other later same
  by_contra earlier
  have lengths := congrArg List.length ends
  simp only [List.length_append, List.length_singleton] at lengths
  have inside : (other ++ part).length ≤ text.length := by
    rw [List.length_append]
    omega
  obtain ⟨rest, split⟩ := List.prefix_of_prefix_length_le ⟨later, same.symm⟩ (List.prefix_append text _) inside
  exact absent other rest split.symm

/-- The first occurrence does not end in a text that the part is absent from. -/
theorem First.beyond {first : List α} (found : First part (first ++ text) before after) (absent : Absent part first) :
    first.length < before.length + part.length := by
  by_contra inside
  have short : (before ++ part).length ≤ first.length := by
    rw [List.length_append]
    omega
  obtain ⟨rest, split⟩ := List.prefix_of_prefix_length_le ⟨after, found.split.symm⟩ (List.prefix_append first text) short
  exact absent before rest split.symm

/-! ### Every piece -/

/-- The pieces of a text: the part stands between them and occurs in none. -/
structure Pieces (part text : List α) (pieces : List (List α)) : Prop where
  some : pieces ≠ []
  joined : part.intercalate pieces = text
  whole : ∀ piece ∈ pieces, Absent part piece

/-- No beginning of a part is an end of it. -/
def Unbordered (part : List α) : Prop := ∀ front border back, part = front ++ border → part = border ++ back → front = [] ∨ border = []

theorem Unbordered.pair {first second : α} (different : first ≠ second) : Unbordered [first, second] := by
  intro front border back ends starts
  match border with
  | [] => exact .inr rfl
  | [only] =>
    cases front with
    | nil => cases ends
    | cons head front =>
      simp only [List.cons_append, List.cons.injEq] at ends starts
      have last : second = only := by
        cases front with
        | nil => simpa using ends.2
        | cons other front => simp at ends
      exact absurd (starts.1.trans last.symm) different
  | _ :: _ :: _ =>
    have length := congrArg List.length ends
    simp only [List.length_append, List.length_cons, List.length_nil] at length
    exact .inl (List.length_eq_zero_iff.mp (by omega))

/-- A part put behind a text that it is absent from occurs there for the first time. -/
theorem Unbordered.first (unbordered : Unbordered part) (absent : Absent part before) (after : List α) :
    First part (before ++ part ++ after) before after := by
  refine ⟨rfl, ?_⟩
  intro other later same
  by_contra earlier
  rw [List.append_assoc, List.append_assoc] at same
  obtain ⟨gap, rfl⟩ : other <+: before :=
    List.prefix_of_prefix_length_le ⟨_, same.symm⟩ (List.prefix_append before _) (by omega)
  rw [List.append_assoc, List.append_cancel_left_eq] at same
  rcases List.append_eq_append_iff.mp same with ⟨border, ends, begins⟩ | ⟨rest, inside, -⟩
  · obtain ⟨back, starts⟩ : border <+: part :=
      List.prefix_of_prefix_length_le ⟨later, begins.symm⟩ (List.prefix_append part after) (by simp [ends])
    rcases unbordered gap border back ends starts.symm with rfl | rfl
    · exact earlier (by simp)
    · apply absent other []
      rw [ends, List.append_nil, List.append_nil]
  · apply absent other rest
    rw [inside, List.append_assoc]

/-! ### Computing -/

variable [DecidableEq α]

/-- What stands before the first occurrence of a part, and what follows it. -/
def cut (part : List α) : List α → Option (List α × List α)
  | [] => if part = [] then some ([], []) else none
  | item :: rest =>
    if part.isPrefixOf (item :: rest) then some ([], (item :: rest).drop part.length)
    else (cut part rest).map fun (before, after) => (item :: before, after)

/-- A part is found where it has been put when its first item does not come
earlier. -/
theorem cut_append {first : α} (absent : first ∉ before) (after : List α) :
    cut (first :: part) (before ++ first :: part ++ after) = some (before, after) := by
  induction before with
  | nil =>
    have here : (first :: part).isPrefixOf (first :: part ++ after) := by
      rw [List.isPrefixOf_iff_prefix]
      exact List.prefix_append _ _
    rw [List.nil_append, List.cons_append] at *
    rw [cut, if_pos here]
    simp
  | cons item before ih =>
    simp only [List.mem_cons, not_or] at absent
    have later : ¬ (first :: part).isPrefixOf (item :: (before ++ first :: part ++ after)) := by
      simp [List.isPrefixOf, absent.1]
    rw [List.cons_append, List.cons_append, cut, if_neg later, ih absent.2]
    rfl

theorem cut_eq_none {item : α} {text : List α} (absent : item ∉ text) : cut [item] text = none := by
  induction text with
  | nil => rfl
  | cons head rest ih =>
    simp only [List.mem_cons, not_or] at absent
    have later : ¬ [item].isPrefixOf (head :: rest) := by simp [List.isPrefixOf, absent.1]
    rw [cut, if_neg later, ih absent.2]
    rfl

/-- What stands before the first occurrence of an item is free of it, and is part of
the text. -/
theorem cut_before {item : α} {text before after : List α} (found : cut [item] text = some (before, after)) :
    item ∉ before ∧ ∀ other ∈ before, other ∈ text := by
  induction text generalizing before with
  | nil => simp [cut] at found
  | cons head rest ih =>
    rw [cut] at found
    split at found
    next =>
      simp only [Option.some.injEq, Prod.mk.injEq] at found
      simp [← found.1]
    next later =>
      obtain ⟨⟨tail, after⟩, cut, same⟩ := Option.map_eq_some_iff.mp found
      simp only [Prod.mk.injEq] at same
      obtain ⟨rfl, rfl⟩ := same
      obtain ⟨absent, within⟩ := ih cut
      have other : item ≠ head := by simpa [List.isPrefixOf] using later
      refine ⟨by simp [other, absent], ?_⟩
      intro some member
      rcases List.mem_cons.mp member with rfl | member
      · exact List.mem_cons_self
      · exact List.mem_cons_of_mem _ (within some member)

theorem cut_eq_none_iff : cut part text = none ↔ ∀ before after, text ≠ before ++ part ++ after := by
  induction text with
  | nil =>
    rw [cut]
    constructor
    · intro absent before after same
      have nothing : part = [] := (List.append_eq_nil_iff.mp (List.append_eq_nil_iff.mp same.symm).1).2
      rw [if_pos nothing] at absent
      cases absent
    · intro absent
      have : part ≠ [] := by
        rintro rfl
        exact absent [] [] rfl
      rw [if_neg this]
  | cons item rest ih =>
    rw [cut]
    by_cases here : part.isPrefixOf (item :: rest)
    · rw [if_pos here]
      obtain ⟨after, same⟩ := List.isPrefixOf_iff_prefix.mp here
      constructor
      · intro impossible; cases impossible
      · intro absent
        exact absurd same.symm (absent [] after)
    · rw [if_neg here, Option.map_eq_none_iff, ih]
      constructor
      · intro absent before after same
        cases before with
        | nil =>
          apply here
          rw [same, List.isPrefixOf_iff_prefix]
          exact List.prefix_append part after
        | cons head before =>
          exact absent before after (List.cons.inj same).2
      · intro absent before after same
        apply absent (item :: before) after
        rw [same]
        rfl

private theorem cut_first (found : cut part text = some (before, after)) : First part text before after := by
  induction text generalizing before with
  | nil =>
    rw [cut] at found
    split at found
    next nothing =>
      cases found
      exact ⟨by rw [nothing]; rfl, fun other _ _ => Nat.zero_le _⟩
    next => cases found
  | cons item rest ih =>
    rw [cut] at found
    split at found
    next here =>
      cases found
      obtain ⟨after, same⟩ := List.isPrefixOf_iff_prefix.mp here
      refine ⟨?_, fun other _ _ => Nat.zero_le _⟩
      rw [← same]
      simp
    next later =>
      obtain ⟨⟨before, after⟩, cut, same⟩ := Option.map_eq_some_iff.mp found
      cases same
      obtain ⟨whole, least⟩ := ih cut
      refine ⟨by rw [whole]; rfl, ?_⟩
      intro other behind same
      cases other with
      | nil =>
        refine absurd ?_ later
        rw [same, List.isPrefixOf_iff_prefix]
        exact List.prefix_append part behind
      | cons head other => exact Nat.succ_le_succ (least other behind (List.cons.inj same).2)

/-- A text is cut at the first occurrence of the part. -/
theorem cut_eq_some_iff : cut part text = some (before, after) ↔ First part text before after := by
  constructor
  · exact cut_first
  · intro first
    cases found : cut part text with
    | none => exact absurd first.split (cut_eq_none_iff.mp found before after)
    | some halves =>
      obtain ⟨rfl, rfl⟩ := (cut_first found).unique first
      rfl

/-- Cutting the mirrored text finds the last occurrence of an item. -/
theorem cut_reverse_iff {item : α} :
    cut [item] text.reverse = some (after.reverse, before.reverse) ↔ text = before ++ item :: after ∧ item ∉ after := by
  constructor
  · intro found
    have whole := (cut_first found).split
    have absent := (cut_before found).1
    rw [List.mem_reverse] at absent
    refine ⟨?_, absent⟩
    rw [← List.reverse_inj, whole]
    simp
  · rintro ⟨rfl, absent⟩
    have mirrored : (before ++ item :: after).reverse = after.reverse ++ [item] ++ before.reverse := by simp
    rw [mirrored]
    exact cut_append (by simpa using absent) before.reverse

theorem cut_shorter {first : α} (found : cut (first :: part) text = some (before, after)) : after.length < text.length := by
  have length := congrArg List.length (cut_first found).split
  simp only [List.length_append, List.length_cons] at length
  omega

/-- The text cut at every occurrence of a part, from the left. -/
def pieces (first : α) (part text : List α) : List (List α) :=
  match _found : cut (first :: part) text with
  | none => [text]
  | some (before, after) => before :: pieces first part after
termination_by text.length
decreasing_by exact cut_shorter _found

theorem pieces_none {first : α} (absent : cut (first :: part) text = none) : pieces first part text = [text] := by
  rw [pieces]
  split
  next => rfl
  next found => rw [absent] at found; cases found

theorem pieces_some {first : α} (found : cut (first :: part) text = some (before, after)) :
    pieces first part text = before :: pieces first part after := by
  rw [pieces]
  split
  next absent => rw [found] at absent; cases absent
  next found' => rw [found] at found'; cases found'; rfl

private theorem pieces_lawful (first : α) (part text : List α) : Pieces (first :: part) text (pieces first part text) := by
  induction text using pieces.induct first part with
  | case1 text absent =>
    rw [pieces_none absent]
    refine ⟨List.cons_ne_nil _ _, List.intercalate_singleton, ?_⟩
    intro piece member
    rw [List.mem_singleton.mp member]
    exact cut_eq_none_iff.mp absent
  | case2 text before after found ih =>
    have occurs := cut_first found
    rw [pieces_some found]
    refine ⟨List.cons_ne_nil _ _, ?_, ?_⟩
    · rw [List.intercalate_cons_of_ne_nil ih.some, ih.joined, occurs.split]
    · intro piece member
      rcases List.mem_cons.mp member with rfl | member
      · exact occurs.absent (List.cons_ne_nil _ _)
      · exact ih.whole piece member

/-- The pieces of a text are the only ones with their law. -/
theorem pieces_iff {first : α} {lines : List (List α)} (unbordered : Unbordered (first :: part)) :
    pieces first part text = lines ↔ Pieces (first :: part) text lines := by
  constructor
  · rintro rfl
    exact pieces_lawful first part text
  · intro lawful
    induction lines generalizing text with
    | nil => exact absurd rfl lawful.some
    | cons line rest ih =>
      obtain ⟨-, rfl, whole⟩ := lawful
      have free : Absent (first :: part) line := whole line List.mem_cons_self
      rcases eq_or_ne rest [] with rfl | more
      · rw [List.intercalate_singleton]
        exact pieces_none (cut_eq_none_iff.mpr free)
      · have later : Pieces (first :: part) ((first :: part).intercalate rest) rest :=
          ⟨more, rfl, fun piece member => whole piece (List.mem_cons_of_mem line member)⟩
        rw [List.intercalate_cons_of_ne_nil more, pieces_some (cut_eq_some_iff.mpr (unbordered.first free _)), ih later]

end Library.Split
