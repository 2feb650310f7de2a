import Mathlib.Data.List.Basic

/-! Readers that hand out a list of items a few at a time, and programs that read from
them. A program reads from any such reader as from the list itself. -/

namespace Library.Reader

universe u

variable {σ φ ψ α : Type*} {β γ : Type u}

/-- Reads until `count` items are there, for as long as there is an item in each read. -/
def readExact (read : Nat → σ → Except φ (List α × σ)) (eof : φ) (count : Nat) (state : σ) : Except φ (List α × σ) :=
  if count = 0 then .ok ([], state)
  else match read count state with
    | .error failure => .error failure
    | .ok ([], _) => .error eof
    | .ok (item :: items, next) => match readExact read eof (count - (item :: items).length) next with
      | .error failure => .error failure
      | .ok (later, last) => .ok (item :: items ++ later, last)
termination_by count
decreasing_by simp only [List.length_cons]; omega

/-- A reader in `state` has the items to hand out, and nothing behind them: each read
takes some of them off the front. -/
structure Serves (read : Nat → σ → Except φ (List α × σ)) (holds : σ → List α → Prop) : Prop where
  hands : ∀ {state items count}, holds state items → 0 < count → items ≠ [] →
    ∃ front next rest, read count state = .ok (front, next) ∧ front ≠ [] ∧ front.length ≤ count ∧
      items = front ++ rest ∧ holds next rest
  ends : ∀ {state count}, holds state [] → 0 < count →
    (∃ failure, read count state = .error failure) ∨ ∃ next, read count state = .ok ([], next)

/-- A program that reads from a reader comes to what the same program comes to that reads
from the list: both fail, or both have the same result and as much left. -/
inductive Agrees (holds : σ → List α → Prop) : Except φ (β × σ) → Except ψ (β × List α) → Prop where
  | ok (value : β) {state : σ} {rest : List α} (held : holds state rest) : Agrees holds (.ok (value, state)) (.ok (value, rest))
  | error (failure : φ) (failure' : ψ) : Agrees holds (.error failure) (.error failure')

variable {read : Nat → σ → Except φ (List α × σ)} {holds : σ → List α → Prop} {eof : φ}

namespace Agrees

theorem bind {drawn : Except φ (β × σ)} {plain : Except ψ (β × List α)} {next : β × σ → Except φ (γ × σ)}
    {next' : β × List α → Except ψ (γ × List α)} (first : Agrees holds drawn plain)
    (later : ∀ value state rest, holds state rest → Agrees holds (next (value, state)) (next' (value, rest))) :
    Agrees holds (drawn >>= next) (plain >>= next') := by
  cases first with
  | ok value held => exact later value _ _ held
  | error failure failure' => exact .error failure failure'

theorem ite {condition : Prop} [Decidable condition] {drawn drawn' : Except φ (β × σ)} {plain plain' : Except ψ (β × List α)}
    (yes : condition → Agrees holds drawn plain) (no : ¬ condition → Agrees holds drawn' plain') :
    Agrees holds (if condition then drawn else drawn') (if condition then plain else plain') := by
  by_cases met : condition
  · rw [if_pos met, if_pos met]
    exact yes met
  · rw [if_neg met, if_neg met]
    exact no met

theorem of_ok {drawn : Except φ (β × σ)} {value : β} {rest : List α}
    (agrees : Agrees holds drawn (.ok (value, rest) : Except ψ (β × List α))) : ∃ state, drawn = .ok (value, state) ∧ holds state rest := by
  cases agrees with
  | ok value held => exact ⟨_, rfl, held⟩

theorem of_error {drawn : Except φ (β × σ)} {failure' : ψ} (agrees : Agrees holds drawn (.error failure')) :
    ∃ failure, drawn = .error failure := by
  cases agrees with
  | error failure => exact ⟨failure, rfl⟩

end Agrees

theorem readExact_zero (state : σ) : readExact read eof 0 state = .ok ([], state) := by
  rw [readExact, if_pos rfl]

theorem readExact_enough (serves : Serves read holds) {count : Nat} {state : σ} {items : List α} (held : holds state items)
    (enough : count ≤ items.length) :
    ∃ next, readExact read eof count state = .ok (items.take count, next) ∧ holds next (items.drop count) := by
  induction count using Nat.strongRecOn generalizing state items with
  | ind count ih =>
    obtain rfl | positive := Nat.eq_zero_or_pos count
    · exact ⟨state, readExact_zero state, held⟩
    have some : items ≠ [] := List.ne_nil_of_length_pos (by omega)
    obtain ⟨front, next, rest, done, more, fits, rfl, held'⟩ := serves.hands held positive some
    cases front with
    | nil => exact absurd rfl more
    | cons item front =>
      rw [List.length_append] at enough
      have fewer : count - (item :: front).length < count := by
        rw [List.length_cons]
        omega
      obtain ⟨last, later, held''⟩ := ih _ fewer held' (by omega)
      refine ⟨last, ?_, ?_⟩
      · rw [readExact, if_neg (by omega), done]
        simp only [later]
        rw [List.take_append, List.take_of_length_le fits]
      · rwa [List.drop_append, List.drop_of_length_le fits, List.nil_append]

theorem readExact_short (serves : Serves read holds) {count : Nat} {state : σ} {items : List α} (held : holds state items)
    (short : items.length < count) : ∃ failure, readExact read eof count state = .error failure := by
  induction count using Nat.strongRecOn generalizing state items with
  | ind count ih =>
    by_cases some : items = []
    · subst some
      rw [readExact, if_neg (by omega)]
      obtain ⟨failure, failed⟩ | ⟨next, ended⟩ := serves.ends held (show 0 < count by omega)
      · exact ⟨failure, by rw [failed]⟩
      · exact ⟨eof, by rw [ended]⟩
    obtain ⟨front, next, rest, done, more, fits, rfl, held'⟩ := serves.hands held (show 0 < count by omega) some
    cases front with
    | nil => exact absurd rfl more
    | cons item front =>
      rw [List.length_append] at short
      have fewer : count - (item :: front).length < count := by
        rw [List.length_cons]
        omega
      obtain ⟨failure, failed⟩ := ih _ fewer held' (by omega)
      exact ⟨failure, by rw [readExact, if_neg (by omega), done]; simp only [failed]⟩

end Library.Reader
