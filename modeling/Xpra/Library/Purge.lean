import Xpra.Library.Machine

/-! Isolation in a machine that many users share. What one of them sees of the state moves
only with its own inputs, and alike in states that look alike to it; then nothing that the
others do can be told from what the machine answers it. -/

namespace Library.Purge

variable {ι σ ο φ α : Type*} (step : ι → σ → Except φ (ο × σ))

/-- The answers of a run, each with its input. -/
def run : List ι → σ → Except φ (List (ι × ο) × σ)
  | [], state => .ok ([], state)
  | input :: rest, state => match step input state with
    | .error failure => .error failure
    | .ok (answer, next) => match run rest next with
      | .error failure => .error failure
      | .ok (answers, final) => .ok ((input, answer) :: answers, final)

theorem run_cons_ok {input : ι} {rest : List ι} {state final : σ} {answers : List (ι × ο)} :
    run step (input :: rest) state = .ok (answers, final) ↔
      ∃ answer next later, step input state = .ok (answer, next) ∧ run step rest next = .ok (later, final) ∧
        answers = (input, answer) :: later := by
  cases moved : step input state with
  | error failure => simp [run, moved]
  | ok result =>
    obtain ⟨answer, next⟩ := result
    cases ran : run step rest next with
    | error failure => simp [run, moved, ran]
    | ok result =>
      obtain ⟨later, last⟩ := result
      constructor
      · intro done
        simp only [run, moved, ran, Except.ok.injEq, Prod.mk.injEq] at done
        obtain ⟨rfl, rfl⟩ := done
        exact ⟨answer, next, later, rfl, ran, rfl⟩
      · rintro ⟨_, _, _, same, reached, rfl⟩
        cases same
        rw [ran] at reached
        cases reached
        simp only [run, moved, ran]

/-- An assertion that every step preserves on inputs of a kind holds at the end of every run
on such inputs. -/
theorem invariant (holds : σ → Prop) (kind : ι → Prop)
    (preserved : ∀ input state answer next, kind input → holds state → step input state = .ok (answer, next) → holds next)
    {inputs : List ι} {state final : σ} {answers : List (ι × ο)} (each : ∀ input ∈ inputs, kind input) (initial : holds state)
    (ran : run step inputs state = .ok (answers, final)) : holds final := by
  induction inputs generalizing state answers with
  | nil =>
    cases ran
    exact initial
  | cons input rest ih =>
    obtain ⟨answer, next, later, moved, reached, -⟩ := (run_cons_ok step).mp ran
    obtain ⟨here, others⟩ := List.forall_mem_cons.mp each
    exact ih others (preserved input state answer next here initial moved) reached

/-- What one user sees, and which inputs are its own. -/
structure Isolated (view : σ → α) (mine : ι → Prop) : Prop where
  other : ∀ {input state answer next}, ¬ mine input → step input state = .ok (answer, next) → view next = view state
  own : ∀ {input state shadow answer next}, mine input → view shadow = view state → step input state = .ok (answer, next) →
    ∃ later, step input shadow = .ok (answer, later) ∧ view later = view next

/-- The user is answered as if it were alone. -/
theorem Isolated.purged {view : σ → α} {mine : ι → Prop} [DecidablePred mine] (isolated : Isolated step view mine)
    {inputs : List ι} {state final shadow : σ} {answers : List (ι × ο)} (alike : view shadow = view state)
    (ran : run step inputs state = .ok (answers, final)) :
    ∃ last, run step (inputs.filter mine) shadow = .ok (answers.filter fun entry => mine entry.1, last) ∧ view last = view final := by
  induction inputs generalizing state shadow answers with
  | nil =>
    cases ran
    exact ⟨shadow, rfl, alike⟩
  | cons input rest ih =>
    obtain ⟨answer, next, later, moved, reached, rfl⟩ := (run_cons_ok step).mp ran
    by_cases own : mine input
    · obtain ⟨along, answered, same⟩ := isolated.own own alike moved
      obtain ⟨last, purged, seen⟩ := ih same reached
      refine ⟨last, ?_, seen⟩
      rw [List.filter_cons_of_pos (by simpa using own), List.filter_cons_of_pos (by simpa using own)]
      exact (run_cons_ok step).mpr ⟨answer, along, _, answered, purged, rfl⟩
    · obtain ⟨last, purged, seen⟩ := ih (alike.trans (isolated.other own moved).symm) reached
      refine ⟨last, ?_, seen⟩
      rwa [List.filter_cons_of_neg (by simpa using own), List.filter_cons_of_neg (by simpa using own)]

/-- So it is where the machine is part of another one, which may do to its state between two
turns whatever the user does not see. -/
theorem Isolated.purged_among {τ ε ψ : Type*} {view : σ → α} {mine : ι → Prop} [DecidablePred mine]
    (isolated : Isolated step view mine) (move : ε → τ → Except ψ τ) (answered : ε → τ → List (ι × ο)) (seen : τ → α)
    (each : ∀ event whole next, move event whole = .ok next →
      (answered event whole = [] ∧ seen next = seen whole) ∨
        ∃ input answer state after, answered event whole = [(input, answer)] ∧ step input state = .ok (answer, after) ∧
          seen whole = view state ∧ seen next = view after)
    {events : List ε} {whole final : τ} {shadow : σ} (alike : view shadow = seen whole)
    (ran : Machine.run move events whole = .ok final) :
    let turns := Machine.observed move answered events whole
    ∃ last, run step ((turns.map Prod.fst).filter mine) shadow = .ok (turns.filter fun turn => mine turn.1, last) ∧
      view last = seen final := by
  induction events generalizing whole shadow with
  | nil =>
    cases ran
    exact ⟨shadow, rfl, alike⟩
  | cons event rest ih =>
    obtain ⟨next, moved, reached⟩ := (Machine.run_cons_ok move).mp ran
    simp only [Machine.observed, moved, List.map_append, List.filter_append]
    obtain ⟨quiet, same⟩ | ⟨input, answer, state, after, turned, stepped, before, behind⟩ := each event whole next moved
    · rw [quiet]
      exact ih (alike.trans same.symm) reached
    · rw [turned]
      by_cases own : mine input
      · obtain ⟨along, told, followed⟩ := isolated.own own (alike.trans before) stepped
        obtain ⟨last, purged, last_seen⟩ := ih (followed.trans behind.symm) reached
        refine ⟨last, ?_, last_seen⟩
        simp only [List.map_cons, List.map_nil, own, decide_true, List.filter_cons_of_pos, List.filter_nil, List.cons_append,
          List.nil_append]
        exact (run_cons_ok step).mpr ⟨answer, along, _, told, purged, rfl⟩
      · have unseen : seen next = seen whole := behind.trans ((isolated.other own stepped).trans before.symm)
        obtain ⟨last, purged, last_seen⟩ := ih (alike.trans unseen.symm) reached
        refine ⟨last, ?_, last_seen⟩
        simpa [own] using purged

end Library.Purge
