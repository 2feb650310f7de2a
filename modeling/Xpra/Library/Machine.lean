import Mathlib.Data.List.Basic

/-! Runs of a machine whose steps may stop it. An event takes a state to a next
state or ends the run with a failure; nothing happens after a failure. -/

namespace Library.Machine

variable {σ ε φ : Type*} (step : ε → σ → Except φ σ)

/-- The state after a list of events, or the failure that ended the run. -/
def run : List ε → σ → Except φ σ
  | [], state => .ok state
  | event :: rest, state => match step event state with
    | .ok next => run rest next
    | .error failure => .error failure

/-- Every event of the run meets the condition in the state it is applied to. -/
def Along (condition : ε → σ → Prop) : List ε → σ → Prop
  | [], _ => True
  | event :: rest, state => condition event state ∧
      ∀ next, step event state = .ok next → Along condition rest next

instance decidableAlong {condition : ε → σ → Prop} [∀ event state, Decidable (condition event state)] :
    ∀ events state, Decidable (Along step condition events state)
  | [], _ => .isTrue trivial
  | event :: rest, state => match moved : step event state with
    | .ok next =>
      have : Decidable (Along step condition rest next) := decidableAlong rest next
      decidable_of_iff (condition event state ∧ Along step condition rest next) (by simp [Along, moved])
    | .error _ => decidable_of_iff (condition event state) (by simp [Along, moved])

/-- What is seen at the steps of a run, in their order. -/
def observed {α : Type*} (observe : ε → σ → List α) : List ε → σ → List α
  | [], _ => []
  | event :: rest, state => match step event state with
    | .ok next => observe event state ++ observed observe rest next
    | .error _ => []

@[simp] theorem run_nil (state : σ) : run step [] state = .ok state := rfl

theorem run_cons_ok {event : ε} {rest : List ε} {state final : σ} :
    run step (event :: rest) state = .ok final ↔
      ∃ next, step event state = .ok next ∧ run step rest next = .ok final := by
  cases moved : step event state with
  | ok next => simp [run, moved]
  | error failure => simp [run, moved]

/-- A run whose end passes a check. -/
theorem ends_in {ran : Except φ σ} {check : σ → Bool} (passed : ran.toOption.any check = true) :
    ∃ final, ran = .ok final ∧ check final = true := by
  cases ran with
  | ok final => exact ⟨final, rfl, passed⟩
  | error failure => cases passed

theorem run_append (first rest : List ε) (state : σ) :
    run step (first ++ rest) state = (run step first state).bind (run step rest) := by
  induction first generalizing state with
  | nil => rfl
  | cons event first ih =>
    cases moved : step event state with
    | ok next => simp [run, moved, ih]
    | error failure => simp [run, moved, Except.bind]

theorem Along.mono {stronger weaker : ε → σ → Prop} {events : List ε} {state : σ}
    (along : Along step stronger events state)
    (implies : ∀ event state, stronger event state → weaker event state) :
    Along step weaker events state := by
  induction events generalizing state with
  | nil => trivial
  | cons event rest ih => exact ⟨implies _ _ along.1, fun next moved => ih (along.2 next moved)⟩

theorem Along.of_forall_mem {condition : ε → σ → Prop} {events : List ε}
    (always : ∀ event ∈ events, ∀ state, condition event state) (state : σ) : Along step condition events state := by
  induction events generalizing state with
  | nil => trivial
  | cons event rest ih =>
    exact ⟨always event List.mem_cons_self state, fun next _ => ih (fun later member => always later (List.mem_cons_of_mem _ member)) next⟩

theorem Along.of_forall {condition : ε → σ → Prop} (events : List ε) (state : σ)
    (always : ∀ event state, condition event state) : Along step condition events state :=
  .of_forall_mem step (fun event _ => always event) state

theorem along_and {first second : ε → σ → Prop} {events : List ε} {state : σ} :
    Along step (fun event state => first event state ∧ second event state) events state ↔
      Along step first events state ∧ Along step second events state := by
  induction events generalizing state with
  | nil => simp [Along]
  | cons event rest ih =>
    simp only [Along, ih]
    exact ⟨fun ⟨⟨one, two⟩, later⟩ => ⟨⟨one, fun next moved => (later next moved).1⟩,
        two, fun next moved => (later next moved).2⟩,
      fun ⟨⟨one, first⟩, two, second⟩ => ⟨⟨one, two⟩, fun next moved => ⟨first next moved, second next moved⟩⟩⟩

theorem along_append {condition : ε → σ → Prop} {first rest : List ε} {state : σ} :
    Along step condition (first ++ rest) state ↔ Along step condition first state ∧
      ∀ middle, run step first state = .ok middle → Along step condition rest middle := by
  induction first generalizing state with
  | nil => simp [Along]
  | cons event first ih =>
    cases moved : step event state with
    | ok next => simp [Along, run, moved, ih, and_assoc]
    | error failure => simp [Along, run, moved]

/-- An assertion every conditioned step preserves holds at the end of every
run whose steps meet the condition. -/
theorem invariant_along {condition : ε → σ → Prop} (holds : σ → Prop)
    (preserved : ∀ event state next, condition event state → holds state →
      step event state = .ok next → holds next)
    {events : List ε} {state final : σ} (along : Along step condition events state)
    (initial : holds state) (ran : run step events state = .ok final) : holds final := by
  induction events generalizing state with
  | nil => cases ran; exact initial
  | cons event rest ih =>
    obtain ⟨next, moved, later⟩ := (run_cons_ok step).mp ran
    exact ih (along.2 next moved) (preserved _ _ _ along.1 initial moved) later

/-- A machine none of whose steps fail, and which follows another one step by step,
follows it over every run. -/
theorem simulates {τ : Type*} (follow : ε → τ → τ) (related : σ → τ → Prop)
    (each : ∀ event state shadow, related state shadow →
      ∃ next, step event state = .ok next ∧ related next (follow event shadow))
    (events : List ε) {state : σ} {shadow : τ} (initial : related state shadow) :
    ∃ final, run step events state = .ok final ∧
      related final (events.foldl (fun shadow event => follow event shadow) shadow) := by
  induction events generalizing state shadow with
  | nil => exact ⟨state, rfl, initial⟩
  | cons event rest ih =>
    obtain ⟨next, moved, kept⟩ := each event state shadow initial
    obtain ⟨final, ran, last⟩ := ih kept
    exact ⟨final, (run_cons_ok step).mpr ⟨next, moved, ran⟩, last⟩

theorem invariant (holds : σ → Prop)
    (preserved : ∀ event state next, holds state → step event state = .ok next → holds next)
    {events : List ε} {state final : σ} (initial : holds state)
    (ran : run step events state = .ok final) : holds final :=
  have along : Along step (fun _ _ => True) events state := .of_forall step events state fun _ _ => trivial
  invariant_along step holds (fun event state next _ => preserved event state next) along initial ran

/-- An assertion about the state and what has been seen so far. -/
theorem invariant_observed {α : Type*} {condition : ε → σ → Prop} (observe : ε → σ → List α)
    (holds : σ → List α → Prop)
    (preserved : ∀ event state next seen, condition event state → holds state seen →
      step event state = .ok next → holds next (seen ++ observe event state))
    {events : List ε} {state final : σ} {seen : List α} (along : Along step condition events state)
    (initial : holds state seen) (ran : run step events state = .ok final) :
    holds final (seen ++ observed step observe events state) := by
  induction events generalizing state seen with
  | nil =>
    cases ran
    simpa [observed] using initial
  | cons event rest ih =>
    obtain ⟨next, moved, later⟩ := (run_cons_ok step).mp ran
    have extended := ih (along.2 next moved) (preserved _ _ _ _ along.1 initial moved) later
    simpa only [observed, moved, List.append_assoc] using extended

/-- What an invariant and the condition promise together holds at every step of a
conditioned run. -/
theorem Along.of_invariant_along {condition promised : ε → σ → Prop} (holds : σ → Prop)
    (preserved : ∀ event state next, condition event state → holds state →
      step event state = .ok next → holds next)
    (implies : ∀ event state, condition event state → holds state → promised event state)
    {events : List ε} {state : σ} (along : Along step condition events state) (initial : holds state) :
    Along step promised events state := by
  induction events generalizing state with
  | nil => trivial
  | cons event rest ih =>
    exact ⟨implies event state along.1 initial,
      fun next moved => ih (along.2 next moved) (preserved event state next along.1 initial moved)⟩

/-- What every state that satisfies an invariant promises holds at every step. -/
theorem along_of_invariant {condition : ε → σ → Prop} (holds : σ → Prop)
    (preserved : ∀ event state next, holds state → step event state = .ok next → holds next)
    (implies : ∀ event state, holds state → condition event state) (events : List ε) {state : σ}
    (initial : holds state) : Along step condition events state :=
  have along : Along step (fun _ _ => True) events state := .of_forall step events state fun _ _ => trivial
  along.of_invariant_along step holds (fun event state next _ => preserved event state next)
    (fun event state _ => implies event state) initial

/-- When a step fails in a certain way exactly where a condition is broken, so
does a run. -/
theorem fails_iff_not_along {condition : ε → σ → Prop} {bad : φ → Prop}
    (exact_step : ∀ event state, (∃ failure, step event state = .error failure ∧ bad failure) ↔ ¬ condition event state)
    (events : List ε) (state : σ) :
    (∃ failure, run step events state = .error failure ∧ bad failure) ↔ ¬ Along step condition events state := by
  induction events generalizing state with
  | nil => simp [Along]
  | cons event rest ih =>
    have here := exact_step event state
    cases moved : step event state with
    | ok next =>
      have met : condition event state := by
        simpa [moved] using here
      simp [run, Along, moved, ih next, met]
    | error failure =>
      simp only [moved, Except.error.injEq, exists_eq_left'] at here
      simp [run, Along, moved, here]

/-- Where an invariant holds, what each step promises of the state it leads to
stands and falls with a condition on the step; then so does a whole run. -/
theorem along_after_iff {assumed condition : ε → σ → Prop} (holds : σ → Prop) (promised : ε → σ → σ → Prop)
    (keeps : ∀ event state next, holds state → step event state = .ok next → promised event state next → holds next)
    (exact_step : ∀ event state, assumed event state → holds state →
      ((∀ next, step event state = .ok next → promised event state next) ↔ condition event state))
    {events : List ε} {state : σ} (along : Along step assumed events state) (initial : holds state) :
    Along step (fun event state => ∀ next, step event state = .ok next → promised event state next) events state ↔
      Along step condition events state := by
  induction events generalizing state with
  | nil => simp [Along]
  | cons event rest ih =>
    have here := exact_step event state along.1 initial
    constructor
    · rintro ⟨now, later⟩
      exact ⟨here.mp now, fun next moved =>
        (ih (along.2 next moved) (keeps _ _ _ initial moved (now next moved))).mp (later next moved)⟩
    · rintro ⟨now, later⟩
      exact ⟨here.mpr now, fun next moved =>
        (ih (along.2 next moved) (keeps _ _ _ initial moved (here.mpr now next moved))).mpr (later next moved)⟩

/-- Where the first step that breaks a condition establishes an assertion for good, it
holds at the end of every run with such a step. -/
theorem latched_of_not_along {condition : ε → σ → Prop} (before after : σ → Prop)
    (waits : ∀ event state next, condition event state → before state → step event state = .ok next → before next)
    (turns : ∀ event state next, ¬ condition event state → before state → step event state = .ok next → after next)
    (stays : ∀ event state next, after state → step event state = .ok next → after next)
    {events : List ε} {state final : σ} (broken : ¬ Along step condition events state) (initial : before state)
    (ran : run step events state = .ok final) : after final := by
  induction events generalizing state with
  | nil => exact absurd trivial broken
  | cons event rest ih =>
    obtain ⟨next, moved, later⟩ := (run_cons_ok step).mp ran
    by_cases met : condition event state
    · refine ih (fun along => broken ⟨met, ?_⟩) (waits _ _ _ met initial moved) later
      intro other same
      cases moved.symm.trans same
      exact along
    · exact invariant step after stays (turns _ _ _ met initial moved) later

end Library.Machine
