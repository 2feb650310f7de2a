import Xpra.Library.Machine

/-! Secrets that a machine keeps. A state is masked, and an event is blotted out, where
they hold the secret; a machine whose steps and whose outputs come out the same from what
is left shows two runs alike that differ in the secret only. -/

namespace Library.Unwinding
open Machine

variable {σ ε φ α : Type*} (step : ε → σ → Except φ σ) (mask : σ → σ) (blot : ε → σ → ε) (observe : ε → σ → List α)

/-- The events of a run, each without the secret. -/
abbrev disclosed : List ε → σ → List ε := observed step fun event state => [blot event state]

def masked (moved : Except φ σ) : Option σ := moved.toOption.map mask

structure Keeps : Prop where
  shows : ∀ event state, observe event state = observe (blot event state) (mask state)
  follows : ∀ event state, masked mask (step event state) = masked mask (step (blot event state) (mask state))

variable {step mask blot observe}

/-- A run that discloses nothing shows nothing. -/
theorem observed_nil {events : List ε} {state : σ} (nothing : disclosed step blot events state = []) :
    observed step observe events state = [] := by
  cases events with
  | nil => rfl
  | cons event rest =>
    cases moved : step event state with
    | ok next => simp [disclosed, observed, moved] at nothing
    | error failure => simp [observed, moved]

theorem Keeps.observed_eq (keeps : Keeps step mask blot observe) {first second : List ε} {one other : σ}
    (alike : mask one = mask other) (same : disclosed step blot first one = disclosed step blot second other) :
    observed step observe first one = observed step observe second other := by
  induction first generalizing second one other with
  | nil => exact (observed_nil same.symm).symm
  | cons event rest ih =>
    cases moved : step event one with
    | error failure =>
      have nothing : disclosed step blot (event :: rest) one = [] := by simp [disclosed, observed, moved]
      rw [observed_nil nothing, observed_nil (same.symm.trans nothing)]
    | ok next =>
      cases second with
      | nil => simp [disclosed, observed, moved] at same
      | cons event' rest' =>
        cases moved' : step event' other with
        | error failure => simp [disclosed, observed, moved, moved'] at same
        | ok next' =>
          simp only [disclosed, observed, moved, moved', List.cons_append, List.nil_append, List.cons.injEq] at same
          -- both steps are the step of the blotted event from the masked state
          have here : observe event one = observe event' other := by
            rw [keeps.shows event, keeps.shows event', same.1, alike]
          have later : masked mask (step event one) = masked mask (step event' other) := by
            rw [keeps.follows event, keeps.follows event', same.1, alike]
          rw [moved, moved'] at later
          simp only [observed, moved, moved', here, ih (Option.some.inj later) same.2]

end Library.Unwinding
