import Xpra.Client.Mmap

/-! Sizes and indices as a build with overflow checks computes them: arithmetic that
leaves the 64-bit range stops the program instead of wrapping. -/

namespace Xpra.Client.Checked
open Xpra.Net

inductive Fault where
  | overflow
  | panic (cause : Panic)
  deriving DecidableEq, Repr

def add (a b : Nat) : Except Fault Nat := if a + b < USIZE then .ok (a + b) else .error .overflow

def sub (a b : Nat) : Except Fault Nat := if b ≤ a then .ok (a - b) else .error .overflow

def mul (a b : Nat) : Except Fault Nat := if a * b < USIZE then .ok (a * b) else .error .overflow

theorem add_ok {a b sum : Nat} (done : add a b = .ok sum) : sum = a + b ∧ a + b < USIZE := by
  rw [add] at done
  split at done
  next fits =>
    cases done
    exact ⟨rfl, fits⟩
  next => cases done

theorem sub_ok {a b difference : Nat} (done : sub a b = .ok difference) : difference = a - b := by
  rw [sub] at done
  split at done
  next =>
    cases done
    rfl
  next => cases done

theorem mul_ok {a b product : Nat} (done : mul a b = .ok product) : product = a * b ∧ a * b < USIZE := by
  rw [mul] at done
  split at done
  next fits =>
    cases done
    exact ⟨rfl, fits⟩
  next => cases done

theorem sub_le {a b : Nat} (fits : b ≤ a) : sub a b = .ok (a - b) := if_pos fits

end Xpra.Client.Checked
