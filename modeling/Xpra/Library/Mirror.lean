import Mathlib.Data.List.Basic

/-! Two parties that keep a copy of one value each. Whoever changes its own copy
sends the value to the other one, which takes over what it receives. Changes on
their way in both directions at once may leave the copies apart for good. -/

namespace Library.Mirror

variable {α : Type*}

/-- A copy, and what is still on its way to it. -/
structure Side (α : Type*) where
  value : α
  incoming : List α := []

/-- The value the copy ends up with when nothing else happens. -/
def Side.settled (side : Side α) : α := side.incoming.getLast?.getD side.value

/-- The two copies end up with one value. -/
def Agree (here there : Side α) : Prop := here.settled = there.settled

theorem Agree.quiet {here there : Side α} (agree : Agree here there) (arrived : here.incoming = [])
    (gone : there.incoming = []) : here.value = there.value := by
  simpa [Agree, Side.settled, arrived, gone] using agree

theorem Agree.symm {here there : Side α} (agree : Agree here there) : Agree there here := Eq.symm agree

/-- The change of a copy is announced to the other side. It settles the value of
both unless another one is on its way. -/
theorem agree_of_change {here there : Side α} {value : α}
    (uncrossed : ∀ other, here.incoming.getLast? = some other → other = value) :
    Agree { here with value } { there with incoming := there.incoming ++ [value] } := by
  have kept : Side.settled { here with value } = value := by
    cases last : here.incoming.getLast? with
    | none => simp [Side.settled, last]
    | some other => simp [Side.settled, last, uncrossed other last]
  have sent : Side.settled { there with incoming := there.incoming ++ [value] } = value := by
    simp [Side.settled]
  exact kept.trans sent.symm

theorem settled_receive {side : Side α} {value : α} {rest : List α} (incoming : side.incoming = value :: rest) :
    Side.settled { value, incoming := rest } = side.settled := by
  cases rest with
  | nil => simp [Side.settled, incoming]
  | cons next rest =>
    rw [Side.settled, Side.settled, incoming, List.getLast?_cons_cons]
    cases last : (next :: rest).getLast? with
    | none => simp at last
    | some value => rfl

/-- Taking over what has arrived changes nothing in the end. -/
theorem Agree.receive {here there : Side α} {value : α} {rest : List α} (agree : Agree here there)
    (incoming : here.incoming = value :: rest) : Agree { value, incoming := rest } there :=
  (settled_receive incoming).trans agree

end Library.Mirror
