import Xpra.Net.Writers
import Xpra.Library.Machine
import Mathlib.Data.List.Permutation

/-! Frames on a connection two threads write to. Over TLS the lock keeps them
whole; over TCP they stay whole only while the threads' writes happen not to
meet in the middle of a frame. -/

namespace Xpra.Proofs.FrameInterleaving
open Xpra.Net Writers Library

/-- Whole frames in some order, then at most a prefix of one more. -/
def WellFramed (handed : List Bytes) (out : Bytes) : Prop :=
  ∃ order : List Bytes, order.Perm handed ∧ out <+: order.flatten

instance (handed : List Bytes) (out : Bytes) : Decidable (WellFramed handed out) :=
  decidable_of_iff (∃ order ∈ handed.permutations', out <+: order.flatten)
    (by simp only [List.mem_permutations', WellFramed])

def unfinished : Call → List Bytes
  | .idle => []
  | .waiting frame => [frame]
  | .writing frame offset => if offset < frame.length then [frame] else []

def part : Call → Bytes
  | .writing frame offset => if offset < frame.length then frame.take offset else []
  | _ => []

/-- No write is taken while the other thread's frame is partly out. -/
def Alone : Event → State → Prop
  | .accept writer _, state => part (state.calls writer.other) = []
  | _, _ => True

instance (event : Event) (state : State) : Decidable (Alone event state) := by
  cases event <;> unfold Alone <;> infer_instance

def Exclusive (transport : Transport) (state : State) : Prop :=
  transport = .tls → ∀ writer frame offset, state.calls writer = .writing frame offset →
    state.lock = some writer

/-- Of the frames handed over, those of `done` are out, and at most the active
thread's is partly out. -/
structure Framed (state : State) (active : Writer) (done : List Bytes) : Prop where
  frames : (done ++ (unfinished (state.calls active) ++ unfinished (state.calls active.other))).Perm state.handed
  out : state.out = done.flatten ++ part (state.calls active)
  quiet : part (state.calls active.other) = []
  nonempty : ∀ frame ∈ state.handed, 0 < frame.length

variable {state : State} {active writer : Writer} {call : Call} {done : List Bytes}

@[simp] theorem enter_calls (state : State) (writer : Writer) (call : Call) :
    (state.enter writer call).calls writer = call := by simp [State.enter]

@[simp] theorem enter_other (state : State) (writer : Writer) (call : Call) :
    (state.enter writer call).calls writer.other = state.calls writer.other := by
  cases writer <;> simp [State.enter, Writer.other]

@[simp] theorem other_other (writer : Writer) : writer.other.other = writer := by cases writer <;> rfl

@[simp] theorem enter_handed (state : State) (writer : Writer) (call : Call) :
    (state.enter writer call).handed = state.handed := rfl

@[simp] theorem enter_out (state : State) (writer : Writer) (call : Call) :
    (state.enter writer call).out = state.out := rfl

theorem eq_or_other (writer active : Writer) : writer = active ∨ writer = active.other := by
  cases writer <;> cases active <;> simp [Writer.other]

theorem frameBytes_positive (opcode : UInt8) (payload : Bytes) (mask : MaskKey) :
    0 < (frameBytes opcode payload mask).length := by
  simp [frameBytes]

/-- With nothing of the other thread's frame out, either thread may count as the
active one. -/
private theorem Framed.focus (framed : Framed state active done) (writer : Writer) (quiet : part (state.calls writer.other) = []) :
    Framed state writer done := by
  rcases eq_or_other writer active with rfl | rfl
  · exact framed
  · rw [other_other] at quiet
    refine ⟨?_, ?_, by rw [other_other]; exact quiet, framed.nonempty⟩
    · rw [other_other]
      exact (List.perm_append_comm.append_left done).trans framed.frames
    · rw [framed.out, quiet, framed.quiet]

private theorem Framed.positive {frame : Bytes} (framed : Framed state active done) (writer : Writer)
    (member : frame ∈ unfinished (state.calls writer)) : 0 < frame.length := by
  refine framed.nonempty frame (framed.frames.mem_iff.mp ?_)
  rcases eq_or_other writer active with rfl | rfl <;> simp [member]

private theorem Framed.silent (framed : Framed state active done) (writer : Writer) (state' : State)
    (calls : state'.calls = (state.enter writer call).calls) (out : state'.out = state.out)
    (same : part call = part (state.calls writer))
    (frames : (unfinished call ++ state.handed).Perm (unfinished (state.calls writer) ++ state'.handed))
    (nonempty : ∀ frame ∈ state'.handed, 0 < frame.length) : Framed state' active done := by
  have counted := List.perm_iff_count.mp framed.frames
  have moved := List.perm_iff_count.mp frames
  rcases eq_or_other writer active with rfl | rfl
  · refine ⟨List.perm_iff_count.mpr fun frame => ?_, ?_, ?_, nonempty⟩
    · have before := counted frame
      have after := moved frame
      simp only [calls, enter_calls, enter_other, List.count_append] at before after ⊢
      omega
    · rw [out, calls, enter_calls, same, framed.out]
    · rw [calls, enter_other, framed.quiet]
  · have active_calls : state'.calls active = state.calls active := by
      have kept := enter_other state active.other call
      rw [other_other] at kept
      rw [calls, kept]
    refine ⟨List.perm_iff_count.mpr fun frame => ?_, ?_, ?_, nonempty⟩
    · have before := counted frame
      have after := moved frame
      simp only [active_calls, calls, enter_calls, List.count_append] at before after ⊢
      omega
    · rw [out, active_calls, framed.out]
    · rw [calls, enter_calls, same, framed.quiet]

private theorem Framed.accept {frame : Bytes} {offset count : Nat} (framed : Framed state writer done)
    (current : state.calls writer = .writing frame offset)
    (taken : 0 < count ∧ offset + count ≤ frame.length) :
    ∃ done', Framed ({ state with out := state.out ++ (frame.drop offset).take count }.enter writer
      (.writing frame (offset + count))) writer done' := by
  have short : offset < frame.length := by omega
  have frames := framed.frames
  have out := framed.out
  simp only [current, unfinished, part, if_pos short] at frames out
  by_cases more : offset + count < frame.length
  · refine ⟨done, ?_, ?_, ?_, framed.nonempty⟩
    · rw [enter_calls, enter_other]
      simpa [unfinished, more] using frames
    · simp [part, more, out, List.take_add]
    · rw [enter_other]; exact framed.quiet
  · have whole : frame.take (offset + count) = frame := List.take_of_length_le (by omega)
    refine ⟨done ++ [frame], ?_, ?_, ?_, framed.nonempty⟩
    · rw [enter_calls, enter_other]
      simpa [unfinished, more] using frames
    · rw [enter_out, enter_calls, out]
      simp [part, more, List.flatten_append, ← List.take_add, whole]
    · rw [enter_other]; exact framed.quiet

private theorem part_starts (call : Call) : part call <+: (unfinished call).flatten := by
  cases call with
  | idle => exact List.nil_prefix
  | waiting frame => exact List.nil_prefix
  | writing frame offset =>
    simp only [part, unfinished]
    split
    · simpa using List.take_prefix offset frame
    · exact List.nil_prefix

private theorem Framed.wellFramed (framed : Framed state active done) :
    WellFramed state.handed state.out := by
  refine ⟨_, framed.frames, ?_⟩
  rw [framed.out, List.flatten_append, List.flatten_append, List.prefix_append_right_inj]
  exact (part_starts _).trans (List.prefix_append _ _)

structure Valid (transport : Transport) (state : State) : Prop where
  exclusive : Exclusive transport state
  framed : ∃ active done, Framed state active done

private theorem enter_writing {w : Writer} {frame : Bytes} {offset : Nat}
    (writing : (state.enter writer call).calls w = .writing frame offset) :
    w = writer ∧ call = .writing frame offset ∨ w ≠ writer ∧ state.calls w = .writing frame offset := by
  by_cases same : w = writer
  · subst same
    exact .inl ⟨rfl, by simpa using writing⟩
  · exact .inr ⟨same, by simpa [State.enter, same] using writing⟩

/-- The steps that go through. -/
inductive Moved (transport : Transport) (state : State) : Event → State → Prop where
  | sentTcp (writer : Writer) (payload : Bytes) (mask : MaskKey) (plain : transport = .tcp) (idle : state.calls writer = .idle) :
      Moved transport state (.send writer payload mask)
        ({ state with handed := state.handed ++ [frameBytes writer.opcode payload mask] }.enter writer
          (.writing (frameBytes writer.opcode payload mask) 0))
  | sentTls (writer : Writer) (payload : Bytes) (mask : MaskKey) (idle : state.calls writer = .idle) :
      Moved transport state (.send writer payload mask)
        ({ state with handed := state.handed ++ [frameBytes writer.opcode payload mask] }.enter writer
          (.waiting (frameBytes writer.opcode payload mask)))
  | acquired (writer : Writer) (frame : Bytes) (waiting : state.calls writer = .waiting frame) (free : state.lock = none) :
      Moved transport state (.acquire writer) ({ state with lock := some writer }.enter writer (.writing frame 0))
  | accepted (writer : Writer) (count : Nat) (frame : Bytes) (offset : Nat)
      (current : state.calls writer = .writing frame offset) (taken : 0 < count ∧ offset + count ≤ frame.length) :
      Moved transport state (.accept writer count)
        ({ state with out := state.out ++ (frame.drop offset).take count }.enter writer (.writing frame (offset + count)))
  | blocked (writer : Writer) : Moved transport state (.wouldBlock writer) state
  | finished (writer : Writer) (frame : Bytes) (offset : Nat) (current : state.calls writer = .writing frame offset)
      (spent : offset = frame.length) : Moved transport state (.finish writer) ({ state with lock := none }.enter writer .idle)

theorem moved_of_step {transport : Transport} {event : Event} {state next : State}
    (moved : step transport event state = .ok next) : Moved transport state event next := by
  cases event with
  | send writer payload mask =>
    simp only [step] at moved
    split at moved
    next idle =>
      cases transport with
      | tcp =>
        cases moved
        exact .sentTcp writer payload mask rfl idle
      | tls =>
        cases moved
        exact .sentTls writer payload mask idle
    next => cases moved
  | acquire writer =>
    simp only [step] at moved
    split at moved
    next frame waiting free =>
      cases moved
      exact .acquired writer frame waiting free
    next => cases moved
  | accept writer count =>
    simp only [step] at moved
    split at moved
    next frame offset current =>
      split at moved
      next taken =>
        cases moved
        exact .accepted writer count frame offset current taken
      next => cases moved
    next => cases moved
  | wouldBlock writer =>
    simp only [step] at moved
    split at moved
    next =>
      split at moved
      next =>
        cases moved
        exact .blocked writer
      next => cases moved
    next => cases moved
  | finish writer =>
    simp only [step] at moved
    split at moved
    next frame offset current =>
      split at moved
      next spent =>
        cases moved
        exact .finished writer frame offset current spent
      next => cases moved
    next => cases moved

theorem exclusive_step {transport : Transport} {event : Event} {state next : State}
    (exclusive : Exclusive transport state) (moved : step transport event state = .ok next) :
    Exclusive transport next := by
  intro tls w frame offset writing
  have held := exclusive tls
  cases moved_of_step moved with
  | sentTcp writer payload mask plain => cases tls.symm.trans plain
  | sentTls writer =>
    rcases enter_writing writing with ⟨_, impossible⟩ | ⟨_, before⟩
    · cases impossible
    · exact held w frame offset before
  | acquired writer frame' waiting free =>
    rcases enter_writing writing with ⟨rfl, _⟩ | ⟨_, before⟩
    · rfl
    · have owner := held w frame offset before
      rw [free] at owner
      cases owner
  | accepted writer count frame' offset' current =>
    rcases enter_writing writing with ⟨rfl, _⟩ | ⟨_, before⟩
    · exact held w frame' offset' current
    · exact held w frame offset before
  | blocked => exact held w frame offset writing
  | finished writer frame' offset' current =>
    rcases enter_writing writing with ⟨_, impossible⟩ | ⟨different, before⟩
    · cases impossible
    · have mine := held writer frame' offset' current
      have theirs := held w frame offset before
      rw [mine] at theirs
      cases theirs
      exact absurd rfl different

theorem alone_of_exclusive {event : Event} (exclusive : Exclusive .tls state) {next : State}
    (moved : step .tls event state = .ok next) : Alone event state := by
  cases moved_of_step moved with
  | accepted writer count frame offset current =>
    have mine := exclusive rfl writer frame offset current
    simp only [Alone]
    cases other : state.calls writer.other with
    | idle => rfl
    | waiting frame => rfl
    | writing frame' offset' =>
      have theirs := exclusive rfl _ _ _ other
      rw [mine] at theirs
      cases writer <;> cases theirs
  | _ => trivial

private theorem framed_step {transport : Transport} {event : Event} {state next : State}
    (alone : Alone event state) (valid : ∃ active done, Framed state active done)
    (moved : step transport event state = .ok next) : ∃ active done, Framed next active done := by
  obtain ⟨active, done, framed⟩ := valid
  cases moved_of_step moved with
  | sentTcp writer payload mask plain idle | sentTls writer payload mask idle =>
    have positive := frameBytes_positive writer.opcode payload mask
    have nonempty : ∀ frame ∈ state.handed ++ [frameBytes writer.opcode payload mask], 0 < frame.length := by
      intro frame member
      rcases List.mem_append.mp member with old | new
      · exact framed.nonempty frame old
      · rw [List.mem_singleton.mp new]
        exact positive
    refine ⟨active, done, framed.silent writer _ rfl rfl ?_ ?_ nonempty⟩
    · simp [part, idle]
    · simpa [unfinished, idle, positive] using (List.perm_append_singleton _ state.handed).symm
  | acquired writer frame waiting =>
    have member : frame ∈ unfinished (state.calls writer) := by simp [waiting, unfinished]
    have positive := framed.positive writer member
    refine ⟨active, done, framed.silent writer _ rfl rfl ?_ ?_ framed.nonempty⟩
    · simp [part, waiting]
    · simp [unfinished, waiting, positive]
  | accepted writer count frame offset current taken =>
    have focused := framed.focus writer alone
    obtain ⟨done', after⟩ := focused.accept current taken
    exact ⟨writer, done', after⟩
  | blocked => exact ⟨active, done, framed⟩
  | finished writer frame offset current spent =>
    refine ⟨active, done, framed.silent writer _ rfl rfl ?_ ?_ framed.nonempty⟩
    · simp [part, current, spent]
    · simp [unfinished, current, spent]

/-- Frames stay whole over TLS whatever the threads do, and over TCP in every
run where no write is taken while the other thread's frame is partly out. -/
theorem frames_stay_whole (transport : Transport) (events : List Event) (final : State)
    (safe : transport = .tls ∨ Machine.Along (step transport) Alone events {})
    (ran : Machine.run (step transport) events {} = .ok final) : WellFramed final.handed final.out := by
  have start : Valid transport {} :=
    ⟨fun _ _ _ _ writing => (nomatch writing), .ui, [], by simp [unfinished], rfl, rfl, by simp⟩
  have valid : Valid transport final := by
    rcases safe with rfl | along
    · exact Machine.invariant (step .tls) (Valid .tls) (fun event state next before moved =>
        ⟨exclusive_step before.exclusive moved,
          framed_step (alone_of_exclusive before.exclusive moved) before.framed moved⟩) start ran
    · exact Machine.invariant_along (step transport) (Valid transport)
        (fun event state next alone before moved =>
          ⟨exclusive_step before.exclusive moved, framed_step alone before.framed moved⟩) along start ran
  obtain ⟨active, done, framed⟩ := valid.framed
  exact framed.wellFramed

private def plainMask : MaskKey := ⟨[0, 0, 0, 0], rfl⟩

/-- A pong sent over TCP while a packet's frame is half out. -/
private def meeting : List Event :=
  [.send .ui [1, 2] plainMask, .accept .ui 3, .send .reader [] plainMask, .accept .reader 6, .accept .ui 5]

private def inTurn : List Event :=
  [.send .ui [1, 2] plainMask, .accept .ui 8, .send .reader [] plainMask, .accept .reader 6]

theorem pong_splits_frame : ∃ final, Machine.run (step .tcp) meeting {} = .ok final ∧
    ¬ WellFramed final.handed final.out := by
  refine ⟨_, rfl, ?_⟩
  change ¬ WellFramed [[0x82, 0x82, 0, 0, 0, 0, 1, 2], [0x8A, 0x80, 0, 0, 0, 0]]
    [0x82, 0x82, 0, 0x8A, 0x80, 0, 0, 0, 0, 0, 0, 0, 1, 2]
  decide

theorem frames_stay_whole_in_turn : ∃ final, Machine.run (step .tcp) inTurn {} = .ok final ∧
    WellFramed final.handed final.out := by
  refine ⟨_, rfl, frames_stay_whole .tcp inTurn _ (.inr ?_) rfl⟩
  decide

end Xpra.Proofs.FrameInterleaving
