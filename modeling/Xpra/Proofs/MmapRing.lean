import Xpra.Proofs.MmapRelease

/-! Where the draws of a session leave `data_start`, the word that tells the server how
far the ring has been read. -/

namespace Xpra.Proofs.MmapRing
open Xpra.Net Xpra.Client Library MmapRelease

/-- The word at the front of the area, in the machine's byte order. -/
def dataStart (host : Host) (memory : Memory) : Nat :=
  if host.littleEndian then Numeral.little (memory.slice 0 4) else Numeral.big (memory.slice 0 4)

/-- The word is the one from before the session's first draw, or a position of the ring. -/
def Placed (host : Host) (area : MmapArea) (word : Nat) : Prop :=
  word = dataStart host area.memory ∨ HEADER_SIZE ≤ word ∧ word ≤ area.memory.size

/-- The last chunk of a draw ends in the ring, as far as the 32 bits of the word can
tell. -/
def EndsInRing (host : Host) (area : MmapArea) (draw : Packet) : Prop :=
  ∀ chunks offset length, mmapChunks host draw = .ok chunks → chunks.getLast? = some (offset, length) →
    Placed host area ((offset + length) % 2 ^ 32)

variable {host : Host} {area state next : MmapArea} {draw : Packet}

theorem endsInRing_iff : EndsInRing host area draw ↔ ∀ stop, drawEnd host draw = some stop → Placed host area stop := by
  rw [EndsInRing, drawEnd]
  cases mmapChunks host draw with
  | error message => simp
  | ok chunks =>
    constructor
    · intro ends stop found
      obtain ⟨⟨offset, length⟩, last, rfl⟩ := Option.map_eq_some_iff.mp found
      exact ends chunks offset length rfl last
    · intro placed others offset length same last
      cases same
      apply placed
      simp only [last]
      rfl

theorem dataStart_native {memory : Memory} {stop : Nat} (small : stop < 2 ^ 32) (stored : memory.slice 0 4 = native host stop) :
    dataStart host memory = stop := by
  rw [dataStart, stored, native]
  split
  · rw [Numeral.little_toLittle]
    exact Nat.mod_eq_of_lt small
  · exact Numeral.big_toBig_of_lt small

theorem drawEnd_lt {stop : Nat} (found : drawEnd host draw = some stop) : stop < 2 ^ 32 := by
  rw [drawEnd] at found
  split at found
  · obtain ⟨chunk, _, rfl⟩ := Option.map_eq_some_iff.mp found
    exact Nat.mod_lt _ (by decide)
  · cases found

/-- A draw moves the word to the end of its last chunk, or has none and leaves it. -/
theorem drawStep_word (moved : drawStep host draw state = .ok next) :
    dataStart host next.memory = (drawEnd host draw).getD (dataStart host state.memory) := by
  rw [drawStep] at moved
  obtain ⟨⟨result, after⟩, read, rfl⟩ := map_ok moved
  obtain ⟨_, memory⟩ := readMmapDraw_ok read
  dsimp only
  rw [memory]
  cases found : drawEnd host draw with
  | none => rfl
  | some stop => exact dataStart_native (drawEnd_lt found) (settle_slice _ _ stop rfl)

/-- After the draw the word is where it belongs. -/
def KeepsPlace (host : Host) (area : MmapArea) (draw : Packet) (state : MmapArea) : Prop :=
  ∀ next, drawStep host draw state = .ok next → Placed host area (dataStart host next.memory)

/-- Unless the draw aborts the thread, its last chunk ends in the ring. -/
def Meant (host : Host) (area : MmapArea) (draw : Packet) (state : MmapArea) : Prop :=
  ∀ next, drawStep host draw state = .ok next → EndsInRing host area draw

private theorem keepsPlace_iff (placed : Placed host area (dataStart host state.memory)) :
    KeepsPlace host area draw state ↔ Meant host area draw state := by
  constructor
  · intro keeps next moved
    rw [endsInRing_iff]
    intro stop found
    have word := drawStep_word moved
    rw [found] at word
    rw [← show dataStart host next.memory = stop from word]
    exact keeps next moved
  · intro meant next moved
    rw [drawStep_word moved]
    cases found : drawEnd host draw with
    | none => exact placed
    | some stop => exact endsInRing_iff.mp (meant next moved) stop found

/-- After every draw of a session the word is in the ring, or where the server left it,
exactly when every draw that is processed ends there, whether or not its chunks are in the
area. -/
theorem data_start_in_ring_iff (host : Host) (area : MmapArea) (draws : List Packet) :
    Machine.Along (drawStep host) (KeepsPlace host area) draws area ↔ Machine.Along (drawStep host) (Meant host area) draws area := by
  have general (state : MmapArea) (placed : Placed host area (dataStart host state.memory)) :
      Machine.Along (drawStep host) (KeepsPlace host area) draws state ↔
        Machine.Along (drawStep host) (Meant host area) draws state := by
    induction draws generalizing state with
    | nil => exact Iff.rfl
    | cons draw rest ih =>
      rw [Machine.Along, Machine.Along, keepsPlace_iff placed]
      constructor
      · rintro ⟨meant, later⟩
        refine ⟨meant, ?_⟩
        intro next moved
        exact (ih next ((keepsPlace_iff placed).mpr meant next moved)).mp (later next moved)
      · rintro ⟨meant, later⟩
        refine ⟨meant, ?_⟩
        intro next moved
        exact (ih next ((keepsPlace_iff placed).mpr meant next moved)).mpr (later next moved)
  exact general area (.inl rfl)

private def headerDraw : Packet where
  main := [.string "draw", .integer 1, .integer 0, .integer 0, .integer 1, .integer 1, .string "mmap",
    .array [.array [.integer 4, .integer 1]], .integer 1]

/-- A draw whose chunk overlaps the control header is rejected, and moves the word into
that header. -/
theorem rejected_draw_leaves_ring :
    ∃ (area next : MmapArea) (message : String), readMmapDraw .plain headerDraw area = .ok (.error message, next) ∧
      ¬ Machine.Along (drawStep .plain) (KeepsPlace .plain area) [headerDraw] area := by
  let area := MmapArea.create "" ⟨MIN_SIZE, by decide⟩ 1 0
  have read : readMmapDraw .plain headerDraw area =
      .ok (.error "mmap chunk (4, 1) is out of range", area.release true [(4, 1)]) := by rfl
  refine ⟨area, _, _, read, ?_⟩
  rintro ⟨keeps, _⟩
  have moved : drawStep .plain headerDraw area = .ok (area.release true [(4, 1)]) := by
    rw [drawStep, read]
    rfl
  have placed := keeps _ moved
  rw [drawStep_word moved, show drawEnd .plain headerDraw = some 5 from rfl] at placed
  have before : dataStart .plain area.memory = 0 := by decide
  rcases placed with same | ⟨behind, _⟩
  · rw [before] at same
    cases same
  · exact absurd behind (by decide)

end Xpra.Proofs.MmapRing
