import Xpra.Proofs.WebsocketReading

/-! When a `read` returns no bytes at all, which its callers take for the end of the
stream. -/

namespace Xpra.Proofs.WebsocketEmpty
open Xpra.Net WebSocketStream WebsocketReading

variable {verdict : IoError} {outcome : Nat → Option IoError} {place : Place}

/-- The messages still to come. -/
def pending (outcome : Nat → Option IoError) (place : Place) : List Bytes := stored outcome place.pongs [] place.remaining

/-- A read takes whole messages off those pending. -/
theorem read_pending (verdict : IoError) (size : Nat) (place : Place) :
    pending outcome (place.read verdict outcome size).2 <:+ pending outcome place := by
  have reads := read_reads verdict outcome size place
  generalize place.read verdict outcome size = step at reads ⊢
  cases reads with
  | unread some => exact List.suffix_rfl
  | message payload pongs later drained next whole first shorter =>
    rw [pending, pending, next]
    exact List.suffix_cons payload _
  | unsent error pongs later drained same failed none shorter =>
    rw [pending, pending, same]
  | spent pongs drained none left last => exact List.nil_suffix

/-- A read into a buffer with room returns nothing only for an empty message. -/
theorem read_empty {size : Nat} (positive : 0 < size) (empty : (place.read verdict outcome size).1 = .ok []) :
    [] ∈ pending outcome place := by
  have nothing {bytes : Bytes} (taken : bytes.take size = []) : bytes = [] :=
    (List.take_eq_nil_iff.mp taken).resolve_left (Nat.ne_of_gt positive)
  have reads := read_reads verdict outcome size place
  generalize place.read verdict outcome size = step at empty reads
  cases reads with
  | unread some => exact absurd (nothing (Except.ok.inj empty)) some
  | message payload pongs later drained next whole first shorter =>
    rw [pending, next, nothing (Except.ok.inj empty)]
    exact List.mem_cons_self
  | unsent error pongs later drained same failed none shorter => cases empty
  | spent pongs drained none left last => cases empty

theorem reads_return_data {sizes : List Nat} (positive : ∀ size ∈ sizes, 0 < size) (full : [] ∉ pending outcome place) :
    .ok [] ∉ (place.reads verdict outcome sizes).1 := by
  induction sizes generalizing place with
  | nil => exact List.not_mem_nil
  | cons size sizes ih =>
    have later := (List.forall_mem_cons.mp positive).2
    have rest := ih later (mt (fun member => (read_pending verdict size place).subset member) full)
    intro member
    rcases List.mem_cons.mp member with same | member
    · exact full (read_empty (positive size List.mem_cons_self) same.symm)
    · exact rest member

/-- Buffers with room for whole messages get to the empty one, induction being on the
frames left. -/
theorem reads_get_to_empty (verdict : IoError) (place : Place) (drained : place.unread = [])
    (empty : [] ∈ pending outcome place) :
    ∃ sizes, (∀ size ∈ sizes, 0 < size) ∧ .ok [] ∈ (place.reads verdict outcome sizes).1 := by
  induction length : place.remaining.length using Nat.strongRecOn generalizing place with
  | ind left ih =>
    cases coming : pending outcome place with
    | nil =>
      rw [coming] at empty
      exact absurd empty List.not_mem_nil
    | cons first rest =>
      have after (fewer : (place.read verdict outcome (first.length + 1)).2.remaining.length < left)
          (drained : (place.read verdict outcome (first.length + 1)).2.unread = [])
          (empty : [] ∈ pending outcome (place.read verdict outcome (first.length + 1)).2) :
          ∃ sizes, (∀ size ∈ sizes, 0 < size) ∧ .ok [] ∈ (place.reads verdict outcome sizes).1 := by
        obtain ⟨sizes, positive, found⟩ := ih _ fewer _ drained empty rfl
        exact ⟨(first.length + 1) :: sizes, List.forall_mem_cons.mpr ⟨Nat.succ_pos _, positive⟩, List.mem_cons_of_mem _ found⟩
      have now (same : (place.read verdict outcome (first.length + 1)).1 = .ok []) :
          ∃ sizes, (∀ size ∈ sizes, 0 < size) ∧ .ok [] ∈ (place.reads verdict outcome sizes).1 := by
        refine ⟨[first.length + 1], List.forall_mem_singleton.mpr (Nat.succ_pos _), ?_⟩
        simp only [Place.reads, same]
        exact List.mem_singleton_self _
      have reads := read_reads verdict outcome (first.length + 1) place
      generalize place.read verdict outcome (first.length + 1) = step at after now reads
      rw [pending] at coming empty
      cases reads with
      | unread some => exact absurd drained some
      | message payload pongs later _ next whole _ shorter =>
        obtain ⟨rfl, _⟩ := List.cons.inj (coming.symm.trans next)
        rw [next] at empty
        rcases List.mem_cons.mp empty with nothing | behind
        · exact now (by rw [← nothing]; rfl)
        · exact after (length ▸ shorter) (List.drop_of_length_le (Nat.le_succ _)) behind
      | unsent error pongs later _ same failed _ shorter =>
        rw [same] at empty
        exact after (length ▸ shorter) rfl empty
      | spent pongs _ none _ _ =>
        rw [none] at empty
        exact absurd empty List.not_mem_nil

/-- No read into a buffer with room comes back empty-handed, whatever the peer sends and
whichever pongs fail to be sent. -/
def ReturnsData (traffic : Traffic) (masks : Nat → MaskKey) (outcome : Nat → Option IoError) : Prop :=
  ∀ sizes, (∀ size ∈ sizes, 0 < size) → ∃ results final,
    ({ input := traffic.bytes, masks, outcome } : WebSocketStream).reads sizes = .ok (results, final) ∧ .ok [] ∉ results

private theorem empty_misleads {traffic : Traffic} {masks : Nat → MaskKey} (empty : [] ∈ stored outcome 0 [] traffic.body) :
    ¬ ReturnsData traffic masks outcome := by
  intro returns
  obtain ⟨sizes, positive, found⟩ := reads_get_to_empty traffic.verdict (.start traffic.body) rfl empty
  obtain ⟨results, final, ran, silent⟩ := returns sizes positive
  obtain ⟨final', ran', _⟩ := traffic_reads traffic masks outcome sizes
  rw [ran] at ran'
  cases ran'
  exact silent found

/-- An empty message is taken for the end of the stream, and nothing else is. -/
theorem reads_return_data_iff (traffic : Traffic) (masks : Nat → MaskKey) (outcome : Nat → Option IoError) :
    ReturnsData traffic masks outcome ↔ [] ∉ stored outcome 0 [] traffic.body := by
  constructor
  · intro returns empty
    exact empty_misleads empty returns
  · intro full sizes positive
    obtain ⟨final, ran, _⟩ := traffic_reads traffic masks outcome sizes
    exact ⟨_, final, ran, reads_return_data positive full⟩

private def emptyMessage : Traffic where
  body := [{ first := 0x82, form := .short, mask := none, payload := [], fits := by decide }]
  ending := none
  carries frame member := by
    rw [List.mem_singleton.mp member]
    exact .inl (.inr (.inr rfl))
  ends frame member := by cases member

/-- A single final frame without a payload, which is a legal message. -/
theorem empty_message_reads_as_end :
    ∃ (traffic : Traffic) (masks : Nat → MaskKey) (outcome : Nat → Option IoError),
      traffic.bytes = [0x82, 0x00] ∧ (∀ call, outcome call = none) ∧ ¬ ReturnsData traffic masks outcome := by
  refine ⟨emptyMessage, fun _ => ⟨[0, 0, 0, 0], rfl⟩, fun _ => none, rfl, fun _ => rfl, ?_⟩
  apply empty_misleads
  decide

end Xpra.Proofs.WebsocketEmpty
