import Xpra.Proofs.WindowTables

/-! Which window holds the pointer, as the client records it and as the platform
has it. A grabbed window that another one replaces takes its grab along, but the
record stays. -/

namespace Xpra.Proofs.PointerGrab
open Xpra.Net Xpra.Client Library WindowTables

def Holds (windows : Table UInt64 XpraWindow) (wid : UInt64) : Prop :=
  ∃ window, windows wid = some window ∧ window.grab ≠ .none

theorem holds_insert (windows : Table UInt64 XpraWindow) (wid : UInt64) (window : XpraWindow) (w : UInt64) :
    Holds (windows.insert wid window) w ↔ (w = wid ∧ window.grab ≠ .none) ∨ (w ≠ wid ∧ Holds windows w) := by
  by_cases same : w = wid <;> simp [Holds, Table.insert, same]

theorem holds_remove (windows : Table UInt64 XpraWindow) (wid w : UInt64) :
    Holds (windows.remove wid) w ↔ w ≠ wid ∧ Holds windows w := by
  by_cases same : w = wid <;> simp [Holds, Table.remove, same]

/-- The record names the one window that holds a grab. -/
def Recorded (display : Display) : Prop := ∀ wid, display.pointerGrabbed = some wid ↔ Holds display.windows wid

theorem recorded_empty (display : Display) :
    Recorded { display with windows := fun _ => none, pointerGrabbed := none } := by
  intro wid
  simp [Holds]

variable {host : Host} {event : WindowPacket host} {env : Env} {client next : XpraClient}

/-! ### Releasing -/

structure Released (client left : XpraClient) : Prop where
  record : left.pointerGrabbed = none
  grabs : ∀ wid, ¬ Holds left.windows wid
  windows : ∀ wid, left.windows wid = none ↔ client.windows wid = none

theorem releasePointerGrab_released (release : env.release = true) (recorded : Recorded client.toDisplay) :
    Released client (releasePointerGrab env client) := by
  rw [releasePointerGrab]
  split
  next none =>
    refine ⟨none, fun wid holds => ?_, fun wid => .rfl⟩
    have named := (recorded wid).mpr holds
    simp [none] at named
  next wid grabbed =>
    have only (w : UInt64) (holds : Holds client.windows w) : w = wid := by
      have named := (recorded w).mpr holds
      rw [grabbed] at named
      exact (Option.some.inj named).symm
    obtain ⟨window, held, -⟩ := (recorded wid).mp grabbed
    simp only [held, release, if_true]
    refine ⟨rfl, fun w holds => ?_, fun w => ?_⟩
    · rcases (holds_insert _ _ _ _).mp holds with ⟨-, grab⟩ | ⟨other, holds⟩
      · exact grab rfl
      · exact other (only w holds)
    · by_cases same : w = wid <;> simp [Table.insert, same, held]

theorem Released.recorded {left : XpraClient} (released : Released client left) : Recorded left.toDisplay := by
  intro wid
  simp [released.record, released.grabs wid]

/-- Before a window is grabbed, any other one is let go. -/
theorem released_first (release : env.release = true) (recorded : Recorded client.toDisplay) :
    Released client (if client.pointerGrabbed.isSome then releasePointerGrab env client else client) := by
  split
  next => exact releasePointerGrab_released release recorded
  next idle =>
    have record : client.pointerGrabbed = none := by simpa using idle
    refine ⟨record, fun wid holds => ?_, fun wid => .rfl⟩
    have named := (recorded wid).mpr holds
    simp [record] at named

/-! ### The packets -/

theorem processPointerGrab_recorded {packet : Packet} (release : env.release = true)
    (recorded : Recorded client.toDisplay) : Recorded (processPointerGrab env client packet).toDisplay := by
  rw [processPointerGrab]
  split
  next => exact recorded
  next =>
    dsimp only
    split
    next => exact recorded
    next =>
      have released := released_first release recorded
      split
      next => exact released.recorded
      next window held =>
        split
        next =>
          intro wid
          have taken : (if env.confine then CursorGrab.confined else .locked) ≠ .none := by
            split <;> decide
          rw [holds_insert]
          constructor
          · intro same
            cases same
            exact .inl ⟨rfl, taken⟩
          · rintro (⟨rfl, -⟩ | ⟨-, holds⟩)
            · rfl
            · exact absurd holds (released.grabs wid)
        next => exact released.recorded

theorem processPointerGrab_granted {packet : Packet} {window : XpraWindow} (release : env.release = true)
    (recorded : Recorded client.toDisplay) (named : 2 ≤ packet.len)
    (held : client.windows (yamlU64 (packet.get 1)) = some window) (free : window.grab = .none)
    (possible : (env.confine || env.lock) = true) :
    (processPointerGrab env client packet).pointerGrabbed = some (yamlU64 (packet.get 1)) := by
  have other : client.pointerGrabbed ≠ some (yamlU64 (packet.get 1)) := by
    intro same
    obtain ⟨found, there, grab⟩ := (recorded _).mp same
    rw [held] at there
    cases there
    exact grab free
  have released := released_first release recorded
  have kept : (if client.pointerGrabbed.isSome then releasePointerGrab env client else client).windows
      (yamlU64 (packet.get 1)) ≠ none := by
    rw [Ne, released.windows, held]
    nofun
  obtain ⟨left, there⟩ := Option.ne_none_iff_exists'.mp kept
  rw [processPointerGrab, if_neg (Nat.not_lt.mpr named)]
  dsimp only
  rw [if_neg other, there]
  simp [possible]

theorem processLostWindow_recorded {packet : Packet} (release : env.release = true)
    (recorded : Recorded client.toDisplay) (returned : processLostWindow env client packet = .ok next) :
    Recorded next.toDisplay := by
  obtain ⟨-, returned⟩ := Packet.read_bind_ok.mp returned
  generalize yamlU64 (packet.get 1) = wid at returned
  -- the window that goes holds no grab by now
  obtain ⟨recorded, free⟩ :
      Recorded (if client.pointerGrabbed = some wid then releasePointerGrab env client else client).toDisplay ∧
        ¬ Holds (if client.pointerGrabbed = some wid then releasePointerGrab env client else client).windows wid := by
    split
    next =>
      have released := releasePointerGrab_released release recorded
      exact ⟨released.recorded, released.grabs wid⟩
    next other => exact ⟨recorded, fun holds => other ((recorded wid).mpr holds)⟩
  dsimp only at returned
  split at returned
  next =>
    cases returned
    intro w
    rw [holds_remove]
    dsimp only
    rw [recorded w]
    constructor
    · intro holds
      refine ⟨?_, holds⟩
      rintro rfl
      exact free holds
    · exact And.right
  next =>
    cases returned
    exact recorded

/-! ### A window in place of a grabbed one -/

/-- After the packet the record is right, at most one window is grabbed, and a
request for a window that was not grabbed has been met. -/
structure GrabsAgree (event : WindowPacket host) (client next : XpraClient) : Prop where
  recorded : Recorded next.toDisplay
  unique : ∀ first second, Holds next.windows first → Holds next.windows second → first = second
  granted : kindOf host event.packet = .pointerGrab → 2 ≤ event.packet.len →
    ∀ window, client.windows event.wid = some window → window.grab = .none →
      (event.env.confine || event.env.lock) = true → next.pointerGrabbed = some event.wid

theorem grabsAgree_of_recorded (recorded : Recorded next.toDisplay)
    (granted : kindOf host event.packet = .pointerGrab → 2 ≤ event.packet.len →
      ∀ window, client.windows event.wid = some window → window.grab = .none →
        (event.env.confine || event.env.lock) = true → next.pointerGrabbed = some event.wid) :
    GrabsAgree event client next := by
  refine ⟨recorded, fun first second one other => ?_, granted⟩
  have same := ((recorded first).mpr one).symm.trans ((recorded second).mpr other)
  exact Option.some.inj same

def Releases (event : WindowPacket host) (_ : XpraClient) : Prop := event.env.release = true

/-- No window is created in place of the one that holds the pointer. -/
def KeepsGrabbed (event : WindowPacket host) (client : XpraClient) : Prop :=
  ∀ id, Creates event client id → client.pointerGrabbed ≠ some event.wid

theorem created_recorded_iff {id : WindowId} {window : XpraWindow} (recorded : Recorded client.toDisplay)
    (free : window.grab = .none) (wid : UInt64) :
    Recorded { client.toDisplay with idMap := client.idMap.insert id wid, windows := client.windows.insert wid window } ↔
      client.pointerGrabbed ≠ some wid := by
  constructor
  · intro after grabbed
    rcases (holds_insert _ _ _ _).mp ((after wid).mp grabbed) with ⟨-, grab⟩ | ⟨other, -⟩
    · exact grab free
    · exact other rfl
  · intro other w
    rw [holds_insert]
    dsimp only
    rw [recorded w]
    constructor
    · intro holds
      refine .inr ⟨?_, holds⟩
      rintro rfl
      exact other ((recorded w).mpr holds)
    · rintro (⟨-, grab⟩ | ⟨-, holds⟩)
      · exact absurd free grab
      · exact holds

theorem windowStep_grabs_iff (release : Releases event client) (recorded : Recorded client.toDisplay) :
    (∀ next, windowStep host event client = .ok next → GrabsAgree event client next) ↔ KeepsGrabbed event client := by
  constructor
  · intro agree id creates
    obtain ⟨next, moved⟩ := creates_moves creates
    have after := (agree next moved).recorded
    cases windowStep_tables moved with
    | same _ none => exact absurd creates (none id)
    | created made window creates named free display =>
      rw [display] at after
      exact (created_recorded_iff recorded free event.wid).mp after
    | lost left kind => rcases creates.kind with other | other <;> simp [kind] at other
    | grab kind => rcases creates.kind with other | other <;> simp [kind] at other
    | ungrab kind => rcases creates.kind with other | other <;> simp [kind] at other
  · intro keeps next moved
    cases windowStep_tables moved with
    | same kind _ display =>
      apply grabsAgree_of_recorded (by rwa [display])
      intro other
      rcases kind with kind | kind <;> simp [kind] at other
    | created id window creates named free display =>
      refine grabsAgree_of_recorded ?_ fun kind => ?_
      · rw [display]
        exact (created_recorded_iff recorded free event.wid).mpr (keeps id creates)
      · rcases creates.kind with other | other <;> simp [kind] at other
    | lost left kind returned display =>
      refine grabsAgree_of_recorded ?_ fun other => by simp [kind] at other
      rw [display]
      exact processLostWindow_recorded release recorded returned
    | grab kind same =>
      subst same
      exact grabsAgree_of_recorded (processPointerGrab_recorded release recorded)
        fun _ named window held free possible => processPointerGrab_granted release recorded named held free possible
    | ungrab kind same =>
      subst same
      refine grabsAgree_of_recorded ?_ fun other => by simp [kind] at other
      exact (releasePointerGrab_released release recorded).recorded

/-- The record of the grab is right as long as no window is created in place of
the one that holds it. -/
theorem grabs_agree_iff_kept {events : List (WindowPacket host)}
    (release : Machine.Along (windowStep host) Releases events client) (recorded : Recorded client.toDisplay) :
    Machine.Along (windowStep host)
        (fun event client => ∀ next, windowStep host event client = .ok next → GrabsAgree event client next)
        events client ↔
      Machine.Along (windowStep host) KeepsGrabbed events client :=
  Machine.along_after_iff (windowStep host) (fun client => Recorded client.toDisplay) GrabsAgree
    (fun _ _ _ _ _ agree => agree.recorded) (fun _ _ release recorded => windowStep_grabs_iff release recorded)
    release recorded

def grabs : WindowPacket Host.plain where
  env := {}
  packet := { main := [.string "pointer-grab", .integer 1] }
  kind := by decide

theorem created_releases :
    Machine.Along (windowStep Host.plain) Releases [created 10, grabs, created 11] emptyDesktop :=
  ⟨rfl, fun _ _ => ⟨rfl, fun _ _ => ⟨rfl, fun _ _ => trivial⟩⟩⟩

theorem grabs_agree_iff_kept_replaced :
    Machine.Along (windowStep Host.plain) Releases [created 10, grabs, created 11] emptyDesktop ∧
      Recorded emptyDesktop.toDisplay ∧
      (Machine.Along (windowStep Host.plain)
          (fun event client => ∀ next, windowStep Host.plain event client = .ok next → GrabsAgree event client next)
          [created 10, grabs, created 11] emptyDesktop ↔
        Machine.Along (windowStep Host.plain) KeepsGrabbed [created 10, grabs, created 11] emptyDesktop) :=
  ⟨created_releases, recorded_empty {}, grabs_agree_iff_kept created_releases (recorded_empty {})⟩

/-- The record names the new window, which holds no grab. -/
theorem replaced_window_stays_recorded :
    ¬ ∀ events, Machine.Along (windowStep Host.plain) Releases events emptyDesktop →
      Machine.Along (windowStep Host.plain)
        (fun event client => ∀ next, windowStep Host.plain event client = .ok next → GrabsAgree event client next)
        events emptyDesktop := by
  intro claim
  obtain ⟨-, later⟩ := claim _ created_releases
  obtain ⟨-, later⟩ := later _ rfl
  obtain ⟨agree, -⟩ := later _ rfl
  obtain ⟨window, held, grab⟩ := ((agree _ rfl).recorded 1).mp rfl
  cases held
  exact grab rfl

end Xpra.Proofs.PointerGrab
