import Xpra.Library.Bimap
import Xpra.Library.Machine
import Xpra.Proofs.Handlers

/-! The tables of windows, kept in step by hand: the windows by their xpra ids, the
xpra ids by those of the platform, and the window that holds the pointer. A window
created under an id in use replaces the old one in one of the three only. -/

namespace Xpra.Proofs.WindowTables
open Xpra.Net Xpra.Client Library Handlers

def windowKinds : List Kind := [.newWindow, .newOverrideRedirect, .lostWindow, .pointerGrab, .pointerUngrab]

/-- A packet about windows, with what the platform answers while it is handled. -/
structure WindowPacket (host : Host) where
  env : Env
  packet : Packet
  kind : kindOf host packet ∈ windowKinds

def windowStep (host : Host) (event : WindowPacket host) (client : XpraClient) : Except Panic XpraClient :=
  userEvent host event.env client event.packet

variable {host : Host} {event : WindowPacket host} {client next : XpraClient}

def WindowPacket.wid (event : WindowPacket host) : UInt64 := yamlU64 (event.packet.get 1)

/-- The platform creates a window with the id, and all that is needed for it is
there. -/
structure Creates (event : WindowPacket host) (client : XpraClient) (id : WindowId) : Prop where
  kind : kindOf host event.packet = .newWindow ∨ kindOf host event.packet = .newOverrideRedirect
  made : event.env.createWindow = .ok id
  long : 7 ≤ event.packet.len
  ready : client.softbufferCtx = true
  surface : event.env.surface = true

/-- What the three tables say after a packet about windows. -/
inductive Tables (event : WindowPacket host) (client next : XpraClient) : Prop where
  | same (kind : kindOf host event.packet = .newWindow ∨ kindOf host event.packet = .newOverrideRedirect)
      (none : ∀ id, ¬ Creates event client id) (display : next.toDisplay = client.toDisplay)
  | created (id : WindowId) (window : XpraWindow) (creates : Creates event client id) (named : window.id = id)
      (free : window.grab = .none)
      (display : next.toDisplay = { client.toDisplay with
        idMap := client.idMap.insert id event.wid, windows := client.windows.insert event.wid window })
  | lost (left : XpraClient) (kind : kindOf host event.packet = .lostWindow)
      (returned : processLostWindow event.env client event.packet = .ok left)
      (display : next.toDisplay = left.toDisplay)
  | grab (kind : kindOf host event.packet = .pointerGrab) (same : next = processPointerGrab event.env client event.packet)
  | ungrab (kind : kindOf host event.packet = .pointerUngrab) (same : next = releasePointerGrab event.env client)

theorem new_ok {window : XpraWindow} {surface debug : Bool} {wid : UInt64} {id : WindowId} {w h : UInt32}
    {overrideRedirect : Bool} (made : XpraWindow.new surface debug wid id w h overrideRedirect = .ok window) :
    surface = true ∧ window.id = id ∧ window.grab = .none := by
  rw [XpraWindow.new] at made
  split at made
  next surfaced =>
    cases made
    exact ⟨surfaced, rfl, rfl⟩
  next => cases made

theorem applyWindowMetadata_kept (window : XpraWindow) (metadata : Yaml) :
    (applyWindowMetadata window metadata).id = window.id ∧ (applyWindowMetadata window metadata).grab = window.grab := by
  rw [applyWindowMetadata]
  split <;> split <;> exact ⟨rfl, rfl⟩

theorem processNewCommon_tables {overrideRedirect : Bool}
    (kind : kindOf host event.packet = .newWindow ∨ kindOf host event.packet = .newOverrideRedirect)
    (returned : processNewCommon host event.env client event.packet overrideRedirect = .ok next) :
    Tables event client next := by
  iterate 5 obtain ⟨-, returned⟩ := Packet.read_bind_ok.mp returned
  obtain ⟨long, returned⟩ := Packet.field_bind_ok.mp returned
  split at returned
  next reason failed =>
    cases returned
    exact .same kind (fun id creates => by simp [creates.made] at failed) rfl
  next id made =>
    split at returned
    next => cases returned
    next ready =>
      obtain ⟨window, created, returned⟩ := bind_ok returned
      obtain ⟨surface, named, free⟩ := new_ok created
      obtain ⟨sameId, sameGrab⟩ := applyWindowMetadata_kept window (event.packet.get 6)
      have creates : Creates event client id := ⟨kind, made, long, by simpa using ready, surface⟩
      refine .created id { applyWindowMetadata window (event.packet.get 6) with mapped := true } creates
        (sameId.trans named) (sameGrab.trans free) ?_
      dsimp only at returned
      split at returned <;> cases returned <;> rfl

theorem windowStep_tables (moved : windowStep host event client = .ok next) : Tables event client next := by
  have kind := event.kind
  rw [windowStep, userEvent_eq] at moved
  simp only [windowKinds, List.mem_cons, List.not_mem_nil, or_false] at kind
  rcases kind with kind | kind | kind | kind | kind <;> simp only [kind, doProcessPacket] at moved
  · exact processNewCommon_tables (.inl kind) moved
  · exact processNewCommon_tables (.inr kind) moved
  · obtain ⟨left, lost, rfl⟩ := map_ok moved
    refine .lost left kind lost ?_
    rw [forwardToDecoder]
    split <;> rfl
  · cases moved
    exact .grab kind rfl
  · cases moved
    exact .ungrab kind rfl

theorem creates_moves {id : WindowId} (creates : Creates event client id) :
    ∃ next, windowStep host event client = .ok next := by
  have created (overrideRedirect : Bool) :
      ∃ next, processNewCommon host event.env client event.packet overrideRedirect = .ok next := by
    have long := creates.long
    rw [processNewCommon]
    simp only [Packet.read_of_lt, Packet.field_of_lt, bind, Except.bind, creates.made, creates.ready,
      creates.surface, XpraWindow.new, show 1 < event.packet.len by omega, show 2 < event.packet.len by omega,
      show 3 < event.packet.len by omega, show 4 < event.packet.len by omega, show 5 < event.packet.len by omega,
      show 6 < event.packet.len by omega]
    exact ⟨_, rfl⟩
  rw [windowStep, userEvent_eq]
  rcases creates.kind with kind | kind <;> rw [kind]
  · exact created false
  · exact created true

/-! ### The ids of the windows -/

def ids (windows : Table UInt64 XpraWindow) (wid : UInt64) : Option WindowId := (windows wid).map XpraWindow.id

theorem ids_insert (windows : Table UInt64 XpraWindow) (wid : UInt64) (window : XpraWindow) :
    ids (windows.insert wid window) = fun w => if w = wid then some window.id else ids windows w := by
  funext w
  by_cases same : w = wid <;> simp [ids, Table.insert, same]

theorem ids_remove (windows : Table UInt64 XpraWindow) (wid : UInt64) :
    ids (windows.remove wid) = fun w => if w = wid then none else ids windows w := by
  funext w
  by_cases same : w = wid <;> simp [ids, Table.remove, same]

theorem ids_update {windows : Table UInt64 XpraWindow} {wid : UInt64} {window changed : XpraWindow}
    (held : windows wid = some window) (same : changed.id = window.id) :
    ids (windows.insert wid changed) = ids windows := by
  funext w
  by_cases key : w = wid
  · simp [ids, Table.insert, key, held, same]
  · simp [ids, Table.insert, key]

/-- `id_map` and `windows` lead back to each other. -/
def Paired (display : Display) : Prop := Bimap.Inverse display.idMap (ids display.windows)

theorem paired_empty (display : Display) : Paired { display with windows := fun _ => none, idMap := fun _ => none } := by
  intro id wid
  simp [ids]

theorem releasePointerGrab_ids (env : Env) (client : XpraClient) :
    (releasePointerGrab env client).idMap = client.idMap ∧
      ids (releasePointerGrab env client).windows = ids client.windows := by
  rw [releasePointerGrab]
  split
  next => exact ⟨rfl, rfl⟩
  next wid _ =>
    dsimp only
    split
    next window held =>
      split
      · exact ⟨rfl, ids_update held rfl⟩
      · exact ⟨rfl, rfl⟩
    next => exact ⟨rfl, rfl⟩

theorem processPointerGrab_ids (env : Env) (client : XpraClient) (packet : Packet) :
    (processPointerGrab env client packet).idMap = client.idMap ∧
      ids (processPointerGrab env client packet).windows = ids client.windows := by
  rw [processPointerGrab]
  split
  next => exact ⟨rfl, rfl⟩
  next =>
    dsimp only
    split
    next => exact ⟨rfl, rfl⟩
    next =>
      have released : (if client.pointerGrabbed.isSome then releasePointerGrab env client else client).idMap = client.idMap ∧
          ids (if client.pointerGrabbed.isSome then releasePointerGrab env client else client).windows =
            ids client.windows := by
        split
        · exact releasePointerGrab_ids env client
        · exact ⟨rfl, rfl⟩
      split
      next => exact released
      next window held =>
        split
        · refine ⟨released.1, ?_⟩
          rw [← released.2]
          exact ids_update held rfl
        · exact released

theorem processLostWindow_paired {env : Env} {packet : Packet} (paired : Paired client.toDisplay)
    (returned : processLostWindow env client packet = .ok next) : Paired next.toDisplay := by
  obtain ⟨-, returned⟩ := Packet.read_bind_ok.mp returned
  generalize yamlU64 (packet.get 1) = wid at returned
  have released : (if client.pointerGrabbed = some wid then releasePointerGrab env client else client).idMap = client.idMap ∧
      ids (if client.pointerGrabbed = some wid then releasePointerGrab env client else client).windows =
        ids client.windows := by
    split
    · exact releasePointerGrab_ids env client
    · exact ⟨rfl, rfl⟩
  dsimp only at returned
  split at returned
  next window held =>
    cases returned
    have named : ids client.windows wid = some window.id := by
      rw [← released.2, ids, held]
      rfl
    have removed := paired.remove named
    rw [← released.1, ← released.2] at removed
    rw [Paired, ids_remove]
    exact removed
  next =>
    cases returned
    rwa [Paired, released.1, released.2]

/-! ### A window under an id in use -/

def FreshId (event : WindowPacket host) (client : XpraClient) : Prop :=
  ∀ id, Creates event client id → client.idMap id = none

/-- No window is created under an id in use. -/
def FreeWid (event : WindowPacket host) (client : XpraClient) : Prop :=
  ∀ id, Creates event client id → client.windows event.wid = none

/-- After the packet the tables agree, and so the platform's events for a window
go to that window. -/
structure TablesAgree (host : Host) (next : XpraClient) : Prop where
  paired : Paired next.toDisplay
  routed : ∀ wid window env event, next.windows wid = some window →
    next.authDialog.map AuthDialog.window ≠ some window.id →
      windowEvent host env next window.id event = handleWindowEvent host env next wid event

theorem tablesAgree_of_paired (paired : Paired next.toDisplay) : TablesAgree host next := by
  refine ⟨paired, fun wid window env event held other => ?_⟩
  have back : next.idMap window.id = some wid := (paired window.id wid).mpr (by simp [ids, held])
  rw [windowEvent, if_neg other, back]

theorem created_paired_iff {id : WindowId} {window : XpraWindow} (paired : Paired client.toDisplay)
    (fresh : client.idMap id = none) (named : window.id = id) (wid : UInt64) :
    Paired { client.toDisplay with idMap := client.idMap.insert id wid, windows := client.windows.insert wid window } ↔
      client.windows wid = none := by
  rw [Paired, ids_insert, named]
  cases held : client.windows wid with
  | none => exact iff_of_true (paired.insert fresh (by simp [ids, held])) rfl
  | some old =>
    have taken : ids client.windows wid = some old.id := by simp [ids, held]
    exact iff_of_false (paired.not_replace fresh taken) nofun

theorem windowStep_agrees_iff (fresh : FreshId event client) (paired : Paired client.toDisplay) :
    (∀ next, windowStep host event client = .ok next → TablesAgree host next) ↔ FreeWid event client := by
  constructor
  · intro agree id creates
    obtain ⟨next, moved⟩ := creates_moves creates
    have after := (agree next moved).paired
    cases windowStep_tables moved with
    | same _ none => exact absurd creates (none id)
    | created made window creates named free display =>
      rw [display] at after
      exact (created_paired_iff paired (fresh made creates) named event.wid).mp after
    | lost left kind => rcases creates.kind with other | other <;> simp [kind] at other
    | grab kind => rcases creates.kind with other | other <;> simp [kind] at other
    | ungrab kind => rcases creates.kind with other | other <;> simp [kind] at other
  · intro free next moved
    apply tablesAgree_of_paired
    cases windowStep_tables moved with
    | same _ _ display => rwa [display]
    | created id window creates named ungrabbed display =>
      rw [display]
      exact (created_paired_iff paired (fresh id creates) named event.wid).mpr (free id creates)
    | lost left kind returned display =>
      rw [display]
      exact processLostWindow_paired paired returned
    | grab kind same =>
      obtain ⟨idMap, windows⟩ := processPointerGrab_ids event.env client event.packet
      rwa [same, Paired, idMap, windows]
    | ungrab kind same =>
      obtain ⟨idMap, windows⟩ := releasePointerGrab_ids event.env client
      rwa [same, Paired, idMap, windows]

/-- The tables stay in step as long as no window is created under an id in use. -/
theorem tables_agree_iff_no_reuse {events : List (WindowPacket host)}
    (fresh : Machine.Along (windowStep host) FreshId events client) (paired : Paired client.toDisplay) :
    Machine.Along (windowStep host)
        (fun event client => ∀ next, windowStep host event client = .ok next → TablesAgree host next) events client ↔
      Machine.Along (windowStep host) FreeWid events client :=
  Machine.along_after_iff (windowStep host) (fun client => Paired client.toDisplay) (fun _ _ next => TablesAgree host next)
    (fun _ _ _ _ _ agree => agree.paired) (fun _ _ fresh paired => windowStep_agrees_iff fresh paired) fresh paired

def emptyDesktop : XpraClient :=
  { XpraClient.new { outcome := fun _ => .written } none none none none with softbufferCtx := true }

def created (id : WindowId) : WindowPacket Host.plain where
  env := { createWindow := .ok id }
  packet := { main := [.string "new-override-redirect", .integer 1, .integer 0, .integer 0, .integer 1, .integer 1, .hash []] }
  kind := by decide

theorem created_fresh : Machine.Along (windowStep Host.plain) FreshId [created 10, created 11] emptyDesktop := by
  refine ⟨fun id _ => rfl, fun next moved => ⟨fun id creates => ?_, fun _ _ => trivial⟩⟩
  cases moved
  cases creates.made
  rfl

theorem tables_agree_iff_no_reuse_twice :
    Machine.Along (windowStep Host.plain) FreshId [created 10, created 11] emptyDesktop ∧
      Paired emptyDesktop.toDisplay ∧
      (Machine.Along (windowStep Host.plain)
          (fun event client => ∀ next, windowStep Host.plain event client = .ok next → TablesAgree Host.plain next)
          [created 10, created 11] emptyDesktop ↔
        Machine.Along (windowStep Host.plain) FreeWid [created 10, created 11] emptyDesktop) :=
  ⟨created_fresh, paired_empty {}, tables_agree_iff_no_reuse created_fresh (paired_empty {})⟩

/-- The first of two windows with one id stays in `id_map`. -/
theorem reused_wid_leaves_stale_id :
    ¬ ∀ events, Machine.Along (windowStep Host.plain) FreshId events emptyDesktop →
      Machine.Along (windowStep Host.plain)
        (fun event client => ∀ next, windowStep Host.plain event client = .ok next → TablesAgree Host.plain next)
        events emptyDesktop := by
  intro claim
  obtain ⟨-, later⟩ := claim _ created_fresh
  obtain ⟨agree, -⟩ := later _ rfl
  have stale := ((agree _ rfl).paired 10 1).mp rfl
  cases stale

end Xpra.Proofs.WindowTables
