import Xpra.Client.Screen
import Xpra.Proofs.Display
import Xpra.Proofs.WindowTables

/-! The open windows over the runs of the client. The server's metadata come in parts, and
each window looks as all of them together ask for. -/

namespace Xpra.Proofs.Screen
open Xpra.Net Xpra.Client Xpra.Client.Screen Library Handlers Steps Display

variable {host : Host} {env : Env} {client next : XpraClient} {packet : Packet}

/-! ### Painting -/

section Painting

variable {window : XpraWindow} {x y : Int32} {w h : UInt32} {coding : String} {pixels : Bytes}

/-- Only the framebuffer is another one. -/
def Redrawn (window next : XpraWindow) : Prop := next = { window with framebuffer := next.framebuffer }

theorem Redrawn.refl (window : XpraWindow) : Redrawn window window := rfl

theorem Redrawn.trans {middle last : XpraWindow} (first : Redrawn window middle) (second : Redrawn middle last) : Redrawn window last := by
  rw [Redrawn] at *
  rw [second, first]

theorem Redrawn.fold {α : Type} {step : XpraWindow → α → Except Panic XpraWindow} {items : List α} {window last : XpraWindow}
    (each : ∀ item window next, step window item = .ok next → Redrawn window next) (went : items.foldlM step window = .ok last) :
    Redrawn window last := by
  induction items generalizing window with
  | nil =>
    cases went
    exact .refl _
  | cons item items ih =>
    rw [List.foldlM_cons] at went
    obtain ⟨middle, here, later⟩ := bind_ok went
    exact (each item window middle here).trans (ih later)

theorem setPixel_redrawn {last : XpraWindow} {x y color : UInt32} (set : window.setPixel x y color = .ok last) : Redrawn window last := by
  rw [XpraWindow.setPixel] at set
  split at set
  next =>
    dsimp only at set
    split at set <;> cases set
    rfl
  next => cases set; rfl

theorem setPixels_redrawn {last : XpraWindow} {x y x' y' color : UInt32}
    (set : (do let window ← window.setPixel x y color; window.setPixel x' y' color) = .ok last) : Redrawn window last := by
  obtain ⟨middle, here, later⟩ := bind_ok set
  exact (setPixel_redrawn here).trans (setPixel_redrawn later)

theorem drawDebugBorder_redrawn {last : XpraWindow} (drawn : window.drawDebugBorder x y w h = .ok last) : Redrawn window last := by
  rw [XpraWindow.drawDebugBorder] at drawn
  split at drawn
  next => cases drawn; rfl
  next =>
    obtain ⟨middle, across, down⟩ := bind_ok drawn
    exact (Redrawn.fold (fun _ _ _ => setPixels_redrawn) across).trans (.fold (fun _ _ _ => setPixels_redrawn) down)

theorem paintRow_redrawn {last : XpraWindow} {row : Nat} (painted : XpraWindow.paintRow coding pixels x y w window row = .ok last) :
    Redrawn window last := by
  rw [XpraWindow.paintRow] at painted
  split at painted
  next => cases painted; rfl
  next =>
    refine .fold (fun col window next here => ?_) painted
    rw [XpraWindow.paintPixel] at here
    dsimp only at here
    split at here
    next => cases here; rfl
    next => split at here <;> cases here; rfl

theorem paint_redrawn {last : XpraWindow} (painted : window.paint x y w h coding pixels = .ok last) : Redrawn window last := by
  rw [XpraWindow.paint] at painted
  split at painted
  next => cases painted; rfl
  next =>
    obtain ⟨middle, rows, border⟩ := bind_ok painted
    have filled : Redrawn window middle := .fold (fun _ _ _ => paintRow_redrawn) rows
    split at border
    next => exact filled.trans (drawDebugBorder_redrawn border)
    next =>
      cases border
      exact filled

end Painting

/-! ### Handlers that leave the stance of the windows alone -/

/-- What the look of a window depends on. -/
def stance (window : XpraWindow) : WindowId × Bool × Bool × Bool := (window.id, window.overrideRedirect, window.above, window.below)

structure Steady (client next : XpraClient) : Prop where
  cursor : next.currentCursor = client.currentCursor
  stance : SameView stance client next

namespace Steady

theorem of_display (same : next.toDisplay = client.toDisplay) : Steady client next :=
  ⟨congrArg Display.currentCursor same, .of_display same⟩

/-- One window changes, though not in its stance. -/
theorem of_insert {wid : UInt64} {window changed : XpraWindow} (held : client.windows wid = some window)
    (windows : next.windows = client.windows.insert wid changed) (same : Screen.stance changed = Screen.stance window)
    (cursor : next.currentCursor = client.currentCursor) : Steady client next :=
  ⟨cursor, .of_insert held windows same⟩

end Steady

theorem releasePointerGrab_steady : Steady client (releasePointerGrab env client) :=
  ⟨releasePointerGrab_cursor, releasePointerGrab_view fun _ _ => rfl⟩

theorem processPointerGrab_steady : Steady client (processPointerGrab env client packet) :=
  ⟨processPointerGrab_cursor, processPointerGrab_view fun _ _ => rfl⟩

theorem processDrawDecoded_steady (returned : processDrawDecoded host client packet = .ok next) : Steady client next := by
  iterate 6 obtain ⟨-, returned⟩ := Packet.read_bind_ok.mp returned
  obtain ⟨⟨pixels, rest⟩, -, returned⟩ := bind_ok returned
  obtain ⟨-, returned⟩ := Packet.read_bind_ok.mp returned
  dsimp only at returned
  split at returned
  next =>
    cases returned
    exact .of_display rfl
  next window held =>
    split at returned
    next =>
      cases returned
      exact .of_insert held rfl rfl rfl
    next =>
      obtain ⟨painted, drawn, returned⟩ := bind_ok returned
      cases returned
      refine .of_insert held rfl ?_ rfl
      rw [show painted = { window with framebuffer := painted.framebuffer } from paint_redrawn drawn]
      rfl

theorem resize_stance (surface : Bool) (window : XpraWindow) (width height : UInt32) :
    stance (window.resize surface width height) = stance window := by
  rw [XpraWindow.resize]
  split
  next => rfl
  next => split <;> rfl

theorem handleWindowEvent_steady (wid : UInt64) (event : WindowEvent) : Steady client (handleWindowEvent host env client wid event) := by
  cases event with
  | focused isFocused =>
    refine .of_display ?_
    rw [handleWindowEvent]
    split <;> rfl
  | moved | resized =>
    rw [handleWindowEvent]
    split
    next => exact .of_display rfl
    next window held => exact .of_insert held rfl (resize_stance ..) rfl
  | cursorMoved px py =>
    rw [handleWindowEvent]
    split
    next => exact .of_display rfl
    next window held => exact .of_insert held rfl rfl rfl
  | mouseInput pressed button =>
    refine .of_display ?_
    rw [handleWindowEvent]
    split <;> rfl
  | mouseWheel dx dy =>
    refine .of_display ?_
    rw [handleWindowEvent]
    split
    next => rfl
    next => exact (sendScroll_display ..).trans (sendScroll_display ..)
  | modifiersChanged => exact ⟨rfl, fun _ => rfl⟩
  | keyboardInput | closeRequested | redrawRequested | other => exact .of_display rfl

theorem windowEvent_steady (id : WindowId) (event : WindowEvent) : Steady client (windowEvent host env client id event) := by
  rw [windowEvent]
  split
  next => exact .of_display (handleAuthDialogEvent_display event)
  next =>
    split
    next wid _ => exact handleWindowEvent_steady wid event
    next => exact .of_display rfl

theorem resumed_steady : Steady client (resumed host env client) := by
  rw [resumed]
  dsimp only
  split <;> exact ⟨rfl, fun _ => rfl⟩

/-- The kinds of packets that change the stance of a window or the cursor. -/
def screenKinds : List Kind := [.newWindow, .newOverrideRedirect, .lostWindow, .cursor, .windowMetadata]

theorem doProcessPacket_steady {kind : Kind} (other : kind ∉ screenKinds)
    (returned : doProcessPacket host env client kind packet = .ok next) : Steady client next := by
  by_cases display : kind ∈ displayKinds
  · have rest : kind = .pointerGrab ∨ kind = .pointerUngrab ∨ kind = .drawDecoded := by
      revert display other
      cases kind <;> decide
    rcases rest with rfl | rfl | rfl
    · cases returned
      exact processPointerGrab_steady
    · cases returned
      exact releasePointerGrab_steady
    · exact processDrawDecoded_steady returned
  · exact .of_display (doProcessPacket_display display returned)

/-! ### What the server wants -/

/-- What the server's words about a window amount to. -/
structure Wishes where
  overrideRedirect : Bool
  title : String := ""
  decorations : Bool := true
  constraints : WindowSizeConstraints := {}
  fullscreen : Bool := false
  maximized : Bool := false
  minimized : Bool := false
  level : WindowLevel := .normal

/-- Of two flags in one update the later one, `below`, has the last word. -/
def stacked (above below : Option Bool) (level : WindowLevel) : WindowLevel :=
  if below = some true then .alwaysOnBottom
  else if above = some true then .alwaysOnTop
  else if above = some false ∧ level = .alwaysOnTop ∨ below = some false ∧ level = .alwaysOnBottom then .normal
  else level

/-- What an update does not name stays as it is. -/
def Wishes.merge (wishes : Wishes) (update : WindowMetadataUpdate) : Wishes where
  overrideRedirect := wishes.overrideRedirect
  title := update.title.getD wishes.title
  decorations := update.decorations.getD wishes.decorations
  constraints := update.sizeConstraints.getD wishes.constraints
  fullscreen := update.fullscreen.getD wishes.fullscreen
  maximized := update.maximized.getD wishes.maximized
  minimized := update.iconic.getD wishes.minimized
  level := stacked update.above update.below wishes.level

/-- A window has a fixed size if its smallest size is its largest one too. -/
def resizableWith (overrideRedirect : Bool) (constraints : WindowSizeConstraints) : Bool :=
  !overrideRedirect && !(constraints.minimum.isSome && constraints.minimum = constraints.maximum)

/-- Override-redirect windows have neither decorations nor another size than the server's. -/
def look (wishes : Wishes) (cursor : Option CustomCursor) : Look where
  title := wishes.title
  decorated := wishes.decorations && !wishes.overrideRedirect
  resizable := resizableWith wishes.overrideRedirect wishes.constraints
  constraints := wishes.constraints
  fullscreen := wishes.fullscreen
  maximized := wishes.maximized
  minimized := wishes.minimized
  level := wishes.level
  cursor

/-- What the server says about its windows. -/
inductive Word where
  | opened (wid : UInt64) (overrideRedirect : Bool) (update : WindowMetadataUpdate)
  | changed (wid : UInt64) (update : WindowMetadataUpdate)
  | desktop (shown : Bool)
  | closed (wid : UInt64)

def heed (wished : Table UInt64 Wishes) : Word → Table UInt64 Wishes
  | .opened wid overrideRedirect update => wished.insert wid (Wishes.merge { overrideRedirect } update)
  | .changed wid update => fun other => if other = wid then (wished wid).map (·.merge update) else wished other
  | .desktop shown => fun wid => (wished wid).map fun wishes => { wishes with minimized := shown }
  | .closed wid => wished.remove wid

/-- A window that the platform does not create is not there. -/
def wordsOf (host : Host) (env : Env) (packet : Packet) : List Word :=
  let wid := yamlU64 (packet.get 1)
  match kindOf host packet with
  | .newWindow => if env.createWindow.isOk then [.opened wid false (.parse (packet.get 6))] else []
  | .newOverrideRedirect => if env.createWindow.isOk then [.opened wid true (.parse (packet.get 6))] else []
  | .windowMetadata => [.changed wid (.parse (packet.get 2))]
  | .showDesktop => [.desktop (packet.len ≥ 2 && yamlBool (packet.get 1))]
  | .lostWindow => [.closed wid]
  | _ => []

def words (host : Host) (event : Event × ScreenEnv) (displayed : Displayed) : List Word :=
  match event.1, displayed.system.client.proxy with
  | .deliver env, packet :: _ => wordsOf host env packet
  | _, _ => []

/-! ### The calls -/

section Calls

variable (platform : PlatformWindow) (window : XpraWindow)

theorem title_look (title : Option String) : ((title.map WindowCall.setTitle).toList.foldl .call platform).toLook =
    { platform.toLook with title := title.getD platform.toLook.title } := by
  cases title <;> rfl

theorem decorations_look (decorations : Option Bool) :
    ((decorations.map fun decorations => WindowCall.setDecorations (decorations && !window.overrideRedirect)).toList.foldl .call platform).toLook =
      { platform.toLook with decorated := (decorations.map (· && !window.overrideRedirect)).getD platform.toLook.decorated } := by
  cases decorations <;> rfl

theorem constraints_look (sizeConstraints : Option WindowSizeConstraints) :
    (((sizeConstraints.map (constraintCalls window)).getD []).foldl .call platform).toLook =
      { platform.toLook with
        constraints := sizeConstraints.getD platform.toLook.constraints
        resizable := (sizeConstraints.map (resizableWith window.overrideRedirect)).getD platform.toLook.resizable } := by
  cases sizeConstraints <;> rfl

theorem fullscreen_look (fullscreen : Option Bool) : ((fullscreen.map WindowCall.setFullscreen).toList.foldl .call platform).toLook =
    { platform.toLook with fullscreen := fullscreen.getD platform.toLook.fullscreen } := by
  cases fullscreen <;> rfl

theorem maximized_look (maximized : Option Bool) : ((maximized.map WindowCall.setMaximized).toList.foldl .call platform).toLook =
    { platform.toLook with maximized := maximized.getD platform.toLook.maximized } := by
  cases maximized <;> rfl

theorem minimized_look (iconic : Option Bool) : ((iconic.map WindowCall.setMinimized).toList.foldl .call platform).toLook =
    { platform.toLook with minimized := iconic.getD platform.toLook.minimized } := by
  cases iconic <;> rfl

theorem level_look (named : Bool) :
    ((if named then [WindowCall.setWindowLevel (levelOf window)] else []).foldl .call platform).toLook =
      { platform.toLook with level := if named then levelOf window else platform.toLook.level } := by
  cases named <;> rfl

/-- An update sets what it names, and nothing else. -/
theorem metadataCalls_look (update : WindowMetadataUpdate) : ((metadataCalls window update).foldl .call platform).toLook =
    { title := update.title.getD platform.toLook.title
      decorated := (update.decorations.map (· && !window.overrideRedirect)).getD platform.toLook.decorated
      resizable := (update.sizeConstraints.map (resizableWith window.overrideRedirect)).getD platform.toLook.resizable
      constraints := update.sizeConstraints.getD platform.toLook.constraints
      fullscreen := update.fullscreen.getD platform.toLook.fullscreen
      maximized := update.maximized.getD platform.toLook.maximized
      minimized := update.iconic.getD platform.toLook.minimized
      level := if update.above.isSome || update.below.isSome then levelOf window else platform.toLook.level
      cursor := platform.toLook.cursor } := by
  simp only [metadataCalls, List.foldl_append, title_look, decorations_look, constraints_look, fullscreen_look, maximized_look,
    minimized_look, level_look]

end Calls

/-! ### The two levels of one window -/

def Single (window : XpraWindow) : Prop := ¬ (window.above = true ∧ window.below = true)

theorem applyWindowMetadata_level {window : XpraWindow} (single : Single window) (metadata : Yaml) :
    Single (applyWindowMetadata window metadata) ∧
      levelOf (applyWindowMetadata window metadata) =
        stacked (metadataBool metadata "above") (metadataBool metadata "below") (levelOf window) := by
  rw [applyWindowMetadata, Single]
  simp only [metadataBool]
  rw [Single] at single
  generalize yamlHashBool metadata "above" = above
  generalize yamlHashBool metadata "below" = below
  rcases above with _ | _ | _ <;> rcases below with _ | _ | _ <;>
    cases up : window.above <;> cases down : window.below <;>
    simp_all [levelOf, stacked]

theorem stacked_named (above below : Option Bool) (level : WindowLevel) :
    (if above.isSome || below.isSome then stacked above below level else level) = stacked above below level := by
  cases above with
  | some above => rfl
  | none =>
    cases below with
    | some below => rfl
    | none => simp [stacked]

theorem applyWindowMetadata_same (window : XpraWindow) (metadata : Yaml) :
    (applyWindowMetadata window metadata).id = window.id ∧
      (applyWindowMetadata window metadata).overrideRedirect = window.overrideRedirect := by
  rw [applyWindowMetadata]
  split <;> split <;> exact ⟨rfl, rfl⟩

/-- A window is as its wishes have it. -/
structure Matches (wishes : Wishes) (window : XpraWindow) (screen : OpenWindows) (cursor : Option CustomCursor) : Prop where
  overrideRedirect : window.overrideRedirect = wishes.overrideRedirect
  single : Single window
  level : levelOf window = wishes.level
  shown : (screen window.id).map PlatformWindow.toLook = some (look wishes cursor)

theorem Matches.merge {wishes : Wishes} {window : XpraWindow} {screen : OpenWindows} {cursor : Option CustomCursor}
    (matched : Matches wishes window screen cursor) (metadata : Yaml) :
    let update := WindowMetadataUpdate.parse metadata
    let changed := applyWindowMetadata window metadata
    Matches (wishes.merge update) changed (callWindow screen changed.id (metadataCalls changed update)) cursor := by
  obtain ⟨single, level⟩ := applyWindowMetadata_level matched.single metadata
  obtain ⟨id, same⟩ := applyWindowMetadata_same window metadata
  obtain ⟨platform, held, looks⟩ := Option.map_eq_some_iff.mp matched.shown
  have leveled : levelOf (applyWindowMetadata window metadata) =
      stacked (metadataBool metadata "above") (metadataBool metadata "below") wishes.level := by rw [level, matched.level]
  refine ⟨same.trans matched.overrideRedirect, single, leveled, ?_⟩
  rw [callWindow, id, held]
  simp only [Table.insert, if_true, Option.map_some, metadataCalls_look, looks, Option.some.injEq]
  rw [leveled, same, matched.overrideRedirect]
  simp only [look, Wishes.merge, WindowMetadataUpdate.parse, Option.getD_map]
  congr 1
  exact stacked_named ..

/-- A window is created as its first metadata ask for. -/
theorem created_look (window : XpraWindow) (metadata : Yaml) (overrideRedirect : Bool) (same : window.overrideRedirect = overrideRedirect)
    (leveled : levelOf window = stacked (metadataBool metadata "above") (metadataBool metadata "below") .normal) :
    let update := WindowMetadataUpdate.parse metadata
    ((metadataCalls window update).foldl .call (createdWindow client packet update overrideRedirect)).toLook =
      look (Wishes.merge { overrideRedirect } update) client.currentCursor := by
  simp only [metadataCalls_look, same, leveled, createdWindow, look, Wishes.merge, WindowMetadataUpdate.parse]
  congr 1
  · cases metadataStr metadata "title" <;> rfl
  · cases metadataBool metadata "decorations" <;> simp [Bool.and_comm]
  · cases metadataHash metadata "size-constraints" with
    | none => simp [resizableWith]
    | some => rfl
  · exact stacked_named ..

/-! ### Steps -/

variable {displayed after : Displayed} {wished : Table UInt64 Wishes} {screen : OpenWindows}

/-- The windows that the server knows are open, each under an id of its own, and look as the
server wants, with the session's cursor. -/
structure Follows (wished : Table UInt64 Wishes) (client : XpraClient) (screen : OpenWindows) : Prop where
  known : ∀ wid, wished wid = none ↔ client.windows wid = none
  matched : ∀ {wid window wishes}, client.windows wid = some window → wished wid = some wishes →
    Matches wishes window screen client.currentCursor
  apart : ∀ {wid other window another}, client.windows wid = some window → client.windows other = some another →
    window.id = another.id → wid = other

def looks (screen : OpenWindows) (id : WindowId) : Option Look := (screen id).map PlatformWindow.toLook

theorem Matches.of_stance {wishes : Wishes} {window changed : XpraWindow} {cursor : Option CustomCursor} {later : OpenWindows}
    (matched : Matches wishes window screen cursor) (same : stance changed = stance window) (alike : looks later = looks screen) :
    Matches wishes changed later cursor := by
  obtain ⟨id, overrideRedirect, above, below⟩ : changed.id = window.id ∧ changed.overrideRedirect = window.overrideRedirect ∧
      changed.above = window.above ∧ changed.below = window.below := by simpa [stance] using same
  refine ⟨overrideRedirect.trans matched.overrideRedirect, ?_, ?_, ?_⟩
  · rw [Single, above, below]
    exact matched.single
  · rw [levelOf, above, below]
    exact matched.level
  · rw [id]
    exact (congrFun alike window.id).trans matched.shown

theorem Follows.of_steady (follows : Follows wished client screen) (steady : Steady client next) {later : OpenWindows}
    (alike : looks later = looks screen) : Follows wished next later := by
  refine ⟨fun wid => (follows.known wid).trans steady.stance.gone.symm, ?_, ?_⟩
  · intro wid window wishes held wants
    obtain ⟨before, was, same⟩ := steady.stance.held held
    rw [steady.cursor]
    exact (follows.matched was wants).of_stance same.symm alike
  · intro wid other window another held also same
    obtain ⟨before, was, stood⟩ := steady.stance.held held
    obtain ⟨earlier, were, stayed⟩ := steady.stance.held also
    refine follows.apart was were ?_
    have first : before.id = window.id := congrArg Prod.fst stood
    have second : earlier.id = another.id := congrArg Prod.fst stayed
    rw [first, second, same]

theorem callWindow_looks {id : WindowId} {calls : List WindowCall}
    (kept : ∀ platform, (calls.foldl .call platform).toLook = PlatformWindow.toLook platform) :
    looks (callWindow screen id calls) = looks screen := by
  funext other
  rw [callWindow]
  split
  next platform held =>
    simp only [looks, Table.insert]
    split
    next same => rw [same, held, Option.map_some, Option.map_some, kept]
    next => rfl
  next => rfl

theorem callNamed_looks {calls : List WindowCall} (kept : ∀ platform, (calls.foldl .call platform).toLook = PlatformWindow.toLook platform) :
    looks (callNamed client packet screen calls) = looks screen := by
  rw [callNamed]
  split
  next => exact callWindow_looks kept
  next => rfl

variable {screenEnv : ScreenEnv}

theorem moveResizeCalls_kept (platform : PlatformWindow) :
    ((moveResizeCalls env screenEnv packet).foldl .call platform).toLook = platform.toLook := by
  rw [moveResizeCalls]
  cases toOuterPosition env screenEnv (yamlI32 (packet.get 2)) (yamlI32 (packet.get 3)) <;> rfl

theorem edge_kept (platform : PlatformWindow) (edge : Option ResizeDirection) :
    ((edge.map fun edge => WindowCall.drag (some edge)).toList.foldl .call platform).toLook = platform.toLook := by
  cases edge <;> rfl

theorem dragCalls_kept (platform : PlatformWindow) : ((dragCalls packet).foldl .call platform).toLook = platform.toLook := by
  rw [dragCalls]
  split
  next => rfl
  next => exact edge_kept platform _

theorem iconCalls_kept (platform : PlatformWindow) : ((iconCalls host env packet).foldl .call platform).toLook = platform.toLook := by
  rw [iconCalls]
  split
  next => rfl
  next =>
    split
    next => rfl
    next =>
      split
      next => split <;> rfl
      next => rfl

/-- What is left of the packets has no say in how a window looks. -/
theorem processPacket_looks {kind : Kind} (other : kind ∉ screenKinds) (desktop : kind ≠ .showDesktop) :
    looks (processPacket host env screenEnv client next packet screen kind) = looks screen := by
  cases kind with
  | newWindow | newOverrideRedirect | lostWindow | cursor | windowMetadata => exact absurd (by decide) other
  | showDesktop => exact absurd rfl desktop
  | windowMoveResize => exact callNamed_looks moveResizeCalls_kept
  | initiateMoveresize => exact callNamed_looks dragCalls_kept
  | windowIcon => exact callNamed_looks iconCalls_kept
  | raiseWindow =>
    refine callNamed_looks fun platform => ?_
    split <;> rfl
  | _ => rfl

theorem showDesktop_follows (follows : Follows wished client screen) (shown : Bool) :
    Follows (heed wished (.desktop shown)) client (callAll screen (.setMinimized shown)) := by
  refine ⟨fun wid => ?_, ?_, follows.apart⟩
  · rw [← follows.known, heed, Option.map_eq_none_iff]
  · intro wid window wishes held wants
    obtain ⟨before, was, rfl⟩ := Option.map_eq_some_iff.mp wants
    have matched := follows.matched held was
    obtain ⟨platform, open', look⟩ := Option.map_eq_some_iff.mp matched.shown
    refine ⟨matched.overrideRedirect, matched.single, matched.level, ?_⟩
    rw [callAll, open', Option.map_some, Option.map_some, PlatformWindow.call]
    simp only [look]
    rfl

theorem cursor_follows (follows : Follows wished client screen) (windows : next.windows = client.windows) :
    Follows wished next (callAll screen (.setCursor next.currentCursor)) := by
  refine ⟨fun wid => by rw [windows, follows.known], ?_, ?_⟩
  · intro wid window wishes held wants
    rw [windows] at held
    have matched := follows.matched held wants
    obtain ⟨platform, open', look⟩ := Option.map_eq_some_iff.mp matched.shown
    refine ⟨matched.overrideRedirect, matched.single, matched.level, ?_⟩
    rw [callAll, open', Option.map_some, Option.map_some, PlatformWindow.call]
    simp only [look]
    rfl
  · rw [windows]
    exact follows.apart

theorem processCursor_cases (returned : processCursor host env client packet = .ok next) :
    next.windows = client.windows ∧ (showsCursor host env packet = false → next = client) := by
  rw [processCursor] at returned
  rw [showsCursor]
  split at returned
  next short =>
    cases returned
    exact ⟨rfl, fun hidden => by simp [short] at hidden⟩
  next long =>
    split at returned
    next =>
      cases returned
      exact ⟨rfl, fun _ => rfl⟩
    next png =>
      iterate 2 obtain ⟨-, returned⟩ := Packet.read_bind_ok.mp returned
      obtain ⟨⟨data, rest⟩, taken, returned⟩ := bind_ok returned
      dsimp only at returned
      split at returned
      next failed =>
        cases returned
        exact ⟨rfl, fun _ => rfl⟩
      next decoded =>
        cases returned
        refine ⟨by split <;> rfl, fun hidden => ?_⟩
        have plain : 2 < packet.len ∧ env.image = false := by
          simpa [not_not.mp png, taken, decoded, Except.isOk, Except.toBool] using hidden
        rw [plain.2]
        rfl

theorem callWindow_other {id other : WindowId} (calls : List WindowCall) (apart : other ≠ id) :
    callWindow screen id calls other = screen other := by
  cases held : screen id with
  | none => simp only [callWindow, held]
  | some platform =>
    simp only [callWindow, held]
    exact if_neg apart

theorem Matches.of_screen {wishes : Wishes} {window : XpraWindow} {cursor : Option CustomCursor} {later : OpenWindows}
    (matched : Matches wishes window screen cursor) (same : later window.id = screen window.id) : Matches wishes window later cursor :=
  ⟨matched.overrideRedirect, matched.single, matched.level, by rw [same, matched.shown]⟩

theorem metadata_follows (follows : Follows wished client screen) {wid : UInt64} {window : XpraWindow}
    (held : client.windows wid = some window) (metadata : Yaml) :
    let update := WindowMetadataUpdate.parse metadata
    let changed := applyWindowMetadata window metadata
    Follows (heed wished (.changed wid update)) { client with windows := client.windows.insert wid changed }
      (callWindow screen changed.id (metadataCalls changed update)) := by
  have id := (applyWindowMetadata_same window metadata).1
  refine ⟨fun other => ?_, ?_, ?_⟩
  · simp only [heed, Table.insert]
    split
    next same => simp [follows.known, held]
    next => exact follows.known other
  · intro other shown wishes there wants
    simp only [heed, Table.insert] at there wants
    split at there
    next same =>
      cases there
      rw [if_pos same] at wants
      obtain ⟨before, was, rfl⟩ := Option.map_eq_some_iff.mp wants
      exact (follows.matched held was).merge metadata
    next different =>
      rw [if_neg different] at wants
      refine (follows.matched there wants).of_screen (callWindow_other _ fun same => different ?_)
      exact follows.apart there held (same.trans id)
  · intro one two first second there here same
    simp only [Table.insert] at there here
    have named : ∀ {other window'}, (if other = wid then some (applyWindowMetadata window metadata) else client.windows other) = some window' →
        ∃ before, client.windows other = some before ∧ before.id = window'.id := by
      intro other window' found
      split at found
      next same =>
        cases found
        exact ⟨window, same ▸ held, id.symm⟩
      next => exact ⟨window', found, rfl⟩
    obtain ⟨before, was, first_id⟩ := named there
    obtain ⟨earlier, were, second_id⟩ := named here
    exact follows.apart was were (first_id.trans (same.trans second_id.symm))

theorem lost_follows (follows : Follows wished client screen) {wid : UInt64} {window : XpraWindow} (held : client.windows wid = some window)
    {idMap : Table WindowId UInt64} :
    Follows (heed wished (.closed wid)) { client with windows := client.windows.remove wid, idMap } (screen.remove window.id) := by
  refine ⟨fun other => ?_, ?_, ?_⟩
  · simp only [heed, Table.remove]
    split
    next => simp
    next => exact follows.known other
  · intro other shown wishes there wants
    simp only [heed, Table.remove] at there wants
    split at there
    next => cases there
    next different =>
      rw [if_neg different] at wants
      refine (follows.matched there wants).of_screen (if_neg fun same => different ?_)
      exact follows.apart there held same
  · intro one two first second there here same
    simp only [Table.remove] at there here
    split at there
    next => cases there
    next =>
      split at here
      next => cases here
      next => exact follows.apart there here same

/-- A window that has the wid already is replaced. -/
theorem created_follows (follows : Follows wished client screen) {wid : UInt64} {id : WindowId} (fresh : screen id = none)
    {window : XpraWindow} (named : window.id = id) {overrideRedirect : Bool} (same : window.overrideRedirect = overrideRedirect)
    (metadata : Yaml) (single : Single window)
    (leveled : levelOf window = stacked (metadataBool metadata "above") (metadataBool metadata "below") .normal)
    (windows : next.windows = client.windows.insert wid window) (cursor : next.currentCursor = client.currentCursor) :
    let update := WindowMetadataUpdate.parse metadata
    Follows (heed wished (.opened wid overrideRedirect update)) next
      ((closeReplaced client screen wid).insert id ((metadataCalls window update).foldl .call (createdWindow client packet update overrideRedirect))) := by
  have used : ∀ {other shown wishes}, client.windows other = some shown → wished other = some wishes → shown.id ≠ id := by
    intro other shown wishes there wants same
    have matched := (follows.matched there wants).shown
    rw [same, fresh] at matched
    cases matched
  have wanted : ∀ {other shown}, client.windows other = some shown → ∃ wishes, wished other = some wishes := by
    intro other shown there
    refine Option.ne_none_iff_exists'.mp fun none => ?_
    rw [(follows.known other).mp none] at there
    cases there
  have kept : ∀ {other shown}, other ≠ wid → client.windows other = some shown →
      closeReplaced client screen wid shown.id = screen shown.id := by
    intro other shown different there
    cases held : client.windows wid with
    | none => simp only [closeReplaced, held]
    | some replaced =>
      simp only [closeReplaced, held]
      exact if_neg fun same => different (follows.apart there held same)
  refine ⟨fun other => ?_, ?_, ?_⟩
  · rw [windows]
    simp only [heed, Table.insert]
    split
    next => simp
    next => exact follows.known other
  · intro other shown wishes there wants
    rw [windows] at there
    simp only [heed, Table.insert] at there wants
    split at there
    next here =>
      cases there
      rw [if_pos here] at wants
      cases wants
      refine ⟨same, single, leveled, ?_⟩
      simp only [Table.insert, named, if_true, Option.map_some]
      rw [created_look window metadata overrideRedirect same leveled, cursor]
    next different =>
      rw [if_neg different] at wants
      rw [cursor]
      refine (follows.matched there wants).of_screen ?_
      exact (if_neg (used there wants)).trans (kept different there)
  · intro one two first second there here alike
    rw [windows] at there here
    simp only [Table.insert] at there here
    split at there
    next is =>
      split at here
      next also => exact is.trans also.symm
      next =>
        cases there
        obtain ⟨wishes, wants⟩ := wanted here
        exact absurd (alike.symm.trans named) (used here wants)
    next =>
      split at here
      next =>
        cases here
        obtain ⟨wishes, wants⟩ := wanted there
        exact absurd (alike.trans named) (used there wants)
      next => exact follows.apart there here alike

def createdId (host : Host) (event : Event × ScreenEnv) (displayed : Displayed) : Option WindowId :=
  match event.1, displayed.system.client.proxy with
  | .deliver env, packet :: _ =>
    if kindOf host packet ∈ [Kind.newWindow, .newOverrideRedirect] then env.createWindow.toOption else none
  | _, _ => none

/-- A window is created under an id that no open window has. -/
def FreshId (host : Host) (event : Event × ScreenEnv) (displayed : Displayed) : Prop :=
  ∀ id ∈ createdId host event displayed, displayed.screen id = none

instance (event : Event × ScreenEnv) (displayed : Displayed) : Decidable (FreshId host event displayed) :=
  inferInstanceAs (Decidable (∀ id ∈ createdId host event displayed, displayed.screen id = none))

theorem newCommon_follows (follows : Follows wished client screen) {overrideRedirect : Bool}
    (fresh : ∀ id, env.createWindow = .ok id → screen id = none)
    (returned : Client.processNewCommon host env client packet overrideRedirect = .ok next) :
    Follows ((if env.createWindow.isOk then [Word.opened (yamlU64 (packet.get 1)) overrideRedirect (.parse (packet.get 6))] else []).foldl heed wished)
      next (Screen.processNewCommon env client next packet screen overrideRedirect) := by
  iterate 5 obtain ⟨-, returned⟩ := Packet.read_bind_ok.mp returned
  obtain ⟨-, returned⟩ := Packet.field_bind_ok.mp returned
  rw [Screen.processNewCommon]
  split at returned
  next failed =>
    cases returned
    simp only [failed]
    exact follows
  next id made =>
    split at returned
    next => cases returned
    next =>
      obtain ⟨window, surfaced, returned⟩ := bind_ok returned
      obtain ⟨named, plain, single, level⟩ : window.id = id ∧ window.overrideRedirect = overrideRedirect ∧ Single window ∧
          levelOf window = .normal := by
        rw [XpraWindow.new] at surfaced
        split at surfaced
        next =>
          cases surfaced
          exact ⟨rfl, rfl, (fun both => by cases both.1), rfl⟩
        next => cases surfaced
      obtain ⟨sameId, sameRedirect⟩ := applyWindowMetadata_same window (packet.get 6)
      obtain ⟨still, leveled⟩ := applyWindowMetadata_level single (packet.get 6)
      rw [level] at leveled
      obtain ⟨mapped, windows, cursor, mappedId, mappedRedirect, mappedSingle, mappedLevel⟩ : ∃ mapped,
          next.windows = client.windows.insert (yamlU64 (packet.get 1)) mapped ∧ next.currentCursor = client.currentCursor ∧
          mapped.id = id ∧ mapped.overrideRedirect = overrideRedirect ∧ Single mapped ∧
          levelOf mapped = stacked (metadataBool (packet.get 6) "above") (metadataBool (packet.get 6) "below") .normal := by
        refine ⟨{ applyWindowMetadata window (packet.get 6) with mapped := true }, ?_, ?_, sameId.trans named, sameRedirect.trans plain,
          still, leveled⟩ <;>
          cases returned <;> split <;> rfl
      have there : next.windows (yamlU64 (packet.get 1)) = some mapped := by
        rw [windows]
        exact if_pos rfl
      simp only [made, there]
      exact created_follows follows (fresh id made) mappedId mappedRedirect (packet.get 6) mappedSingle mappedLevel windows cursor

theorem Follows.unheard (follows : Follows wished client screen) {wid : UInt64} (gone : client.windows wid = none) :
    heed wished (.closed wid) = wished ∧ ∀ update, heed wished (.changed wid update) = wished := by
  have unknown := (follows.known wid).mpr gone
  refine ⟨?_, fun update => ?_⟩ <;> funext other
  · simp only [heed, Table.remove]
    split
    next same => rw [same, unknown]
    next => rfl
  · simp only [heed]
    split
    next same => rw [same, unknown]; rfl
    next => rfl

theorem lostWindow_follows (follows : Follows wished client screen) (returned : processLostWindow env client packet = .ok next) :
    Follows (heed wished (.closed (yamlU64 (packet.get 1)))) next
      (processPacket host env screenEnv client next packet screen .lostWindow) := by
  obtain ⟨-, returned⟩ := Packet.read_bind_ok.mp returned
  have released : Steady client (if client.pointerGrabbed = some (yamlU64 (packet.get 1)) then releasePointerGrab env client else client) := by
    split
    next => exact releasePointerGrab_steady
    next => exact .of_display rfl
  dsimp only at returned
  generalize (if client.pointerGrabbed = some (yamlU64 (packet.get 1)) then releasePointerGrab env client else client) = middle at *
  have here := released.stance (yamlU64 (packet.get 1))
  rw [processPacket]
  split at returned
  next window held =>
    cases returned
    rw [held, Option.map_some] at here
    obtain ⟨before, was, same⟩ := Option.map_eq_some_iff.mp here.symm
    have id : before.id = window.id := congrArg Prod.fst same
    simp only [was, id]
    exact lost_follows (follows.of_steady released rfl) held
  next gone =>
    cases returned
    rw [gone, Option.map_none] at here
    have was := Option.map_eq_none_iff.mp here.symm
    simp only [was, (follows.unheard was).1]
    exact follows.of_steady released rfl

theorem windowMetadata_follows (follows : Follows wished client screen) (returned : processWindowMetadata client packet = .ok next) :
    Follows (heed wished (.changed (yamlU64 (packet.get 1)) (.parse (packet.get 2)))) next
      (processPacket host env screenEnv client next packet screen .windowMetadata) := by
  obtain ⟨-, returned⟩ := Packet.read_bind_ok.mp returned
  obtain ⟨-, returned⟩ := Packet.field_bind_ok.mp returned
  rw [processPacket]
  split at returned
  next window held =>
    cases returned
    simp only [Table.insert, if_true]
    exact metadata_follows follows held (packet.get 2)
  next gone =>
    cases returned
    simp only [gone, (follows.unheard gone).2]
    exact follows

theorem processCursor_follows (follows : Follows wished client screen) (returned : processCursor host env client packet = .ok next) :
    Follows wished next (processPacket host env screenEnv client next packet screen .cursor) := by
  obtain ⟨windows, hidden⟩ := processCursor_cases returned
  rw [processPacket]
  split
  next => exact cursor_follows follows windows
  next unseen =>
    rw [hidden (by simpa using unseen)]
    exact follows

/-- One packet, whatever it is about. -/
theorem packet_follows (follows : Follows wished client screen) {kind : Kind} (kindly : kindOf host packet = kind)
    (fresh : kind ∈ [Kind.newWindow, .newOverrideRedirect] → ∀ id, env.createWindow = .ok id → screen id = none)
    (returned : doProcessPacket host env client kind packet = .ok next) :
    Follows ((wordsOf host env packet).foldl heed wished) next (processPacket host env screenEnv client next packet screen kind) := by
  rw [wordsOf, kindly]
  by_cases screens : kind ∈ screenKinds
  · simp only [screenKinds, List.mem_cons, List.not_mem_nil, or_false] at screens
    rcases screens with rfl | rfl | rfl | rfl | rfl
    · exact newCommon_follows follows (fresh (by decide)) returned
    · exact newCommon_follows follows (fresh (by decide)) returned
    · obtain ⟨middle, lost, rfl⟩ := map_ok returned
      have closed : Follows (heed wished (.closed (yamlU64 (packet.get 1)))) middle
          (processPacket host env screenEnv client middle packet screen .lostWindow) := lostWindow_follows follows lost
      refine closed.of_steady (.of_display ?_) rfl
      rw [forwardToDecoder]
      split <;> rfl
    · exact processCursor_follows follows returned
    · exact windowMetadata_follows follows returned
  · have steady := doProcessPacket_steady screens returned
    by_cases desktop : kind = .showDesktop
    · subst desktop
      exact (showDesktop_follows follows _).of_steady steady rfl
    · have unsaid : (wordsOf host env packet).foldl heed wished = wished := by
        rw [wordsOf, kindly]
        revert screens desktop
        cases kind <;> first | exact fun _ _ => rfl | exact fun screens => absurd (by decide) screens | exact fun _ desktop => absurd rfl desktop
      rw [wordsOf, kindly] at unsaid
      rw [unsaid]
      exact follows.of_steady steady (processPacket_looks screens desktop)

/-- Nothing but a delivered packet has a say in how the windows look. -/
theorem step_follows {event : Event × ScreenEnv} (follows : Follows wished displayed.system.client displayed.screen)
    (fresh : FreshId host event displayed) (moved : Screen.step host event displayed = .ok after) :
    Follows ((words host event displayed).foldl heed wished) after.system.client after.screen := by
  obtain ⟨event, screenEnv⟩ := event
  rw [Screen.step] at moved
  split at moved
  next => cases moved
  next system went =>
    cases moved
    dsimp only at went
    have quiet {client : XpraClient} (steady : Steady displayed.system.client client) : Follows wished client displayed.screen :=
      follows.of_steady steady rfl
    cases step_of_moved went with
    | delivered env packet rest client queued handled =>
      rw [userEvent_eq] at handled
      simp only [words, queued]
      have popped : Follows wished { displayed.system.client with proxy := rest } displayed.screen := quiet ⟨rfl, fun _ => rfl⟩
      have unused : kindOf host packet ∈ [Kind.newWindow, .newOverrideRedirect] → ∀ id, env.createWindow = .ok id →
          displayed.screen id = none := by
        intro creates id made
        refine fresh id ?_
        simp [createdId, queued, creates, made, Except.toOption]
      exact packet_follows popped rfl unused handled
    | input id input env => exact quiet (windowEvent_steady id input)
    | resumed env => exact quiet resumed_steady
    | lost | invalid | received | posted | answered | decoded | written | audio => exact quiet ⟨rfl, fun _ => rfl⟩

/-- The server's words as a whole. -/
def said (host : Host) (events : List (Event × ScreenEnv)) (displayed : Displayed) : Table UInt64 Wishes :=
  (Machine.observed (Screen.step host) (words host) events displayed).foldl heed fun _ => none

end Xpra.Proofs.Screen
