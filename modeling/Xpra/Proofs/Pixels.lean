import Xpra.Proofs.Blit
import Xpra.Proofs.Display
import Xpra.Proofs.Framebuffer

/-! What the windows show over the runs of the client: each pixel is that of the newest
picture over it, and nobody else draws. -/

namespace Xpra.Proofs.Pixels
open Xpra.Net Xpra.Client Library Handlers Steps Display
open Framebuffer (Fits Framed framed_iff_fits)
open Blit (Shows Covers converted)

variable {host : Host} {env : Env} {client next : XpraClient} {packet : Packet}

/-! ### Canvases -/

structure Picture where
  x : Int32
  y : Int32
  w : UInt32
  h : UInt32
  coding : String
  pixels : Bytes

/-- The picture has the pixel, and all of its data. -/
structure Picture.Over (picture : Picture) (dx dy : Nat) : Prop where
  left : picture.x.toInt ≤ dx
  right : dx < picture.x.toInt + picture.w.toNat
  top : picture.y.toInt ≤ dy
  bottom : dy < picture.y.toInt + picture.h.toNat
  whole : 4 * picture.w.toNat * picture.h.toNat ≤ picture.pixels.length

instance (picture : Picture) (dx dy : Nat) : Decidable (picture.Over dx dy) :=
  decidable_of_iff (picture.x.toInt ≤ dx ∧ dx < picture.x.toInt + picture.w.toNat ∧ picture.y.toInt ≤ dy ∧
      dy < picture.y.toInt + picture.h.toNat ∧ 4 * picture.w.toNat * picture.h.toNat ≤ picture.pixels.length)
    ⟨fun ⟨left, right, top, bottom, whole⟩ => ⟨left, right, top, bottom, whole⟩,
      fun over' => ⟨over'.left, over'.right, over'.top, over'.bottom, over'.whole⟩⟩

def Picture.colour (picture : Picture) (dx dy : Nat) : UInt32 :=
  converted picture.coding picture.pixels
    ((dy - picture.y.toInt).toNat * picture.w.toNat + (dx - picture.x.toInt).toNat)

/-- What was drawn since the window has its size, the newest first. -/
structure Canvas where
  width : UInt32
  height : UInt32
  pictures : List Picture := []

def Canvas.blank (width height : UInt32) : Canvas := { width := max width 1, height := max height 1 }

def Canvas.colourAt (canvas : Canvas) (dx dy : Nat) : UInt32 :=
  match canvas.pictures.find? fun picture => decide (picture.Over dx dy) with
  | some picture => picture.colour dx dy
  | none => 0

/-- A window that keeps its size keeps what it shows. -/
def Canvas.resize (canvas : Canvas) (width height : UInt32) : Canvas :=
  if max width 1 = canvas.width ∧ max height 1 = canvas.height then canvas else .blank width height

inductive Word where
  | opened (wid : UInt64) (width height : UInt32)
  | resized (wid : UInt64) (width height : UInt32)
  | drawn (wid : UInt64) (picture : Picture)
  | closed (wid : UInt64)

def change (canvases : Table UInt64 Canvas) (wid : UInt64) (update : Canvas → Canvas) : Table UInt64 Canvas :=
  fun other => if other = wid then (canvases wid).map update else canvases other

def heed (canvases : Table UInt64 Canvas) : Word → Table UInt64 Canvas
  | .opened wid width height => canvases.insert wid (.blank width height)
  | .resized wid width height => change canvases wid (·.resize width height)
  | .drawn wid picture => change canvases wid fun canvas => { canvas with pictures := picture :: canvas.pictures }
  | .closed wid => canvases.remove wid

/-! ### What happens to the windows -/

def pictureOf (host : Host) (packet : Packet) : Picture where
  x := yamlI32 (packet.get 2)
  y := yamlI32 (packet.get 3)
  w := yamlU32 (packet.get 4)
  h := yamlU32 (packet.get 5)
  coding := yamlStr (packet.get 6)
  pixels := match packet.getBytes host.base64 7 with
    | .ok (pixels, _) => pixels
    | .error _ => []

def wordsOf (host : Host) (env : Env) (packet : Packet) : List Word :=
  let wid := yamlU64 (packet.get 1)
  match kindOf host packet with
  | .newWindow | .newOverrideRedirect =>
    if env.createWindow.isOk then [.opened wid (yamlU32 (packet.get 4)) (yamlU32 (packet.get 5))] else []
  | .drawDecoded => [.drawn wid (pictureOf host packet)]
  | .lostWindow => [.closed wid]
  | _ => []

/-- A window that was moved or resized gets the size that it has on the screen. -/
def sizeWords (env : Env) (wid : UInt64) (input : WindowEvent) : List Word :=
  if env.surface = true ∧ input ∈ [.moved, .resized] then [.resized wid env.innerSize.1 env.innerSize.2] else []

def inputWords (env : Env) (client : XpraClient) (id : WindowId) (input : WindowEvent) : List Word :=
  if client.authDialog.map AuthDialog.window = some id then []
  else ((client.idMap id).map fun wid => sizeWords env wid input).getD []

def words (host : Host) (event : Event) (system : System) : List Word :=
  match event, system.client.proxy with
  | .deliver env, packet :: _ => wordsOf host env packet
  | .input id input env, _ => inputWords env system.client id input
  | _, _ => []

/-- Sizes that the 32-bit coordinates can express. -/
def Word.Modest : Word → Prop
  | .opened _ width height | .resized _ width height =>
    (max width 1).toNat < 2 ^ 31 ∧ (max height 1).toNat < 2 ^ 31 ∧ Fits width height
  | .drawn _ picture => picture.w.toNat < 2 ^ 31 ∧ picture.h.toNat < 2 ^ 31
  | .closed _ => True

instance : ∀ word : Word, Decidable word.Modest
  | .opened _ width height | .resized _ width height =>
    inferInstanceAs (Decidable ((max width 1).toNat < 2 ^ 31 ∧ (max height 1).toNat < 2 ^ 31 ∧
      (max width 1).toNat * (max height 1).toNat < 2 ^ 32))
  | .drawn _ picture => inferInstanceAs (Decidable (picture.w.toNat < 2 ^ 31 ∧ picture.h.toNat < 2 ^ 31))
  | .closed _ => .isTrue trivial

def Modest (host : Host) (event : Event) (system : System) : Prop := ∀ word ∈ words host event system, word.Modest

instance (event : Event) (system : System) : Decidable (Modest host event system) :=
  inferInstanceAs (Decidable (∀ word ∈ words host event system, word.Modest))

/-! ### One window -/

/-- The window shows the canvas. -/
structure Displays (canvas : Canvas) (window : XpraWindow) : Prop where
  width : window.width = canvas.width
  height : window.height = canvas.height
  narrow : window.width.toNat < 2 ^ 31
  low : window.height.toNat < 2 ^ 31
  length : window.framebuffer.length = window.width.toNat * window.height.toNat
  release : window.paintDebug = false
  pixels : ∀ dx < window.width.toNat, ∀ dy < window.height.toNat,
    window.framebuffer[dy * window.width.toNat + dx]? = some (canvas.colourAt dx dy)

namespace Displays

variable {canvas : Canvas} {window changed : XpraWindow}

theorem inside (displays : Displays canvas window) {dx dy : Nat} (across : dx < window.width.toNat) (down : dy < window.height.toNat) :
    dy * window.width.toNat + dx < window.framebuffer.length :=
  Framebuffer.inside_framebuffer displays.length across down

theorem blank {width height : UInt32} (modest : (Word.resized 0 width height).Modest) (wide : window.width = max width 1)
    (high : window.height = max height 1) (made : window.framebuffer = List.replicate (max width 1 * max height 1).toNat 0)
    (release : window.paintDebug = false) : Displays (.blank width height) window := by
  obtain ⟨narrow, low, fits⟩ := modest
  have framed : Framed window := (framed_iff_fits wide high made).mpr fits
  refine ⟨wide, high, wide ▸ narrow, high ▸ low, framed.length, release, fun dx across dy down => ?_⟩
  have inside : dy * window.width.toNat + dx < (max width 1 * max height 1).toNat := by
    have inside := Framebuffer.inside_framebuffer framed.length across down
    rwa [made, List.length_replicate] at inside
  rw [made, List.getElem?_replicate_of_lt inside]
  rfl

theorem resize (displays : Displays canvas window) {surface : Bool} {width height : UInt32} (sized : surface = true)
    (modest : (Word.resized 0 width height).Modest) : Displays (canvas.resize width height) (window.resize surface width height) := by
  rw [Canvas.resize, XpraWindow.resize, ← displays.width, ← displays.height]
  split
  next => exact displays
  next => exact .blank modest rfl rfl rfl displays.release

theorem same (displays : Displays canvas window) (framebuffer : changed.framebuffer = window.framebuffer)
    (width : changed.width = window.width) (height : changed.height = window.height) (debug : changed.paintDebug = window.paintDebug) :
    Displays canvas changed := by
  constructor
  · rw [width, displays.width]
  · rw [height, displays.height]
  · rw [width]
    exact displays.narrow
  · rw [height]
    exact displays.low
  · rw [framebuffer, width, height, displays.length]
  · rw [debug, displays.release]
  · rw [framebuffer, width, height]
    exact displays.pixels

/-- A picture without pixels is not seen. -/
theorem skip (displays : Displays canvas window) {picture : Picture} (never : ∀ dx dy, ¬ picture.Over dx dy) :
    Displays { canvas with pictures := picture :: canvas.pictures } window := by
  refine { displays with pixels := fun dx across dy down => ?_ }
  rw [displays.pixels dx across dy down, Canvas.colourAt, Canvas.colourAt, List.find?_cons_of_neg (by simpa using never dx dy)]

/-- Painting a picture puts it over the others. -/
theorem paint (displays : Displays canvas window) {picture : Picture} (wide : picture.w.toNat < 2 ^ 31) (high : picture.h.toNat < 2 ^ 31)
    (painted : window.paint picture.x picture.y picture.w picture.h picture.coding picture.pixels = .ok changed) :
    Displays { canvas with pictures := picture :: canvas.pictures } changed := by
  have area : picture.w.toNat * picture.h.toNat ≤ (2 ^ 31 - 1) * (2 ^ 31 - 1) :=
    Nat.mul_le_mul (Nat.le_pred_of_lt wide) (Nat.le_pred_of_lt high)
  rw [XpraWindow.paint] at painted
  split at painted
  next short =>
    cases painted
    refine displays.skip fun dx dy over' => ?_
    have whole := over'.whole
    simp only [USIZE] at short
    rw [Nat.mul_assoc] at whole
    omega
  next enough =>
    have whole : 4 * (picture.w.toNat * picture.h.toNat) ≤ picture.pixels.length := by
      simp only [USIZE] at enough
      omega
    have sized : Blit.Sized window picture.w picture.h picture.pixels :=
      ⟨displays.length, displays.narrow, displays.low, wide, high, whole⟩
    have begun : Shows window picture.coding picture.pixels picture.x picture.y picture.w
        (Blit.Region picture.x picture.y picture.w 0 0) window := by
      refine ⟨rfl, rfl, fun dx _ dy _ inside => ?_, fun _ _ _ _ _ => rfl⟩
      simp only [Blit.Region] at inside
      omega
    obtain ⟨middle, rows, shows⟩ := Loop.range
      (fun row => Shows window picture.coding picture.pixels picture.x picture.y picture.w
        (Blit.Region picture.x picture.y picture.w row 0)) begun
      fun row below next shows => Blit.paintRow_shows sized below shows
    have plain : middle.paintDebug = false := by rw [shows.kept]; exact displays.release
    rw [rows] at painted
    simp only [bind, Except.bind, plain, Bool.false_eq_true, if_false] at painted
    cases painted
    have kept := shows.kept
    refine ⟨?_, ?_, ?_, ?_, ?_, plain, fun dx across dy down => ?_⟩
    · rw [kept]
      exact displays.width
    · rw [kept]
      exact displays.height
    · rw [kept]
      exact displays.narrow
    · rw [kept]
      exact displays.low
    · rw [shows.length, kept]
      exact displays.length
    · rw [show changed.width = window.width by rw [kept]] at across ⊢
      rw [show changed.height = window.height by rw [kept]] at down
      by_cases over' : picture.Over dx dy
      · rw [Canvas.colourAt, List.find?_cons_of_pos (by simpa using over')]
        refine shows.image dx across dy down ?_
        exact .inl ⟨over'.left, over'.right, over'.top, over'.bottom⟩
      · rw [Canvas.colourAt, List.find?_cons_of_neg (by simpa using over')]
        rw [shows.old dx across dy down, displays.pixels dx across dy down, Canvas.colourAt]
        rintro (⟨left, right, top, bottom⟩ | ⟨beyond, left, right⟩)
        · exact over' ⟨left, right, top, bottom, by rw [Nat.mul_assoc]; exact whole⟩
        · omega

end Displays

/-! ### All windows -/

variable {canvases : Table UInt64 Canvas} {wid : UInt64} {window changed : XpraWindow}

structure Paints (canvases : Table UInt64 Canvas) (client : XpraClient) : Prop where
  known : ∀ wid, canvases wid = none ↔ client.windows wid = none
  shown : ∀ {wid window canvas}, client.windows wid = some window → canvases wid = some canvas → Displays canvas window

def surfaceOf (window : XpraWindow) : List UInt32 × UInt32 × UInt32 × Bool :=
  (window.framebuffer, window.width, window.height, window.paintDebug)

namespace Paints

theorem of_view (paints : Paints canvases client) (same : SameView surfaceOf client next) : Paints canvases next := by
  refine ⟨fun wid => (paints.known wid).trans same.gone.symm, fun held drawn => ?_⟩
  obtain ⟨before, was, alike⟩ := same.held held
  simp only [surfaceOf, Prod.mk.injEq] at alike
  obtain ⟨framebuffer, width, height, debug⟩ := alike
  exact (paints.shown was drawn).same framebuffer.symm width.symm height.symm debug.symm

/-- One window shows something else. -/
theorem redrawn {update : Canvas → Canvas} (paints : Paints canvases client) (held : client.windows wid = some window)
    (windows : next.windows = client.windows.insert wid changed)
    (each : ∀ canvas, Displays canvas window → Displays (update canvas) changed) : Paints (change canvases wid update) next := by
  refine ⟨fun other => ?_, fun {other shown canvas} there drawn => ?_⟩
  · rw [windows, change, Table.insert]
    split
    next => simp [paints.known, held]
    next => exact paints.known other
  · rw [windows, Table.insert] at there
    rw [change] at drawn
    split at there
    next here =>
      cases there
      rw [if_pos here] at drawn
      obtain ⟨before, was, rfl⟩ := Option.map_eq_some_iff.mp drawn
      exact each before (paints.shown held was)
    next elsewhere =>
      rw [if_neg elsewhere] at drawn
      exact paints.shown there drawn

theorem unheard (paints : Paints canvases client) (gone : client.windows wid = none) (update : Canvas → Canvas) :
    change canvases wid update = canvases := by
  funext other
  rw [change]
  split
  next same => rw [same, (paints.known wid).mpr gone]; rfl
  next => rfl

theorem opened {width height : UInt32} (paints : Paints canvases client) (windows : next.windows = client.windows.insert wid window)
    (displays : Displays (.blank width height) window) : Paints (heed canvases (.opened wid width height)) next := by
  refine ⟨fun other => ?_, fun {other shown canvas} there drawn => ?_⟩
  · rw [windows, heed, Table.insert, Table.insert]
    split
    next => simp
    next => exact paints.known other
  · rw [windows, Table.insert] at there
    rw [heed, Table.insert] at drawn
    split at there
    next here =>
      rw [if_pos here] at drawn
      cases there
      cases drawn
      exact displays
    next elsewhere =>
      rw [if_neg elsewhere] at drawn
      exact paints.shown there drawn

theorem closed (paints : Paints canvases client) (windows : next.windows = client.windows.remove wid) :
    Paints (heed canvases (.closed wid)) next := by
  refine ⟨fun other => ?_, fun {other shown canvas} there drawn => ?_⟩
  · rw [windows, heed, Table.remove, Table.remove]
    split
    next => simp
    next => exact paints.known other
  · rw [windows, Table.remove] at there
    rw [heed, Table.remove] at drawn
    split at there
    next => cases there
    next elsewhere =>
      rw [if_neg elsewhere] at drawn
      exact paints.shown there drawn

end Paints

/-! ### Packets -/

theorem newCommon_paints {overrideRedirect : Bool} (release : host.debugAssertions = false) (paints : Paints canvases client)
    (modest : env.createWindow.isOk = true → (Word.opened 0 (yamlU32 (packet.get 4)) (yamlU32 (packet.get 5))).Modest)
    (returned : processNewCommon host env client packet overrideRedirect = .ok next) :
    Paints ((if env.createWindow.isOk then [Word.opened (yamlU64 (packet.get 1)) (yamlU32 (packet.get 4)) (yamlU32 (packet.get 5))]
      else []).foldl heed canvases) next := by
  iterate 5 obtain ⟨-, returned⟩ := Packet.read_bind_ok.mp returned
  obtain ⟨-, returned⟩ := Packet.field_bind_ok.mp returned
  split at returned
  next failed =>
    cases returned
    simp only [failed]
    exact paints
  next id made =>
    split at returned
    next => cases returned
    next =>
      obtain ⟨window, surfaced, returned⟩ := bind_ok returned
      have displays : Displays (.blank (yamlU32 (packet.get 4)) (yamlU32 (packet.get 5))) window := by
        rw [XpraWindow.new] at surfaced
        split at surfaced
        next =>
          cases surfaced
          exact .blank (modest (by rw [made]; rfl)) rfl rfl rfl release
        next => cases surfaced
      have mapped : Displays (.blank (yamlU32 (packet.get 4)) (yamlU32 (packet.get 5)))
          { applyWindowMetadata window (packet.get 6) with mapped := true } := by
        refine displays.same ?_ ?_ ?_ ?_ <;>
          · rw [applyWindowMetadata]
            split <;> split <;> rfl
      simp only [made]
      refine paints.opened ?_ mapped
      cases returned
      split <;> rfl

theorem drawDecoded_paints (paints : Paints canvases client) (modest : (Word.drawn 0 (pictureOf host packet)).Modest)
    (returned : processDrawDecoded host client packet = .ok next) :
    Paints (heed canvases (.drawn (yamlU64 (packet.get 1)) (pictureOf host packet))) next := by
  rw [heed]
  iterate 6 obtain ⟨-, returned⟩ := Packet.read_bind_ok.mp returned
  obtain ⟨⟨pixels, rest⟩, taken, returned⟩ := bind_ok returned
  obtain ⟨-, returned⟩ := Packet.read_bind_ok.mp returned
  dsimp only at returned
  have same : (pictureOf host packet).pixels = pixels := by rw [pictureOf, taken]
  split at returned
  next gone =>
    cases returned
    rw [paints.unheard gone]
    exact paints.of_view (.of_display rfl)
  next window held =>
    split at returned
    next empty =>
      cases returned
      refine paints.redrawn held rfl fun canvas displays => displays.skip fun dx dy over' => ?_
      have whole := over'.whole
      have wide : 0 < (pictureOf host packet).w.toNat := by
        have left := over'.left
        have right := over'.right
        omega
      have high : 0 < (pictureOf host packet).h.toNat := by
        have top := over'.top
        have bottom := over'.bottom
        omega
      have some := Nat.mul_pos (Nat.mul_pos (by decide : 0 < 4) wide) high
      rw [same, empty, List.length_nil] at whole
      exact Nat.not_lt.mpr whole some
    next =>
      obtain ⟨painted, drawn, returned⟩ := bind_ok returned
      cases returned
      rw [← same] at drawn
      exact paints.redrawn held rfl fun canvas displays => displays.paint modest.1 modest.2 drawn

theorem lostWindow_paints (paints : Paints canvases client) (returned : processLostWindow env client packet = .ok next) :
    Paints (heed canvases (.closed (yamlU64 (packet.get 1)))) next := by
  obtain ⟨-, returned⟩ := Packet.read_bind_ok.mp returned
  have released : SameView surfaceOf client
      (if client.pointerGrabbed = some (yamlU64 (packet.get 1)) then releasePointerGrab env client else client) := by
    split
    next => exact releasePointerGrab_view fun _ _ => rfl
    next => exact .of_display rfl
  dsimp only at returned
  generalize (if client.pointerGrabbed = some (yamlU64 (packet.get 1)) then releasePointerGrab env client else client) = middle at *
  have still := paints.of_view released
  split at returned
  next window held =>
    cases returned
    exact still.closed rfl
  next gone =>
    cases returned
    have unknown := (still.known _).mpr gone
    have nothing : heed canvases (.closed (yamlU64 (packet.get 1))) = canvases := by
      funext other
      rw [heed, Table.remove]
      split
      next same => rw [same, unknown]
      next => rfl
    rw [nothing]
    exact still

theorem windowMetadata_view (returned : processWindowMetadata client packet = .ok next) : SameView surfaceOf client next := by
  obtain ⟨-, returned⟩ := Packet.read_bind_ok.mp returned
  obtain ⟨-, returned⟩ := Packet.field_bind_ok.mp returned
  split at returned
  next window held =>
    cases returned
    refine .of_insert held rfl ?_
    rw [applyWindowMetadata]
    split <;> split <;> rfl
  next =>
    cases returned
    exact .of_display rfl

theorem cursor_view (returned : processCursor host env client packet = .ok next) : SameView surfaceOf client next := by
  rw [processCursor] at returned
  split at returned
  next =>
    cases returned
    exact fun _ => rfl
  next =>
    split at returned
    next =>
      cases returned
      exact fun _ => rfl
    next =>
      iterate 2 obtain ⟨-, returned⟩ := Packet.read_bind_ok.mp returned
      obtain ⟨_, -, returned⟩ := bind_ok returned
      dsimp only at returned
      split at returned
      next =>
        cases returned
        exact fun _ => rfl
      next =>
        cases returned
        intro wid
        split <;> rfl

/-- The kinds of packets that change what a window shows. -/
def paintKinds : List Kind := [.newWindow, .newOverrideRedirect, .lostWindow, .drawDecoded]

theorem doProcessPacket_view {kind : Kind} (other : kind ∉ paintKinds)
    (returned : doProcessPacket host env client kind packet = .ok next) : SameView surfaceOf client next := by
  by_cases display : kind ∈ displayKinds
  · have rest : kind = .pointerGrab ∨ kind = .pointerUngrab ∨ kind = .cursor ∨ kind = .windowMetadata := by
      revert display other
      cases kind <;> decide
    rcases rest with rfl | rfl | rfl | rfl
    · cases returned
      exact processPointerGrab_view fun _ _ => rfl
    · cases returned
      exact releasePointerGrab_view fun _ _ => rfl
    · exact cursor_view returned
    · exact windowMetadata_view returned
  · exact .of_display (doProcessPacket_display display returned)

theorem packet_paints (release : host.debugAssertions = false) (paints : Paints canvases client)
    (modest : ∀ word ∈ wordsOf host env packet, word.Modest)
    (returned : doProcessPacket host env client (kindOf host packet) packet = .ok next) :
    Paints ((wordsOf host env packet).foldl heed canvases) next := by
  rw [wordsOf] at modest ⊢
  by_cases special : kindOf host packet ∈ paintKinds
  · simp only [paintKinds, List.mem_cons, List.not_mem_nil, or_false] at special
    rcases special with kind | kind | kind | kind <;> rw [kind] at returned modest ⊢ <;> dsimp only at modest ⊢
    · refine newCommon_paints release paints (fun made => ?_) returned
      rw [if_pos made] at modest
      exact modest (.opened (yamlU64 (packet.get 1)) _ _) List.mem_cons_self
    · refine newCommon_paints release paints (fun made => ?_) returned
      rw [if_pos made] at modest
      exact modest (.opened (yamlU64 (packet.get 1)) _ _) List.mem_cons_self
    · obtain ⟨middle, lost, rfl⟩ := map_ok returned
      refine (lostWindow_paints paints lost).of_view (.of_display ?_)
      rw [forwardToDecoder]
      split <;> rfl
    · exact drawDecoded_paints paints (modest (.drawn (yamlU64 (packet.get 1)) _) List.mem_cons_self) returned
  · have same := doProcessPacket_view special returned
    revert special
    cases kindOf host packet <;> first | exact fun _ => paints.of_view same | exact fun special => absurd (by decide) special

/-! ### Inputs -/

theorem input_view {input : WindowEvent} (silent : input ∉ [.moved, .resized]) :
    SameView surfaceOf client (handleWindowEvent host env client wid input) := by
  cases input with
  | moved | resized => exact absurd (by decide) silent
  | focused isFocused =>
    refine .of_display ?_
    rw [handleWindowEvent]
    split <;> rfl
  | cursorMoved px py =>
    rw [handleWindowEvent]
    split
    next => exact fun _ => rfl
    next window held => exact .of_insert held rfl rfl
  | mouseInput pressed button =>
    refine .of_display ?_
    rw [handleWindowEvent]
    split <;> rfl
  | mouseWheel dx dy =>
    refine .of_display ?_
    rw [handleWindowEvent]
    split
    next => rfl
    next => exact (sendScroll_display ..).trans (sendScroll_display ..)
  | modifiersChanged => exact fun _ => rfl
  | keyboardInput | closeRequested | redrawRequested | other => exact .of_display rfl

theorem resized_paints (paints : Paints canvases client) {input : WindowEvent} (heard : input ∈ [.moved, .resized])
    (modest : ∀ word ∈ sizeWords env wid input, word.Modest) :
    Paints ((sizeWords env wid input).foldl heed canvases) (handleWindowEvent host env client wid input) := by
  have alike : handleWindowEvent host env client wid input = handleWindowEvent host env client wid .resized := by
    simp only [List.mem_cons, List.not_mem_nil, or_false] at heard
    rcases heard with rfl | rfl <;> rfl
  rw [sizeWords] at modest ⊢
  rw [alike, handleWindowEvent]
  by_cases sized : env.surface = true
  · rw [if_pos ⟨sized, heard⟩] at modest ⊢
    rw [List.foldl_cons, List.foldl_nil, heed]
    split
    next gone =>
      rw [paints.unheard gone]
      exact paints
    next window held =>
      refine paints.redrawn held rfl fun canvas displays => displays.resize sized ?_
      exact modest (.resized wid _ _) List.mem_cons_self
  · rw [if_neg fun both => sized both.1]
    split
    next => exact paints
    next window held =>
      refine paints.of_view (.of_insert held rfl ?_)
      rw [XpraWindow.resize, if_neg sized]
      split <;> rfl

theorem windowEvent_paints (paints : Paints canvases client) {id : WindowId} {input : WindowEvent}
    (modest : ∀ word ∈ inputWords env client id input, word.Modest) :
    Paints ((inputWords env client id input).foldl heed canvases) (windowEvent host env client id input) := by
  rw [inputWords] at modest ⊢
  rw [windowEvent]
  split
  next => exact paints.of_view (.of_display (handleAuthDialogEvent_display input))
  next elsewhere =>
    rw [if_neg elsewhere] at modest
    split
    next wid mapped =>
      rw [mapped, Option.map_some, Option.getD_some] at modest ⊢
      by_cases heard : input ∈ [.moved, .resized]
      · exact resized_paints paints heard modest
      · rw [sizeWords, if_neg fun both => heard both.2]
        exact paints.of_view (input_view heard)
    next unmapped =>
      rw [unmapped]
      exact paints

theorem resumed_view : SameView surfaceOf client (resumed host env client) := by
  rw [resumed]
  dsimp only
  split <;> exact fun _ => rfl

/-! ### Runs -/

theorem step_paints {event : Event} {system after : System} (release : host.debugAssertions = false)
    (paints : Paints canvases system.client) (modest : Modest host event system) (moved : System.step host event system = .ok after) :
    Paints ((words host event system).foldl heed canvases) after.client := by
  rw [Modest] at modest
  have quiet {client : XpraClient} (same : SameView surfaceOf system.client client) : Paints canvases client := paints.of_view same
  cases step_of_moved moved with
  | delivered env packet rest client queued handled =>
    rw [userEvent_eq] at handled
    simp only [words, queued] at modest ⊢
    have popped : Paints canvases { system.client with proxy := rest } := quiet fun _ => rfl
    exact packet_paints release popped modest handled
  | input id input env => exact windowEvent_paints paints modest
  | resumed env => exact quiet resumed_view
  | lost | invalid | received | posted | answered | decoded | written | audio => exact quiet fun _ => rfl

/-- What was done to the windows, all in all. -/
def drawn (host : Host) (events : List Event) (system : System) : Table UInt64 Canvas :=
  (Machine.observed (System.step host) (words host) events system).foldl heed fun _ => none

/-- Whatever the order in which the packets, the inputs and the decode thread come in: each
pixel of each window is that of the newest picture drawn over it since the window got its
size, and black where there was none. Neither a picture without all of its data nor anything
that is about another window leaves a trace. -/
theorem newest_picture_shown (host : Host) (release : host.debugAssertions = false) (outcome : Nat → WriteOutcome)
    (username password : Option String) (area : Option MmapArea) (audioWorker : Option AudioWorker) (events : List Event) (final : System)
    (modest : Machine.Along (System.step host) (Modest host) events
      { client := .new { outcome } username password area audioWorker })
    (ran : System.run host events { client := .new { outcome } username password area audioWorker } = .ok final) :
    let canvases := drawn host events { client := .new { outcome } username password area audioWorker }
    (∀ wid, final.client.windows wid = none ↔ canvases wid = none) ∧
      ∀ wid window canvas, final.client.windows wid = some window → canvases wid = some canvas →
        window.width = canvas.width ∧ window.height = canvas.height ∧
          ∀ dx < window.width.toNat, ∀ dy < window.height.toNat,
            window.framebuffer[dy * window.width.toNat + dx]? = some (canvas.colourAt dx dy) := by
  have start : Paints (([] : List Word).foldl heed fun _ => none) (XpraClient.new { outcome } username password area audioWorker) :=
    ⟨fun _ => ⟨fun _ => rfl, fun _ => rfl⟩, fun held => by cases held⟩
  have paints := Machine.invariant_observed (System.step host) (words host)
    (fun system heard => Paints (heard.foldl heed fun _ => none) system.client)
    (fun event system after heard modest paints moved => by
      rw [List.foldl_append]
      exact step_paints release paints modest moved)
    modest start ran
  rw [List.nil_append] at paints
  refine ⟨fun wid => (paints.known wid).symm, fun wid window canvas held known => ?_⟩
  have displays := paints.shown held known
  exact ⟨displays.width, displays.height, displays.pixels⟩

/-- One window of two by two pixels, and a picture of one pixel for it. -/
def painting : Host := { Host.plain with
  loadYaml := fun payload => match payload with
    | [1] => .ok [.array [.string "new-window", .integer 1, .integer 0, .integer 0, .integer 2, .integer 2, .hash []]]
    | [2] => .ok [.array [.string "draw", .integer 1, .integer 1, .integer 0, .integer 1, .integer 1, .string "png", .null, .integer 1]]
    | _ => .error "invalid utf-8 sequence"
  png := fun data => .ok data }

def twice (decoding : DecodeEnv) : List Event :=
  [.resumed {}, .receive (.ok ⟨[1], fun _ => none⟩), .deliver { createWindow := .ok 10 },
    .receive (.ok ⟨[2], fun index => if index = 7 then some [1, 2, 3, 255] else none⟩), .deliver {}, .decode decoding, .deliver {},
    .receive (.ok ⟨[2], fun index => if index = 7 then some [4, 5, 6, 255] else none⟩), .deliver {}, .decode decoding, .deliver {}]

theorem newest_picture_shown_twice : ∃ final, System.run painting (twice {}) .plain = .ok final ∧
    ∀ wid window canvas, final.client.windows wid = some window → drawn painting (twice {}) .plain wid = some canvas →
      ∀ dx < window.width.toNat, ∀ dy < window.height.toNat,
        window.framebuffer[dy * window.width.toNat + dx]? = some (canvas.colourAt dx dy) :=
  ⟨_, rfl, fun wid window canvas held known =>
    ((newest_picture_shown painting rfl (fun _ => .written) none none none none (twice {}) _ (by decide +kernel) rfl).2
      wid window canvas held known).2.2⟩

end Xpra.Proofs.Pixels
