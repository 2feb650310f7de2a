import Mathlib.Data.Int.ConditionallyCompleteOrder
import Mathlib.Order.Interval.Basic
import Xpra.Proofs.Ordinary

/-! The size of the display is the size of the smallest box around its monitors. A
position is rebased against the first monitor that contains it, and the server adds the
same corner back to it. -/

namespace Xpra.Proofs.Monitors
open Xpra.Net Xpra.Client

/-! ### Boxes -/

/-- A box holds its edges, so that a monitor of no width still has a place. -/
abbrev Box := NonemptyInterval (ℤ × ℤ)

namespace Box

def width (box : Box) : ℤ := box.snd.1 - box.fst.1

def height (box : Box) : ℤ := box.snd.2 - box.fst.2

/-- The sides that the server accepts. -/
def Accepted (box : Box) : Prop := 1 ≤ width box ∧ width box ≤ 32767 ∧ 1 ≤ height box ∧ height box ≤ 32767

end Box

/-- The values that the source computes with. -/
def Fits (number : ℤ) : Prop := -2 ^ 63 ≤ number ∧ number < 2 ^ 63

variable (monitor : MonitorInfo) (monitors : List MonitorInfo)

def left : ℤ := monitor.geometry.1.toInt

def top : ℤ := monitor.geometry.2.1.toInt

def right : ℤ := left monitor + monitor.geometry.2.2.1.toNat

def bottom : ℤ := top monitor + monitor.geometry.2.2.2.toNat

def rectangle : Box := ⟨((left monitor, top monitor), (right monitor, bottom monitor)), by
  constructor
  · exact Int.le_add_of_nonneg_right (Int.natCast_nonneg _)
  · exact Int.le_add_of_nonneg_right (Int.natCast_nonneg _)⟩

/-- The smallest box that has the rectangle of every monitor inside. -/
def Smallest (box : Box) : Prop := IsLeast {box | ∀ monitor ∈ monitors, rectangle monitor ≤ box} box

variable {monitor monitors} {box : Box}

theorem smallest_iff : Smallest monitors box ↔ IsLUB (rectangle '' {monitor | monitor ∈ monitors}) box := by
  have same : {box | ∀ monitor ∈ monitors, rectangle monitor ≤ box} = upperBounds (rectangle '' {monitor | monitor ∈ monitors}) := by
    ext box
    simp [upperBounds]
  rw [Smallest, same]
  rfl

/-! ### The fold over the monitors -/

/-- The loop of `totalDisplaySize`, on its own. -/
def bounds (monitors : List MonitorInfo) : Option (Int × Int × Int × Int) :=
  monitors.foldl (fun bounds monitor =>
    match bounds with
    | none => some (left monitor, top monitor, right monitor, bottom monitor)
    | some (l, t, r, b) => some (min l (left monitor), min t (top monitor), max r (right monitor), max b (bottom monitor))) none

def sides (box : Box) : Int × Int × Int × Int := (box.fst.1, box.fst.2, box.snd.1, box.snd.2)

theorem bounds_smallest (monitors : List MonitorInfo) :
    monitors = [] ∧ bounds monitors = none ∨ ∃ box, Smallest monitors box ∧ bounds monitors = some (sides box) := by
  induction monitors using List.reverseRecOn with
  | nil => exact .inl ⟨rfl, rfl⟩
  | append_singleton monitors monitor ih =>
    right
    have grown : rectangle '' {other | other ∈ monitors ++ [monitor]} =
        insert (rectangle monitor) (rectangle '' {other | other ∈ monitors}) := by
      rw [← Set.image_insert_eq]
      congr 1
      ext other
      simp [or_comm]
    simp only [smallest_iff, grown]
    rcases ih with ⟨rfl, none⟩ | ⟨box, smallest, folded⟩
    · refine ⟨rectangle monitor, by simp, ?_⟩
      rfl
    · refine ⟨rectangle monitor ⊔ box, (smallest_iff.mp smallest).insert _, ?_⟩
      rw [bounds, List.foldl_append, ← bounds, folded, List.foldl_cons, List.foldl_nil, sup_comm]
      rfl

/-- No box is the smallest around nothing. -/
theorem not_smallest_nil : ¬ Smallest [] box := by
  intro smallest
  let moved : Box := ⟨(box.fst + 1, box.snd + 1),
    Int.add_le_add_right box.fst_le_snd.1 1, Int.add_le_add_right box.fst_le_snd.2 1⟩
  have inside : box ≤ moved := smallest.2 (by simp)
  have before : box.fst.1 + 1 ≤ box.fst.1 := (NonemptyInterval.le_def.mp inside).1.1
  omega

theorem bounds_eq (smallest : Smallest monitors box) : bounds monitors = some (sides box) := by
  rcases bounds_smallest monitors with ⟨rfl, -⟩ | ⟨other, least, folded⟩
  · exact absurd smallest not_smallest_nil
  · rw [folded, least.unique smallest]

theorem totalDisplaySize_smallest (smallest : Smallest monitors box) :
    totalDisplaySize monitors = if Box.width box ≤ 0 ∨ Box.height box ≤ 0 ∨ Box.width box ≥ 32768 ∨ Box.height box ≥ 32768 then none
      else some (UInt32.ofNat (Box.width box).toNat, UInt32.ofNat (Box.height box).toNat) := by
  have unfolded : totalDisplaySize monitors = match bounds monitors with
      | none => none
      | some (left, top, right, bottom) =>
        if right - left ≤ 0 ∨ bottom - top ≤ 0 ∨ right - left ≥ 32768 ∨ bottom - top ≥ 32768 then none
        else some (UInt32.ofNat (right - left).toNat, UInt32.ofNat (bottom - top).toNat) := rfl
  rw [unfolded, bounds_eq smallest]
  rfl

theorem some_iff (smallest : Smallest monitors box) {w h : UInt32} : totalDisplaySize monitors = some (w, h) ↔
    box.Accepted ∧ (w.toNat : ℤ) = box.width ∧ (h.toNat : ℤ) = box.height := by
  have exact' {side : ℤ} (positive : 1 ≤ side) (small : side ≤ 32767) (reported : UInt32) :
      UInt32.ofNat side.toNat = reported ↔ (reported.toNat : ℤ) = side := by
    have fits : (UInt32.ofNat side.toNat).toNat = side.toNat := by
      apply UInt32.toNat_ofNat_of_lt'
      have size : UInt32.size = 2 ^ 32 := rfl
      omega
    rw [← UInt32.toNat_inj, fits]
    omega
  rw [totalDisplaySize_smallest smallest, Box.Accepted]
  split
  next rejected =>
    constructor
    · intro impossible
      cases impossible
    · intro accepted
      omega
  next accepted =>
    have inside : 1 ≤ box.width ∧ box.width ≤ 32767 ∧ 1 ≤ box.height ∧ box.height ≤ 32767 := by omega
    rw [Option.some.injEq, Prod.mk.injEq, exact' inside.1 inside.2.1, exact' inside.2.2.1 inside.2.2.2]
    simp only [inside, and_self, true_and]

theorem smallest_perm {other : List MonitorInfo} (same : other.Perm monitors) : Smallest other box ↔ Smallest monitors box := by
  simp only [Smallest, same.mem_iff]

/-- Every corner that a monitor can have. -/
def reach : Box := ⟨((-2 ^ 31, -2 ^ 31), (2 ^ 33, 2 ^ 33)), by decide, by decide⟩

theorem rectangle_le_reach (monitor : MonitorInfo) : rectangle monitor ≤ reach := by
  obtain ⟨name, primary, ⟨x, y, w, h⟩, rate⟩ := monitor
  have wide := w.toNat_lt
  have high := h.toNat_lt
  have first := And.intro x.le_toInt x.toInt_lt
  have second := And.intro y.le_toInt y.toInt_lt
  refine NonemptyInterval.le_def.mpr ⟨⟨first.1, second.1⟩, ?_, ?_⟩
  · change x.toInt + w.toNat ≤ (2 : ℤ) ^ 33
    omega
  · change y.toInt + h.toNat ≤ (2 : ℤ) ^ 33
    omega

/-- Inside the reach of the monitors, neither an edge nor a side overflows. -/
theorem fits_of_le_reach (inside : box ≤ reach) :
    (Fits box.fst.1 ∧ Fits box.fst.2 ∧ Fits box.snd.1 ∧ Fits box.snd.2) ∧ Fits box.width ∧ Fits box.height := by
  obtain ⟨⟨left, top⟩, ⟨right, bottom⟩⟩ := NonemptyInterval.le_def.mp inside
  obtain ⟨across, down⟩ := box.fst_le_snd
  simp only [reach] at left top right bottom
  simp only [Fits, Box.width, Box.height]
  omega

theorem reach_of_smallest (smallest : Smallest monitors box) : box ≤ reach :=
  smallest.2 fun monitor _ => rectangle_le_reach monitor

/-- The loop has seen a prefix of the monitors at every turn. -/
def NoOverflow (monitors : List MonitorInfo) : Prop :=
  ∀ seen, seen <+: monitors → ∀ box, Smallest seen box ∨ box ∈ seen.map rectangle →
    (Fits box.fst.1 ∧ Fits box.fst.2 ∧ Fits box.snd.1 ∧ Fits box.snd.2) ∧ Fits box.width ∧ Fits box.height

theorem noOverflow (monitors : List MonitorInfo) : NoOverflow monitors := by
  intro seen _ box taken
  apply fits_of_le_reach
  rcases taken with smallest | single
  · exact reach_of_smallest smallest
  · obtain ⟨monitor, -, rfl⟩ := List.mem_map.mp single
    exact rectangle_le_reach monitor

theorem exists_smallest (present : monitors ≠ []) : ∃ box, Smallest monitors box := by
  rcases bounds_smallest monitors with ⟨empty, -⟩ | ⟨box, smallest, -⟩
  · exact absurd empty present
  · exact ⟨box, smallest⟩

theorem exists_size (smallest : Smallest monitors box) (accepted : box.Accepted) :
    ∃ w h, totalDisplaySize monitors = some (w, h) := by
  have sides : box.width.toNat < UInt32.size ∧ box.height.toNat < UInt32.size := by
    have size : UInt32.size = 2 ^ 32 := rfl
    rw [Box.Accepted] at accepted
    omega
  refine ⟨UInt32.ofNat box.width.toNat, UInt32.ofNat box.height.toNat, (some_iff smallest).mpr ⟨accepted, ?_⟩⟩
  rw [UInt32.toNat_ofNat_of_lt' sides.1, UInt32.toNat_ofNat_of_lt' sides.2]
  rw [Box.Accepted] at accepted
  omega

theorem size_eq_of_smallest {other : List MonitorInfo} (same : ∀ box, Smallest other box ↔ Smallest monitors box) :
    totalDisplaySize other = totalDisplaySize monitors := by
  rcases monitors.eq_nil_or_concat' with rfl | ⟨start, last, rfl⟩
  · rcases other.eq_nil_or_concat' with rfl | ⟨start, last, rfl⟩
    · rfl
    · obtain ⟨box, smallest⟩ := exists_smallest (by simp : start ++ [last] ≠ [])
      exact absurd ((same box).mp smallest) not_smallest_nil
  · obtain ⟨box, smallest⟩ := exists_smallest (by simp : start ++ [last] ≠ [])
    rw [totalDisplaySize_smallest smallest, totalDisplaySize_smallest ((same box).mpr smallest)]

/-- The size is that of the smallest box, whatever the order of the monitors. -/
theorem totalDisplaySize_exact (monitors : List MonitorInfo) :
    (∀ w h, totalDisplaySize monitors = some (w, h) ↔ monitors ≠ [] ∧ ∃ box, Smallest monitors box ∧ box.Accepted ∧
        (w.toNat : ℤ) = box.width ∧ (h.toNat : ℤ) = box.height) ∧
      (totalDisplaySize monitors = none ↔ ¬ (monitors ≠ [] ∧ ∃ box, Smallest monitors box ∧ box.Accepted)) ∧
      (∀ other, other.Perm monitors → totalDisplaySize other = totalDisplaySize monitors) ∧
      NoOverflow monitors := by
  have some_iff' (w h : UInt32) : totalDisplaySize monitors = some (w, h) ↔ monitors ≠ [] ∧ ∃ box, Smallest monitors box ∧
      box.Accepted ∧ (w.toNat : ℤ) = box.width ∧ (h.toNat : ℤ) = box.height := by
    constructor
    · intro reported
      have present : monitors ≠ [] := by
        rintro rfl
        cases reported
      obtain ⟨box, smallest⟩ := exists_smallest present
      exact ⟨present, box, smallest, (some_iff smallest).mp reported⟩
    · rintro ⟨-, box, smallest, size⟩
      exact (some_iff smallest).mpr size
  refine ⟨some_iff', ?_, ?_, noOverflow monitors⟩
  · rw [Option.eq_none_iff_forall_ne_some, iff_comm, not_iff_comm, not_forall]
    constructor
    · rintro ⟨⟨w, h⟩, reported⟩
      obtain ⟨present, box, smallest, accepted, -⟩ := (some_iff' w h).mp (not_not.mp reported)
      exact ⟨present, box, smallest, accepted⟩
    · rintro ⟨-, box, smallest, accepted⟩
      obtain ⟨w, h, reported⟩ := exists_size smallest accepted
      exact ⟨(w, h), not_not.mpr reported⟩
  · intro other same
    apply size_eq_of_smallest
    intro box
    exact smallest_perm same

/-! ### The containing monitor -/

/-- The right and the lower edge belong to the next monitor. -/
def area (monitor : MonitorInfo) : Set (ℤ × ℤ) :=
  Set.Ico (left monitor) (right monitor) ×ˢ Set.Ico (top monitor) (bottom monitor)

/-- The first monitor of the list with a property, and its index. -/
structure First (chosen : MonitorInfo → Prop) (monitors : List MonitorInfo) (index : ℕ) (monitor : MonitorInfo) : Prop where
  listed : monitors[index]? = some monitor
  holds : chosen monitor
  earlier : ∀ other ∈ monitors.take index, ¬ chosen other

variable {chosen : MonitorInfo → Prop} [DecidablePred chosen] {index : ℕ} {x y : Int32}

theorem find_iff : monitors.zipIdx.find? (fun entry => decide (chosen entry.1)) = some (monitor, index) ↔
    First chosen monitors index monitor := by
  rw [List.find?_eq_some_iff_getElem]
  constructor
  · rintro ⟨holds, place, inside, found, earlier⟩
    rw [List.getElem_zipIdx, Prod.mk.injEq, Nat.zero_add] at found
    obtain ⟨rfl, rfl⟩ := found
    have inside' : place < monitors.length := by simpa using inside
    refine ⟨List.getElem?_eq_getElem inside', of_decide_eq_true holds, ?_⟩
    intro other member
    obtain ⟨before, below, rfl⟩ := List.mem_take_iff_getElem.mp member
    have failed := earlier before (by omega)
    simpa using failed
  · rintro ⟨listed, holds, earlier⟩
    obtain ⟨inside, rfl⟩ := List.getElem?_eq_some_iff.mp listed
    refine ⟨decide_eq_true holds, index, by simpa using inside, by simp, ?_⟩
    intro before below
    have failed := earlier monitors[before] (List.mem_take_iff_getElem.mpr ⟨before, by omega, rfl⟩)
    simpa using failed

variable (chosen) in
theorem find_none_iff : monitors.zipIdx.find? (fun entry => decide (chosen entry.1)) = none ↔ ∀ monitor ∈ monitors, ¬ chosen monitor := by
  simp only [List.find?_eq_none, decide_eq_true_eq]
  constructor
  · intro none monitor member
    obtain ⟨place, inside, rfl⟩ := List.mem_iff_getElem.mp member
    exact none (monitors[place], place) (List.mk_mem_zipIdx_iff_getElem?.mpr (List.getElem?_eq_getElem inside))
  · intro none entry member
    exact none entry.1 (List.fst_mem_of_mem_zipIdx member)

instance (x y : Int32) : DecidablePred fun monitor => (x.toInt, y.toInt) ∈ area monitor := fun monitor =>
  decidable_of_iff (x.toInt ≥ left monitor ∧ x.toInt < right monitor ∧ y.toInt ≥ top monitor ∧ y.toInt < bottom monitor)
    (by simp [area, and_assoc])

theorem monitorRelativePosition_eq (monitors : List MonitorInfo) (x y : Int32) : monitorRelativePosition monitors x y =
    (monitors.zipIdx.find? fun entry => decide ((x.toInt, y.toInt) ∈ area entry.1)).map
      fun entry => (entry.2, x - entry.1.geometry.1, y - entry.1.geometry.2.1) := by
  rw [monitorRelativePosition]
  congr 2
  funext entry
  simp only [area, Set.mem_prod, Set.mem_Ico, and_assoc]
  rfl

theorem monitorRelativePosition_some_iff {position : ℕ × Int32 × Int32} : monitorRelativePosition monitors x y = some position ↔
    ∃ index monitor, First (fun monitor => (x.toInt, y.toInt) ∈ area monitor) monitors index monitor ∧
      position = (index, x - monitor.geometry.1, y - monitor.geometry.2.1) := by
  rw [monitorRelativePosition_eq, Option.map_eq_some_iff]
  constructor
  · rintro ⟨⟨monitor, index⟩, found, rfl⟩
    exact ⟨index, monitor, find_iff.mp found, rfl⟩
  · rintro ⟨index, monitor, first, rfl⟩
    exact ⟨(monitor, index), find_iff.mpr first, rfl⟩

theorem monitorRelativePosition_none_iff :
    monitorRelativePosition monitors x y = none ↔ ∀ monitor ∈ monitors, (x.toInt, y.toInt) ∉ area monitor := by
  rw [monitorRelativePosition_eq, Option.map_eq_none_iff]
  exact find_none_iff fun monitor => (x.toInt, y.toInt) ∈ area monitor

/-! ### The packets that name a monitor -/

/-- A packet with an absolute point and, next to it, a monitor descriptor. -/
inductive Carries (x y : ℤ) (monitor : Json) : Json → Prop where
  | motion (device sequence wid : Json) : Carries x y monitor (.array ["pointer-motion", device, sequence, wid,
      .array [.number x, .number y], .object [("monitor", monitor)]])
  | button (device sequence wid button pressed : Json) : Carries x y monitor (.array ["pointer-button", device, sequence,
      wid, button, pressed, .array [.number x, .number y], .object [("monitor", monitor)]])
  | map (wid w h properties state : Json) : Carries x y monitor (.array ["window-map", wid, .number x, .number y, w, h,
      properties, state, monitor])
  | configure (wid w h : Json) : Carries x y monitor (.array ["window-configure", wid,
      .object [("geometry", .array [.number x, .number y, w, h]), ("monitor", monitor)]])

/-- The server adds the position to the corner of the monitor with that index, and comes
to the absolute point. -/
def Resolves (monitors : List MonitorInfo) (x y : ℤ) (descriptor : Json) : Prop :=
  ∃ index monitor, ∃ dx dy : ℤ, descriptor = .object [("index", .number (index : ℕ)), ("position", .array [.number dx, .number dy])] ∧
    monitors[index]? = some monitor ∧ left monitor + dx = x ∧ top monitor + dy = y

def Exact (monitors : List MonitorInfo) (packet : Json) : Prop :=
  ∀ x y descriptor, Carries x y descriptor packet → Resolves monitors x y descriptor

/-- The packets that the client places something with. -/
inductive Placement where
  | motion
  | button (number : Int) (pressed : Bool)
  | map (w h : UInt32)
  | configure (w h : UInt32)

variable (host : Host) (env : Env) (client : XpraClient) (wid : UInt64)

def Placement.send (placement : Placement) (x y : Int32) : XpraClient :=
  match placement with
  | .motion => sendPointerPosition host client wid x y
  | .button number pressed => sendPointerButton host client wid number pressed x y
  | .map w h => sendWindowMap host env client wid x y w h
  | .configure w h => sendWindowConfigure host env client wid x y w h

/-- The geometry of the monitor that a known window is on. -/
def CurrentMonitor (geometry : Int32 × Int32 × UInt32 × UInt32) : Prop :=
  (client.windows wid).isSome ∧ env.currentMonitor = some geometry

/-- The client has announced the monitor that the window is on. -/
def OnMonitor (index : ℕ) (monitor : MonitorInfo) : Prop :=
  ∃ geometry, CurrentMonitor env client wid geometry ∧ First (fun monitor => monitor.geometry = geometry) client.monitors index monitor

/-- The monitor that a packet names. For a window its own monitor comes before the one
that contains the point. -/
def Placement.Names (placement : Placement) (x y : Int32) (index : ℕ) (monitor : MonitorInfo) : Prop :=
  let containing := First (fun monitor => (x.toInt, y.toInt) ∈ area monitor) client.monitors index monitor
  match placement with
  | .motion | .button _ _ => containing
  | .map _ _ | .configure _ _ =>
    OnMonitor env client wid index monitor ∨ (∀ index monitor, ¬ OnMonitor env client wid index monitor) ∧ containing

/-- What the source looks up for a window before it looks for the point. -/
def current : Option (MonitorInfo × ℕ) := (client.windows wid).bind fun _ => env.currentMonitor.bind fun geometry =>
  client.monitors.zipIdx.find? fun entry => entry.1.geometry = geometry

/-- The offset from the corner of the monitor is within 32 bits. -/
def Within (monitor : MonitorInfo) (x y : Int32) : Prop :=
  (-2 ^ 31 ≤ x.toInt - left monitor ∧ x.toInt - left monitor < 2 ^ 31) ∧
    -2 ^ 31 ≤ y.toInt - top monitor ∧ y.toInt - top monitor < 2 ^ 31

theorem sub_exact_iff (number corner : Int32) : corner.toInt + (number - corner).toInt = number.toInt ↔
    -2 ^ 31 ≤ number.toInt - corner.toInt ∧ number.toInt - corner.toInt < 2 ^ 31 := by
  have wrapped : (number - corner).toInt = (number.toInt - corner.toInt).bmod (2 ^ 32) := Int32.toInt_sub _ _
  constructor
  · intro exact'
    have low := (number - corner).le_toInt
    have high := (number - corner).toInt_lt
    omega
  · rintro ⟨low, high⟩
    rw [wrapped, Int.bmod_eq_of_le (by omega) (by omega)]
    omega

variable {client} {monitor : MonitorInfo}

theorem resolves_descriptor (listed : client.monitors[index]? = some monitor) :
    Resolves client.monitors x.toInt y.toInt (descriptor index (x - monitor.geometry.1) (y - monitor.geometry.2.1)) ↔
      Within monitor x y := by
  rw [Within, left, top, ← sub_exact_iff, ← sub_exact_iff]
  constructor
  · rintro ⟨other, named, dx, dy, same, present, across, down⟩
    simp only [descriptor, Json.object.injEq, List.cons.injEq, Prod.mk.injEq, true_and, Json.number.injEq, Nat.cast_inj,
      Json.array.injEq, and_true] at same
    obtain ⟨rfl, rfl, rfl⟩ := same
    obtain rfl := Option.some.inj (listed.symm.trans present)
    exact ⟨across, down⟩
  · rintro ⟨across, down⟩
    exact ⟨index, monitor, _, _, rfl, listed, across, down⟩

theorem monitorDescriptor_iff {named : Json} : monitorDescriptor client x y = some named ↔
    ∃ index monitor, First (fun monitor => (x.toInt, y.toInt) ∈ area monitor) client.monitors index monitor ∧
      named = descriptor index (x - monitor.geometry.1) (y - monitor.geometry.2.1) := by
  simp only [monitorDescriptor, Option.map_eq_some_iff, monitorRelativePosition_some_iff]
  constructor
  · rintro ⟨position, ⟨index, monitor, first, rfl⟩, rfl⟩
    exact ⟨index, monitor, first, rfl⟩
  · rintro ⟨index, monitor, first, rfl⟩
    exact ⟨_, ⟨index, monitor, first, rfl⟩, rfl⟩

variable {env wid}

theorem current_iff : current env client wid = some (monitor, index) ↔ OnMonitor env client wid index monitor := by
  simp only [current, OnMonitor, CurrentMonitor, Option.bind_eq_some_iff, Option.isSome_iff_exists]
  constructor
  · rintro ⟨window, known, geometry, reported, found⟩
    exact ⟨geometry, ⟨⟨window, known⟩, reported⟩, find_iff.mp found⟩
  · rintro ⟨geometry, ⟨⟨window, known⟩, reported⟩, first⟩
    exact ⟨window, known, geometry, reported, find_iff.mpr first⟩

theorem current_none_iff : current env client wid = none ↔ ∀ index monitor, ¬ OnMonitor env client wid index monitor := by
  simp only [Option.eq_none_iff_forall_ne_some, Prod.forall, Ne, current_iff]
  exact forall_comm

theorem windowMonitorDescriptor_current (found : current env client wid = some (monitor, index)) :
    windowMonitorDescriptor env client wid x y =
      some (descriptor index (x - monitor.geometry.1) (y - monitor.geometry.2.1)) := by
  rw [current] at found
  rw [windowMonitorDescriptor]
  simp only [found]

theorem windowMonitorDescriptor_elsewhere (nowhere : current env client wid = none) :
    windowMonitorDescriptor env client wid x y = monitorDescriptor client x y := by
  rw [current] at nowhere
  rw [windowMonitorDescriptor]
  simp only [nowhere]

theorem windowMonitorDescriptor_iff {named : Json} : windowMonitorDescriptor env client wid x y = some named ↔
    ∃ index monitor, (OnMonitor env client wid index monitor ∨ (∀ index monitor, ¬ OnMonitor env client wid index monitor) ∧
        First (fun monitor => (x.toInt, y.toInt) ∈ area monitor) client.monitors index monitor) ∧
      named = descriptor index (x - monitor.geometry.1) (y - monitor.geometry.2.1) := by
  cases found : current env client wid with
  | none =>
    rw [windowMonitorDescriptor_elsewhere found]
    have nowhere := current_none_iff.mp found
    simp only [nowhere, false_or, not_false_eq_true, implies_true, true_and, monitorDescriptor_iff]
  | some entry =>
    obtain ⟨monitor, index⟩ := entry
    rw [windowMonitorDescriptor_current found]
    have on := current_iff.mp found
    have only {other : ℕ} {screen : MonitorInfo} (also : OnMonitor env client wid other screen) : other = index ∧ screen = monitor := by
      have same := (current_iff.mpr also).symm.trans found
      simp only [Option.some.injEq, Prod.mk.injEq] at same
      exact same.symm
    constructor
    · intro same
      exact ⟨index, monitor, .inl on, (Option.some.inj same).symm⟩
    · rintro ⟨other, screen, also | ⟨nowhere, -⟩, rfl⟩
      · obtain ⟨rfl, rfl⟩ := only also
        rfl
      · exact absurd on (nowhere index monitor)

/-- The descriptor that the source looks up for each packet. -/
def Placement.descriptor? (placement : Placement) (env : Env) (client : XpraClient) (wid : UInt64) (x y : Int32) : Option Json :=
  match placement with
  | .motion | .button _ _ => monitorDescriptor client x y
  | .map _ _ | .configure _ _ => windowMonitorDescriptor env client wid x y

theorem descriptor?_iff {placement : Placement} {named : Json} : placement.descriptor? env client wid x y = some named ↔
    ∃ index monitor, placement.Names env client wid x y index monitor ∧
      named = descriptor index (x - monitor.geometry.1) (y - monitor.geometry.2.1) := by
  cases placement with
  | motion => exact monitorDescriptor_iff
  | button number pressed => exact monitorDescriptor_iff
  | map w h => exact windowMonitorDescriptor_iff
  | configure w h => exact windowMonitorDescriptor_iff

theorem carries_iff {x y : ℤ} {monitor packet : Json} : Carries x y monitor packet ↔
    (∃ device sequence wid, packet = .array ["pointer-motion", device, sequence, wid, .array [.number x, .number y],
      .object [("monitor", monitor)]]) ∨
    (∃ device sequence wid button pressed, packet = .array ["pointer-button", device, sequence, wid, button, pressed,
      .array [.number x, .number y], .object [("monitor", monitor)]]) ∨
    (∃ wid w h properties state, packet = .array ["window-map", wid, .number x, .number y, w, h, properties, state, monitor]) ∨
    ∃ wid w h, packet = .array ["window-configure", wid,
      .object [("geometry", .array [.number x, .number y, w, h]), ("monitor", monitor)]] := by
  constructor
  · intro carries
    cases carries with
    | motion device sequence wid => exact .inl ⟨device, sequence, wid, rfl⟩
    | button device sequence wid button pressed => exact .inr (.inl ⟨device, sequence, wid, button, pressed, rfl⟩)
    | map wid w h properties state => exact .inr (.inr (.inl ⟨wid, w, h, properties, state, rfl⟩))
    | configure wid w h => exact .inr (.inr (.inr ⟨wid, w, h, rfl⟩))
  · rintro (⟨device, sequence, wid, rfl⟩ | ⟨device, sequence, wid, button, pressed, rfl⟩ | ⟨wid, w, h, properties, state, rfl⟩ |
      ⟨wid, w, h, rfl⟩)
    · exact .motion device sequence wid
    · exact .button device sequence wid button pressed
    · exact .map wid w h properties state
    · exact .configure wid w h

/-- A packet carries the point it was sent for, and the descriptor if there is one. -/
theorem send_carries (host : Host) (env : Env) (client : XpraClient) (wid : UInt64) (placement : Placement) (x y : Int32) :
    ∃ packet, placement.send host env client wid x y = client.writeJson host packet ∧
      ∀ x' y' named, Carries x' y' named packet ↔
        x.toInt = x' ∧ y.toInt = y' ∧ placement.descriptor? env client wid x y = some named := by
  cases placement with
  | motion =>
    refine ⟨_, rfl, ?_⟩
    intro x' y' named
    rw [carries_iff, pointerProps, Placement.descriptor?]
    cases monitorDescriptor client x y <;> simp [and_assoc]
  | button number pressed =>
    refine ⟨_, rfl, ?_⟩
    intro x' y' named
    rw [carries_iff, pointerProps, Placement.descriptor?]
    cases monitorDescriptor client x y <;> simp [and_assoc]
  | map w h =>
    refine ⟨_, rfl, ?_⟩
    intro x' y' named
    rw [carries_iff, Placement.descriptor?]
    cases windowMonitorDescriptor env client wid x y <;> simp
  | configure w h =>
    refine ⟨_, rfl, ?_⟩
    intro x' y' named
    rw [carries_iff, Placement.descriptor?]
    cases windowMonitorDescriptor env client wid x y <;> simp [and_assoc]

/-- The lookup answers with the first monitor that contains the point. -/
def Lookup (monitors : List MonitorInfo) (x y : Int32) : Prop :=
  ((monitorRelativePosition monitors x y).isSome ↔ ∃ monitor ∈ monitors, (x.toInt, y.toInt) ∈ area monitor) ∧
    ∀ index dx dy, monitorRelativePosition monitors x y = some (index, dx, dy) →
      ∃ monitor, First (fun monitor => (x.toInt, y.toInt) ∈ area monitor) monitors index monitor

theorem lookup (monitors : List MonitorInfo) (x y : Int32) : Lookup monitors x y := by
  constructor
  · rw [Option.isSome_iff_ne_none, Ne, monitorRelativePosition_none_iff]
    push Not
    rfl
  · intro index dx dy found
    obtain ⟨other, monitor, first, same⟩ := monitorRelativePosition_some_iff.mp found
    rw [Prod.mk.injEq] at same
    rw [same.1]
    exact ⟨monitor, first⟩

theorem Placement.Names.listed {placement : Placement} (named : placement.Names env client wid x y index monitor) :
    client.monitors[index]? = some monitor := by
  have window (named : OnMonitor env client wid index monitor ∨ (∀ index monitor, ¬ OnMonitor env client wid index monitor) ∧
      First (fun monitor => (x.toInt, y.toInt) ∈ area monitor) client.monitors index monitor) :
      client.monitors[index]? = some monitor := by
    rcases named with ⟨geometry, -, first⟩ | ⟨-, first⟩
    · exact first.listed
    · exact first.listed
  cases placement with
  | motion => exact First.listed named
  | button number pressed => exact First.listed named
  | map w h => exact window named
  | configure w h => exact window named

/-- The offset is taken in 32 bits. -/
theorem placement_exact_iff (host : Host) (env : Env) (client : XpraClient) (wid : UInt64) (placement : Placement) (x y : Int32) :
    (Lookup client.monitors x y ∧
      ∀ packet, (placement.send host env client wid x y).sent = client.sent ++ [packet] → Exact client.monitors packet) ↔
    client.exitCode.isSome ∨ ∀ index monitor, placement.Names env client wid x y index monitor → Within monitor x y := by
  obtain ⟨packet, sent, carries⟩ := send_carries host env client wid placement x y
  have exact_iff : Exact client.monitors packet ↔
      ∀ index monitor, placement.Names env client wid x y index monitor → Within monitor x y := by
    constructor
    · intro exact' index monitor named
      have carried := (carries _ _ _).mpr ⟨rfl, rfl, descriptor?_iff.mpr ⟨index, monitor, named, rfl⟩⟩
      exact (resolves_descriptor named.listed).mp (exact' _ _ _ carried)
    · intro within x' y' named carried
      obtain ⟨rfl, rfl, found⟩ := (carries _ _ _).mp carried
      obtain ⟨index, monitor, names, rfl⟩ := descriptor?_iff.mp found
      exact (resolves_descriptor names.listed).mpr (within index monitor names)
  rw [and_iff_right (lookup _ _ _), sent]
  rcases Handlers.writeJson_cases host client.toLink packet with ⟨out, same⟩ | ⟨running, handed, -⟩
  · constructor
    · intro _
      exact .inl out
    · intro _ other grown
      have unchanged : (client.writeJson host packet).sent = client.sent := congrArg Link.sent same
      rw [unchanged] at grown
      simp at grown
  · have handed : (client.writeJson host packet).sent = client.sent ++ [packet] := handed
    rw [running, handed, ← exact_iff]
    simp

/-- A client with one monitor, of which most points are further from the left edge than
an offset can say. -/
def wideClient : XpraClient :=
  { XpraClient.new { outcome := fun _ => .written } none none none none with
    monitors := [⟨"", true, (-2147483648, 0, 4294967295, 1080), none⟩] }

theorem wide_monitor_not_exact : ¬ (Lookup wideClient.monitors 100 0 ∧
    ∀ packet, (Placement.motion.send Host.plain {} wideClient 1 100 0).sent = wideClient.sent ++ [packet] →
      Exact wideClient.monitors packet) := by
  rintro ⟨-, all⟩
  have wide : First (fun monitor => ((100 : Int32).toInt, (0 : Int32).toInt) ∈ area monitor) wideClient.monitors 0
      ⟨"", true, (-2147483648, 0, 4294967295, 1080), none⟩ := by
    refine ⟨rfl, by decide, ?_⟩
    intro other member
    cases member
  have resolved := all _ rfl _ _ _ (.motion _ _ _)
  have within := (resolves_descriptor wide.listed).mp resolved
  have far : ¬ ((100 : Int32).toInt - (-2147483648 : Int32).toInt < 2 ^ 31) := by decide
  exact far within.1.2

end Xpra.Proofs.Monitors
