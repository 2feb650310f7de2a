import Xpra.Library.Watermark
import Xpra.Proofs.DrawAck
import Xpra.Proofs.MmapHandshake
import Xpra.Proofs.MmapRing

/-! The client and a server that share an area. The server takes space back as far as
`data_start` has come and knows nothing else of the client; what it wrote for a draw is then
still there when the decode thread gets to it. -/

namespace Xpra.Proofs.MmapPeers
open Xpra.Net Xpra.Client Library Handlers DrawSteps MmapRelease MmapHandshake MmapRing
open Watermark (Tracks reclaim)

variable {host : Host}

/-! ### What a draw reads -/

/-- The two areas are alike in the chunks. -/
structure Alike (chunks : List (Nat × Nat)) (area other : Memory) : Prop where
  size : other.size = area.size
  bytes : ∀ chunk ∈ chunks, ∀ index, HEADER_SIZE ≤ index → chunk.1 ≤ index → index < chunk.1 + chunk.2 →
    other.byte index = area.byte index

theorem Alike.tail {chunk : Nat × Nat} {chunks : List (Nat × Nat)} {area other : Memory} (alike : Alike (chunk :: chunks) area other) :
    Alike chunks area other :=
  ⟨alike.size, fun one member => alike.bytes one (List.mem_cons_of_mem _ member)⟩

section Reading

variable {area other : Memory} {chunks : List (Nat × Nat)}

theorem slice_alike (alike : Alike chunks area other) {chunk : Nat × Nat} (member : chunk ∈ chunks) (inside : InRange area chunk)
    {start count : Nat} (first : chunk.1 ≤ start) (last : start + count ≤ chunk.1 + chunk.2) :
    other.slice start count = area.slice start count := by
  rw [Memory.slice, Memory.slice]
  refine List.map_congr_left fun i below => ?_
  rw [List.mem_range] at below
  have ring := inside.1
  exact alike.bytes chunk member (start + i) (by omega) (by omega) (by omega)

theorem copyLogical_alike (sized : area.size ≤ MAX_SIZE) (alike : Alike chunks area other)
    (inside : ∀ chunk ∈ chunks, InRange area chunk) (skip written : Nat) (dst : Bytes) :
    copyLogical other chunks skip dst written = copyLogical area chunks skip dst written := by
  induction chunks generalizing skip written dst with
  | nil => rfl
  | cons chunk chunks ih =>
    obtain ⟨offset, length⟩ := chunk
    have rest := ih alike.tail fun one member => inside one (List.mem_cons_of_mem _ member)
    rw [copyLogical, copyLogical, alike.size]
    split
    next => exact rest _ _ _
    next within =>
      have here := inside (offset, length) List.mem_cons_self
      have start : (offset + skip) % USIZE = offset + skip := by
        have ends := here.2
        simp only [MAX_SIZE, USIZE] at sized ends ⊢
        omega
      have taken : other.slice ((offset + skip) % USIZE) (min (length - skip) (dst.length - written)) =
          area.slice ((offset + skip) % USIZE) (min (length - skip) (dst.length - written)) := by
        rw [start]
        exact slice_alike alike List.mem_cons_self here (Nat.le_add_right ..) (by dsimp only; omega)
      simp only [taken, rest]

theorem copyRows_alike (sized : area.size ≤ MAX_SIZE) (alike : Alike chunks area other)
    (inside : ∀ chunk ∈ chunks, InRange area chunk) (widthBytes stride : Nat) (out : Bytes) (rows : List Nat) :
    copyRows other chunks widthBytes stride out rows = copyRows area chunks widthBytes stride out rows := by
  simp only [copyRows, copyLogical_alike sized alike inside]

theorem countAvailable_alike (same : other.size = area.size) (available : Nat) :
    countAvailable other chunks available = countAvailable area chunks available := by
  induction chunks generalizing available with
  | nil => rfl
  | cons chunk chunks ih => simp only [countAvailable, same, ih]

theorem destride_alike (sized : area.size ≤ MAX_SIZE) (alike : Alike chunks area other) (w h rowstride : Nat) :
    destride other chunks w h rowstride = destride area chunks w h rowstride := by
  simp only [destride, countAvailable_alike alike.size]
  cases counted : countAvailable area chunks 0 with
  | error message => rfl
  | ok available =>
    have inside := ((countAvailable_ok sized 0 available (by decide)).mp counted).1
    simp only [copyRows_alike sized alike inside]

end Reading

/-- The pixels of a draw from the area, or why there are none. -/
def pixelsOf (host : Host) (area : Option MmapArea) (packet : Packet) : Option Decoded :=
  match decodeTurn host {} area packet with
  | .ok (result, _) => result
  | .error _ => none

def chunksOf (host : Host) (packet : Packet) : List (Nat × Nat) :=
  match mmapChunks host packet with
  | .ok chunks => chunks
  | .error _ => []

/-- The decode thread takes the packet for a draw from the area. -/
def fromArea (packet : Packet) : Bool := !endsStream packet && yamlStr (packet.get 6) = "mmap"

section Decoding

variable {env : DecodeEnv} {packet : Packet} {area other : MmapArea} {held left : Option MmapArea} {result : Option Decoded}

theorem fromArea_iff : fromArea packet = true ↔ endsStream packet = false ∧ yamlStr (packet.get 6) = "mmap" := by
  simp [fromArea]

theorem decodeTurn_pixels (reads : fromArea packet = true) (turned : decodeTurn host env held packet = .ok (result, left)) :
    result = pixelsOf host held packet := by
  obtain ⟨drawn, coding⟩ := fromArea_iff.mp reads
  have long := decodeTurn_len drawn coding turned
  have alike : decodeTurn host {} held packet = decodeTurn host env held packet := by
    rw [decodeTurn_mmap drawn coding long, decodeTurn_mmap drawn coding long]
  rw [pixelsOf, alike, turned]

/-- Moving the word at its front is all that a draw does to the area. -/
theorem decodeTurn_settles (reads : fromArea packet = true) (turned : decodeTurn host env (some area) packet = .ok (result, left)) :
    ∃ after, left = some after ∧ after.memory = settle host area.memory (drawEnd host packet).toList := by
  obtain ⟨drawn, coding⟩ := fromArea_iff.mp reads
  rw [decodeTurn_mmap drawn coding (decodeTurn_len drawn coding turned)] at turned
  obtain ⟨⟨pixels, after⟩, read, same⟩ := map_ok turned
  cases same
  exact ⟨after, rfl, (readMmapDraw_ok read).2⟩

theorem decodeTurn_aside (other : fromArea packet = false) (turned : decodeTurn host env held packet = .ok (result, left)) : left = held := by
  cases ends : endsStream packet with
  | true => exact (decodeTurn_none ends turned).2
  | false =>
    have coding : yamlStr (packet.get 6) ≠ "mmap" := by simpa [fromArea, ends] using other
    exact decodeTurn_unmapped ends coding turned

theorem readMmapDraw_alike (alike : Alike (chunksOf host packet) area.memory other.memory) :
    Prod.fst <$> readMmapDraw host packet other = Prod.fst <$> readMmapDraw host packet area := by
  rw [readMmapDraw, readMmapDraw]
  cases parsed : mmapChunks host packet with
  | error message => rfl
  | ok chunks =>
    rw [chunksOf, parsed] at alike
    have same : readMmapPixels host packet other chunks = readMmapPixels host packet area chunks := by
      simp only [readMmapPixels, MmapArea.readImage, destride_alike area.upper alike]
    dsimp only
    rw [same]
    cases readMmapPixels host packet area chunks <;> rfl

theorem pixelsOf_alike (reads : fromArea packet = true) (alike : Alike (chunksOf host packet) area.memory other.memory) :
    pixelsOf host (some other) packet = pixelsOf host (some area) packet := by
  obtain ⟨drawn, coding⟩ := fromArea_iff.mp reads
  by_cases long : 9 ≤ packet.len
  · have same := readMmapDraw_alike alike
    simp only [pixelsOf, decodeTurn_mmap drawn coding long]
    cases one : readMmapDraw host packet area <;> cases two : readMmapDraw host packet other <;>
      simp_all [Functor.map, Except.map]
  · have short (held : Option MmapArea) : pixelsOf host held packet = none := by
      rw [pixelsOf]
      split
      next turned => exact absurd (decodeTurn_len drawn coding turned) long
      next => rfl
    rw [short, short]

end Decoding

/-! ### The peers -/

/-- A draw whose pixels are in the area. -/
def sharedDraw (host : Host) (packet : Packet) : Bool := kindOf host packet = .draw && yamlStr (packet.get 6) = "mmap"

theorem fromArea_of_shared {packet : Packet} (shared : sharedDraw host packet = true) : fromArea packet = true := by
  simp only [sharedDraw, Bool.and_eq_true, decide_eq_true_eq] at shared
  have type : yamlStr (packet.get 0) = "draw" := by
    simpa [windowsPacketTypes, packetTypes] using listed_of_kind shared.1 (by decide)
  simp [fromArea, endsStream, type, shared.2]

/-- Where the draw ends in the ring. -/
def endOf (host : Host) (packet : Packet) : Nat := (drawEnd host packet).getD 0

def ended (host : Host) (packet : Packet) : Bool := (drawEnd host packet).isSome

def drawsOf (host : Host) (raw : RawPacket) : List Packet :=
  match parsePacket host raw with
  | .ok packet => if sharedDraw host packet then [packet] else []
  | .error _ => []

structure Peers where
  system : System
  /-- What the server sent and the reader has not read yet. -/
  wire : List RawPacket := []
  /-- `data_start` as the server has seen it last. -/
  known : Nat
  /-- The draws whose space the server does not use again yet. -/
  outstanding : List Packet := []

inductive PeerEvent where
  /-- The server writes a byte, sends a packet or looks at `data_start`. -/
  | writes (index : Nat) (byte : UInt8)
  | sends (raw : RawPacket)
  | looks
  /-- The reader gets the next packet. -/
  | arrives
  | client (event : Event)

namespace Peers

variable (peers : Peers)

def word (host : Host) (system : System) : Nat := (system.client.area.map fun area => dataStart host area.memory).getD 0

/-- The server neither writes to `data_start` nor to the space of a draw that may be read. -/
def MayWrite (host : Host) (index : Nat) : Prop :=
  4 ≤ index ∧ ∀ draw ∈ peers.outstanding, ∀ chunk ∈ chunksOf host draw, ¬ (chunk.1 ≤ index ∧ index < chunk.1 + chunk.2)

/-- A full ring would look like an empty one, so no draw ends where another one does. -/
def MaySend (host : Host) (raw : RawPacket) : Prop :=
  ∀ draw ∈ (drawsOf host raw).filter (ended host), endOf host draw ∉ peers.known :: peers.outstanding.map (endOf host)

instance (host : Host) (index : Nat) : Decidable (peers.MayWrite host index) := inferInstanceAs (Decidable (_ ∧ _))

instance (host : Host) (raw : RawPacket) : Decidable (peers.MaySend host raw) :=
  inferInstanceAs (Decidable (∀ draw ∈ (drawsOf host raw).filter (ended host), endOf host draw ∉ peers.known :: peers.outstanding.map (endOf host)))

def step (host : Host) (event : PeerEvent) (peers : Peers) : Except Stop Peers :=
  match event with
  | .writes index byte =>
    if peers.MayWrite host index then (fun system => { peers with system }) <$> peers.system.serverWrites index byte
    else .error .blocked
  | .sends raw =>
    if peers.MaySend host raw then .ok { peers with
      wire := peers.wire ++ [raw]
      outstanding := peers.outstanding ++ (drawsOf host raw).filter (ended host) }
    else .error .blocked
  | .looks => .ok { peers with
      known := word host peers.system
      outstanding := reclaim (endOf host) (word host peers.system) peers.outstanding }
  | .arrives => match peers.wire with
    | [] => .error .blocked
    | raw :: wire => (fun system => { peers with system, wire }) <$> peers.system.receive host (.ok raw)
  | .client event => match event with
    | .receive (.ok _) | .serverWrites _ _ => .error .blocked
    | event => (fun system => { peers with system }) <$> System.step host event peers.system

end Peers

/-- The pixels of a draw as they are when it is sent, and as the decode thread reads them. -/
inductive Sight where
  | sent (pixels : Option Decoded)
  | read (pixels : Option Decoded)

def sight (host : Host) (event : PeerEvent) (peers : Peers) : List Sight :=
  match event with
  | .sends raw => (drawsOf host raw).map fun draw => .sent (pixelsOf host peers.system.client.area draw)
  | .client (.decode env) => match peers.system.client.decodeSender.head? with
    | some packet =>
      if fromArea packet then match decodeTurn host env peers.system.client.area packet with
        | .ok (result, _) => [.read result]
        | .error _ => []
      else []
    | none => []
  | _ => []

def sentOf (sights : List Sight) : List (Option Decoded) :=
  sights.filterMap fun sight => match sight with
    | .sent pixels => some pixels
    | .read _ => none

def readOf (sights : List Sight) : List (Option Decoded) :=
  sights.filterMap fun sight => match sight with
    | .sent _ => none
    | .read pixels => some pixels

/-! ### The client's part -/

variable {client next : XpraClient} {system after : System} {env : Env}

/-- The draws that the client has and has not read yet. -/
def inHand (host : Host) (client : XpraClient) : List Packet :=
  client.decodeSender.filter fromArea ++ client.proxy.filter (sharedDraw host)

def memoryOf (client : XpraClient) : Option Memory := client.area.map MmapArea.memory

/-- Neither the draws nor the area are touched. -/
structure Untouched (host : Host) (client next : XpraClient) : Prop where
  draws : inHand host next = inHand host client
  memory : memoryOf next = memoryOf client

theorem not_shared {packet : Packet} (kind : kindOf host packet ∉ drawKinds) : sharedDraw host packet = false := by
  have other : kindOf host packet ≠ .draw := fun same => kind (by rw [same]; decide)
  simp [sharedDraw, other]

theorem filter_losses {allowed : Json → Prop} {start link : Link} (moves : Moves host allowed start link) :
    link.proxy.filter (sharedDraw host) = start.proxy.filter (sharedDraw host) := by
  obtain ⟨lost, posted, losses, -⟩ := moves.effect.posts
  have none : lost.filter (sharedDraw host) = [] := by
    refine List.filter_eq_nil_iff.mpr fun packet member => ?_
    obtain ⟨message, rfl⟩ := losses packet member
    have quiet : kindOf host (clientPacket "connection-lost" message) ∉ drawKinds := clientPacket_kind (by decide)
    simp [not_shared quiet]
  rw [posted, List.filter_append, none, List.append_nil]

theorem Untouched.of_moves {allowed : Json → Prop} (moves : Moves host allowed client.toLink next.toLink)
    (queue : next.decodeSender.filter fromArea = client.decodeSender.filter fromArea)
    (memory : memoryOf next = memoryOf client) : Untouched host client next :=
  ⟨by rw [inHand, inHand, queue, filter_losses moves], memory⟩

theorem Untouched.trans {last : XpraClient} (first : Untouched host client next) (second : Untouched host next last) :
    Untouched host client last := ⟨second.draws.trans first.draws, second.memory.trans first.memory⟩

theorem Untouched.of_spares (spares : Spares host client next) : Untouched host client next :=
  .of_moves spares.link (by rw [spares.draws]) (by rw [memoryOf, memoryOf, spares.draws])

/-- A packet is taken that is no draw. -/
theorem Untouched.pop {packet : Packet} {rest : List Packet} (queued : client.proxy = packet :: rest)
    (other : sharedDraw host packet = false) : Untouched host client { client with proxy := rest } := by
  refine ⟨?_, rfl⟩
  rw [inHand, inHand, queued, List.filter_cons_of_neg (by simp [other])]

theorem delivered_untouched {packet : Packet} {rest : List Packet} (queued : client.proxy = packet :: rest)
    (handled : userEvent host env { client with proxy := rest } packet = .ok next) : Untouched host client next := by
  have aside (kind : kindOf host packet ≠ .draw) : Untouched host client { client with proxy := rest } :=
    .pop queued (by simp [sharedDraw, kind])
  have other {kind : Kind} (same : kindOf host packet = kind) (differs : kind ≠ .draw) : kindOf host packet ≠ .draw :=
    fun drawn => differs (same.symm.trans drawn)
  cases userEvent_handled handled with
  | spared kind _ spares =>
    have drawn : kindOf host packet ≠ .draw := fun same => kind (by rw [same]; decide)
    exact (aside drawn).trans (.of_spares spares)
  | started kind same =>
    subst same
    exact (aside (other kind (by decide))).trans ⟨rfl, rfl⟩
  | clipped kind clips =>
    have drawn : kindOf host packet ≠ .draw := by
      intro same
      rw [same] at kind
      exact absurd kind (by decide)
    exact (aside drawn).trans (.of_moves clips.link (by rw [clips.draws]) (by rw [memoryOf, memoryOf, clips.draws]))
  | logged kind logs =>
    exact (aside (other kind (by decide))).trans
      (.of_moves logs.link (by rw [logs.draws]) (by rw [memoryOf, memoryOf, logs.draws]))
  | hello kind greeted =>
    exact (aside (other kind (by decide))).trans (.of_moves greeted.link (by rw [greeted.decodeSender]) greeted.memory)
  | draw kind same =>
    subst same
    refine ⟨?_, rfl⟩
    by_cases shared : sharedDraw host packet = true
    · simp only [inHand, queued, List.filter_append, List.filter_cons, List.filter_nil, shared, fromArea_of_shared shared, if_true]
      simp
    · have reads : fromArea packet = false := by
        simp only [sharedDraw, kind, decide_true, Bool.true_and, Bool.not_eq_true] at shared
        simp [fromArea, shared]
      simp [inHand, queued, shared, reads]
  | decoded kind acknowledges | failed kind acknowledges =>
    exact (aside (other kind (by decide))).trans
      (.of_moves acknowledges.moves (by rw [acknowledges.draws]) (by rw [memoryOf, memoryOf, acknowledges.draws]))
  | ended kind ends link draws _ =>
    have drawn : kindOf host packet ≠ .draw := fun same => kind (by rw [same]; decide)
    refine (aside drawn).trans (.of_moves link ?_ (by rw [memoryOf, memoryOf, draws]))
    rw [draws]
    simp [fromArea, ends]

theorem posted_untouched {packet : Packet} (kind : kindOf host packet ∉ drawKinds) :
    Untouched host client { client with proxy := client.proxy ++ [packet] } := by
  refine ⟨?_, rfl⟩
  simp [inHand, not_shared kind]

/-! ### What holds between the peers -/

/-- The draws that are on their way to the pixels, in the order in which they are read. -/
def pending (host : Host) (peers : Peers) : List Packet := inHand host peers.system.client ++ peers.wire.flatMap (drawsOf host)

/-- The draws in `taken` have been read since the server looked at `data_start`. -/
structure Served (host : Host) (peers : Peers) (sights : List Sight) (taken : List Packet) : Prop where
  mapped : ∃ area, peers.system.client.area = some area
  reads : sentOf sights = readOf sights ++ (pending host peers).map (pixelsOf host peers.system.client.area)
  area : ∀ draw ∈ pending host peers, fromArea draw = true
  outstanding : peers.outstanding = taken ++ (pending host peers).filter (ended host)
  tracks : Tracks (endOf host) peers.known (Peers.word host peers.system) taken ((pending host peers).filter (ended host))

variable {peers later : Peers} {sights : List Sight} {taken : List Packet}

theorem pixelsOf_memory {area other : MmapArea} (same : other.memory = area.memory) {packet : Packet} (reads : fromArea packet = true) :
    pixelsOf host (some other) packet = pixelsOf host (some area) packet :=
  pixelsOf_alike reads (by rw [same]; exact ⟨rfl, fun _ _ _ _ _ _ => rfl⟩)

/-- The draws wait and the area is as it was for each of them. -/
theorem Served.keep (served : Served host peers sights taken) {area other : MmapArea} (held : peers.system.client.area = some area)
    (holds : later.system.client.area = some other) (draws : pending host later = pending host peers)
    (pixels : ∀ draw ∈ pending host peers, pixelsOf host (some other) draw = pixelsOf host (some area) draw)
    (word : dataStart host other.memory = dataStart host area.memory) (known : later.known = peers.known)
    (outstanding : later.outstanding = peers.outstanding) : Served host later sights taken := by
  have same : Peers.word host later.system = Peers.word host peers.system := by
    simp [Peers.word, held, holds, word]
  refine ⟨⟨other, holds⟩, ?_, ?_, ?_, ?_⟩
  · rw [served.reads, draws, held, holds, List.map_congr_left pixels]
  · rw [draws]
    exact served.area
  · rw [outstanding, draws, served.outstanding]
  · rw [known, draws, same]
    exact served.tracks

theorem Served.untouched (served : Served host peers sights taken) (same : Untouched host peers.system.client after.client) :
    Served host { peers with system := after } sights taken := by
  obtain ⟨area, held⟩ := served.mapped
  have memory := same.memory
  rw [memoryOf, memoryOf, held] at memory
  obtain ⟨other, holds, equal⟩ := Option.map_eq_some_iff.mp memory
  refine served.keep held holds ?_ (fun draw member => pixelsOf_memory equal (served.area draw member)) (by rw [equal]) rfl rfl
  rw [pending, pending, same.draws]

theorem endOf_of_drawEnd {packet : Packet} {stop : Nat} (found : drawEnd host packet = some stop) : endOf host packet = stop := by
  rw [endOf, found, Option.getD_some]

theorem chunksOf_of_unended {packet : Packet} (none : ended host packet = false) : chunksOf host packet = [] := by
  simp only [ended, drawEnd] at none
  rw [chunksOf]
  split
  next chunks parsed => simpa [parsed] using none
  next => rfl

theorem Served.writes (served : Served host peers sights taken) {index : Nat} {byte : UInt8} (may : peers.MayWrite host index)
    {area : MmapArea} (held : peers.system.client.area = some area) :
    Served host { peers with system := { peers.system with client := { peers.system.client with
      area := some { area with memory := area.memory.set index byte } } } } sights taken := by
  obtain ⟨behind, spared⟩ := may
  refine served.keep held rfl rfl (fun draw member => ?_) ?_ rfl rfl
  · refine pixelsOf_alike (served.area draw member) ⟨rfl, fun chunk inside i _ first last => ?_⟩
    refine if_neg fun same => ?_
    by_cases ends : ended host draw = true
    · have listed : draw ∈ peers.outstanding := by
        rw [served.outstanding]
        exact List.mem_append_right _ (List.mem_filter.mpr ⟨member, ends⟩)
      exact spared draw listed chunk inside ⟨same ▸ first, same ▸ last⟩
    · rw [chunksOf_of_unended (by simpa using ends)] at inside
      cases inside
  · have front : (area.memory.set index byte).slice 0 4 = area.memory.slice 0 4 := by
      refine List.map_congr_left fun i below => if_neg ?_
      rw [List.mem_range] at below
      omega
    rw [dataStart, dataStart, front]

theorem Served.sends (served : Served host peers sights taken) {raw : RawPacket} (may : peers.MaySend host raw) :
    Served host { peers with wire := peers.wire ++ [raw], outstanding := peers.outstanding ++ (drawsOf host raw).filter (ended host) }
      (sights ++ (drawsOf host raw).map fun draw => .sent (pixelsOf host peers.system.client.area draw)) taken := by
  have more : pending host { peers with
      wire := peers.wire ++ [raw], outstanding := peers.outstanding ++ (drawsOf host raw).filter (ended host) } =
      pending host peers ++ drawsOf host raw := by
    simp [pending, List.flatMap_append]
  refine ⟨served.mapped, ?_, ?_, ?_, ?_⟩
  · have sent : sentOf ((drawsOf host raw).map fun draw => .sent (pixelsOf host peers.system.client.area draw)) =
        (drawsOf host raw).map (pixelsOf host peers.system.client.area) := by
      simp [sentOf, List.filterMap_map]
    have read : readOf ((drawsOf host raw).map fun draw => .sent (pixelsOf host peers.system.client.area draw)) = [] := by
      simp [readOf, List.filterMap_map]
    rw [more, sentOf, readOf, List.filterMap_append, List.filterMap_append, ← sentOf, ← sentOf, ← readOf, ← readOf, sent, read,
      served.reads, List.map_append, List.append_nil, List.append_assoc]
  · rw [more]
    intro draw member
    rcases List.mem_append.mp member with before | new
    · exact served.area draw before
    · rw [drawsOf] at new
      split at new
      next packet _ =>
        split at new
        next shared =>
          cases List.mem_singleton.mp new
          exact fromArea_of_shared shared
        next => cases new
      next => cases new
  · rw [more, List.filter_append, served.outstanding, List.append_assoc]
  · rw [more, List.filter_append]
    have few : (drawsOf host raw).filter (ended host) = [] ∨ ∃ draw, (drawsOf host raw).filter (ended host) = [draw] := by
      rw [drawsOf]
      split
      next packet _ =>
        split
        next =>
          cases ends : ended host packet with
          | true => exact .inr ⟨packet, by simp [ends]⟩
          | false => exact .inl (by simp [ends])
        next => exact .inl rfl
      next => exact .inl rfl
    rw [Peers.MaySend] at may
    rcases few with none | ⟨draw, one⟩
    · simp only [none, List.append_nil]
      exact served.tracks
    · rw [one] at may ⊢
      refine served.tracks.enter ?_
      rw [← served.outstanding]
      exact may draw List.mem_cons_self

theorem Served.looks (served : Served host peers sights taken) :
    Served host { peers with
      known := Peers.word host peers.system
      outstanding := reclaim (endOf host) (Peers.word host peers.system) peers.outstanding } sights [] := by
  refine ⟨served.mapped, served.reads, served.area, ?_, served.tracks.renew⟩
  rw [served.outstanding, served.tracks.reclaimed]
  rfl

theorem Served.arrives (served : Served host peers sights taken) {raw : RawPacket} {wire : List RawPacket}
    (head : peers.wire = raw :: wire) (moved : peers.system.receive host (.ok raw) = .ok after) :
    Served host { peers with system := after, wire } sights taken := by
  obtain ⟨area, held⟩ := served.mapped
  have passes (other : after.client.area = some area) (draws : inHand host after.client = inHand host peers.system.client ++ drawsOf host raw) :
      Served host { peers with system := after, wire } sights taken := by
    refine served.keep held other ?_ (fun _ _ => rfl) rfl rfl rfl
    rw [pending, pending, draws, head, List.flatMap_cons, List.append_assoc]
  cases Steps.receive_step moved with
  | invalid raw message failed =>
    refine passes held ?_
    rw [drawsOf, failed, List.append_nil]
    exact (posted_untouched (clientPacket_kind (by decide))).draws
  | received raw packet parsed =>
    refine passes held ?_
    rw [drawsOf, parsed]
    by_cases shared : sharedDraw host packet = true <;> simp [inHand, System.posted, shared]

theorem result_not_shared (env : DecodeEnv) {packet : Packet} (some : 0 < packet.len) (result : Option Decoded) :
    (result.map (decodedPacket env packet)).toList.filter (sharedDraw host) = [] := by
  cases result with
  | none => rfl
  | some result =>
    have kind := @DrawAck.decodedPacket_kind host env packet result some
    have other : sharedDraw host (decodedPacket env packet result) = false := by
      rw [sharedDraw, kind]
      cases result <;> rfl
    simp [other]

/-- The decode thread is done with a packet. -/
def Peers.decoded (peers : Peers) (rest : List Packet) (left : Option MmapArea) (posted : List Packet) : Peers :=
  { peers with system := { peers.system with client := { peers.system.client with
    decodeSender := rest
    area := left
    proxy := peers.system.client.proxy ++ posted } } }

theorem pending_decoded {rest posted : List Packet} {left : Option MmapArea} (silent : posted.filter (sharedDraw host) = []) :
    pending host (peers.decoded rest left posted) =
      rest.filter fromArea ++ peers.system.client.proxy.filter (sharedDraw host) ++ peers.wire.flatMap (drawsOf host) := by
  simp only [pending, inHand, Peers.decoded, List.filter_append, silent, List.append_nil]

theorem Served.reads_draw (served : Served host peers sights taken) {env : DecodeEnv} {packet : Packet} {rest posted : List Packet}
    {result : Option Decoded} {left : Option MmapArea} (reads : fromArea packet = true)
    (queued : pending host peers = packet :: pending host (peers.decoded rest left posted))
    (turned : decodeTurn host env peers.system.client.area packet = .ok (result, left)) :
    ∃ taken, Served host (peers.decoded rest left posted) (sights ++ [.read result]) taken := by
  obtain ⟨area, held⟩ := served.mapped
  rw [held] at turned
  obtain ⟨after, rfl, settled⟩ := decodeTurn_settles reads turned
  obtain ⟨-, all, ring, outstanding, tracks⟩ := served
  rw [queued] at all ring outstanding tracks
  have others : ∀ draw ∈ pending host (peers.decoded rest (some after) posted),
      pixelsOf host (some after) draw = pixelsOf host (some area) draw := by
    intro draw member
    refine pixelsOf_alike (ring draw (List.mem_cons_of_mem _ member)) ⟨?_, fun _ _ index inside _ _ => ?_⟩
    · rw [settled]
      cases drawEnd host packet <;> rfl
    · rw [settled]
      exact settle_byte _ _ _ (by simp only [HEADER_SIZE] at inside; omega)
  have before : Peers.word host peers.system = dataStart host area.memory := by simp [Peers.word, held]
  have read : sentOf (sights ++ [.read result]) = readOf (sights ++ [.read result]) ++
      (pending host (peers.decoded rest (some after) posted)).map (pixelsOf host (some after)) := by
    rw [List.map_congr_left others, decodeTurn_pixels reads turned]
    rw [held] at all
    simpa [sentOf, readOf] using all
  rw [List.filter_cons] at outstanding tracks
  cases found : drawEnd host packet with
  | none =>
    have word : Peers.word host (peers.decoded rest (some after) posted).system = dataStart host area.memory := by
      simp only [Peers.word, Peers.decoded, Option.map_some, Option.getD_some, settled, found]
      rfl
    have unended : ended host packet = false := by simp [ended, found]
    simp only [unended, Bool.false_eq_true, if_false] at outstanding tracks
    rw [before, ← word] at tracks
    exact ⟨taken, ⟨after, rfl⟩, read, fun draw member => ring draw (List.mem_cons_of_mem _ member), outstanding, tracks⟩
  | some stop =>
    have word : Peers.word host (peers.decoded rest (some after) posted).system = endOf host packet := by
      rw [endOf_of_drawEnd found]
      simp only [Peers.word, Peers.decoded, Option.map_some, Option.getD_some, settled, found, Option.toList_some]
      exact dataStart_native (drawEnd_lt found) (settle_slice _ _ stop rfl)
    have ends : ended host packet = true := by simp [ended, found]
    simp only [ends, if_true] at outstanding tracks
    refine ⟨taken ++ [packet], ⟨after, rfl⟩, read, fun draw member => ring draw (List.mem_cons_of_mem _ member), ?_, ?_⟩
    · rw [List.append_assoc]
      exact outstanding
    · rw [word]
      exact tracks.take

theorem Served.decodes (served : Served host peers sights taken) {env : DecodeEnv} {packet : Packet} {rest : List Packet}
    {result : Option Decoded} {left : Option MmapArea} (queued : peers.system.client.decodeSender = packet :: rest)
    (turned : decodeTurn host env peers.system.client.area packet = .ok (result, left)) :
    ∃ taken, Served host (peers.decoded rest left (result.map (decodedPacket env packet)).toList)
      (sights ++ if fromArea packet then [.read result] else []) taken := by
  have silent := @result_not_shared host env packet (Packet.read_bind_ok.mp turned).1 result
  by_cases reads : fromArea packet = true
  · rw [if_pos reads]
    refine served.reads_draw reads ?_ turned
    rw [pending_decoded silent]
    simp [pending, inHand, queued, reads]
  · obtain ⟨area, held⟩ := served.mapped
    have same := decodeTurn_aside (by simpa using reads) turned
    rw [if_neg reads, List.append_nil]
    refine ⟨taken, served.keep held (same.trans held) ?_ (fun _ _ => rfl) rfl rfl rfl⟩
    rw [pending_decoded silent]
    simp [pending, inHand, queued, reads]

theorem Served.step {event : PeerEvent} (served : Served host peers sights taken) (moved : Peers.step host event peers = .ok later) :
    ∃ taken, Served host later (sights ++ sight host event peers) taken := by
  cases event with
  | writes index byte =>
    simp only [Peers.step, sight, List.append_nil] at moved ⊢
    split at moved
    next may =>
      obtain ⟨system, wrote, rfl⟩ := map_ok moved
      obtain ⟨area, held⟩ := served.mapped
      rw [System.serverWrites, held] at wrote
      cases wrote
      exact ⟨taken, served.writes may held⟩
    next => cases moved
  | sends raw =>
    simp only [Peers.step] at moved
    split at moved
    next may =>
      cases moved
      exact ⟨taken, served.sends may⟩
    next => cases moved
  | looks =>
    cases moved
    simp only [sight, List.append_nil]
    exact ⟨[], served.looks⟩
  | arrives =>
    simp only [Peers.step, sight, List.append_nil] at moved ⊢
    split at moved
    next => cases moved
    next raw wire head =>
      obtain ⟨system, went, rfl⟩ := map_ok moved
      exact ⟨taken, served.arrives head went⟩
  | client event =>
    simp only [Peers.step] at moved
    split at moved
    next => cases moved
    next => cases moved
    next received written =>
      obtain ⟨system, went, rfl⟩ := map_ok moved
      have quiet (silent : sight host (.client event) peers = []) (same : Untouched host peers.system.client system.client) :
          ∃ taken, Served host { peers with system } (sights ++ sight host (.client event) peers) taken := by
        rw [silent, List.append_nil]
        exact ⟨taken, served.untouched same⟩
      cases Steps.step_of_moved went with
      | lost error => exact quiet rfl (posted_untouched (clientPacket_kind (by decide)))
      | invalid raw message failed => exact absurd rfl (received raw)
      | received raw packet parsed => exact absurd rfl (received raw)
      | delivered env packet rest client queued handled => exact quiet rfl (delivered_untouched queued handled)
      | input id input env => exact quiet rfl (.of_spares (windowEvent_spares id input))
      | resumed env => exact quiet rfl (.of_spares resumed_spares)
      | decoded env packet rest result area queued turned =>
        obtain ⟨now, served⟩ := served.decodes queued turned
        refine ⟨now, ?_⟩
        simp only [sight, queued, List.head?_cons, turned]
        exact served
      | posted posted => exact quiet rfl (posted_untouched (localPost_kind posted))
      | answered prompt outcome =>
        have erased : Untouched host peers.system.client
            { peers.system.client with pinentries := peers.system.client.pinentries.erase prompt } := ⟨rfl, rfl⟩
        exact quiet rfl (erased.trans (posted_untouched (pinentryPacket_kind prompt outcome)))
      | written index byte area mapped => exact absurd rfl (written index byte)
      | audio running connected worker held => exact quiet rfl ⟨rfl, rfl⟩

/-- The peers before anything has been sent. -/
def meeting (host : Host) (outcome : Nat → WriteOutcome) (username password : Option String) (area : MmapArea)
    (audioWorker : Option AudioWorker) : Peers where
  system := { client := .new { outcome } username password (some area) audioWorker }
  known := dataStart host area.memory

def pixel (index : Nat) (value : UInt8) : List PeerEvent :=
  [.writes index value, .writes (index + 1) value, .writes (index + 2) value, .writes (index + 3) value]

def ring : MmapArea := MmapArea.create "" ⟨MIN_SIZE, by decide⟩ 1 1000

end Xpra.Proofs.MmapPeers
