import Xpra.Proofs.DrawSteps
import Xpra.Proofs.MmapRelease

/-! When the decode thread serves draws from the shared area. It holds a reference
of its own from the start and is told nothing of the handshake, so it serves
whatever the area holds. -/

namespace Xpra.Proofs.MmapHandshake
open Xpra.Net Xpra.Client Library Handlers DrawSteps MmapRelease

/-- The server's token has been found in the area, each time it was looked for. -/
def Verified (draws : Draws) : Prop := .ok true ∈ draws.checks ∧ ∀ check ∈ draws.checks, check = .ok true

/-- A draw that the decode thread has pixels for in the area. -/
structure Mapped (host : Host) (area : Option MmapArea) (packet : Packet) : Prop where
  draw : endsStream packet = false
  coding : yamlStr (packet.get 6) = "mmap"
  long : 9 ≤ packet.len
  served : ∃ memory, area.map MmapArea.memory = some memory ∧ Servable host memory packet

variable {host : Host}

theorem servable_resize {memory other : Memory} {packet : Packet} (served : Servable host memory packet)
    (same : other.size = memory.size) : Servable host other packet := by
  obtain ⟨chunks, format, parsed, named, known, wide, high, stride, inside, enough⟩ := served
  refine ⟨chunks, format, parsed, named, known, wide, high, stride, fun chunk member => ?_, enough⟩
  rw [InRange, same]
  exact inside chunk member

theorem Mapped.resize {area other : Option MmapArea} {packet : Packet} (mapped : Mapped host area packet)
    (same : areaSize other = areaSize area) : Mapped host other packet := by
  obtain ⟨draw, coding, long, memory, held, served⟩ := mapped
  refine ⟨draw, coding, long, ?_⟩
  obtain ⟨here, rfl, rfl⟩ := Option.map_eq_some_iff.mp held
  obtain ⟨there, rfl, size⟩ := Option.map_eq_some_iff.mp same
  exact ⟨there.memory, rfl, servable_resize served size⟩

/-! ### A turn of the decode thread -/

variable {env : DecodeEnv} {area : Option MmapArea} {packet : Packet}

/-- A draw off the wire comes back with pixels exactly when the area holds them. -/
theorem decodeTurn_pixels_iff (draw : WireDraw) (drawn : endsStream draw.packet = false)
    (coding : yamlStr (draw.packet.get 6) = "mmap") :
    (∃ pixels next, decodeTurn host env area draw.packet = .ok (some (.ok pixels), next)) ↔
      Mapped host area draw.packet := by
  constructor
  · rintro ⟨pixels, next, turned⟩
    have long := decodeTurn_len drawn coding turned
    rw [decodeTurn_mmap drawn coding long] at turned
    cases area with
    | none => cases turned
    | some area =>
      obtain ⟨⟨read, left⟩, served, same⟩ := map_ok turned
      cases read with
      | error message => cases same
      | ok bytes => exact ⟨drawn, coding, long, _, rfl, servable_of_pixels served⟩
  · rintro ⟨-, -, long, memory, held, served⟩
    obtain ⟨area, rfl, rfl⟩ := Option.map_eq_some_iff.mp held
    obtain ⟨chunks, format, parsed, named, -⟩ := id served
    obtain ⟨items, found, same, -⟩ := mmapChunks_ok parsed
    obtain ⟨result, read, serves⟩ := readMmapPixels_ok area parsed (same ▸ draw.short items found) named
    obtain ⟨pixels, rfl⟩ := serves.mpr served
    refine ⟨some pixels, some (area.release host.littleEndian chunks), ?_⟩
    have drew : readMmapDraw host draw.packet area = .ok (.ok pixels, area.release host.littleEndian chunks) := by
      simp [readMmapDraw, parsed, read, bind, Except.bind, pure, Except.pure]
    simp [decodeTurn_mmap drawn coding long, drew, Functor.map, Except.map]

/-! ### Before the token has been found -/

/-- An `mmap` draw the decode thread takes up while the area is not verified is
reported as failed. -/
def Guarded (host : Host) (event : Event) (system : System) : Prop :=
  ∀ env (draw : WireDraw) next, event = .decode env → system.client.decodeSender.head? = some draw.packet →
    endsStream draw.packet = false → yamlStr (draw.packet.get 6) = "mmap" → ¬ Verified system.client.toDraws →
    System.step host event system = .ok next →
    ∃ message, next.client.proxy = system.client.proxy ++ [decodedPacket env draw.packet (.error message)]

/-- No draw that the area holds pixels for is taken up before. -/
def ServedInTurn (host : Host) (event : Event) (system : System) : Prop :=
  ∀ env (draw : WireDraw), event = .decode env → system.client.decodeSender.head? = some draw.packet →
    Mapped host system.client.area draw.packet → Verified system.client.toDraws

theorem decodedPacket_ne (env : DecodeEnv) (packet : Packet) (message : String) (pixels : Option Bytes) :
    decodedPacket env packet (.error message) ≠ decodedPacket env packet (.ok pixels) :=
  fun same => nomatch congrArg Packet.decodeTimeUs same

theorem guarded_iff {event : Event} {system : System} : Guarded host event system ↔ ServedInTurn host event system := by
  constructor
  · rintro guarded env draw rfl head mapped
    by_contra unverified
    obtain ⟨rest, queued⟩ := List.head?_eq_some_iff.mp head
    obtain ⟨pixels, area, turned⟩ : ∃ pixels next,
        decodeTurn host env system.client.area draw.packet = .ok (some (.ok pixels), next) :=
      (decodeTurn_pixels_iff draw mapped.draw mapped.coding).mpr mapped
    have moved : System.step host (.decode env) system = .ok { system with client := { system.client with
        decodeSender := rest
        area
        proxy := system.client.proxy ++ [decodedPacket env draw.packet (.ok pixels)] } } := by
      simp only [System.step, System.decode, queued, turned]
      rfl
    obtain ⟨message, posted⟩ := guarded env draw _ rfl head mapped.draw mapped.coding unverified moved
    have same := List.append_cancel_left posted
    exact decodedPacket_ne env draw.packet message pixels (List.singleton_inj.mp same).symm
  · rintro served env draw next rfl head drawn coding unverified moved
    obtain ⟨rest, queued⟩ := List.head?_eq_some_iff.mp head
    simp only [System.step, System.decode, queued] at moved
    split at moved
    next => cases moved
    next result area turned =>
      cases moved
      have long := decodeTurn_len drawn coding turned
      obtain ⟨decoded, rfl⟩ := decodeTurn_some drawn turned
      cases decoded with
      | error message => exact ⟨message, rfl⟩
      | ok pixels =>
        have mapped := (decodeTurn_pixels_iff draw drawn coding).mp ⟨pixels, area, turned⟩
        exact absurd (served env draw rfl head mapped) unverified

/-! ### The order of the server's packets -/

/-- No such draw is dispatched while the area is not verified, and none waits for
the decode thread when a check fails. -/
structure Ordered (host : Host) (event : Event) (system : System) : Prop where
  draws : ∀ packet, (∃ env, event = .deliver env) → system.client.proxy.head? = some packet →
    kindOf host packet = .draw → Mapped host system.client.area packet → Verified system.client.toDraws
  hellos : ∀ packet, (∃ env, event = .deliver env) → system.client.proxy.head? = some packet →
    kindOf host packet = .hello → (∃ check ∈ helloCheck system.client (packet.get 1), check ≠ .ok true) →
    ∀ draw ∈ system.client.decodeSender, ¬ Mapped host system.client.area draw

def Waiting (host : Host) (draws : Draws) : Prop :=
  ∀ draw ∈ draws.decodeSender, Mapped host draws.area draw → Verified draws

theorem Waiting.queue {draws next : Draws} {packet : Packet} (waiting : Waiting host draws)
    (queued : next = { draws with decodeSender := draws.decodeSender ++ [packet] })
    (fine : Mapped host draws.area packet → Verified draws) : Waiting host next := by
  subst queued
  intro draw member mapped
  rcases List.mem_append.mp member with earlier | last
  · exact waiting draw earlier mapped
  · cases List.mem_singleton.mp last
    exact fine mapped

theorem Waiting.resize {draws next : Draws} (waiting : Waiting host draws)
    (queue : ∀ draw ∈ next.decodeSender, draw ∈ draws.decodeSender) (checks : next.checks = draws.checks)
    (same : areaSize next.area = areaSize draws.area) : Waiting host next := by
  intro draw member mapped
  rw [Verified, checks]
  exact waiting draw (queue draw member) (mapped.resize same.symm)

theorem Waiting.hello {client next : XpraClient} {hello : Yaml} (waiting : Waiting host client.toDraws)
    (greeted : Greeted host client hello next)
    (clear : (∃ check ∈ helloCheck client hello, check ≠ .ok true) →
      ∀ draw ∈ client.decodeSender, ¬ Mapped host client.area draw) : Waiting host next.toDraws := by
  intro draw member mapped
  have size : areaSize client.area = areaSize next.area := by
    have sizes := congrArg (Option.map Memory.size) greeted.memory
    rw [Option.map_map, Option.map_map] at sizes
    exact sizes.symm
  have member : draw ∈ client.decodeSender := greeted.decodeSender ▸ member
  have mapped : Mapped host client.area draw := mapped.resize size
  have verified := waiting draw member mapped
  rw [Verified, greeted.checks]
  refine ⟨List.mem_append_left _ verified.1, fun check among => ?_⟩
  rcases List.mem_append.mp among with earlier | fresh
  · exact verified.2 check earlier
  · by_contra refused
    exact clear ⟨check, fresh, refused⟩ draw member mapped

theorem waiting_step {event : Event} {system next : System} (ordered : Ordered host event system)
    (waiting : Waiting host system.client.toDraws) (moved : System.step host event system = .ok next) :
    Waiting host next.client.toDraws := by
  cases step_turn moved with
  | handled env packet rest delivers queued handled =>
    have head : system.client.proxy.head? = some packet := by simp [queued]
    cases handled with
    | spared _ _ spares => exact spares.draws ▸ waiting
    | started _ same => exact same ▸ waiting
    | clipped _ clips => exact clips.draws ▸ waiting
    | logged _ logs => exact logs.draws ▸ waiting
    | hello kind greeted =>
      have before : Waiting host ({ system.client with proxy := rest } : XpraClient).toDraws := waiting
      exact before.hello greeted (ordered.hellos packet ⟨env, delivers⟩ head kind)
    | draw kind same =>
      exact waiting.queue (congrArg XpraClient.toDraws same) (ordered.draws packet ⟨env, delivers⟩ head kind)
    | decoded _ acknowledges => exact acknowledges.draws ▸ waiting
    | failed _ acknowledges => exact acknowledges.draws ▸ waiting
    | ended _ ends _ draws _ =>
      exact waiting.queue draws fun mapped => absurd (mapped.draw.symm.trans ends) Bool.false_ne_true
  | spared _ spares => exact spares.draws ▸ waiting
  | received _ _ _ _ _ draws => exact draws ▸ waiting
  | posted _ _ _ _ draws => exact draws ▸ waiting
  | decoded env packet rest result area decodes queued turned link draws =>
    refine Waiting.resize waiting (fun draw member => ?_) (by rw [draws]) (by rw [draws]; exact decodeTurn_size turned)
    rw [draws] at member
    exact queued ▸ List.mem_cons_of_mem packet member
  | written area index byte _ mapped _ draws =>
    refine Waiting.resize waiting (fun draw member => ?_) (by rw [draws]) ?_
    · rw [draws] at member
      exact member
    · rw [draws, mapped]
      rfl

theorem served_of_ordered {events : List Event} {system : System} (waiting : Waiting host system.client.toDraws)
    (ordered : Machine.Along (System.step host) (Ordered host) events system) :
    Machine.Along (System.step host) (ServedInTurn host) events system := by
  refine ordered.of_invariant_along _ (fun system => Waiting host system.client.toDraws)
    (fun event state next => waiting_step) ?_ waiting
  intro event state _ waiting env draw _ head mapped
  exact waiting draw.packet (List.mem_of_head? head) mapped

/-- Unverified `mmap` draws are all reported as failed exactly when none that the
area holds pixels for is taken up, for which the order of draws and hellos at the
UI thread is enough. -/
theorem mmap_draws_guarded_iff (host : Host) (stream : Sink) (username password : Option String)
    (area : Option MmapArea) (audioWorker : Option AudioWorker) (events : List Event) :
    (Machine.Along (System.step host) (Guarded host) events
        { client := .new stream username password area audioWorker } ↔
      Machine.Along (System.step host) (ServedInTurn host) events
        { client := .new stream username password area audioWorker }) ∧
    (Machine.Along (System.step host) (Ordered host) events
        { client := .new stream username password area audioWorker } →
      Machine.Along (System.step host) (Guarded host) events
        { client := .new stream username password area audioWorker }) := by
  have same (system : System) : Machine.Along (System.step host) (Guarded host) events system ↔
      Machine.Along (System.step host) (ServedInTurn host) events system :=
    ⟨fun along => along.mono _ fun _ _ => guarded_iff.mp, fun along => along.mono _ fun _ _ => guarded_iff.mpr⟩
  refine ⟨same _, fun ordered => (same _).mpr (served_of_ordered ?_ ordered)⟩
  intro draw member
  exact nomatch member

private def drawHost : Host := { Host.plain with
  loadYaml := fun payload => if payload = [0x64] then
      .ok [.array [.string "draw", .integer 1, .integer 0, .integer 0, .integer 1, .integer 1, .string "mmap",
        .array [.array [.integer 8, .integer 4]], .integer 1]]
    else .error "invalid utf-8 sequence" }

private def drawn : WireDraw where
  packet := { main := [.string "draw", .integer 1, .integer 0, .integer 0, .integer 1, .integer 1, .string "mmap",
        .array [.array [.integer 8, .integer 4]], .integer 1] }
  short := by
    intro items found
    cases found
    decide

theorem unverified_draw_is_delivered :
    ¬ Machine.Along (System.step drawHost) (Guarded drawHost)
      [.resumed {}, .receive (.ok ⟨[0x64], fun _ => none⟩), .deliver {}, .decode {}]
      { client := .new { outcome := fun _ => .written } none none (some (.create "" ⟨MIN_SIZE, by decide⟩ 1 0)) none } := by
  intro along
  have guarded := (((along.2 _ rfl).2 _ rfl).2 _ rfl).1
  have unverified (verified : Verified (XpraClient.new { outcome := fun _ => .written } none none none none).toDraws) :
      False := nomatch verified.1
  obtain ⟨message, posted⟩ := guarded {} drawn _ rfl rfl rfl rfl unverified rfl
  exact decodedPacket_ne {} drawn.packet message _ (List.singleton_inj.mp posted).symm

end Xpra.Proofs.MmapHandshake
