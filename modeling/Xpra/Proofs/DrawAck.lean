import Xpra.Proofs.DrawSteps

/-! The way of a draw through three queues: posted by the reader, queued for the
decode thread, posted back with its result, acknowledged. Each queue keeps the
order, so the acknowledgements come in the order of the draws. -/

namespace Xpra.Proofs.DrawAck
open Xpra.Net Xpra.Client Library Handlers DrawSteps

/-! ### Draws and acknowledgements -/

/-- The fields of a draw that its acknowledgement repeats. -/
structure DrawFields (draw : Packet) (seq wid w h : Int64) : Prop where
  long : 9 ≤ draw.len
  seq : draw.get 8 = .integer seq ∧ 0 ≤ seq.toInt
  wid : draw.get 1 = .integer wid ∧ 0 ≤ wid.toInt
  width : draw.get 4 = .integer w ∧ 0 ≤ w.toInt ∧ w.toInt < 2 ^ 32
  height : draw.get 5 = .integer h ∧ 0 ≤ h.toInt ∧ h.toInt < 2 ^ 32

def WellFormed (draw : Packet) : Prop := ∃ seq wid w h, DrawFields draw seq wid w h

def layout (legacy : Bool) (seq wid w h time : Int) (message : String) : Json :=
  if legacy then .array ["window-draw-ack", seq, wid, w, h, time, message]
  else .array ["window-ack", wid, w, h, seq, time, message]

/-- A draw with its result, and what the UI thread found when the result came. -/
structure Settled where
  draw : Packet
  result : Decoded
  gone : Bool
  legacy : Bool

def Acknowledged (settled : Settled) (ack : Json) : Prop :=
  ∃ seq wid w h time message, DrawFields settled.draw seq wid w h ∧
    ack = layout settled.legacy seq.toInt wid.toInt w.toInt h.toInt time message ∧
    (time = -1 ↔ (∃ reason, settled.result = .error reason) ∨ settled.gone = true)

def IsAck (packet : Json) : Bool := packet.packetType = "window-draw-ack" || packet.packetType = "window-ack"

def acks (link : Link) : List Json := link.sent.filter IsAck

theorem ackOf_layout {draw packet : Packet} {seq wid w h : Int64} (fields : DrawFields draw seq wid w h)
    (same : ∀ index ∈ [1, 4, 5, 8], packet.get index = draw.get index) (legacy : Bool) (time : Int)
    (message : String) :
    ackOf legacy packet time message = layout legacy seq.toInt wid.toInt w.toInt h.toInt time message := by
  obtain ⟨-, seq, wid, width, height⟩ := fields
  rw [ackOf, same 8 (by decide), same 1 (by decide), same 4 (by decide), same 5 (by decide), seq.1, wid.1, width.1,
    height.1]
  simp only [yamlU64, yamlU32, drawAckPacket, layout, toUInt64_toNat seq.2, toUInt64_toNat wid.2,
    toUInt64_toUInt32_toNat width.2.1 width.2.2, toUInt64_toUInt32_toNat height.2.1 height.2.2]

theorem ackOf_isAck (legacy : Bool) (packet : Packet) (time : Int) (message : String) :
    IsAck (ackOf legacy packet time message) = true := by
  cases legacy <;> rfl

theorem aside_isAck {packet : Json} (aside : Aside packet) : IsAck packet = false := by
  simp [IsAck, aside.1, aside.2]

theorem aside_of_text {packet : Json} (about : AboutText packet) : Aside packet := by
  rcases about with type | type <;> simp [Aside, type]

theorem acks_aside {before after : Link} (effect : Effect Aside before after) :
    acks after = acks before := by
  obtain ⟨packets, sent, fine⟩ := effect.sent
  have none : packets.filter IsAck = [] := by
    rw [List.filter_eq_nil_iff]
    intro packet member
    simp [aside_isAck (fine packet member)]
  rw [acks, sent, List.filter_append, none, List.append_nil, acks]

/-! ### The pipeline -/

/-- The draws on their way, queue by queue, and the acknowledgements sent. -/
structure Pipeline where
  waiting : List Packet
  queued : List Packet
  answered : List Packet
  acks : List Json

/-- What the UI thread makes of a result: only a decoded draw of a window that
exists is acknowledged with its time. -/
def ackTime (packet : Packet) (gone : Bool) : Int :=
  if yamlStr (packet.get 0) = "draw-decoded" ∧ gone = false then (packet.decodeTimeUs.getD 0).toInt else -1

/-- The five things that happen to a pipeline, with what is seen of them. -/
inductive Passage (pipe : Pipeline) : List Sighting → Pipeline → Prop where
  | idle : Passage pipe [] pipe
  | arrive (draw : Packet) (formed : WellFormed draw) :
      Passage pipe [.received draw] { pipe with waiting := pipe.waiting ++ [draw] }
  | dispatch (draw : Packet) (rest : List Packet) (next : pipe.waiting = draw :: rest) :
      Passage pipe [] { pipe with waiting := rest, queued := pipe.queued ++ [draw] }
  | decode (env : DecodeEnv) (draw : Packet) (rest : List Packet) (result : Decoded)
      (next : pipe.queued = draw :: rest) :
      Passage pipe [.decoded result]
        { pipe with queued := rest, answered := pipe.answered ++ [decodedPacket env draw result] }
  | settle (packet : Packet) (rest : List Packet) (gone legacy : Bool) (message : String)
      (next : pipe.answered = packet :: rest) :
      Passage pipe [.settled gone legacy]
        { pipe with answered := rest, acks := pipe.acks ++ [ackOf legacy packet (ackTime packet gone) message] }

structure Posted where
  draw : Packet
  result : Decoded
  env : DecodeEnv

def Posted.packet (posted : Posted) : Packet := decodedPacket posted.env posted.draw posted.result

def drawsSeen (seen : List Sighting) : List Packet :=
  seen.filterMap fun sighting => match sighting with
    | .received draw => some draw
    | _ => none

def resultsSeen (seen : List Sighting) : List Decoded :=
  seen.filterMap fun sighting => match sighting with
    | .decoded result => some result
    | _ => none

def outcomesSeen (seen : List Sighting) : List (Bool × Bool) :=
  seen.filterMap fun sighting => match sighting with
    | .settled gone legacy => some (gone, legacy)
    | _ => none

/-- Every draw seen is in one place, and the places are in order. -/
structure Flow (pipe : Pipeline) (seen : List Sighting) (settled : List Settled) (posted : List Posted) : Prop where
  draws : drawsSeen seen = settled.map Settled.draw ++ posted.map Posted.draw ++ pipe.queued ++ pipe.waiting
  results : resultsSeen seen = settled.map Settled.result ++ posted.map Posted.result
  outcomes : outcomesSeen seen = settled.map fun settled => (settled.gone, settled.legacy)
  answered : pipe.answered = posted.map Posted.packet
  acks : List.Forall₂ Acknowledged settled pipe.acks
  formed : ∀ draw ∈ drawsSeen seen, WellFormed draw

theorem decodedPacket_get {env : DecodeEnv} {draw : Packet} {result : Decoded} {index : Nat}
    (kept : index ∈ [1, 4, 5, 8]) : (decodedPacket env draw result).get index = draw.get index := by
  simp only [List.mem_cons, List.not_mem_nil, or_false] at kept
  rcases kept with rfl | rfl | rfl | rfl <;> cases result <;> simp [decodedPacket, Packet.get]

theorem decodedPacket_type {env : DecodeEnv} {draw : Packet} {result : Decoded} (some : 0 < draw.len) :
    yamlStr ((decodedPacket env draw result).get 0) = match result with
      | .ok _ => "draw-decoded"
      | .error _ => "decoding-failed" := by
  have inside : 0 < draw.main.length := some
  cases result <;> simp [decodedPacket, Packet.get, inside, yamlStr]

theorem elapsed_nonneg (elapsed : Fin (2 ^ 63)) : (Int64.ofNat elapsed).toInt = elapsed := by
  rw [Int64.toInt_ofNat_of_lt elapsed.isLt]

theorem posted_acknowledged (posted : Posted) (gone legacy : Bool) (message : String)
    (formed : WellFormed posted.draw) :
    Acknowledged ⟨posted.draw, posted.result, gone, legacy⟩
      (ackOf legacy posted.packet (ackTime posted.packet gone) message) := by
  obtain ⟨seq, wid, w, h, fields⟩ := formed
  refine ⟨seq, wid, w, h, _, message, fields, ackOf_layout fields (fun _ => decodedPacket_get) _ _ _, ?_⟩
  rw [ackTime, Posted.packet, decodedPacket_type (by have := fields.long; omega)]
  cases posted.result with
  | error reason => simp
  | ok pixels =>
    cases gone with
    | true => simp
    | false =>
      have nonneg := elapsed_nonneg posted.env.elapsed
      simp only [decodedPacket, Option.getD_some, nonneg]
      simp

variable {pipe next : Pipeline} {seen new : List Sighting} {settled : List Settled} {posted : List Posted}

theorem Flow.passage (flow : Flow pipe seen settled posted) (passage : Passage pipe new next) :
    ∃ settled posted, Flow next (seen ++ new) settled posted := by
  obtain ⟨draws, decoded, outcome, answered, acked, formed⟩ := flow
  have extend (more : List Sighting) : drawsSeen (seen ++ more) = drawsSeen seen ++ drawsSeen more ∧
      resultsSeen (seen ++ more) = resultsSeen seen ++ resultsSeen more ∧
      outcomesSeen (seen ++ more) = outcomesSeen seen ++ outcomesSeen more := by
    simp [drawsSeen, resultsSeen, outcomesSeen]
  cases passage with
  | idle => exact ⟨settled, posted, by rwa [List.append_nil], by rwa [List.append_nil], by rwa [List.append_nil],
      answered, acked, by rwa [List.append_nil]⟩
  | arrive draw fine =>
    obtain ⟨more, none, nothing⟩ := extend [.received draw]
    refine ⟨settled, posted, ?_, ?_, ?_, answered, acked, ?_⟩
    · rw [more, draws]
      simp [drawsSeen]
    · rw [none, decoded]
      simp [resultsSeen]
    · rw [nothing, outcome]
      simp [outcomesSeen]
    · intro other member
      rw [more] at member
      rcases List.mem_append.mp member with earlier | last
      · exact formed other earlier
      · exact List.mem_singleton.mp last ▸ fine
  | dispatch draw rest head =>
    rw [List.append_nil]
    refine ⟨settled, posted, ?_, decoded, outcome, answered, acked, formed⟩
    rw [draws, head]
    simp
  | decode env draw rest result head =>
    obtain ⟨none, more, nothing⟩ := extend [.decoded result]
    refine ⟨settled, posted ++ [⟨draw, result, env⟩], ?_, ?_, ?_, ?_, acked, ?_⟩
    · rw [none, draws, head]
      simp [drawsSeen]
    · rw [more, decoded]
      simp [resultsSeen]
    · rw [nothing, outcome]
      simp [outcomesSeen]
    · simp [answered, Posted.packet]
    · rw [none]
      simpa [drawsSeen] using formed
  | settle packet rest gone legacy message head =>
    obtain ⟨none, nothing, more⟩ := extend [.settled gone legacy]
    rw [answered] at head
    obtain ⟨first, others, rfl, rfl, rfl⟩ := List.map_eq_cons_iff.mp head
    have fine : WellFormed first.draw := formed first.draw (by simp [draws])
    refine ⟨settled ++ [⟨first.draw, first.result, gone, legacy⟩], others, ?_, ?_, ?_, rfl, ?_, ?_⟩
    · rw [none, draws]
      simp [drawsSeen]
    · rw [nothing, decoded]
      simp [resultsSeen]
    · rw [more, outcome]
      simp [outcomesSeen]
    · exact List.rel_append acked (.cons (posted_acknowledged first gone legacy message fine) .nil)
    · rw [none]
      simpa [drawsSeen] using formed

/-! ### The client's own queues -/

variable {host : Host}

def IsResult (host : Host) (packet : Packet) : Bool :=
  kindOf host packet = .drawDecoded || kindOf host packet = .drawFailed

def pipeline (host : Host) (link : Link) (draws : Draws) : Pipeline where
  waiting := link.proxy.filter fun packet => kindOf host packet = .draw
  queued := draws.decodeSender.filter fun packet => !endsStream packet
  answered := link.proxy.filter (IsResult host)
  acks := acks link

theorem kinds_apart {packet : Packet} (kind : kindOf host packet ∉ drawKinds) :
    kindOf host packet ≠ .draw ∧ IsResult host packet = false := by
  simp only [drawKinds, List.mem_cons, List.not_mem_nil, or_false, not_or] at kind
  exact ⟨kind.1, by simp [IsResult, kind.2.1, kind.2.2]⟩

theorem kind_of_clipboard {packet : Packet} (about : kindOf host packet ∈ clipboardKinds) :
    kindOf host packet ∉ drawKinds := by
  intro draws
  generalize kindOf host packet = kind at about draws
  revert kind
  decide

theorem pipeline_skip {link : Link} {draws : Draws} {packet : Packet} {rest : List Packet}
    (kind : kindOf host packet ∉ drawKinds) (queued : link.proxy = packet :: rest) :
    pipeline host { link with proxy := rest } draws = pipeline host link draws := by
  obtain ⟨draw, result⟩ := kinds_apart kind
  simp [pipeline, queued, draw, result, acks]

theorem pipeline_post {link : Link} {draws : Draws} {packet : Packet} (kind : kindOf host packet ∉ drawKinds) :
    pipeline host { link with proxy := link.proxy ++ [packet] } draws = pipeline host link draws := by
  obtain ⟨draw, result⟩ := kinds_apart kind
  simp [pipeline, draw, result, acks]

theorem pipeline_moved {before after : Link} {draws : Draws} (effect : Effect Aside before after)
    (running : after.exitCode = none) : pipeline host after draws = pipeline host before draws := by
  rw [pipeline, pipeline, effect.proxy running, acks_aside effect]

theorem pipeline_acked {before after : Link} (draws : Draws) {ack : Json} (isAck : IsAck ack = true)
    (written : after = before.writeJson host ack) (running : after.exitCode = none) :
    before.exitCode = none ∧
      pipeline host after draws = { pipeline host before draws with acks := acks before ++ [ack] } := by
  subst written
  rcases writeJson_cases host before ack with ⟨out, same⟩ | ⟨begun, sent, ⟨-, proxy⟩ | ⟨out, -⟩⟩
  · rw [same] at running
    simp [running] at out
  · refine ⟨begun, ?_⟩
    simp only [pipeline, proxy, acks, sent, List.filter_append, List.filter_cons, isAck, if_true, List.filter_nil]
  · simp [running] at out

/-- The server's draws are well formed, and it sends no results. -/
def WellServed (host : Host) (event : Event) (_system : System) : Prop :=
  ∀ raw packet, event = .receive (.ok raw) → parsePacket host raw = .ok packet →
    (kindOf host packet = .draw → WellFormed packet) ∧ IsResult host packet = false

theorem decodedPacket_kind (env : DecodeEnv) {draw : Packet} (result : Decoded) (some : 0 < draw.len) :
    kindOf host (decodedPacket env draw result) = match result with
      | .ok _ => .drawDecoded
      | .error _ => .drawFailed := by
  rw [kindOf, decodedPacket_type some]
  cases result <;> cases host.windows <;> rfl

/-! ### The steps -/

def pipeOf (host : Host) (system : System) : Pipeline := pipeline host system.client.toLink system.client.toDraws

variable {event : Event} {system after : System}

theorem passage_spared {packet : Packet} {rest : List Packet} {env : Env}
    (queued : system.client.proxy = packet :: rest) (kind : kindOf host packet ∉ drawKinds)
    (link : Effect Aside { system.client.toLink with proxy := rest } after.client.toLink)
    (queue : pipeline host after.client.toLink after.client.toDraws =
      pipeline host after.client.toLink system.client.toDraws)
    (running : after.client.exitCode = none) :
    Passage (pipeOf host system) (sighting host (.deliver env) system) (pipeOf host after) := by
  have same : pipeOf host after = pipeOf host system := by
    rw [pipeOf, queue, pipeline_moved link running, pipeline_skip kind queued, pipeOf]
  have unseen : sighting host (.deliver env) system = [] := by
    simp only [drawKinds, List.mem_cons, List.not_mem_nil, or_false, not_or] at kind
    simp [sighting, queued, kind]
  rw [same, unseen]
  exact .idle

theorem passage_settled {packet : Packet} {rest : List Packet} {env : Env} {time : Int}
    (queued : system.client.proxy = packet :: rest) (result : IsResult host packet = true)
    (acknowledges : Acknowledges host { system.client with proxy := rest } after.client packet time)
    (timed : time = ackTime packet (system.client.windows (yamlU64 (packet.get 1))).isNone)
    (running : after.client.exitCode = none) :
    system.client.exitCode = none ∧
      Passage (pipeOf host system) (sighting host (.deliver env) system) (pipeOf host after) := by
  obtain ⟨message, written⟩ := acknowledges.link
  obtain ⟨begun, acked⟩ := pipeline_acked system.client.toDraws (ackOf_isAck _ _ _ _) written running
  refine ⟨begun, ?_⟩
  have settles : kindOf host packet = .drawDecoded ∨ kindOf host packet = .drawFailed := by
    simpa [IsResult] using result
  have seen : sighting host (.deliver env) system =
      [.settled (system.client.windows (yamlU64 (packet.get 1))).isNone system.client.serverBackwardsCompatible] := by
    simp [sighting, queued, settles]
  have head : (pipeOf host system).answered = packet :: rest.filter (IsResult host) := by
    simp [pipeOf, pipeline, queued, result]
  have drawn : kindOf host packet ≠ .draw := by
    rcases settles with kind | kind <;> simp [kind]
  have left : pipeOf host after = { pipeOf host system with
      answered := rest.filter (IsResult host)
      acks := (pipeOf host system).acks ++ [ackOf system.client.serverBackwardsCompatible packet
        (ackTime packet (system.client.windows (yamlU64 (packet.get 1))).isNone) message] } := by
    rw [pipeOf, acknowledges.draws]
    apply acked.trans
    simp [pipeOf, pipeline, queued, drawn, timed, acks]
  rw [seen, left]
  exact .settle packet _ _ _ message head

theorem passage_dispatched {packet : Packet} {rest : List Packet} {env : Env}
    (queued : system.client.proxy = packet :: rest) (kind : kindOf host packet = .draw)
    (same : after.client = { system.client with proxy := rest, decodeSender := system.client.decodeSender ++ [packet] }) :
    Passage (pipeOf host system) (sighting host (.deliver env) system) (pipeOf host after) := by
  have named := listed_of_kind kind (by decide)
  have drawn : endsStream packet = false := by
    have type : yamlStr (packet.get 0) = "draw" := by simpa [windowsPacketTypes, packetTypes] using named
    simp [endsStream, type]
  have result : IsResult host packet = false := by simp [IsResult, kind]
  have seen : sighting host (.deliver env) system = [] := by simp [sighting, queued, kind]
  have head : (pipeOf host system).waiting = packet :: rest.filter fun packet => kindOf host packet = .draw := by
    simp [pipeOf, pipeline, queued, kind]
  have left : pipeOf host after = { pipeOf host system with
      waiting := rest.filter fun packet => kindOf host packet = .draw
      queued := (pipeOf host system).queued ++ [packet] } := by
    rw [pipeOf, same]
    simp [pipeOf, pipeline, queued, drawn, result, acks]
  rw [seen, left]
  exact .dispatch packet _ head

theorem handled_passage {packet : Packet} {rest : List Packet} {env : Env} (queued : system.client.proxy = packet :: rest)
    (handled : Handled host { system.client with proxy := rest } packet after.client)
    (running : after.client.exitCode = none) :
    system.client.exitCode = none ∧
      Passage (pipeOf host system) (sighting host (.deliver env) system) (pipeOf host after) := by
  cases handled with
  | spared kind _ spares =>
    exact ⟨spares.aside.effect.exit running, passage_spared queued kind spares.aside.effect (by rw [spares.draws]) running⟩
  | started kind same =>
    have link : Effect Aside { system.client.toLink with proxy := rest } after.client.toLink :=
      same ▸ ⟨⟨[], by simp, by simp⟩, fun out => ⟨out, rfl, rfl⟩, [], by simp, by simp, by simp⟩
    exact ⟨link.exit running, passage_spared queued (by simp [kind, drawKinds]) link (by rw [same]) running⟩
  | clipped about clips =>
    have link := (clips.link.mono fun _ about => aside_of_text about).effect
    exact ⟨link.exit running, passage_spared queued (kind_of_clipboard about) link (by rw [clips.draws]) running⟩
  | logged kind logs =>
    have link := (logs.link.mono fun _ logging => (⟨logging.ne (by decide), logging.ne (by decide)⟩ : Aside _)).effect
    exact ⟨link.exit running, passage_spared queued (by simp [kind, drawKinds]) link (by rw [logs.draws]) running⟩
  | hello kind greeted =>
    have link := (greeted.link.mono fun _ plain => (⟨plain.2.1, plain.2.2.1⟩ : Aside _)).effect
    have queue : pipeline host after.client.toLink after.client.toDraws =
        pipeline host after.client.toLink system.client.toDraws := by
      rw [pipeline, pipeline, greeted.decodeSender]
    exact ⟨link.exit running, passage_spared queued (by simp [kind, drawKinds]) link queue running⟩
  | ended kind ends offhand draws =>
    have link := (offhand.mono fun _ offhand => (offhand.1 : Aside _)).effect
    have queue : pipeline host after.client.toLink after.client.toDraws =
        pipeline host after.client.toLink system.client.toDraws := by
      rw [draws]
      simp [pipeline, ends]
    exact ⟨link.exit running, passage_spared queued kind link queue running⟩
  | draw kind same =>
    refine ⟨?_, passage_dispatched queued kind same⟩
    rwa [same] at running
  | decoded kind acknowledges =>
    have named := listed_of_kind kind (by decide)
    have type : yamlStr (packet.get 0) = "draw-decoded" := by simpa [windowsPacketTypes, packetTypes] using named
    refine passage_settled queued (by simp [IsResult, kind]) acknowledges ?_ running
    rw [ackTime, type]
    cases (system.client.windows (yamlU64 (packet.get 1))).isNone <;> simp
  | failed kind acknowledges =>
    have named := listed_of_kind kind (by decide)
    have type : yamlStr (packet.get 0) ≠ "draw-decoded" := by
      intro same
      simp [same, windowsPacketTypes, packetTypes] at named
    refine passage_settled queued (by simp [IsResult, kind]) acknowledges ?_ running
    simp [ackTime, type]

theorem received_passage {raw : RawPacket} {packet : Packet} (served : WellServed host (.receive (.ok raw)) system)
    (parsed : parsePacket host raw = .ok packet)
    (link : after.client.toLink = { system.client.toLink with proxy := system.client.proxy ++ [packet] })
    (draws : after.client.toDraws = system.client.toDraws) :
    Passage (pipeOf host system) (sighting host (.receive (.ok raw)) system) (pipeOf host after) := by
  obtain ⟨fine, result⟩ := served raw packet rfl parsed
  by_cases kind : kindOf host packet = .draw
  · have seen : sighting host (.receive (.ok raw)) system = [.received packet] := by simp [sighting, parsed, kind]
    have left : pipeOf host after = { pipeOf host system with waiting := (pipeOf host system).waiting ++ [packet] } := by
      rw [pipeOf, link, draws]
      simp [pipeOf, pipeline, kind, result, acks]
    rw [seen, left]
    exact .arrive packet (fine kind)
  · have seen : sighting host (.receive (.ok raw)) system = [] := by simp [sighting, parsed, kind]
    have left : pipeOf host after = pipeOf host system := by
      rw [pipeOf, link, draws]
      simp [pipeOf, pipeline, kind, result, acks]
    rw [seen, left]
    exact .idle

theorem decoded_passage {env : DecodeEnv} {packet : Packet} {rest : List Packet} {result : Option Decoded}
    {area : Option MmapArea} (formed : ∀ draw ∈ (pipeOf host system).queued, WellFormed draw)
    (queued : system.client.decodeSender = packet :: rest)
    (turned : decodeTurn host env system.client.area packet = .ok (result, area))
    (link : after.client.toLink = { system.client.toLink with
      proxy := system.client.proxy ++ (result.map (decodedPacket env packet)).toList })
    (draws : after.client.toDraws = { system.client.toDraws with decodeSender := rest, area }) :
    Passage (pipeOf host system) (sighting host (.decode env) system) (pipeOf host after) := by
  cases ends : endsStream packet with
  | true =>
    obtain ⟨rfl, -⟩ := decodeTurn_none ends turned
    have seen : sighting host (.decode env) system = [] := by simp [sighting, queued, turned]
    have left : pipeOf host after = pipeOf host system := by
      rw [pipeOf, link, draws]
      simp [pipeOf, pipeline, queued, ends, acks]
    rw [seen, left]
    exact .idle
  | false =>
    obtain ⟨decoded, rfl⟩ := decodeTurn_some ends turned
    have seen : sighting host (.decode env) system = [.decoded decoded] := by simp [sighting, queued, turned]
    have head : (pipeOf host system).queued = packet :: rest.filter fun packet => !endsStream packet := by
      simp [pipeOf, pipeline, queued, ends]
    obtain ⟨seq, wid, w, h, fields⟩ := formed packet (by simp [head])
    have result : kindOf host (decodedPacket env packet decoded) ≠ .draw ∧
        IsResult host (decodedPacket env packet decoded) = true := by
      rw [IsResult, decodedPacket_kind env decoded (Nat.lt_of_lt_of_le (by decide) fields.long)]
      cases decoded <;> simp
    have left : pipeOf host after = { pipeOf host system with
        queued := rest.filter fun packet => !endsStream packet
        answered := (pipeOf host system).answered ++ [decodedPacket env packet decoded] } := by
      rw [pipeOf, link, draws]
      simp [pipeOf, pipeline, result, acks]
    rw [seen, left]
    exact .decode env packet _ decoded head

theorem step_passage (served : WellServed host event system)
    (formed : system.client.exitCode = none → ∀ draw ∈ (pipeOf host system).queued, WellFormed draw)
    (moved : System.step host event system = .ok after) (running : after.client.exitCode = none) :
    system.client.exitCode = none ∧ Passage (pipeOf host system) (sighting host event system) (pipeOf host after) := by
  cases step_turn moved with
  | handled env packet rest delivers queued handled =>
    subst delivers
    exact handled_passage queued handled running
  | spared silent spares =>
    have same : pipeOf host after = pipeOf host system := by
      rw [pipeOf, spares.draws, pipeline_moved spares.aside.effect running, pipeOf]
    rw [silent, same]
    exact ⟨spares.aside.effect.exit running, .idle⟩
  | received raw packet receives parsed link draws =>
    subst receives
    rw [link] at running
    exact ⟨running, received_passage served parsed link draws⟩
  | posted packet silent kind link draws =>
    have same : pipeOf host after = pipeOf host system := by
      rw [pipeOf, link, draws, pipeline_post kind, pipeOf]
    rw [link] at running
    rw [silent, same]
    exact ⟨running, .idle⟩
  | decoded env packet rest result area decodes queued turned link draws =>
    subst decodes
    rw [link] at running
    exact ⟨running, decoded_passage (formed running) queued turned link draws⟩
  | written area index byte silent mapped link draws =>
    have same : pipeOf host after = pipeOf host system := by
      rw [pipeOf, link, draws]
      rfl
    rw [link] at running
    rw [silent, same]
    exact ⟨running, .idle⟩

/-! ### The runs -/

def Flowing (host : Host) (system : System) (seen : List Sighting) : Prop :=
  system.client.exitCode = none → ∃ settled posted, Flow (pipeOf host system) seen settled posted

theorem flowing_step {seen : List Sighting} (served : WellServed host event system) (flowing : Flowing host system seen)
    (moved : System.step host event system = .ok after) : Flowing host after (seen ++ sighting host event system) := by
  intro running
  have formed (begun : system.client.exitCode = none) : ∀ draw ∈ (pipeOf host system).queued, WellFormed draw := by
    obtain ⟨settled, posted, flow⟩ := flowing begun
    intro draw member
    exact flow.formed draw (by simp [flow.draws, member])
  obtain ⟨begun, passage⟩ := step_passage served formed moved running
  obtain ⟨settled, posted, flow⟩ := flowing begun
  exact flow.passage passage

structure AccountedFor (seen : List Sighting) (final : System) (settled : List Settled) : Prop where
  /-- The draws that are acknowledged are the first ones received, in their order. -/
  draws : settled.map Settled.draw <+: drawsSeen seen
  results : settled.map Settled.result <+: resultsSeen seen
  outcomes : settled.map (fun settled => (settled.gone, settled.legacy)) = outcomesSeen seen
  acks : List.Forall₂ Acknowledged settled (acks final.client.toLink)
  drained : final.client.proxy = [] → final.client.decodeSender = [] → settled.map Settled.draw = drawsSeen seen

/-- In every run that neither aborts nor ends the session each draw is acknowledged
once at most, and once when all queues are empty, in the order of arrival and with
its own fields. -/
theorem draws_acknowledged_in_order (host : Host) (stream : Sink) (username password : Option String)
    (area : Option MmapArea) (audioWorker : Option AudioWorker) (events : List Event) (final : System)
    (served : Machine.Along (System.step host) (WellServed host) events
      { client := .new stream username password area audioWorker })
    (ran : System.run host events { client := .new stream username password area audioWorker } = .ok final)
    (running : final.client.exitCode = none) :
    ∃ settled, AccountedFor (Machine.observed (System.step host) (sighting host) events
      { client := .new stream username password area audioWorker }) final settled := by
  have start : Flowing host { client := .new stream username password area audioWorker } [] :=
    fun _ => ⟨[], [], rfl, rfl, rfl, rfl, .nil, fun _ impossible => nomatch impossible⟩
  have flowing := Machine.invariant_observed (System.step host) (sighting host) (Flowing host)
    (fun _ _ _ _ => flowing_step) served start ran
  obtain ⟨settled, posted, flow⟩ := flowing running
  rw [List.nil_append] at flow
  refine ⟨settled, ?_, ?_, flow.outcomes.symm, flow.acks, fun proxy queue => ?_⟩
  · rw [flow.draws, List.append_assoc, List.append_assoc]
    exact List.prefix_append _ _
  · rw [flow.results]
    exact List.prefix_append _ _
  · have posted : posted.map Posted.packet = [] := by
      rw [← flow.answered]
      simp [pipeOf, pipeline, proxy]
    rw [flow.draws, List.map_eq_nil_iff.mp posted]
    simp [pipeOf, pipeline, proxy, queue]

private def unknownHost : Host := { Host.plain with
  loadYaml := fun payload => if payload = [0x64] then
      .ok [.array [.string "draw", .integer 1, .integer 0, .integer 0, .integer 5, .integer 6, .string "scroll",
        .string "", .integer 9]]
    else .error "invalid utf-8 sequence" }

private def unknownDraw : Event := .receive (.ok ⟨[0x64], fun _ => none⟩)

theorem unknown_draw_acknowledged :
    ∃ final settled, System.run unknownHost [.resumed {}, unknownDraw, .deliver {}, .decode {}, .deliver {}]
        { client := .new { outcome := fun _ => .written } none none none none } = .ok final ∧
      AccountedFor (Machine.observed (System.step unknownHost) (sighting unknownHost)
        [.resumed {}, unknownDraw, .deliver {}, .decode {}, .deliver {}]
        { client := .new { outcome := fun _ => .written } none none none none }) final settled := by
  have formed : Machine.Along (System.step unknownHost) (WellServed unknownHost)
      [.resumed {}, unknownDraw, .deliver {}, .decode {}, .deliver {}]
      { client := .new { outcome := fun _ => .written } none none none none } := by
    apply Machine.Along.of_forall
    intro event system raw packet _ parsed
    by_cases payload : raw.payload = [0x64]
    · simp only [parsePacket, unknownHost, payload, if_true, Except.ok.injEq] at parsed
      subst parsed
      exact ⟨fun _ => ⟨9, 1, 5, 6, Nat.le_refl 9, ⟨rfl, by decide⟩, ⟨rfl, by decide⟩, ⟨rfl, by decide, by decide⟩,
        ⟨rfl, by decide, by decide⟩⟩, rfl⟩
    · simp [parsePacket, unknownHost, payload] at parsed
  obtain ⟨settled, accounted⟩ := draws_acknowledged_in_order unknownHost { outcome := fun _ => .written } none none none
    none [.resumed {}, unknownDraw, .deliver {}, .decode {}, .deliver {}] _ formed rfl rfl
  exact ⟨_, settled, rfl, accounted⟩

end Xpra.Proofs.DrawAck
