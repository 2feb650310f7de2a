import Xpra.Proofs.Handlers
import Xpra.Proofs.Steps

/-! What the UI thread does to draws. Handlers of anything else spare them; the
others put a packet into the decode thread's queue, check the shared area, or hand
over one acknowledgement. -/

namespace Xpra.Proofs.DrawSteps
open Xpra.Net Xpra.Client Library Handlers

def Aside (packet : Json) : Prop := packet.packetType ≠ "window-draw-ack" ∧ packet.packetType ≠ "window-ack"

/-- A packet that neither acknowledges a draw nor offers a text nor carries a log record. -/
def Offhand (packet : Json) : Prop := Aside packet ∧ packet.packetType ≠ "clipboard-data" ∧ ¬ Logging packet

structure Spares (host : Host) (client next : XpraClient) : Prop where
  link : Moves host Offhand client.toLink next.toLink
  draws : next.toDraws = client.toDraws
  clipboard : next.toClipboardSync = client.toClipboardSync

variable {host : Host} {env : Env} {client next : XpraClient}

theorem Spares.of_ordinary (ordinary : Ordinary host client next) : Spares host client next :=
  ⟨ordinary.link.mono fun _ plain => ⟨⟨plain.2.1, plain.2.2.1⟩, plain.2.2.2⟩, ordinary.draws, ordinary.clipboard⟩

theorem Spares.aside (spares : Spares host client next) : Moves host Aside client.toLink next.toLink :=
  spares.link.mono fun _ offhand => offhand.1

theorem Spares.refl (client : XpraClient) : Spares host client client := ⟨.refl, rfl, rfl⟩

theorem Spares.quit (spares : Spares host client next) (code : ExitCode) : Spares host client (next.quit code) :=
  ⟨.quit code spares.link, spares.draws, spares.clipboard⟩

theorem Spares.after {begin : XpraClient} (spares : Spares host begin next) (link : begin.toLink = client.toLink)
    (draws : begin.toDraws = client.toDraws) (clipboard : begin.toClipboardSync = client.toClipboardSync) :
    Spares host client next :=
  ⟨link ▸ spares.link, spares.draws.trans draws, spares.clipboard.trans clipboard⟩

/-! ### Hellos and passwords -/

theorem sendHello_spares (reply : Option (String × String × String)) :
    Spares host client (sendHello host client reply) :=
  ⟨.write .refl (by simp [Offhand, Aside, Logging, helloPacket, Json.packetType]), rfl, rfl⟩

theorem answerChallenge_spares (password : String) : Spares host client (answerChallenge host env client password) := by
  rw [answerChallenge]
  split
  · exact .refl client
  · exact (sendHello_spares _).after rfl rfl rfl

theorem showAuthDialog_spares (promptText : String) : Spares host client (showAuthDialog env client promptText) := by
  rw [showAuthDialog]
  split
  · exact (Spares.refl client).quit _
  · split
    · split
      · exact ⟨.refl, rfl, rfl⟩
      · exact (Spares.refl client).quit _
    · exact (Spares.refl client).quit _

theorem cancelAuth_spares : Spares host client (cancelAuth client) := ⟨.quit _ .refl, rfl, rfl⟩

theorem findPassword_spares (prompt : String) : Spares host client (findPassword host env client prompt) := by
  rw [findPassword]
  split
  · exact answerChallenge_spares _
  · split
    · exact answerChallenge_spares _
    · dsimp only
      split
      · exact ⟨.refl, rfl, rfl⟩
      · exact showAuthDialog_spares _

theorem processChallenge_spares {packet : Packet} (returned : processChallenge host env client packet = .ok next) :
    Spares host client next := by
  rw [processChallenge] at returned
  split at returned
  next =>
    cases returned
    exact .refl client
  next =>
    obtain ⟨⟨salt, rest⟩, -, returned⟩ := bind_ok returned
    obtain ⟨-, returned⟩ := Packet.read_bind_ok.mp returned
    dsimp only at returned
    split at returned
    next =>
      cases returned
      exact (Spares.refl client).quit _
    next =>
      have found (prompt saltDigest : String) :
          Spares host client (findPassword host env { client with
            pendingChallenge := some salt
            authLog := client.authLog ++ [.accepted salt (yamlStr (rest.get 3)) saltDigest] } prompt) :=
        (findPassword_spares prompt).after rfl rfl rfl
      split at returned <;> split at returned <;> cases returned
      · exact (Spares.refl client).quit _
      · exact found _ _
      · exact (Spares.refl client).quit _
      · exact found _ _

theorem handleAuthDialogEvent_spares (event : WindowEvent) :
    Spares host client (handleAuthDialogEvent host env client event) := by
  cases event with
  | closeRequested => exact cancelAuth_spares
  | keyboardInput key isSynthetic =>
    simp only [handleAuthDialogEvent]
    split
    · exact .refl client
    · split
      · exact .refl client
      · split
        · exact ⟨.refl, rfl, rfl⟩
        · exact (answerChallenge_spares _).after rfl rfl rfl
        · exact ⟨.quit _ .refl, rfl, rfl⟩
  | _ => exact .refl client

theorem windowEvent_spares (id : WindowId) (event : WindowEvent) :
    Spares host client (windowEvent host env client id event) := by
  rw [windowEvent]
  split
  · exact handleAuthDialogEvent_spares event
  · split
    · exact .of_ordinary ((handleWindowEvent_silent env client _ event).ordinary)
    · exact .refl client

theorem resumed_spares : Spares host client (resumed host env client) := by
  rw [resumed]
  split
  · exact ⟨.refl, rfl, rfl⟩
  · exact (sendHello_spares none).after rfl rfl rfl

/-! ### A turn of the UI thread -/

def drawKinds : List Kind := [.draw, .drawDecoded, .drawFailed]

inductive Handled (host : Host) (client : XpraClient) (packet : Packet) (next : XpraClient) : Prop where
  | spared (kind : kindOf host packet ∉ drawKinds) (other : kindOf host packet ≠ .startupComplete)
      (spares : Spares host client next)
  | started (kind : kindOf host packet = .startupComplete) (same : next = { client with startupComplete := true })
  | clipped (kind : kindOf host packet ∈ clipboardKinds) (clips : Clips host client next)
  | logged (kind : kindOf host packet = .sendLog) (logs : Logs host client next)
  | hello (kind : kindOf host packet = .hello) (greeted : Greeted host client (packet.get 1) next)
  | draw (kind : kindOf host packet = .draw)
      (same : next = { client with decodeSender := client.decodeSender ++ [packet] })
  | decoded (kind : kindOf host packet = .drawDecoded) (acknowledges : Acknowledges host client next packet
      (if (client.windows (yamlU64 (packet.get 1))).isNone then -1 else (packet.decodeTimeUs.getD 0).toInt))
  | failed (kind : kindOf host packet = .drawFailed) (acknowledges : Acknowledges host client next packet (-1))
  | ended (kind : kindOf host packet ∉ drawKinds) (ends : endsStream packet = true)
      (link : Moves host Offhand client.toLink next.toLink)
      (draws : next.toDraws = { client.toDraws with decodeSender := client.decodeSender ++ [packet] })
      (clipboard : next.toClipboardSync = client.toClipboardSync)

theorem forwardToDecoder_handled {packet : Packet} {middle : XpraClient} (kind : kindOf host packet ∉ drawKinds)
    (other : kindOf host packet ≠ .startupComplete) (ends : endsStream packet = true) (ordinary : Ordinary host client middle) :
    Handled host client packet (forwardToDecoder host middle packet) := by
  have spares := Spares.of_ordinary ordinary
  rw [forwardToDecoder]
  split
  · exact .ended kind ends spares.link (by rw [← spares.draws]) spares.clipboard
  · exact .spared kind other spares

theorem userEvent_handled {packet : Packet} (returned : userEvent host env client packet = .ok next) :
    Handled host client packet next := by
  rw [userEvent_eq] at returned
  cases kind : kindOf host packet with
  | hello =>
    rw [kind] at returned
    obtain ⟨hello, asserted, returned⟩ := bind_ok returned
    rw [assertHello] at asserted
    split at asserted <;> cases asserted
    exact .hello kind (processHello_greeted client returned)
  | startupComplete =>
    rw [kind] at returned
    cases returned
    exact .started kind rfl
  | challenge =>
    rw [kind] at returned
    exact .spared (by simp [kind, drawKinds]) (by simp [kind]) (processChallenge_spares returned)
  | challengePassword =>
    rw [kind] at returned
    obtain ⟨password, -, rfl⟩ := map_ok returned
    exact .spared (by simp [kind, drawKinds]) (by simp [kind]) (answerChallenge_spares password)
  | challengeCancel =>
    rw [kind] at returned
    cases returned
    exact .spared (by simp [kind, drawKinds]) (by simp [kind]) cancelAuth_spares
  | challengeFallbackDialog =>
    rw [kind] at returned
    obtain ⟨prompt, -, rfl⟩ := map_ok returned
    exact .spared (by simp [kind, drawKinds]) (by simp [kind]) (showAuthDialog_spares prompt)
  | draw =>
    rw [kind] at returned
    cases returned
    exact .draw kind rfl
  | drawDecoded =>
    rw [kind] at returned
    exact .decoded kind (processDrawDecoded_ok client packet returned)
  | drawFailed =>
    rw [kind] at returned
    exact .failed kind (processDrawFailed_ok client packet returned)
  | lostWindow =>
    rw [kind] at returned
    obtain ⟨middle, lost, rfl⟩ := map_ok returned
    have named := listed_of_kind kind (by decide)
    refine forwardToDecoder_handled (by simp [kind, drawKinds]) (by simp [kind]) ?_ (processLostWindow_silent env client packet middle lost).ordinary
    simpa [endsStream, windowsPacketTypes, packetTypes] using Or.inl named
  | eos =>
    rw [kind] at returned
    cases returned
    have named := listed_of_kind kind (by decide)
    refine forwardToDecoder_handled (by simp [kind, drawKinds]) (by simp [kind]) ?_ (.refl client)
    simpa [endsStream, windowsPacketTypes, packetTypes] using Or.inr named
  | setClipboardEnabled | clipboardToken | clipboardContents | clipboardChanged =>
    exact .clipped (by simp [kind, clipboardKinds]) (clipboard_clips env client packet (by simp [clipboardKinds]) (kind ▸ returned))
  | sendLog =>
    rw [kind] at returned
    exact .logged kind (sendLog_logs env client packet next returned)
  | _ =>
    refine .spared (by simp [kind, drawKinds]) (by simp [kind]) (.of_ordinary ?_)
    exact doProcessPacket_keeps env client packet _ (by simp [kind, specialKinds, clipboardKinds]) next returned

/-! ### A turn of the decode thread -/

section Decode
variable {env : DecodeEnv} {area left : Option MmapArea} {packet : Packet} {result : Option Decoded}

theorem decodeTurn_some (drawn : endsStream packet = false)
    (turned : decodeTurn host env area packet = .ok (result, left)) : ∃ decoded, result = some decoded := by
  obtain ⟨-, turned⟩ := Packet.read_bind_ok.mp turned
  rw [drawn] at turned
  obtain ⟨both, -, turned⟩ := bind_ok turned
  cases turned
  exact ⟨_, rfl⟩

theorem decodeTurn_none (ends : endsStream packet = true)
    (turned : decodeTurn host env area packet = .ok (result, left)) : result = none ∧ left = area := by
  obtain ⟨-, turned⟩ := Packet.read_bind_ok.mp turned
  rw [ends] at turned
  simp only [if_true] at turned
  split at turned
  · obtain ⟨-, turned⟩ := Packet.read_bind_ok.mp turned
    cases turned
    exact ⟨rfl, rfl⟩
  · cases turned
    exact ⟨rfl, rfl⟩

theorem decodeTurn_len {result : Option Decoded × Option MmapArea} (drawn : endsStream packet = false)
    (coding : yamlStr (packet.get 6) = "mmap") (turned : decodeTurn host env area packet = .ok result) :
    9 ≤ packet.len := by
  obtain ⟨-, turned⟩ := Packet.read_bind_ok.mp turned
  rw [drawn] at turned
  obtain ⟨_, drew, -⟩ := bind_ok turned
  iterate 4 obtain ⟨-, drew⟩ := Packet.read_bind_ok.mp drew
  rw [coding] at drew
  exact (Packet.read_bind_ok.mp drew).1

theorem decodeTurn_mmap (drawn : endsStream packet = false) (coding : yamlStr (packet.get 6) = "mmap")
    (long : 9 ≤ packet.len) :
    decodeTurn host env area packet = match area with
      | some area => (fun both => (some (some <$> both.1), some both.2)) <$> readMmapDraw host packet area
      | none => .ok (some (.error "received an mmap draw without an mmap area"), none) := by
  have read {α : Type} (convert : Yaml → α) (index : Nat) (inside : index < 9) :
      packet.read convert index = .ok (convert (packet.get index)) :=
    Packet.read_of_lt convert (Nat.lt_of_lt_of_le inside long)
  have other : ("mmap" : String) ≠ "h264" := by decide
  simp only [decodeTurn, decodeDraw, Packet.getStr, Packet.getI64, Packet.getI32, read _ 0 (by decide),
    read _ 1 (by decide), read _ 4 (by decide), read _ 5 (by decide), read _ 6 (by decide), read _ 8 (by decide), drawn,
    coding, other, bind, Except.bind, if_false, if_true, Bool.false_eq_true]
  cases area with
  | none => rfl
  | some area => cases drew : readMmapDraw host packet area <;> simp [drew, Functor.map, Except.map, pure, Except.pure]

/-- Only a draw from the area moves anything in it. -/
theorem decodeTurn_unmapped (drawn : endsStream packet = false) (coding : yamlStr (packet.get 6) ≠ "mmap")
    (turned : decodeTurn host env area packet = .ok (result, left)) : left = area := by
  obtain ⟨-, turned⟩ := Packet.read_bind_ok.mp turned
  rw [drawn] at turned
  obtain ⟨both, drew, turned⟩ := bind_ok turned
  cases turned
  iterate 4 obtain ⟨-, drew⟩ := Packet.read_bind_ok.mp drew
  rw [if_neg coding] at drew
  obtain ⟨data, -, drew⟩ := bind_ok drew
  obtain ⟨-, drew⟩ := Packet.read_bind_ok.mp drew
  split at drew <;> cases drew <;> rfl

def areaSize (area : Option MmapArea) : Option Nat := area.map fun area => area.memory.size

/-- The decode thread gives back the area it has been given, as large and with the same
file. -/
def Kept (left area : Option MmapArea) : Prop :=
  areaSize left = areaSize area ∧ left.map backing = area.map backing

theorem readMmapDraw_kept {area left : MmapArea} {pixels : Except String Bytes}
    (drew : readMmapDraw host packet area = .ok (pixels, left)) : Kept (some left) (some area) := by
  rw [readMmapDraw] at drew
  split at drew
  next =>
    cases drew
    exact ⟨rfl, rfl⟩
  next chunks _ =>
    obtain ⟨read, -, drew⟩ := bind_ok drew
    cases drew
    rw [MmapArea.release]
    split <;> exact ⟨rfl, rfl⟩

theorem decodeTurn_kept (turned : decodeTurn host env area packet = .ok (result, left)) : Kept left area := by
  cases ends : endsStream packet with
  | true =>
    rw [(decodeTurn_none ends turned).2]
    exact ⟨rfl, rfl⟩
  | false =>
    by_cases coding : yamlStr (packet.get 6) = "mmap"
    · rw [decodeTurn_mmap ends coding (decodeTurn_len ends coding turned)] at turned
      cases area with
      | none =>
        cases turned
        exact ⟨rfl, rfl⟩
      | some area =>
        obtain ⟨⟨pixels, kept⟩, read, same⟩ := map_ok turned
        cases same
        exact readMmapDraw_kept read
    · rw [decodeTurn_unmapped ends coding turned]
      exact ⟨rfl, rfl⟩

theorem decodeTurn_size (turned : decodeTurn host env area packet = .ok (result, left)) : areaSize left = areaSize area :=
  (decodeTurn_kept turned).1

end Decode

/-! ### The steps -/

inductive Sighting where
  | received (draw : Packet)
  | decoded (result : Decoded)
  /-- A result reaches the UI thread: whether the window is gone, and whether the
  server takes the legacy packets. -/
  | settled (gone legacy : Bool)

def sighting (host : Host) (event : Event) (system : System) : List Sighting :=
  match event with
  | .receive (.ok raw) => match parsePacket host raw with
    | .ok packet => if kindOf host packet = .draw then [.received packet] else []
    | .error _ => []
  | .deliver _ => match system.client.proxy.head? with
    | some packet =>
      if kindOf host packet = .drawDecoded ∨ kindOf host packet = .drawFailed then
        [.settled (system.client.windows (yamlU64 (packet.get 1))).isNone system.client.serverBackwardsCompatible]
      else []
    | none => []
  | .decode env => match system.client.decodeSender.head? with
    | some packet => match decodeTurn host env system.client.area packet with
      | .ok (some result, _) => [.decoded result]
      | _ => []
    | none => []
  | _ => []

inductive Turn (host : Host) (event : Event) (system next : System) : Prop where
  | handled (env : Env) (packet : Packet) (rest : List Packet) (delivers : event = .deliver env)
      (queued : system.client.proxy = packet :: rest)
      (handled : Handled host { system.client with proxy := rest } packet next.client)
  | spared (silent : sighting host event system = []) (spares : Spares host system.client next.client)
  | received (raw : RawPacket) (packet : Packet) (receives : event = .receive (.ok raw))
      (parsed : parsePacket host raw = .ok packet)
      (link : next.client.toLink = { system.client.toLink with proxy := system.client.proxy ++ [packet] })
      (draws : next.client.toDraws = system.client.toDraws)
  | posted (packet : Packet) (silent : sighting host event system = []) (kind : kindOf host packet ∉ drawKinds)
      (link : next.client.toLink = { system.client.toLink with proxy := system.client.proxy ++ [packet] })
      (draws : next.client.toDraws = system.client.toDraws)
  | decoded (env : DecodeEnv) (packet : Packet) (rest : List Packet) (result : Option Decoded)
      (area : Option MmapArea) (decodes : event = .decode env) (queued : system.client.decodeSender = packet :: rest)
      (turned : decodeTurn host env system.client.area packet = .ok (result, area))
      (link : next.client.toLink = { system.client.toLink with
        proxy := system.client.proxy ++ (result.map (decodedPacket env packet)).toList })
      (draws : next.client.toDraws = { system.client.toDraws with decodeSender := rest, area })
  | written (area : MmapArea) (index : Nat) (byte : UInt8) (silent : sighting host event system = [])
      (mapped : system.client.area = some area) (link : next.client.toLink = system.client.toLink)
      (draws : next.client.toDraws =
        { system.client.toDraws with area := some { area with memory := area.memory.set index byte } })

theorem type_of_draws {packet : Packet} (draws : kindOf host packet ∈ drawKinds) :
    yamlStr (packet.get 0) ∈ ["draw", "draw-decoded", "draw-failed", "decoding-failed"] := by
  simp only [drawKinds, List.mem_cons, List.not_mem_nil, or_false] at draws
  rcases draws with kind | kind | kind <;> have listed := listed_of_kind kind (by decide) <;>
    simp [windowsPacketTypes, packetTypes] at listed
  · simp [listed]
  · simp [listed]
  · rcases listed with listed | listed <;> simp [listed]

theorem clientPacket_kind {packetType message : String}
    (other : packetType ∉ ["draw", "draw-decoded", "draw-failed", "decoding-failed"]) :
    kindOf host (clientPacket packetType message) ∉ drawKinds := fun draws => other (type_of_draws draws)

theorem localPost_kind (posted : LocalPost) : kindOf host posted.packet ∉ drawKinds := by
  intro draws
  have named := type_of_draws draws
  cases posted <;> simp [LocalPost.packet, clientPacket, Packet.get, yamlStr] at named

theorem pinentryPacket_kind (prompt : String) (outcome : Except String (Option String)) :
    kindOf host (pinentryPacket prompt outcome) ∉ drawKinds := by
  rcases outcome with _ | _ | _ <;> exact clientPacket_kind (by decide)

theorem deliver_handles {env : Env} {system next : System} (moved : System.deliver host system env = .ok next) :
    ∃ packet rest, system.client.proxy = packet :: rest ∧
      userEvent host env { system.client with proxy := rest } packet = .ok next.client := by
  cases Steps.deliver_step moved with
  | delivered env packet rest client queued handled => exact ⟨packet, rest, queued, handled⟩

theorem step_turn {event : Event} {system next : System} (moved : System.step host event system = .ok next) :
    Turn host event system next := by
  cases Steps.step_of_moved moved with
  | lost error => exact .posted _ rfl (clientPacket_kind (by decide)) rfl rfl
  | invalid raw message failed => exact .posted _ (by simp [sighting, failed]) (clientPacket_kind (by decide)) rfl rfl
  | received raw packet parsed => exact .received raw packet rfl parsed rfl rfl
  | delivered env packet rest client queued handled =>
    exact .handled env packet rest rfl queued (userEvent_handled handled)
  | input id input env => exact .spared rfl (windowEvent_spares id input)
  | resumed env => exact .spared rfl resumed_spares
  | decoded env packet rest result area queued turned =>
    exact .decoded env packet rest result area rfl queued turned rfl rfl
  | posted posted => exact .posted _ rfl (localPost_kind posted) rfl rfl
  | answered prompt outcome => exact .posted _ rfl (pinentryPacket_kind prompt outcome) rfl rfl
  | written index byte area mapped => exact .written area index byte rfl mapped rfl rfl
  | audio running connected worker => exact .spared rfl ⟨.refl, rfl, rfl⟩

end Xpra.Proofs.DrawSteps
