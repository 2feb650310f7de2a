import Xpra.Client.Clipboard
import Xpra.Proofs.Posts

/-! The clipboard as the UI thread knows it: reports on their way from the clipboard
thread, texts offered to the server, and texts on their way to the clipboard. Every
step of the client makes at most one move there. -/

namespace Xpra.Proofs.ClipboardSteps
open Xpra.Net Xpra.Client Library Handlers DrawSteps DrawAck Posts

variable {host : Host}

/-! ### What the UI thread knows -/

def changes (host : Host) (proxy : List Packet) : List String :=
  (proxy.filter fun packet => kindOf host packet = .clipboardChanged).map fun packet => yamlStr (packet.get 1)

def offeredText : Json → Option String
  | .array (.string "clipboard-data" :: fields) => some (match fields with
    | [_, .object [_, _, _, (_, .object [(_, .array [_, _, _, .string text])])]] => text
    | _ => "")
  | _ => none

def offers (link : Link) : List String := link.sent.filterMap offeredText

structure Side where
  changes : List String
  offers : List String
  sync : ClipboardSync

def side (host : Host) (client : XpraClient) : Side :=
  { changes := Xpra.Proofs.ClipboardSteps.changes host client.proxy
    offers := Xpra.Proofs.ClipboardSteps.offers client.toLink
    sync := client.toClipboardSync }

theorem changes_eq (host : Host) (proxy : List Packet) :
    changes host proxy = postsOf host .clipboardChanged (fun packet => yamlStr (packet.get 1)) proxy := rfl

theorem offeredText_other {packet : Json} (other : packet.packetType ≠ "clipboard-data") : offeredText packet = none := by
  unfold offeredText
  split
  next => exact absurd rfl other
  next => rfl

theorem typed_kind {packetType message : String} (other : packetType ≠ "clipboard-changed") :
    kindOf host (clientPacket packetType message) ≠ .clipboardChanged := by
  intro kind
  have named := listed_of_kind kind (by decide)
  simp [windowsPacketTypes, packetTypes, clientPacket, Packet.get, yamlStr] at named
  exact other named

/-! ### Moves -/

def receivedText (host : Host) (packet : Packet) : Option String :=
  match kindOf host packet with
  | .clipboardToken => if packet.len ≥ 8 then (clipboardText host packet 6 7).toOption.join else none
  | .clipboardContents => if packet.len ≥ 7 then (clipboardText host packet 5 6).toOption.join else none
  | _ => none

/-- What may happen on the UI thread's side at once, when a packet brings a text or
none. -/
inductive SideMove (received : Option String) : Side → Side → Prop where
  | idle (side : Side) : SideMove received side side
  | opened (side : Side) (closed : side.sync.clipboard = none) :
      SideMove received side { side with sync := { side.sync with clipboard := some [], clipboardEnabled := true } }
  | toggled (side : Side) (enabled : Bool) :
      SideMove received side { side with sync := { side.sync with clipboardEnabled := enabled } }
  | taken (side : Side) (text : String) (brought : received = some text) (enabled : side.sync.clipboardEnabled = true) :
      SideMove received side { side with sync := { side.sync with
        lastClipboard := text, clipboard := side.sync.clipboard.map (· ++ [text]) } }
  | skipped (side : Side) (text : String) (rest : List String) (head : side.changes = text :: rest)
      (known : side.sync.clipboardEnabled = false ∨ text = "" ∨ text = side.sync.lastClipboard) :
      SideMove received side { side with changes := rest }
  | offered (side : Side) (text : String) (rest : List String) (head : side.changes = text :: rest)
      (enabled : side.sync.clipboardEnabled = true) (sent : List String) (once : sent = [] ∨ sent = [text]) :
      SideMove received side
        { changes := rest, offers := side.offers ++ sent, sync := { side.sync with lastClipboard := text } }

theorem offers_moves {allowed : Json → Prop} {start link : Link} (moved : Moves host allowed start link)
    (silent : ∀ packet, allowed packet → packet.packetType ≠ "clipboard-data") : offers link = offers start := by
  obtain ⟨packets, sent, fine⟩ := moved.effect.sent
  have none : packets.filterMap offeredText = [] := by
    rw [List.filterMap_eq_nil_iff]
    intro packet member
    exact offeredText_other (silent packet (fine packet member))
  rw [offers, sent, List.filterMap_append, none, List.append_nil, offers]

theorem changes_moves {allowed : Json → Prop} {start link : Link} (moved : Moves host allowed start link) :
    changes host link.proxy = changes host start.proxy := moves_posts moved (by decide)

theorem side_aside {client next : XpraClient} {allowed : Json → Prop} (link : Moves host allowed client.toLink next.toLink)
    (silent : ∀ packet, allowed packet → packet.packetType ≠ "clipboard-data")
    (clipboard : next.toClipboardSync = client.toClipboardSync) : side host next = side host client := by
  rw [side, changes_moves link, offers_moves link silent, clipboard, side]

theorem poll_cases (thread : ClipboardThread) (contents : Option String) :
    ((∀ text, contents = some text → text = "" ∨ text = thread.last) ∧
        thread.poll contents = { thread with phase := .waiting }) ∨
      ∃ text, contents = some text ∧ text ≠ "" ∧ text ≠ thread.last ∧
        thread.poll contents = { last := text, phase := .reporting text } := by
  cases contents with
  | none => exact .inl ⟨nofun, rfl⟩
  | some text =>
    by_cases new : text ≠ "" ∧ text ≠ thread.last
    · exact .inr ⟨text, rfl, new.1, new.2, by rw [ClipboardThread.poll, if_pos new]⟩
    · refine .inl ⟨?_, by rw [ClipboardThread.poll, if_neg new]⟩
      intro other same
      cases same
      by_contra neither
      exact new (not_or.mp neither)

/-! ### A turn of the UI thread -/

variable {env : Env} {client next : XpraClient} {packet : Packet}

theorem clipboardText_side {result : Except Panic (Option String)} (enabled : client.clipboardEnabled = true)
    (returned : (do
      match ← result with
      | some text => return setLocalClipboard client text
      | none => return client) = .ok next) : SideMove result.toOption.join (side host client) (side host next) := by
  obtain ⟨text, read, returned⟩ := bind_ok returned
  cases text with
  | none =>
    cases returned
    exact .idle _
  | some text =>
    cases returned
    exact .taken _ text (by rw [read]; rfl) enabled

/-- A handler that leaves the clipboard to others makes no move. -/
theorem SideMove.aside {received : Option String} {allowed : Json → Prop}
    (link : Moves host allowed client.toLink next.toLink)
    (silent : ∀ packet, allowed packet → packet.packetType ≠ "clipboard-data")
    (clipboard : next.toClipboardSync = client.toClipboardSync) :
    SideMove received (side host client) (side host next) := by
  rw [side_aside link silent clipboard]
  exact .idle _

theorem processClipboardToken_side (kind : kindOf host packet = .clipboardToken)
    (returned : processClipboardToken host client packet = .ok next) :
    SideMove (receivedText host packet) (side host client) (side host next) := by
  rw [processClipboardToken] at returned
  split at returned
  next =>
    cases returned
    exact .idle _
  next enabled =>
    split at returned
    next long =>
      rw [receivedText, kind]
      simp only [long, if_true]
      exact clipboardText_side (by simpa using enabled) returned
    next =>
      cases returned
      have asks : Moves host (fun packet => packet.packetType ≠ "clipboard-data") client.toLink
          (client.toLink.writeJson host (.array ["clipboard-request", (0 : Nat), "CLIPBOARD", "UTF8_STRING"])) :=
        .write .refl (by decide)
      exact .aside asks (fun _ silent => silent) rfl

theorem processClipboardContents_side (kind : kindOf host packet = .clipboardContents)
    (returned : processClipboardContents host client packet = .ok next) :
    SideMove (receivedText host packet) (side host client) (side host next) := by
  rw [processClipboardContents] at returned
  split at returned
  next =>
    cases returned
    exact .idle _
  next enabled =>
    split at returned
    next long =>
      rw [receivedText, kind]
      simp only [long, if_true]
      exact clipboardText_side (by simpa using enabled) returned
    next =>
      cases returned
      exact .idle _

theorem clipped_side (about : kindOf host packet ∈ clipboardKinds) (other : kindOf host packet ≠ .clipboardChanged)
    (returned : userEvent host env client packet = .ok next) :
    SideMove (receivedText host packet) (side host client) (side host next) := by
  rw [userEvent_eq] at returned
  simp only [clipboardKinds, List.mem_cons, List.not_mem_nil, or_false] at about
  rcases about with kind | kind | kind | kind
  · rw [kind] at returned
    obtain ⟨enabled, -, returned⟩ := bind_ok returned
    cases returned
    exact .toggled _ enabled
  · rw [kind] at returned
    exact processClipboardToken_side kind returned
  · rw [kind] at returned
    exact processClipboardContents_side kind returned
  · exact absurd kind other

theorem greeted_side {hello : Yaml} {received : Option String} (greeted : Greeted host client hello next) :
    SideMove received (side host client) (side host next) := by
  have link := changes_moves greeted.link
  have sent := offers_moves greeted.link fun _ plain => plain.2.2.2.1
  rcases greeted.clipboard with same | ⟨closed, opened⟩
  · exact .aside greeted.link (fun _ plain => plain.2.2.2.1) same
  · have target : side host next = { side host client with
        sync := { client.toClipboardSync with clipboard := some [], clipboardEnabled := true } } := by
      rw [side, link, sent, opened, side]
    rw [target]
    exact .opened (side host client) closed

theorem arm_side (other : kindOf host packet ≠ .clipboardChanged) (returned : userEvent host env client packet = .ok next) :
    SideMove (receivedText host packet) (side host client) (side host next) := by
  cases userEvent_handled returned with
  | spared _ _ spares => exact .aside spares.link (fun _ offhand => offhand.2.1) spares.clipboard
  | started _ same =>
    rw [same]
    exact .idle _
  | clipped about => exact clipped_side about other returned
  | logged _ logs => exact .aside logs.link (fun _ logging => logging.ne (by decide)) logs.clipboard
  | hello _ greeted => exact greeted_side greeted
  | draw _ same =>
    rw [same]
    exact .idle _
  | decoded _ acknowledges | failed _ acknowledges =>
    exact .aside acknowledges.moves (fun _ acking => acking.ne (by decide) (by decide)) acknowledges.clipboard
  | ended _ _ link _ clipboard => exact .aside link (fun _ offhand => offhand.2.1) clipboard

theorem offers_write (host : Host) (link : Link) {json : Json} {text : String} (offer : offeredText json = some text) :
    ∃ sent, (sent = [] ∨ sent = [text]) ∧ offers (link.writeJson host json) = offers link ++ sent := by
  rcases writeJson_cases host link json with ⟨-, same⟩ | ⟨-, sent, -⟩
  · exact ⟨[], .inl rfl, by simp [same]⟩
  · exact ⟨[text], .inr rfl, by simp [offers, sent, offer]⟩

theorem processClipboardChanged_side {rest : List Packet} {received : Option String} (kind : kindOf host packet = .clipboardChanged)
    (queued : client.proxy = packet :: rest)
    (returned : processClipboardChanged host { client with proxy := rest } packet = .ok next) :
    SideMove received (side host client) (side host next) := by
  have head : (side host client).changes = yamlStr (packet.get 1) :: changes host rest := by
    simp [side, changes, queued, kind]
  rw [processClipboardChanged] at returned
  split at returned
  next disabled =>
    cases returned
    exact .skipped (side host client) _ _ head (.inl disabled)
  next enabled =>
    have enabled : client.clipboardEnabled = true := by simpa using enabled
    obtain ⟨-, returned⟩ := Packet.read_bind_ok.mp returned
    split at returned
    next known =>
      cases returned
      exact .skipped (side host client) _ _ head (.inr known)
    next =>
      have next_eq := (Except.ok.inj returned).symm
      obtain ⟨sent, once, written⟩ : ∃ sent, (sent = [] ∨ sent = [yamlStr (packet.get 1)]) ∧
          offers next.toLink = offers client.toLink ++ sent := by
        rw [next_eq]
        exact offers_write host { client.toLink with proxy := rest } rfl
      have reported : changes host next.proxy = changes host rest := by
        rw [next_eq]
        exact changes_moves (.write .refl trivial : Moves host (fun _ => True) { client.toLink with proxy := rest } _)
      have target : side host next = {
          changes := changes host rest
          offers := (side host client).offers ++ sent
          sync := { client.toClipboardSync with lastClipboard := yamlStr (packet.get 1) } } := by
        rw [side, reported, written, next_eq]
        rfl
      rw [target]
      exact .offered (side host client) _ _ head enabled sent once

theorem userEvent_side {rest : List Packet} (queued : client.proxy = packet :: rest)
    (returned : userEvent host env { client with proxy := rest } packet = .ok next) :
    SideMove (receivedText host packet) (side host client) (side host next) := by
  by_cases kind : kindOf host packet = .clipboardChanged
  · rw [userEvent_eq, kind] at returned
    exact processClipboardChanged_side kind queued returned
  · have same : side host { client with proxy := rest } = side host client := by
      rw [side, side, queued, changes_eq host (packet :: rest), postsOf_other kind, ← changes_eq, offers, offers]
    rw [← same]
    exact arm_side kind returned

/-! ### The steps -/

variable {event : Event} {system after : System}

/-- The server does not pretend to be the clipboard thread. -/
def Genuine (host : Host) (event : Event) : Prop :=
  ∀ raw packet, event = .receive (.ok raw) → parsePacket host raw = .ok packet → kindOf host packet ≠ .clipboardChanged

theorem posted_side {packet : Packet} (other : kindOf host packet ≠ .clipboardChanged) :
    side host (system.posted packet).client = side host system.client := by
  have posted : changes host (system.client.proxy ++ [packet]) = changes host system.client.proxy :=
    postsOf_others (by simpa using other) _
  rw [side, System.posted, posted, offers, side, offers]

theorem reported_side (text : String) :
    side host (system.posted (clientPacket "clipboard-changed" text)).client =
      { side host system.client with changes := changes host system.client.proxy ++ [text] } := by
  have kind : kindOf host (clientPacket "clipboard-changed" text) = .clipboardChanged := by
    rw [kindOf]
    cases host.windows <;> rfl
  have posted : changes host (system.client.proxy ++ [clientPacket "clipboard-changed" text]) =
      changes host system.client.proxy ++ [text] := by
    rw [changes_eq, postsOf_append, postsOf_cons kind]
    rfl
  rw [side, System.posted, posted, offers, side, offers]

theorem localPost_other (posted : LocalPost) (silent : ∀ text, posted ≠ .clipboardChanged text) :
    kindOf host posted.packet ≠ .clipboardChanged := by
  intro kind
  have named := listed_of_kind kind (by decide)
  cases posted with
  | clipboardChanged text => exact silent text rfl
  | _ => simp [windowsPacketTypes, packetTypes, LocalPost.packet, clientPacket, Packet.get, yamlStr] at named

theorem pinentryPacket_other (prompt : String) (outcome : Except String (Option String)) :
    kindOf host (pinentryPacket prompt outcome) ≠ .clipboardChanged := by
  rcases outcome with _ | _ | _ <;> exact typed_kind (by decide)

theorem decoded_side {env : DecodeEnv} {packet : Packet} {rest : List Packet} {result : Option Decoded}
    {area : Option MmapArea} (turned : decodeTurn host env system.client.area packet = .ok (result, area)) :
    side host { system.client with
      decodeSender := rest
      area
      proxy := system.client.proxy ++ (result.map (decodedPacket env packet)).toList } = side host system.client := by
  have long : 0 < packet.len := (Packet.read_bind_ok.mp turned).1
  have posted : changes host (system.client.proxy ++ (result.map (decodedPacket env packet)).toList) =
      changes host system.client.proxy := by
    refine postsOf_others (fun posted member => ?_) _
    cases result with
    | none => simp at member
    | some decoded =>
      have same : posted = decodedPacket env packet decoded := by simpa using member
      rw [same, decodedPacket_kind env decoded long]
      cases decoded <;> simp
  rw [side, posted, offers, side, offers]

def takenText (host : Host) (event : Event) (system : System) : Option String :=
  match event with
  | .deliver _ => system.client.proxy.head?.bind (receivedText host)
  | _ => none

theorem step_side (genuine : Genuine host event) (silent : ∀ text, event ≠ .post (.clipboardChanged text))
    (moved : System.step host event system = .ok after) :
    SideMove (takenText host event system) (side host system.client) (side host after.client) := by
  have still (same : side host after.client = side host system.client) :
      SideMove (takenText host event system) (side host system.client) (side host after.client) := by
    rw [same]
    exact .idle _
  cases Steps.step_of_moved moved with
  | lost | invalid => exact still (posted_side (typed_kind (by decide)))
  | received raw packet parsed => exact still (posted_side (genuine raw packet rfl parsed))
  | delivered env packet rest client queued handled =>
    have received : takenText host (.deliver env) system = receivedText host packet := by simp [takenText, queued]
    rw [received]
    exact userEvent_side queued handled
  | input id input env =>
    have spares : Spares host system.client (windowEvent host env system.client id input) := windowEvent_spares id input
    exact still (side_aside spares.link (fun _ offhand => offhand.2.1) spares.clipboard)
  | resumed env =>
    have spares : Spares host system.client (resumed host env system.client) := resumed_spares
    exact still (side_aside spares.link (fun _ offhand => offhand.2.1) spares.clipboard)
  | decoded env packet rest result area queued turned => exact still (decoded_side turned)
  | posted posted => exact still (posted_side (localPost_other posted fun text same => silent text (by rw [same])))
  | answered prompt outcome => exact still (posted_side (pinentryPacket_other prompt outcome))
  | written | audio => exact .idle _

/-! ### The desktop -/

variable {desktop left : Desktop}

/-- No report but those of the clipboard thread. -/
def GenuineStep (host : Host) (event : DesktopEvent) (_ : Desktop) : Prop :=
  ∀ other, event = .other other → Genuine host other

theorem step_other (desktop : Desktop) (silent : ∀ text, event ≠ .post (.clipboardChanged text)) :
    Desktop.step host (.other event) desktop =
      (fun system => { desktop with system }) <$> System.step host event desktop.system := by
  cases event with
  | post posted =>
    cases posted with
    | clipboardChanged text => exact absurd rfl (silent text)
    | _ => rfl
  | _ => rfl

theorem other_move (genuine : Genuine host event) (moved : Desktop.step host (.other event) desktop = .ok left) :
    ∃ system, left = { desktop with system } ∧
      SideMove (takenText host event desktop.system) (side host desktop.client) (side host system.client) := by
  by_cases silent : ∀ text, event ≠ .post (.clipboardChanged text)
  · rw [step_other desktop silent] at moved
    obtain ⟨system, stepped, rfl⟩ := map_ok moved
    exact ⟨system, rfl, step_side genuine silent stepped⟩
  · simp only [not_forall, ne_eq, not_not] at silent
    obtain ⟨text, rfl⟩ := silent
    cases moved

/-! ### A server with a clipboard -/

def greetingText : Bytes := "[hello, \x7bversion: '6', clipboard: \x7b\x7d\x7d]".toList.map fun c => c.toNat.toUInt8

def tokenText : Bytes :=
  "[clipboard-token, CLIPBOARD, [], UTF8_STRING, UTF8_STRING, 8, bytes, '']".toList.map fun c => c.toNat.toUInt8

def requestText : Bytes := "[clipboard-request, 7, CLIPBOARD, UTF8_STRING]".toList.map fun c => c.toNat.toUInt8

def clipboardHost : Host := { Host.plain with
  loadYaml := fun payload =>
    if payload = greetingText then
      .ok [.array [.string "hello", .hash [(.string "version", .string "6"), (.string "clipboard", .hash [])]]]
    else if payload = tokenText then
      .ok [.array [.string "clipboard-token", .string "CLIPBOARD", .array [], .string "UTF8_STRING",
        .string "UTF8_STRING", .integer 8, .string "bytes", .string ""]]
    else if payload = requestText then
      .ok [.array [.string "clipboard-request", .integer 7, .string "CLIPBOARD", .string "UTF8_STRING"]]
    else .error "invalid utf-8 sequence" }

def greeting : DesktopEvent := .other (.receive (.ok ⟨greetingText, fun _ => none⟩))

def token (text : Bytes) : DesktopEvent :=
  .other (.receive (.ok ⟨tokenText, fun index => if index = 7 then some text else none⟩))

def request : DesktopEvent := .other (.receive (.ok ⟨requestText, fun _ => none⟩))

def fresh : Desktop := .opening { outcome := fun _ => .written } none none none none none

/-- The session is up, and the clipboard thread runs. -/
def started : List DesktopEvent := [.other (.resumed {}), greeting, .other (.deliver {}), .start]

/-- A local application copies a text, which the thread reads. -/
def copied (text : String) : List DesktopEvent := started ++ [.copy (some text), .timeout, .poll]

theorem ran_of_toOption {events : List DesktopEvent} {final : Desktop}
    (ran : final ∈ (Desktop.run clipboardHost events fresh).toOption) : Desktop.run clipboardHost events fresh = .ok final := by
  cases stopped : Desktop.run clipboardHost events fresh with
  | ok reached => simpa [stopped, Except.toOption] using ran
  | error _ => simp [stopped, Except.toOption] at ran

theorem genuine_clipboardHost (event : DesktopEvent) (desktop : Desktop) : GenuineStep clipboardHost event desktop := by
  intro other _ raw packet _ parsed
  simp only [parsePacket, clipboardHost] at parsed
  split at parsed
  next => cases parsed
  next items same =>
    cases parsed
    split at same
    · cases same
      exact (by decide : Kind.parse false "hello" ≠ .clipboardChanged)
    · split at same
      · cases same
        exact (by decide : Kind.parse false "clipboard-token" ≠ .clipboardChanged)
      · split at same
        · cases same
          exact (by decide : Kind.parse false "clipboard-request" ≠ .clipboardChanged)
        · cases same
  next => cases parsed
  next => cases parsed

end Xpra.Proofs.ClipboardSteps
