import Xpra.Proofs.DrawAck

/-! The posts of one kind that the UI thread has still to take up. Of most kinds, only
what posts them adds any, and only the UI thread takes them away. -/

namespace Xpra.Proofs.Posts
open Xpra.Net Xpra.Client Library Handlers DrawSteps DrawAck

def postsOf {α : Type} (host : Host) (kind : Kind) (read : Packet → α) (proxy : List Packet) : List α :=
  (proxy.filter fun packet => kindOf host packet = kind).map read

section Lists
variable {α : Type} {host : Host} {kind : Kind} {read : Packet → α} {packet : Packet} {rest : List Packet}

theorem postsOf_other (other : kindOf host packet ≠ kind) : postsOf host kind read (packet :: rest) = postsOf host kind read rest := by
  simp [postsOf, other]

theorem postsOf_cons (same : kindOf host packet = kind) :
    postsOf host kind read (packet :: rest) = read packet :: postsOf host kind read rest := by
  simp [postsOf, same]

theorem postsOf_append (first rest : List Packet) :
    postsOf host kind read (first ++ rest) = postsOf host kind read first ++ postsOf host kind read rest := by
  simp [postsOf]

theorem postsOf_others {others : List Packet} (apart : ∀ packet ∈ others, kindOf host packet ≠ kind) (first : List Packet) :
    postsOf host kind read (first ++ others) = postsOf host kind read first := by
  have none : postsOf host kind read others = [] := by
    simp only [postsOf, List.map_eq_nil_iff, List.filter_eq_nil_iff, decide_eq_true_eq]
    exact apart
  rw [postsOf_append, none, List.append_nil]

end Lists

/-! ### Steps -/

/-- The kinds that the steps of the client post. -/
def postedKinds : List Kind := [.connectionLost, .invalidPacket, .drawDecoded, .drawFailed, .challengePassword, .challengeCancel,
  .challengeFallbackDialog]

/-- Neither the server nor a thread posts a packet of the kind. -/
def Quiet (host : Host) (kind : Kind) (event : Event) : Prop :=
  (∀ raw packet, event = .receive (.ok raw) → parsePacket host raw = .ok packet → kindOf host packet ≠ kind) ∧
    ∀ posted, event = .post posted → kindOf host posted.packet ≠ kind

/-- What is left of the posts once the step has taken its own. -/
def unread (event : Event) (system : System) : List Packet :=
  match event with
  | .deliver _ => system.client.proxy.tail
  | _ => system.client.proxy

section Steps
variable {α : Type} {host : Host} {kind : Kind} {read : Packet → α} {event : Event} {system next : System}

theorem client_kind (host : Host) (packetType message : String) :
    kindOf host (clientPacket packetType message) = Kind.parse host.windows packetType := rfl

theorem lost_kind (host : Host) (message : String) : kindOf host (clientPacket "connection-lost" message) = .connectionLost := by
  rw [client_kind]
  cases host.windows <;> rfl

theorem invalid_kind (host : Host) (message : String) : kindOf host (clientPacket "invalid-packet" message) = .invalidPacket := by
  rw [client_kind]
  cases host.windows <;> rfl

theorem pinentry_kind (host : Host) (prompt : String) (outcome : Except String (Option String)) :
    kindOf host (pinentryPacket prompt outcome) ∈ postedKinds := by
  rcases outcome with _ | _ | _ <;> rw [pinentryPacket, client_kind] <;> cases host.windows <;> decide

theorem moves_posts {allowed : Json → Prop} {start link : Link} (moved : Moves host allowed start link) (other : kind ≠ .connectionLost) :
    postsOf host kind read link.proxy = postsOf host kind read start.proxy := by
  obtain ⟨lost, posted, losses, -⟩ := moved.effect.posts
  rw [posted]
  refine postsOf_others (fun packet member => ?_) _
  obtain ⟨message, rfl⟩ := losses packet member
  rw [lost_kind]
  exact other.symm

theorem handled_posts {client after : XpraClient} {packet : Packet} (handled : Handled host client packet after)
    (other : kind ≠ .connectionLost) : postsOf host kind read after.proxy = postsOf host kind read client.proxy := by
  cases handled with
  | spared _ _ spares => exact moves_posts spares.link other
  | started _ same => rw [same]
  | clipped _ clips => exact moves_posts clips.link other
  | logged _ logs => exact moves_posts logs.link other
  | hello _ greeted => exact moves_posts greeted.link other
  | draw _ same => rw [same]
  | decoded _ acknowledges | failed _ acknowledges => exact moves_posts acknowledges.moves other
  | ended _ _ link => exact moves_posts link other

theorem step_posts (apart : kind ∉ postedKinds) (quiet : Quiet host kind event) (moved : System.step host event system = .ok next) :
    postsOf host kind read next.client.proxy = postsOf host kind read (unread event system) := by
  have lost : kind ≠ .connectionLost := fun same => apart (by simp [same, postedKinds])
  have posted {packet : Packet} (other : kindOf host packet ≠ kind) :
      postsOf host kind read (system.client.proxy ++ [packet]) = postsOf host kind read system.client.proxy :=
    postsOf_others (by simpa using other) _
  cases Steps.step_of_moved moved with
  | lost error => exact posted (by rw [lost_kind]; exact lost.symm)
  | invalid raw message failed =>
    exact posted (by rw [invalid_kind]; exact fun same => apart (by simp [← same, postedKinds]))
  | received raw packet parsed => exact posted (quiet.1 raw packet rfl parsed)
  | delivered env packet rest client queued handled =>
    rw [unread, queued]
    exact handled_posts (userEvent_handled handled) lost
  | input id input env =>
    have spares : Spares host system.client (windowEvent host env system.client id input) := windowEvent_spares id input
    exact moves_posts spares.link lost
  | resumed env =>
    have spares : Spares host system.client (resumed host env system.client) := resumed_spares
    exact moves_posts spares.link lost
  | decoded env packet rest result area queued turned =>
    have long : 0 < packet.len := (Packet.read_bind_ok.mp turned).1
    refine postsOf_others (fun posted member same => apart ?_) _
    cases result with
    | none => simp at member
    | some decoded =>
      rw [← same, show posted = decodedPacket env packet decoded by simpa using member, decodedPacket_kind env decoded long]
      cases decoded <;> simp [postedKinds]
  | posted other => exact posted (quiet.2 other rfl)
  | answered prompt outcome => exact posted fun same => apart (same ▸ pinentry_kind host prompt outcome)
  | written | audio => rfl

end Steps

end Xpra.Proofs.Posts
