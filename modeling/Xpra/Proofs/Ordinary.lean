import Xpra.Client.System

/-! What may happen to the connection while a packet is handled, and the relation
between the states around an ordinary handler. -/

namespace Xpra.Proofs.Handlers
open Xpra.Net Xpra.Client Library

/-! ### The connection -/

/-- What a handler may do to the connection: hand over packets it is allowed to,
and quit. -/
inductive Moves (host : Host) (allowed : Json → Prop) (start : Link) : Link → Prop where
  | refl : Moves host allowed start start
  | write {link packet} (moved : Moves host allowed start link) (fine : allowed packet) :
      Moves host allowed start (link.writeJson host packet)
  | quit {link} (code : ExitCode) (moved : Moves host allowed start link) :
      Moves host allowed start (link.quit code)

variable {host : Host} {allowed : Json → Prop}

theorem Moves.trans {first second third : Link} (left : Moves host allowed first second)
    (right : Moves host allowed second third) : Moves host allowed first third := by
  induction right with
  | refl => exact left
  | write _ fine ih => exact ih.write fine
  | quit code _ ih => exact ih.quit code

theorem Moves.mono {wider : Json → Prop} {start link : Link} (moved : Moves host allowed start link)
    (implies : ∀ packet, allowed packet → wider packet) : Moves host wider start link := by
  induction moved with
  | refl => exact .refl
  | write _ fine ih => exact ih.write (implies _ fine)
  | quit code _ ih => exact ih.quit code

/-- The packets the write path itself posts. -/
def IsLoss (packet : Packet) : Prop := ∃ message, packet = clientPacket "connection-lost" message

/-- A write hands its packet over unless the client is on its way out, and a
write that fails is posted and ends the session. -/
theorem writeJson_cases (host : Host) (link : Link) (packet : Json) :
    (link.exitCode.isSome ∧ link.writeJson host packet = link) ∨
      (link.exitCode = none ∧ (link.writeJson host packet).sent = link.sent ++ [packet] ∧
        (((link.writeJson host packet).exitCode = none ∧ (link.writeJson host packet).proxy = link.proxy) ∨
          ((link.writeJson host packet).exitCode.isSome ∧
            ∃ lost, IsLoss lost ∧ (link.writeJson host packet).proxy = link.proxy ++ [lost]))) := by
  rw [Link.writeJson]
  cases code : link.exitCode with
  | some code => exact .inl ⟨rfl, by simp⟩
  | none =>
    right
    simp only [Option.isSome_none, Bool.false_eq_true, if_false, true_and]
    split
    next => exact ⟨rfl, .inl ⟨rfl, rfl⟩⟩
    next error stream _ => exact ⟨rfl, .inr ⟨rfl, _, ⟨error.message, rfl⟩, rfl⟩⟩

/-- The connection after any number of such moves. -/
structure Effect (allowed : Json → Prop) (start link : Link) : Prop where
  sent : ∃ packets, link.sent = start.sent ++ packets ∧ ∀ packet ∈ packets, allowed packet
  silent : start.exitCode.isSome → link.exitCode.isSome ∧ link.sent = start.sent ∧ link.stream = start.stream
  posts : ∃ lost, link.proxy = start.proxy ++ lost ∧ (∀ packet ∈ lost, IsLoss packet) ∧
    (link.exitCode = none → lost = [])

theorem Effect.refl (link : Link) : Effect allowed link link :=
  ⟨⟨[], by simp, by simp⟩, fun out => ⟨out, rfl, rfl⟩, [], by simp, by simp, by simp⟩

theorem Effect.exit {start link : Link} (effect : Effect allowed start link) (running : link.exitCode = none) :
    start.exitCode = none := by
  by_contra out
  have := (effect.silent (Option.isSome_iff_ne_none.mpr out)).1
  simp [running] at this

theorem Effect.proxy {start link : Link} (effect : Effect allowed start link) (running : link.exitCode = none) :
    link.proxy = start.proxy := by
  obtain ⟨lost, posted, -, none⟩ := effect.posts
  simp [posted, none running]

theorem Moves.effect {start link : Link} (moved : Moves host allowed start link) : Effect allowed start link := by
  induction moved with
  | refl => exact .refl start
  | @write link packet _ fine ih =>
    rcases writeJson_cases host link packet with ⟨-, same⟩ | ⟨running, handed, rest⟩
    · rw [same]
      exact ih
    · obtain ⟨packets, sent, fines⟩ := ih.sent
      obtain ⟨lost, posted, losses, none⟩ := ih.posts
      have begun := ih.exit running
      refine ⟨⟨packets ++ [packet], by simp [handed, sent], ?_⟩, fun out => by simp [begun] at out, ?_⟩
      · intro other member
        rcases List.mem_append.mp member with earlier | last
        · exact fines other earlier
        · exact List.mem_singleton.mp last ▸ fine
      · rcases rest with ⟨still, same⟩ | ⟨out, loss, isLoss, added⟩
        · exact ⟨lost, by rw [same, posted], losses, fun _ => none running⟩
        · refine ⟨lost ++ [loss], by simp [added, posted], ?_, fun still => by simp [still] at out⟩
          intro other member
          rcases List.mem_append.mp member with earlier | last
          · exact losses other earlier
          · exact List.mem_singleton.mp last ▸ isLoss
  | quit code _ ih =>
    refine ⟨ih.sent, fun out => ⟨rfl, (ih.silent out).2⟩, ?_⟩
    obtain ⟨lost, posted, losses, -⟩ := ih.posts
    exact ⟨lost, posted, losses, fun still => by simp [Link.quit] at still⟩

/-! ### Frames -/

/-- A handler that hands over allowed packets only, and leaves alone what `view` shows. -/
structure Frame {α : Type} (host : Host) (allowed : Json → Prop) (view : XpraClient → α) (client next : XpraClient) : Prop where
  link : Moves host allowed client.toLink next.toLink
  kept : view next = view client

namespace Frame

variable {α β : Type} {view : XpraClient → α} {client next : XpraClient}

theorem refl (client : XpraClient) : Frame host allowed view client client := ⟨.refl, rfl⟩

theorem of_same (link : next.toLink = client.toLink) (kept : view next = view client) : Frame host allowed view client next :=
  ⟨link ▸ .refl, kept⟩

theorem trans {last : XpraClient} (left : Frame host allowed view client next) (right : Frame host allowed view next last) :
    Frame host allowed view client last :=
  ⟨left.link.trans right.link, right.kept.trans left.kept⟩

theorem after {begin : XpraClient} (frame : Frame host allowed view begin next) (link : begin.toLink = client.toLink)
    (kept : view begin = view client) : Frame host allowed view client next :=
  ⟨link ▸ frame.link, frame.kept.trans kept⟩

theorem before {last : XpraClient} (frame : Frame host allowed view client next) (link : last.toLink = next.toLink)
    (kept : view last = view next) : Frame host allowed view client last :=
  ⟨link ▸ frame.link, kept.trans frame.kept⟩

theorem write {begin : XpraClient} (frame : Frame host allowed view client begin) {packet : Json} (fine : allowed packet)
    (kept : view (begin.writeJson host packet) = view begin) : Frame host allowed view client (begin.writeJson host packet) :=
  ⟨frame.link.write fine, kept.trans frame.kept⟩

theorem quit {begin : XpraClient} (frame : Frame host allowed view client begin) (code : ExitCode)
    (kept : view (begin.quit code) = view begin) : Frame host allowed view client (begin.quit code) :=
  ⟨frame.link.quit code, kept.trans frame.kept⟩

theorem mono {wider : Json → Prop} (frame : Frame host allowed view client next) (implies : ∀ packet, allowed packet → wider packet)
    (seen : α → β) : Frame host wider (fun client => seen (view client)) client next :=
  ⟨frame.link.mono implies, congrArg seen frame.kept⟩

end Frame

/-! ### Ordinary handlers -/

/-- A packet that neither answers the server's hello or challenge nor a draw, nor
offers a text, nor carries a log record. -/
def Plain (packet : Json) : Prop :=
  packet.packetType ≠ "hello" ∧ packet.packetType ≠ "window-draw-ack" ∧ packet.packetType ≠ "window-ack" ∧
    packet.packetType ≠ "clipboard-data" ∧ packet.packetType ≠ "logging-event"

/-- A packet that has nothing to do with sound. -/
def Soundless (packet : Json) : Prop :=
  packet.packetType ≠ "audio-control" ∧ packet.packetType ≠ "audio-capabilities"

abbrev Ordinary (host : Host) : XpraClient → XpraClient → Prop :=
  Frame host Plain fun client => (client.toAuth, client.toDraws, client.toClipboardSync)

abbrev Muted (host : Host) : XpraClient → XpraClient → Prop := Frame host Soundless XpraClient.toSpeaker

/-- Most handlers are both. -/
abbrev Silent (host : Host) : XpraClient → XpraClient → Prop :=
  Frame host (fun packet => Plain packet ∧ Soundless packet) fun client =>
    ((client.toAuth, client.toDraws, client.toClipboardSync), client.toSpeaker)

namespace Frame

variable {client next : XpraClient}

theorem auth (ordinary : Ordinary host client next) : next.toAuth = client.toAuth := congrArg Prod.fst ordinary.kept

theorem draws (ordinary : Ordinary host client next) : next.toDraws = client.toDraws :=
  congrArg (fun view => view.2.1) ordinary.kept

theorem clipboard (ordinary : Ordinary host client next) : next.toClipboardSync = client.toClipboardSync :=
  congrArg (fun view => view.2.2) ordinary.kept

theorem ordinary (silent : Silent host client next) : Ordinary host client next :=
  silent.mono (fun _ fine => fine.1) Prod.fst

theorem muted (silent : Silent host client next) : Muted host client next := silent.mono (fun _ fine => fine.2) Prod.snd

end Frame

/-- What holds of every state a handler can return. -/
def Returns (relation : XpraClient → Prop) (result : Except Panic XpraClient) : Prop :=
  ∀ next, result = .ok next → relation next

namespace Returns

variable {relation : XpraClient → Prop} {next : XpraClient} {α : Type}

theorem ok (holds : relation next) : Returns relation (.ok next) := by
  intro other same
  cases same
  exact holds

theorem pure (holds : relation next) : Returns relation (Pure.pure next) := ok holds

theorem error (cause : Panic) : Returns relation (.error cause) := fun _ impossible => nomatch impossible

theorem bind {first : Except Panic α} {rest : α → Except Panic XpraClient} (returns : ∀ value, Returns relation (rest value)) :
    Returns relation (first >>= rest) := by
  intro next returned
  cases first with
  | error cause => cases returned
  | ok value => exact returns value next returned

theorem map {first : Except Panic α} {rest : α → XpraClient} (returns : ∀ value, relation (rest value)) :
    Returns relation (rest <$> first) := by
  intro next returned
  cases first with
  | error cause => cases returned
  | ok value =>
    cases returned
    exact returns value

theorem mono {weaker : XpraClient → Prop} {result : Except Panic XpraClient} (returns : Returns relation result)
    (implies : ∀ next, relation next → weaker next) : Returns weaker result :=
  fun next returned => implies next (returns next returned)

end Returns

end Xpra.Proofs.Handlers
