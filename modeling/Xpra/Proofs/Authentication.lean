import Xpra.Proofs.Handlers
import Xpra.Proofs.Steps

/-! The authentication as a conversation of its own: what has been sent, the salt
that awaits an answer, and the record of prompts and answers. Every step of the
client is one move of it, after a challenge has been taken up or not. -/

namespace Xpra.Proofs.Authentication
open Xpra.Net Xpra.Client Library Handlers

structure Conversation where
  sent : List Json
  stream : Sink
  exitCode : Option ExitCode
  pending : Option Bytes
  log : List AuthEvent

def conversation (client : XpraClient) : Conversation where
  sent := client.sent
  stream := client.stream
  exitCode := client.exitCode
  pending := client.pendingChallenge
  log := client.authLog

def IsResponse (packet : Json) : Bool := packet.helloHas "challenge_response"

def Carries (reply : Reply) (packet : Json) : Prop :=
  ∃ caps, packet = .array ["hello", .object caps] ∧ ("challenge_response", Json.string reply.response) ∈ caps ∧
    ("challenge_client_salt", Json.string reply.clientSalt) ∈ caps

def Silenced (before after : Conversation) : Prop :=
  before.exitCode.isSome → after.exitCode.isSome ∧ after.sent = before.sent ∧ after.stream = before.stream

/-- What is sent says nothing about a password. -/
structure Quiet (before after : Conversation) : Prop where
  sent : ∃ packets, after.sent = before.sent ++ packets ∧ ∀ packet ∈ packets, IsResponse packet = false
  silenced : Silenced before after

/-- The moves, apart from taking up a challenge. -/
inductive Move (env : Env) (before after : Conversation) : Prop where
  | idle (quiet : Quiet before after) (pending : after.pending = before.pending) (log : after.log = before.log)
  | prompt (quiet : Quiet before after) (pending : after.pending = before.pending)
      (log : after.log = before.log ++ [.prompted])
  | answer (salt : Bytes) (password : String) (held : before.pending = some salt) (pending : after.pending = none)
      (log : after.log = before.log ++ [.answered (makeReply salt env.clientSalt password)])
      (sent : after.sent = before.sent ∨
        ∃ hello, Carries (makeReply salt env.clientSalt password) hello ∧ after.sent = before.sent ++ [hello])
      (silenced : Silenced before after)
  | cancel (quiet : Quiet before after) (pending : after.pending = none) (log : after.log = before.log ++ [.cancelled])
      (left : after.exitCode.isSome)

/-! ### What counts as a response -/

theorem other_isResponse {packet : Json} (other : packet.packetType ≠ "hello") : IsResponse packet = false := by
  unfold IsResponse Json.helloHas
  split
  next => exact absurd rfl other
  next => rfl

theorem plain_isResponse {packet : Json} (plain : Plain packet) : IsResponse packet = false := other_isResponse plain.1

theorem hello_isResponse (host : Host) (client : XpraClient) : IsResponse (helloPacket host client none) = false := by
  have shared : (mmapCaps client).any (fun field => field.1 == "challenge_response") = false := by
    rw [mmapCaps]
    split
    · split <;> rfl
    · rfl
  have sound : (audioCaps host client).any (fun field => field.1 == "challenge_response") = false := by
    rw [audioCaps]
    split <;> rfl
  have fixed : (helloCaps host client).any (fun field => field.1 == "challenge_response") = false := by
    simp [helloCaps]
  simp [IsResponse, helloPacket, Json.helloHas, replyCaps, shared, sound, fixed, List.any_append]

theorem reply_carries (host : Host) (client : XpraClient) (reply : Reply) (padding : String) :
    Carries reply (helloPacket host client (some (reply.response, reply.clientSalt, padding))) := by
  refine ⟨_, rfl, ?_, ?_⟩ <;> simp [replyCaps]

theorem Carries.isResponse {reply : Reply} {packet : Json} (carries : Carries reply packet) : IsResponse packet = true := by
  obtain ⟨caps, rfl, member, -⟩ := carries
  simp only [IsResponse, Json.helloHas, List.any_eq_true]
  exact ⟨_, member, by simp⟩

/-! ### The handlers -/

variable {host : Host} {env : Env} {client next : XpraClient}

theorem quiet_of_moves {allowed : Json → Prop} (moved : Moves host allowed client.toLink next.toLink)
    (silent : ∀ packet, allowed packet → IsResponse packet = false) :
    Quiet (conversation client) (conversation next) := by
  obtain ⟨⟨packets, sent, fine⟩, silenced, -⟩ := moved.effect
  exact ⟨⟨packets, sent, fun packet member => silent packet (fine packet member)⟩, silenced⟩

theorem idle_of_moves {allowed : Json → Prop} (moved : Moves host allowed client.toLink next.toLink)
    (silent : ∀ packet, allowed packet → IsResponse packet = false)
    (pending : next.pendingChallenge = client.pendingChallenge) (log : next.authLog = client.authLog) :
    Move env (conversation client) (conversation next) :=
  .idle (quiet_of_moves moved silent) pending log

theorem idle_of_clips (clips : Clips host client next) : Move env (conversation client) (conversation next) :=
  idle_of_moves clips.link (fun _ about => other_isResponse (by rcases about with type | type <;> simp [type]))
    (congrArg Auth.pendingChallenge clips.auth) (congrArg Auth.authLog clips.auth)

theorem idle_of_logs (logs : Logs host client next) : Move env (conversation client) (conversation next) :=
  idle_of_moves logs.link (fun _ logging => other_isResponse (logging.ne (by decide)))
    (congrArg Auth.pendingChallenge logs.auth) (congrArg Auth.authLog logs.auth)

theorem idle_of_ordinary (ordinary : Ordinary host client next) : Move env (conversation client) (conversation next) :=
  idle_of_moves ordinary.link (fun _ plain => plain_isResponse plain) (congrArg Auth.pendingChallenge ordinary.auth)
    (congrArg Auth.authLog ordinary.auth)

theorem idle_refl : Move env (conversation client) (conversation client) :=
  .idle ⟨⟨[], by simp, by simp⟩, fun left => ⟨left, rfl, rfl⟩⟩ rfl rfl

theorem idle_of_quit (code : ExitCode) : Move env (conversation client) (conversation (client.quit code)) :=
  .idle ⟨⟨[], by simp [conversation, XpraClient.quit, Link.quit], by simp⟩, fun _ => ⟨rfl, rfl, rfl⟩⟩ rfl rfl

theorem idle_of_ack {packet : Packet} {time : Int} (acknowledges : Acknowledges host client next packet time) :
    Move env (conversation client) (conversation next) :=
  idle_of_moves acknowledges.moves (fun _ acking => other_isResponse (acking.ne (by decide) (by decide)))
    (congrArg Auth.pendingChallenge acknowledges.auth) (congrArg Auth.authLog acknowledges.auth)

theorem answerChallenge_move (password : String) :
    Move env (conversation client) (conversation (answerChallenge host env client password)) := by
  rw [answerChallenge]
  split
  next => exact idle_refl
  next salt held =>
    dsimp only
    rcases writeJson_cases host client.toLink (helloPacket host
        { client with pendingChallenge := none,
                      authLog := client.authLog ++ [.answered (makeReply salt env.clientSalt password)] }
        (some ((makeReply salt env.clientSalt password).response, (makeReply salt env.clientSalt password).clientSalt,
          Sha256.toHex env.padding))) with ⟨left, same⟩ | ⟨running, handed, -⟩
    · refine .answer salt password held rfl rfl (.inl (congrArg Link.sent same)) fun _ => ?_
      exact ⟨(congrArg (fun link => link.exitCode.isSome) same).trans left, congrArg Link.sent same,
        congrArg Link.stream same⟩
    · refine .answer salt password held rfl rfl (.inr ⟨_, reply_carries _ _ _ _, handed⟩) fun left => ?_
      exact absurd left (by simp [conversation, running])

theorem showAuthDialog_move (promptText : String) :
    Move env (conversation client) (conversation (showAuthDialog env client promptText)) := by
  rw [showAuthDialog]
  split
  · exact idle_of_quit _
  · split
    · split
      · exact .prompt ⟨⟨[], by simp [conversation], by simp⟩, fun left => ⟨left, rfl, rfl⟩⟩ rfl rfl
      · exact idle_of_quit _
    · exact idle_of_quit _

theorem cancelAuth_move : Move env (conversation client) (conversation (cancelAuth client)) :=
  .cancel ⟨⟨[], by simp [conversation, cancelAuth, XpraClient.quit, Link.quit], by simp⟩, fun _ => ⟨rfl, rfl, rfl⟩⟩ rfl rfl rfl

theorem findPassword_move (prompt : String) :
    Move env (conversation client) (conversation (findPassword host env client prompt)) := by
  rw [findPassword]
  split
  · exact answerChallenge_move _
  · split
    · exact answerChallenge_move _
    · dsimp only
      split
      · exact .prompt ⟨⟨[], by simp [conversation], by simp⟩, fun left => ⟨left, rfl, rfl⟩⟩ rfl rfl
      · exact showAuthDialog_move _

theorem handleAuthDialogEvent_move (event : WindowEvent) :
    Move env (conversation client) (conversation (handleAuthDialogEvent host env client event)) := by
  cases event with
  | closeRequested => exact cancelAuth_move
  | keyboardInput key isSynthetic =>
    simp only [handleAuthDialogEvent]
    split
    · exact idle_refl
    · split
      · exact idle_refl
      · split
        next => exact .idle ⟨⟨[], by simp [conversation], by simp⟩, fun left => ⟨left, rfl, rfl⟩⟩ rfl rfl
        next dialog _ =>
          have answered : Move env (conversation { client with authDialog := none }) (conversation
              (answerChallenge host env { client with authDialog := none } (String.ofList dialog.password))) :=
            answerChallenge_move _
          exact answered
        next dialog _ =>
          have cancelled : Move env (conversation { client with authDialog := some dialog })
              (conversation (cancelAuth { client with authDialog := some dialog })) := cancelAuth_move
          exact cancelled
  | _ => exact idle_refl

/-! ### Taking up a challenge -/

def challengeSalt (host : Host) (packet : Packet) : Bytes :=
  (packet.raw 1).getD (yamlBytes host.base64 (packet.get 1))

/-- A challenge the client takes up: it waits for nothing else, and the digests are
the one it knows. -/
structure Acceptable (host : Host) (client : XpraClient) (packet : Packet) : Prop where
  free : client.pendingChallenge = none
  closed : client.authDialog = none
  long : 5 ≤ packet.len
  salted : challengeSalt host packet ≠ []
  digest : yamlStr (packet.get 3) = HMAC_SHA256
  saltDigest : yamlStr (packet.get 4) = HMAC_SHA256

def accept (salt : Bytes) (before : Conversation) : Conversation :=
  { before with pending := some salt, log := before.log ++ [.accepted salt HMAC_SHA256 HMAC_SHA256] }

def Busy (client : XpraClient) : Prop := client.pendingChallenge.isSome ∨ client.authDialog.isSome

theorem Acceptable.idle {packet : Packet} (acceptable : Acceptable host client packet) : ¬ Busy client := by
  rintro (pending | dialog)
  · simp [acceptable.free] at pending
  · simp [acceptable.closed] at dialog

theorem processChallenge_busy {packet : Packet} (busy : Busy client) :
    processChallenge host env client packet = .ok client := by
  have guard : (client.pendingChallenge.isSome || client.authDialog.isSome) = true := by
    simpa only [Bool.or_eq_true, Busy] using busy
  rw [processChallenge, if_pos guard]

theorem processChallenge_cases {packet : Packet} (returned : processChallenge host env client packet = .ok next) :
    (¬ Acceptable host client packet ∧
        (Busy client ∧ next = client ∨ 4 ≤ packet.len ∧ next = client.quit .authenticationFailed)) ∨
      (Acceptable host client packet ∧
        Move env (accept (challengeSalt host packet) (conversation client)) (conversation next)) := by
  by_cases busy : Busy client
  · rw [processChallenge_busy busy] at returned
    cases returned
    exact .inl ⟨fun acceptable => acceptable.idle busy, .inl ⟨busy, rfl⟩⟩
  have free : client.pendingChallenge = none ∧ client.authDialog = none := by
    simpa [Busy] using busy
  rw [processChallenge, if_neg (by simpa only [Bool.or_eq_true, Busy] using busy)] at returned
  obtain ⟨⟨salt, rest⟩, taken, returned⟩ := bind_ok returned
  obtain ⟨kept, -, salted⟩ := Packet.getBytes_ok taken
  have same (index : Nat) : rest.get index = packet.get index := by simp [Packet.get, kept]
  have length : rest.len = packet.len := congrArg List.length kept
  obtain ⟨long, returned⟩ := Packet.read_bind_ok.mp returned
  simp only [same, length] at returned long
  split at returned
  next empty =>
    cases returned
    refine .inl ⟨fun acceptable => acceptable.salted ?_, .inr ⟨long, rfl⟩⟩
    exact salted.symm.trans empty
  next nonempty =>
    by_cases full : packet.len ≥ 5
    · simp only [full, if_true] at returned
      split at returned
      next foreign =>
        cases returned
        refine .inl ⟨fun acceptable => ?_, .inr ⟨long, rfl⟩⟩
        simp [acceptable.digest, acceptable.saltDigest] at foreign
      next known =>
        simp only [ne_eq, not_or, not_not] at known
        cases returned
        have same : salt = challengeSalt host packet := salted
        subst same
        refine .inr ⟨⟨free.1, free.2, full, nonempty, known.1, known.2⟩, ?_⟩
        rw [known.1, known.2]
        have found (middle : XpraClient) (prompt : String) :
            Move env (conversation middle) (conversation (findPassword host env middle prompt)) :=
          findPassword_move prompt
        exact found { client with
          pendingChallenge := some (challengeSalt host packet)
          authLog := client.authLog ++ [.accepted (challengeSalt host packet) HMAC_SHA256 HMAC_SHA256] } _
    · have xor : "xor" ≠ HMAC_SHA256 := by decide
      simp only [full, if_false, xor, ne_eq, not_false_eq_true, or_true, if_true] at returned
      cases returned
      exact .inl ⟨fun acceptable => full acceptable.long, .inr ⟨long, rfl⟩⟩

theorem processChallenge_returns {packet : Packet} (long : 4 ≤ packet.len) :
    ∃ next, processChallenge host env client packet = .ok next := by
  rw [processChallenge]
  split
  · exact ⟨_, rfl⟩
  · rcases Packet.getBytes_cases host.base64 packet 1 with ⟨-, short, -⟩ | ⟨-, bytes, rest, taken, kept⟩
    · have one : (1 : UInt8).toNat = 1 := rfl
      omega
    · have length : rest.len = packet.len := congrArg List.length kept
      rw [taken]
      simp only [bind, Except.bind, Packet.getStr, Packet.read_of_lt yamlStr (by omega : 3 < rest.len)]
      split
      · exact ⟨_, rfl⟩
      · split <;> split <;> exact ⟨_, rfl⟩

theorem processChallenge_move {packet : Packet} (returned : processChallenge host env client packet = .ok next) :
    Move env (conversation client) (conversation next) ∨
      (Acceptable host client packet ∧
        Move env (accept (challengeSalt host packet) (conversation client)) (conversation next)) := by
  rcases processChallenge_cases returned with ⟨-, ⟨-, rfl⟩ | ⟨-, rfl⟩⟩ | taken
  · exact .inl idle_refl
  · exact .inl (idle_of_quit _)
  · exact .inr taken

/-! ### The steps -/

theorem userEvent_cases {packet : Packet} (returned : userEvent host env client packet = .ok next) :
    Move env (conversation client) (conversation next) ∨
      (kindOf host packet = .challenge ∧ Acceptable host client packet ∧
        Move env (accept (challengeSalt host packet) (conversation client)) (conversation next)) := by
  rw [userEvent_eq] at returned
  by_cases special : kindOf host packet ∈ specialKinds
  · simp only [specialKinds, List.mem_append, List.mem_cons, List.not_mem_nil, or_false, or_assoc] at special
    rcases special with kind | kind | kind | kind | kind | kind | kind | kind | kind | kind | kind | kind | about
    on_goal 13 => exact .inl (idle_of_clips (clipboard_clips env client packet about returned))
    all_goals simp only [kind, doProcessPacket] at returned
    · obtain ⟨hello, -, returned⟩ := bind_ok returned
      have greeted := processHello_greeted client returned
      exact .inl (idle_of_moves greeted.link (fun _ plain => plain_isResponse plain)
        (congrArg Auth.pendingChallenge greeted.auth) (congrArg Auth.authLog greeted.auth))
    · exact (processChallenge_move returned).imp id fun taken => ⟨kind, taken⟩
    · obtain ⟨password, -, rfl⟩ := map_ok returned
      exact .inl (answerChallenge_move password)
    · cases returned
      exact .inl cancelAuth_move
    · obtain ⟨prompt, -, rfl⟩ := map_ok returned
      exact .inl (showAuthDialog_move prompt)
    · cases returned
      exact .inl idle_refl
    · exact .inl (idle_of_ack (processDrawDecoded_ok client packet returned))
    · exact .inl (idle_of_ack (processDrawFailed_ok client packet returned))
    · obtain ⟨middle, lost, rfl⟩ := map_ok returned
      have ordinary : Ordinary host client middle := (processLostWindow_silent env client packet middle lost).ordinary
      have left : Move env (conversation client) (conversation middle) := idle_of_ordinary ordinary
      rw [forwardToDecoder]
      split <;> exact .inl left
    · cases returned
      rw [forwardToDecoder]
      split <;> exact .inl idle_refl
    · cases returned
      exact .inl idle_refl
    · exact .inl (idle_of_logs (sendLog_logs env client packet next returned))
  · exact .inl (idle_of_ordinary (doProcessPacket_keeps env client packet _ special next returned))

theorem windowEvent_move (id : WindowId) (event : WindowEvent) :
    Move env (conversation client) (conversation (windowEvent host env client id event)) := by
  rw [windowEvent]
  split
  · exact handleAuthDialogEvent_move event
  · split
    · exact idle_of_ordinary ((handleWindowEvent_silent env client _ event).ordinary)
    · exact idle_refl

theorem resumed_move : Move env (conversation client) (conversation (resumed host env client)) := by
  have said (middle : XpraClient) : Move env (conversation middle) (conversation (sendHello host middle none)) :=
    idle_of_moves (.write .refl (hello_isResponse host middle)) (fun _ silent => silent) rfl rfl
  rw [resumed]
  split
  · exact idle_refl
  · exact said { client with
      softbufferCtx := true
      tray := client.tray || host.windows
      monitors := env.monitors
      desktopSize := totalDisplaySize env.monitors
      helloSent := true }

def envOf : Event → Env
  | .deliver env | .input _ _ env | .resumed env => env
  | _ => {}

/-- A step in which the UI thread gets to see a challenge it can take up. -/
def TakesUp (host : Host) (event : Event) (system : System) (packet : Packet) : Prop :=
  (∃ env, event = .deliver env) ∧ system.client.proxy.head? = some packet ∧ kindOf host packet = .challenge ∧
    Acceptable host system.client packet

/-- Every step is one move of the conversation, after a challenge is taken up or
not. -/
theorem step_cases {event : Event} {system next : System} (moved : System.step host event system = .ok next) :
    Move (envOf event) (conversation system.client) (conversation next.client) ∨
      ∃ packet, TakesUp host event system packet ∧
        Move (envOf event) (accept (challengeSalt host packet) (conversation system.client))
          (conversation next.client) := by
  cases Steps.step_of_moved moved with
  | delivered env packet rest client queued handled =>
    apply (userEvent_cases handled).imp id
    rintro ⟨kind, acceptable, move⟩
    have acceptable : Acceptable host system.client packet :=
      ⟨acceptable.free, acceptable.closed, acceptable.long, acceptable.salted, acceptable.digest, acceptable.saltDigest⟩
    exact ⟨packet, ⟨⟨env, rfl⟩, by simp [queued], kind, acceptable⟩, move⟩
  | input id input env => exact .inl (windowEvent_move id input)
  | resumed env => exact .inl resumed_move
  | _ => exact .inl idle_refl

end Xpra.Proofs.Authentication
