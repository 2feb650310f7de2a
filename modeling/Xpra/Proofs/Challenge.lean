import Xpra.Proofs.Authentication

/-! Which challenge an answer is for, and how many there are. The record of the
session is in order in every run. Nothing in it remembers that a challenge has
been answered before. -/

namespace Xpra.Proofs.Challenge
open Xpra.Net Xpra.Client Library Authentication

def pendingAfter (log : List AuthEvent) : Option Bytes :=
  log.foldl (fun pending event => match event with
    | .accepted salt _ _ => some salt
    | .prompted => pending
    | .answered _ | .cancelled => none) none

/-- The digest of both salts, keyed with the password. -/
def expectedResponse (password clientSalt : String) (serverSalt : Bytes) : String :=
  Sha256.hmacSha256Hex (textBytes password)
    (textBytes (Sha256.hmacSha256Hex (textBytes clientSalt) serverSalt))

/-- A challenge is taken up when none is pending, and an answer is for the salt
that is pending at the time. -/
inductive InOrder : List AuthEvent → Prop where
  | start : InOrder []
  | accepted {log salt} (past : InOrder log) (free : pendingAfter log = none) (salted : salt ≠ []) :
      InOrder (log ++ [.accepted salt HMAC_SHA256 HMAC_SHA256])
  | prompted {log} (past : InOrder log) : InOrder (log ++ [.prompted])
  | answered {log reply} (past : InOrder log) (held : pendingAfter log = some reply.serverSalt)
      (computed : reply.response = expectedResponse reply.password reply.clientSalt reply.serverSalt) :
      InOrder (log ++ [.answered reply])
  | cancelled {log} (past : InOrder log) : InOrder (log ++ [.cancelled])

def repliesOf (log : List AuthEvent) : List Reply :=
  log.filterMap fun event => match event with
    | .answered reply => some reply
    | _ => none

def responses (conversation : Conversation) : List Json := conversation.sent.filter IsResponse

structure Authentic (state : Conversation) : Prop where
  order : InOrder state.log
  pending : state.pending = pendingAfter state.log
  left : .cancelled ∈ state.log → state.exitCode.isSome
  /-- Every response on the wire is one of the recorded answers, in their order. -/
  carried : ∃ replies, replies.Sublist (repliesOf state.log) ∧ List.Forall₂ Carries replies (responses state)

theorem pendingAfter_snoc (log : List AuthEvent) (event : AuthEvent) :
    pendingAfter (log ++ [event]) = match event with
      | .accepted salt _ _ => some salt
      | .prompted => pendingAfter log
      | .answered _ | .cancelled => none := by
  simp [pendingAfter, List.foldl_append]

variable {env : Env} {before after : Conversation}

theorem responses_quiet (quiet : Quiet before after) : responses after = responses before := by
  obtain ⟨packets, sent, silent⟩ := quiet.sent
  have none : packets.filter IsResponse = [] := by
    rw [List.filter_eq_nil_iff]
    intro packet member
    simp [silent packet member]
  rw [responses, sent, List.filter_append, none, List.append_nil, responses]

theorem exit_kept (silenced : Silenced before after) (left : before.exitCode.isSome) : after.exitCode.isSome :=
  (silenced left).1

theorem Authentic.move (authentic : Authentic before) (move : Move env before after) : Authentic after := by
  obtain ⟨order, pending, left, replies, recorded, carried⟩ := authentic
  cases move with
  | idle quiet same log =>
    refine ⟨log ▸ order, by rw [same, log, pending], fun cancelled => ?_, replies, log ▸ recorded, ?_⟩
    · exact exit_kept quiet.silenced (left (log ▸ cancelled))
    · rw [responses_quiet quiet]
      exact carried
  | prompt quiet same log =>
    refine ⟨log ▸ order.prompted, ?_, fun cancelled => ?_, replies, ?_, ?_⟩
    · rw [same, log, pendingAfter_snoc, pending]
    · exact exit_kept quiet.silenced (left (by simpa [log] using cancelled))
    · simpa [log, repliesOf] using recorded
    · rw [responses_quiet quiet]
      exact carried
  | answer salt password held cleared log sent silenced =>
    have earlier : replies.Sublist (repliesOf after.log) := by
      rw [log, repliesOf, List.filterMap_append]
      exact recorded.trans (List.sublist_append_left _ _)
    refine ⟨?_, ?_, fun cancelled => ?_, ?_⟩
    · rw [log]
      exact order.answered (pending.symm.trans held) rfl
    · rw [log, pendingAfter_snoc, cleared]
    · exact exit_kept silenced (left (by simpa [log] using cancelled))
    · rcases sent with same | ⟨hello, carries, sent⟩
      · exact ⟨replies, earlier, by rw [responses, same]; exact carried⟩
      · refine ⟨replies ++ [makeReply salt env.clientSalt password], ?_, ?_⟩
        · rw [log, repliesOf, List.filterMap_append]
          exact recorded.append (List.Sublist.refl _)
        · rw [responses, sent, List.filter_append]
          simp only [List.filter_cons, carries.isResponse, if_true, List.filter_nil]
          exact List.rel_append carried (.cons carries .nil)
  | cancel quiet cleared log out =>
    refine ⟨log ▸ order.cancelled, ?_, fun _ => out, replies, ?_, ?_⟩
    · rw [log, pendingAfter_snoc, cleared]
    · simpa [log, repliesOf] using recorded
    · rw [responses_quiet quiet]
      exact carried

theorem Authentic.accept (authentic : Authentic before) {salt : Bytes} (free : before.pending = none)
    (salted : salt ≠ []) : Authentic (Authentication.accept salt before) := by
  obtain ⟨order, pending, left, replies, recorded, carried⟩ := authentic
  refine ⟨order.accepted (pending.symm.trans free) salted, ?_, fun cancelled => ?_, replies, ?_, carried⟩
  · rw [Authentication.accept, pendingAfter_snoc]
  · exact left (by simpa [Authentication.accept] using cancelled)
  · simpa [Authentication.accept, repliesOf] using recorded

def opening (stream : Sink) (username password : Option String) (area : Option MmapArea)
    (audioWorker : Option AudioWorker) : System :=
  { client := .new stream username password area audioWorker }

variable {host : Host}

theorem authentic_step {event : Event} {system next : System} (authentic : Authentic (conversation system.client))
    (moved : System.step host event system = .ok next) : Authentic (conversation next.client) := by
  rcases step_cases moved with move | ⟨packet, ⟨-, -, -, acceptable⟩, move⟩
  · exact authentic.move move
  · exact (authentic.accept acceptable.free acceptable.salted).move move

theorem authentic_opening (stream : Sink) (username password : Option String) (area : Option MmapArea)
    (audioWorker : Option AudioWorker) :
    Authentic (conversation (opening stream username password area audioWorker).client) where
  order := .start
  pending := rfl
  left := fun impossible => nomatch impossible
  carried := ⟨[], List.Sublist.refl _, .nil⟩

/-- The packet whose turn it is in a step of the UI thread, if it is a challenge. -/
def Challenged (host : Host) (event : Event) (system : System) (packet : Packet) : Prop :=
  (∃ env, event = .deliver env) ∧ system.client.proxy.head? = some packet ∧ kindOf host packet = .challenge

structure Orderly (host : Host) (event : Event) (system next : System) : Prop where
  authentic : Authentic (conversation next.client)
  grows : system.client.authLog <+: next.client.authLog
  /-- No challenge is taken up while another one is pending or the dialog is open. -/
  free : ∀ added salt digest saltDigest, next.client.authLog = system.client.authLog ++ added →
    .accepted salt digest saltDigest ∈ added → system.client.pendingChallenge = none ∧ system.client.authDialog = none
  /-- It is the challenge whose turn it is, with its own salt and digests. -/
  own : ∀ added salt digest saltDigest, next.client.authLog = system.client.authLog ++ added →
    .accepted salt digest saltDigest ∈ added → ∃ packet, Challenged host event system packet ∧ 5 ≤ packet.len ∧
      salt = challengeSalt host packet ∧ digest = yamlStr (packet.get 3) ∧ saltDigest = yamlStr (packet.get 4)
  /-- The client salt of an answer is drawn in the step that gives it. -/
  fresh : ∀ added reply, next.client.authLog = system.client.authLog ++ added → .answered reply ∈ added →
    reply.clientSalt = Sha256.toHex (envOf event).clientSalt ∧ next.client.pendingChallenge = none
  /-- Nothing is written after a cancellation. -/
  silent : .cancelled ∈ system.client.authLog →
    next.client.sent = system.client.sent ∧ next.client.stream = system.client.stream

theorem Move.added (move : Move env before after) :
    ∃ added, after.log = before.log ++ added ∧ (∀ salt digest saltDigest, .accepted salt digest saltDigest ∉ added) ∧
      ∀ reply, .answered reply ∈ added →
        reply.clientSalt = Sha256.toHex env.clientSalt ∧ after.pending = none := by
  cases move with
  | idle quiet pending log => exact ⟨[], by simp [log], by simp, by simp⟩
  | prompt quiet pending log => exact ⟨[.prompted], log, by simp, by simp⟩
  | answer salt password held cleared log sent silenced =>
    refine ⟨[.answered (makeReply salt env.clientSalt password)], log, by simp, ?_⟩
    intro reply member
    cases List.mem_singleton.mp member
    exact ⟨rfl, cleared⟩
  | cancel quiet pending log left => exact ⟨[.cancelled], log, by simp, by simp⟩

theorem Move.silenced (move : Move env before after) : Silenced before after := by
  cases move with
  | idle quiet => exact quiet.silenced
  | prompt quiet => exact quiet.silenced
  | answer _ _ _ _ _ _ silenced => exact silenced
  | cancel quiet => exact quiet.silenced

theorem orderly_step {event : Event} {system next : System} (authentic : Authentic (conversation system.client))
    (moved : System.step host event system = .ok next) : Orderly host event system next := by
  have kept := authentic_step authentic moved
  have silent (silenced : Silenced (conversation system.client) (conversation next.client))
      (cancelled : .cancelled ∈ system.client.authLog) :
      next.client.sent = system.client.sent ∧ next.client.stream = system.client.stream :=
    (silenced (authentic.left cancelled)).2
  rcases step_cases moved with move | ⟨packet, ⟨delivers, head, kind, acceptable⟩, move⟩
  · obtain ⟨new, log, none, answered⟩ := Move.added move
    have same {added : List AuthEvent} (grown : next.client.authLog = system.client.authLog ++ added) : added = new :=
      List.append_cancel_left (grown.symm.trans log)
    refine ⟨kept, ⟨new, log.symm⟩, ?_, ?_, ?_, silent (Move.silenced move)⟩
    · intro added salt digest saltDigest grown member
      exact absurd (same grown ▸ member) (none salt digest saltDigest)
    · intro added salt digest saltDigest grown member
      exact absurd (same grown ▸ member) (none salt digest saltDigest)
    · intro added reply grown member
      exact answered reply (same grown ▸ member)
  · obtain ⟨new, log, none, answered⟩ := Move.added move
    have log : next.client.authLog = system.client.authLog ++
        (.accepted (challengeSalt host packet) HMAC_SHA256 HMAC_SHA256 :: new) := by
      simpa [conversation, Authentication.accept] using log
    have same {added : List AuthEvent} (grown : next.client.authLog = system.client.authLog ++ added) :
        added = .accepted (challengeSalt host packet) HMAC_SHA256 HMAC_SHA256 :: new :=
      List.append_cancel_left (grown.symm.trans log)
    have silenced : Silenced (Authentication.accept (challengeSalt host packet) (conversation system.client))
        (conversation next.client) := Move.silenced move
    refine ⟨kept, ⟨_, log.symm⟩, ?_, ?_, ?_, silent silenced⟩
    · intro added salt digest saltDigest grown member
      exact ⟨acceptable.free, acceptable.closed⟩
    · intro added salt digest saltDigest grown member
      refine ⟨packet, ⟨delivers, head, kind⟩, acceptable.long, ?_⟩
      rw [acceptable.digest, acceptable.saltDigest]
      rw [same grown] at member
      rcases List.mem_cons.mp member with here | later
      · cases here
        exact ⟨rfl, rfl, rfl⟩
      · exact absurd later (none salt digest saltDigest)
    · intro added reply grown member
      rw [same grown] at member
      exact answered reply (by simpa using member)

/-- In every run each response answers the salt taken up last, which is that of a
challenge with digests that are known, with the digest of the password and both
salts, and nothing follows a cancellation. -/
theorem challenges_answered_in_order (host : Host) (stream : Sink) (username password : Option String)
    (area : Option MmapArea) (audioWorker : Option AudioWorker) (events : List Event) :
    Machine.Along (System.step host)
      (fun event system => ∀ next, System.step host event system = .ok next → Orderly host event system next)
      events (opening stream username password area audioWorker) := by
  refine Machine.along_of_invariant _ (fun system => Authentic (conversation system.client)) ?_ ?_ events
    (authentic_opening stream username password area audioWorker)
  · exact fun event system next authentic moved => authentic_step authentic moved
  · exact fun event system authentic next moved => orderly_step authentic moved

/-! ### How many answers -/

def Answered (system : System) : Prop := ∃ reply, .answered reply ∈ system.client.authLog

/-- A challenge without any effect: the guard against repeats stops it, or it is
turned down when the client is on its way out already. -/
def Dropped (host : Host) (client : XpraClient) (packet : Packet) : Prop :=
  Busy client ∨ client.exitCode.isSome ∧ 4 ≤ packet.len ∧ ¬ Acceptable host client packet

/-- There is one response at most, and a challenge that comes after an answer is
taken off the queue and that is all. -/
structure AnswersOnce (host : Host) (event : Event) (system : System) : Prop where
  once : ∀ next, System.step host event system = .ok next → (responses (conversation next.client)).length ≤ 1
  ignored : ∀ packet, Challenged host event system packet → Answered system →
    System.step host event system =
      .ok { system with client := { system.client with proxy := system.client.proxy.tail } }

/-- The same, but a later challenge may end the session: it is not taken up, and
leads to no answer and no prompt. -/
structure RespondsOnce (host : Host) (event : Event) (system : System) : Prop where
  once : ∀ next, System.step host event system = .ok next → (responses (conversation next.client)).length ≤ 1
  unanswered : ∀ packet, Challenged host event system packet → Answered system →
    ∀ next, System.step host event system = .ok next → next.client.authLog = system.client.authLog

/-- The record of a client that has answered once at most, and holds no salt after
that. -/
structure Single (state : Conversation) : Prop where
  once : (repliesOf state.log).length ≤ 1
  spent : repliesOf state.log ≠ [] → state.pending = none

theorem repliesOf_snoc (log : List AuthEvent) (event : AuthEvent) :
    repliesOf (log ++ [event]) = repliesOf log ++ match event with
      | .answered reply => [reply]
      | _ => [] := by
  cases event <;> simp [repliesOf]

theorem answered_iff {system : System} : Answered system ↔ repliesOf system.client.authLog ≠ [] := by
  constructor
  · rintro ⟨reply, member⟩ none
    have found : reply ∈ repliesOf system.client.authLog := List.mem_filterMap.mpr ⟨_, member, rfl⟩
    rw [none] at found
    exact nomatch found
  · intro some
    obtain ⟨reply, member⟩ := List.exists_mem_of_ne_nil _ some
    obtain ⟨event, member, kept⟩ := List.mem_filterMap.mp member
    cases event with
    | answered found => exact ⟨found, member⟩
    | accepted | prompted | cancelled => exact nomatch kept

theorem Single.move (single : Single before) (move : Move env before after) : Single after := by
  obtain ⟨once, spent⟩ := single
  cases move with
  | idle quiet pending log => exact ⟨log ▸ once, by rw [pending, log]; exact spent⟩
  | prompt quiet pending log =>
    have same : repliesOf after.log = repliesOf before.log := by rw [log, repliesOf_snoc, List.append_nil]
    exact ⟨same ▸ once, by rw [pending, same]; exact spent⟩
  | answer salt password held cleared log sent silenced =>
    -- with an answer on record no salt would be held any more
    have first : repliesOf before.log = [] := by
      by_contra answered
      simp [spent answered] at held
    refine ⟨?_, fun _ => cleared⟩
    rw [log, repliesOf_snoc, first]
    exact Nat.le_refl 1
  | cancel quiet pending log left =>
    have same : repliesOf after.log = repliesOf before.log := by rw [log, repliesOf_snoc, List.append_nil]
    exact ⟨same ▸ once, fun _ => pending⟩

theorem Single.accept {salt : Bytes} (first : repliesOf before.log = []) :
    Single (Authentication.accept salt before) := by
  have none : repliesOf (Authentication.accept salt before).log = [] := by
    rw [Authentication.accept, repliesOf_snoc, first, List.append_nil]
  exact ⟨by simp [none], fun answered => absurd none answered⟩

theorem responses_le (authentic : Authentic before) (single : Single before) : (responses before).length ≤ 1 := by
  obtain ⟨replies, recorded, carried⟩ := authentic.carried
  calc (responses before).length = replies.length := carried.length_eq.symm
    _ ≤ (repliesOf before.log).length := recorded.length_le
    _ ≤ 1 := single.once

/-! ### A challenge in its turn -/

def taken (client : XpraClient) : XpraClient := { client with proxy := client.proxy.tail }

theorem Challenged.step {event : Event} {system : System} {packet : Packet}
    (challenged : Challenged host event system packet) :
    System.step host event system =
      system.ofClient (processChallenge host (envOf event) (taken system.client) packet) := by
  obtain ⟨⟨env, rfl⟩, head, kind⟩ := challenged
  obtain ⟨rest, queued⟩ := List.head?_eq_some_iff.mp head
  simp only [System.step, System.deliver, queued, Handlers.userEvent_eq, kind, doProcessPacket, envOf, taken, List.tail_cons]

theorem taken_acceptable {client : XpraClient} {packet : Packet} :
    Acceptable host (taken client) packet ↔ Acceptable host client packet :=
  ⟨fun ⟨free, closed, long, salted, digest, saltDigest⟩ => ⟨free, closed, long, salted, digest, saltDigest⟩,
    fun ⟨free, closed, long, salted, digest, saltDigest⟩ => ⟨free, closed, long, salted, digest, saltDigest⟩⟩

theorem quit_same_iff {client : XpraClient} {code : ExitCode} : client.quit code = client ↔ client.exitCode.isSome := by
  constructor
  · intro same
    rw [← same]
    rfl
  · intro left
    obtain ⟨earlier, left⟩ := Option.isSome_iff_exists.mp left
    have same : client.toLink.quit code = client.toLink := by
      rw [Link.quit, left, Option.getD_some, ← left]
    rw [XpraClient.quit, same]

theorem accepted_grows {salt : Bytes} (move : Move env (Authentication.accept salt before) after) :
    after.log ≠ before.log := by
  obtain ⟨added, log, -⟩ := Move.added move
  intro same
  have length := congrArg List.length (log.symm.trans same)
  simp [Authentication.accept] at length

theorem processChallenge_same_iff {client : XpraClient} {packet : Packet} :
    processChallenge host env client packet = .ok client ↔ Dropped host client packet := by
  constructor
  · intro returned
    rcases processChallenge_cases returned with ⟨turned, ⟨busy, -⟩ | ⟨long, same⟩⟩ | ⟨-, move⟩
    · exact .inl busy
    · exact .inr ⟨quit_same_iff.mp same.symm, long, turned⟩
    · exact absurd rfl (accepted_grows move)
  · rintro (busy | ⟨left, long, turned⟩)
    · exact processChallenge_busy busy
    · obtain ⟨next, returned⟩ := processChallenge_returns long
      rcases processChallenge_cases returned with ⟨-, ⟨-, rfl⟩ | ⟨-, rfl⟩⟩ | ⟨acceptable, -⟩
      · exact returned
      · rw [returned, quit_same_iff.mpr left]
      · exact absurd acceptable turned

theorem Challenged.ignored_iff {event : Event} {system : System} {packet : Packet}
    (challenged : Challenged host event system packet) :
    System.step host event system = .ok { system with client := taken system.client } ↔
      Dropped host system.client packet := by
  rw [challenged.step]
  have same : Dropped host (taken system.client) packet ↔ Dropped host system.client packet := by
    simp only [Dropped, taken_acceptable]
    rfl
  have returns : processChallenge host (envOf event) (taken system.client) packet = .ok (taken system.client) ↔
      Dropped host (taken system.client) packet := processChallenge_same_iff
  rw [← same, ← returns]
  cases processChallenge host (envOf event) (taken system.client) packet with
  | error cause => simp [System.ofClient]
  | ok next => simp [System.ofClient]

theorem Challenged.unanswered_iff {event : Event} {system : System} {packet : Packet}
    (challenged : Challenged host event system packet) :
    (∀ next, System.step host event system = .ok next → next.client.authLog = system.client.authLog) ↔
      ¬ Acceptable host system.client packet := by
  rw [challenged.step]
  constructor
  · intro unanswered acceptable
    have ready := taken_acceptable.mpr acceptable
    obtain ⟨next, returned⟩ : ∃ next, processChallenge host (envOf event) (taken system.client) packet = .ok next :=
      processChallenge_returns (Nat.le_of_succ_le acceptable.long)
    rcases processChallenge_cases returned with ⟨turned, -⟩ | ⟨-, move⟩
    · exact turned ready
    · exact accepted_grows move (unanswered { system with client := next } (by rw [returned]; rfl))
  · intro turned next moved
    cases returned : processChallenge host (envOf event) (taken system.client) packet with
    | error cause => simp [System.ofClient, returned] at moved
    | ok client =>
      simp only [System.ofClient, returned, Except.ok.injEq] at moved
      subst moved
      rcases processChallenge_cases returned with ⟨-, ⟨-, rfl⟩ | ⟨-, rfl⟩⟩ | ⟨ready, -⟩
      · rfl
      · rfl
      · exact absurd (taken_acceptable.mp ready) turned

def Later (condition : XpraClient → Packet → Prop) (host : Host) (event : Event) (system : System) : Prop :=
  ∀ packet, Challenged host event system packet → Answered system → condition system.client packet

def Sound (system : System) : Prop := Authentic (conversation system.client) ∧ Single (conversation system.client)

theorem sound_step {event : Event} {system next : System}
    (turned : Later (fun client packet => ¬ Acceptable host client packet) host event system) (sound : Sound system)
    (moved : System.step host event system = .ok next) : Sound next := by
  refine ⟨authentic_step sound.1 moved, ?_⟩
  rcases step_cases moved with move | ⟨packet, ⟨delivers, head, kind, acceptable⟩, move⟩
  · exact sound.2.move move
  · have first : repliesOf system.client.authLog = [] := by
      by_contra answered
      exact turned packet ⟨delivers, head, kind⟩ (answered_iff.mpr answered) acceptable
    exact (Single.accept first).move move

theorem Dropped.turned {client : XpraClient} {packet : Packet} (dropped : Dropped host client packet) :
    ¬ Acceptable host client packet := by
  rcases dropped with busy | ⟨-, -, turned⟩
  · exact fun acceptable => acceptable.idle busy
  · exact turned

theorem responds_iff_of_sound {events : List Event} {system : System} (sound : Sound system) :
    Machine.Along (System.step host) (RespondsOnce host) events system ↔
      Machine.Along (System.step host) (Later (fun client packet => ¬ Acceptable host client packet) host) events
        system := by
  constructor
  · intro along
    apply along.mono _
    intro event system responds packet challenged answered
    exact challenged.unanswered_iff.mp (responds.unanswered packet challenged answered)
  · intro along
    refine along.of_invariant_along _ Sound (fun _ _ _ => sound_step) ?_ sound
    intro event system turned sound
    refine ⟨fun next moved => ?_, fun packet challenged answered => ?_⟩
    · have kept := sound_step turned sound moved
      exact responses_le kept.1 kept.2
    · exact challenged.unanswered_iff.mpr (turned packet challenged answered)

theorem answers_iff_of_sound {events : List Event} {system : System} (sound : Sound system) :
    Machine.Along (System.step host) (AnswersOnce host) events system ↔
      Machine.Along (System.step host) (Later (Dropped host) host) events system := by
  have weaker (event : Event) (system : System) (dropped : Later (Dropped host) host event system) :
      Later (fun client packet => ¬ Acceptable host client packet) host event system :=
    fun packet challenged answered => (dropped packet challenged answered).turned
  constructor
  · intro along
    apply along.mono _
    intro event system answers packet challenged answered
    exact challenged.ignored_iff.mp (answers.ignored packet challenged answered)
  · intro along
    refine along.of_invariant_along _ Sound
      (fun event system _ dropped => sound_step (weaker event system dropped)) ?_ sound
    intro event system dropped sound
    refine ⟨fun next moved => ?_, fun packet challenged answered => ?_⟩
    · have kept := sound_step (weaker event system dropped) sound moved
      exact responses_le kept.1 kept.2
    · exact challenged.ignored_iff.mpr (dropped packet challenged answered)

theorem sound_opening (stream : Sink) (username password : Option String) (area : Option MmapArea)
    (audioWorker : Option AudioWorker) : Sound (opening stream username password area audioWorker) :=
  ⟨authentic_opening stream username password area audioWorker, Nat.zero_le 1, fun answered => absurd rfl answered⟩

/-- A session has one response and no reaction to later challenges exactly when
each of them is dropped, which nothing but a pending challenge, an open dialog or
an exit under way brings about. One response and no further prompt take that no
later challenge is acceptable. -/
theorem answered_once_iff (host : Host) (stream : Sink) (username password : Option String)
    (area : Option MmapArea) (audioWorker : Option AudioWorker) (events : List Event) :
    (Machine.Along (System.step host) (AnswersOnce host) events (opening stream username password area audioWorker) ↔
      Machine.Along (System.step host) (Later (Dropped host) host) events
        (opening stream username password area audioWorker)) ∧
    (Machine.Along (System.step host) (RespondsOnce host) events (opening stream username password area audioWorker) ↔
      Machine.Along (System.step host) (Later (fun client packet => ¬ Acceptable host client packet) host) events
        (opening stream username password area audioWorker)) :=
  ⟨answers_iff_of_sound (sound_opening stream username password area audioWorker),
    responds_iff_of_sound (sound_opening stream username password area audioWorker)⟩

private def challengeText : Bytes :=
  "[challenge, '', '', hmac+sha256, hmac+sha256]".toList.map fun c => c.toNat.toUInt8

private def challengeHost : Host := { Host.plain with
  loadYaml := fun payload =>
    if payload = challengeText then
      .ok [.array [.string "challenge", .string "", .string "", .string HMAC_SHA256, .string HMAC_SHA256]]
    else .error "invalid utf-8 sequence" }

/-- The salt of a challenge comes in a chunk of its own. -/
private def challengeRead (salt : Bytes) : Event :=
  .receive (.ok ⟨challengeText, fun index => if index = 1 then some salt else none⟩)

theorem second_challenge_is_answered :
    ∃ final, System.run challengeHost
        [.resumed {}, challengeRead [1], .deliver {}, challengeRead [2], .deliver {}]
        (opening { outcome := fun _ => .written } none (some "secret") none none) = .ok final ∧
      ¬ (responses (conversation final.client)).length ≤ 1 := by
  refine ⟨_, rfl, ?_⟩
  exact Nat.not_le_of_lt (Nat.lt_of_lt_of_eq Nat.one_lt_two rfl)

end Xpra.Proofs.Challenge
