import Xpra.Client.RemoteLogger
import Xpra.Proofs.ExitLatch
import Xpra.Proofs.Posts

/-! Log records on their way to the server, over the runs of the client with its logger:
none is lost, doubled or overtaken while the session lasts. -/

namespace Xpra.Proofs.RemoteLogger
open Xpra.Net Xpra.Client Xpra.Client.RemoteLogger Library Handlers DrawSteps Posts

variable {host : Host} {filter : Nat} {session next : RemoteLogger.Session} {record : Record} {packet : Packet}

/-! ### Records -/

/-- A record that the server is to see. -/
def Forwarded (filter : Nat) (record : Record) (session : RemoteLogger.Session) : Prop :=
  record.level.number ≤ min filter FORWARD_LEVEL.number ∧ session.system.client.logSink = true ∧ record.inForward = false

instance (filter : Nat) (record : Record) (session : RemoteLogger.Session) : Decidable (Forwarded filter record session) :=
  inferInstanceAs (Decidable (_ ∧ _))

theorem log_system (filter : Nat) (record : Record) (session : RemoteLogger.Session) :
    (session.log filter record).system =
      if Forwarded filter record session then session.system.posted (logPacket record.level record.message) else session.system := by
  simp only [RemoteLogger.Session.log, Forwarded, Nat.le_min]
  by_cases quiet : filter < record.level.number
  · simp [quiet, Nat.not_le.mpr quiet]
  by_cases low : FORWARD_LEVEL.number < record.level.number
  · simp [quiet, low, Nat.not_le.mpr low]
  cases session.system.client.logSink <;> cases record.inForward <;>
    simp [quiet, low, Nat.le_of_not_lt quiet, Nat.le_of_not_lt low]

/-- What the UI thread reads off a record's packet. -/
def read (packet : Packet) : Int64 × String := (yamlI64 (packet.get 1), yamlStr (packet.get 2))

def carried (record : Record) : Int64 × String := (pythonLevel record.level, record.message)

theorem logPacket_kind (level : Level) (message : String) : kindOf host (logPacket level message) = .sendLog := by
  rw [kindOf]
  cases host.windows <;> rfl

/-- The packet that the server gets for a record. -/
def Carries (record : Record) (packet : Json) : Prop :=
  ∃ time : Int, packet = .array ["logging-event", pythonLevel record.level, record.message, time]

/-! ### The UI thread -/

theorem sendLog_ok {env : Env} {client after : XpraClient} (sent : sendLog host env client packet = .ok after) :
    after = client.writeJson host (.array ["logging-event", (read packet).1, (read packet).2, env.nowMs]) := by
  obtain ⟨-, sent⟩ := Packet.read_bind_ok.mp sent
  obtain ⟨-, sent⟩ := Packet.read_bind_ok.mp sent
  cases sent
  rfl

/-- The server posts no packet of the client's own, as far as the log goes. -/
def Unforged (host : Host) (event : RemoteLogger.Session.Event) : Prop :=
  ∀ raw packet, event = .client (.receive (.ok raw)) → parsePacket host raw = .ok packet → kindOf host packet ≠ .sendLog

theorem quiet_of_unforged {event : Client.Event} (unforged : Unforged host (.client event))
    (own : ¬ RemoteLogger.Session.ofLogger event = true) : Quiet host .sendLog event := by
  refine ⟨fun raw packet same parsed => unforged raw packet (by rw [same]) parsed, fun posted same kind => ?_⟩
  subst same
  cases posted with
  | log level message => exact own rfl
  | ping | clipboardChanged | trayExit | audioLatency | audioWorkerFailed =>
    rw [kindOf] at kind
    cases windows : host.windows <;> rw [windows] at kind <;> cases kind

/-- The next post is a record, and the UI thread takes it. -/
def takes (host : Host) (event : Client.Event) (system : System) : Bool :=
  match event, system.client.proxy with
  | .deliver _, packet :: _ => kindOf host packet = .sendLog
  | _, _ => false

theorem takes_cases {event : Client.Event} {system : System} (taken : takes host event system = true) :
    ∃ env packet rest, event = .deliver env ∧ system.client.proxy = packet :: rest ∧ kindOf host packet = .sendLog := by
  rw [takes.eq_def] at taken
  split at taken
  next env packet rest queued => exact ⟨env, packet, rest, rfl, queued, of_decide_eq_true taken⟩
  next => cases taken

theorem other_posts {event : Client.Event} {system after : System} (quiet : Quiet host .sendLog event)
    (other : takes host event system = false) (stepped : System.step host event system = .ok after) :
    postsOf host .sendLog read after.client.proxy = postsOf host .sendLog read system.client.proxy := by
  rw [step_posts (by decide) quiet stepped]
  cases event with
  | deliver env =>
    rw [unread]
    cases queued : system.client.proxy with
    | nil => rfl
    | cons packet rest =>
      simp only [takes, queued, decide_eq_false_iff_not] at other
      exact (postsOf_other other).symm
  | receive | input | resumed | decode | post | pinentry | serverWrites | audioTurn => rfl

theorem step_silent {event : Client.Event} {system after : System} (stepped : System.step host event system = .ok after)
    (out : system.client.exitCode.isSome) : after.client.exitCode.isSome ∧ after.client.sent = system.client.sent := by
  cases ExitLatch.step_link stepped with
  | moved _ proxy link => exact ⟨(link.effect.silent out).1, (link.effect.silent out).2.1⟩
  | started _ proxy link =>
    rw [link]
    exact ⟨out, rfl⟩

/-- The packets of the log among those that were handed over. -/
def logged (link : Link) : List Json := link.sent.filter Logging

theorem logged_moves {allowed : Json → Prop} {start link : Link} (moves : Moves host allowed start link)
    (other : ∀ packet, allowed packet → ¬ Logging packet) : logged link = logged start := by
  obtain ⟨packets, sent, fine⟩ := moves.effect.sent
  have none : packets.filter Logging = [] :=
    List.filter_eq_nil_iff.mpr fun packet member => by simpa using other packet (fine packet member)
  rw [logged, sent, List.filter_append, none, List.append_nil, logged]

/-- Only a record that the UI thread takes goes into the log. -/
theorem step_logged {event : Client.Event} {system after : System} (other : takes host event system = false)
    (stepped : System.step host event system = .ok after) : logged after.client.toLink = logged system.client.toLink := by
  cases step_turn stepped with
  | handled env packet rest delivers queued handled =>
    subst delivers
    rw [show logged system.client.toLink = logged { system.client.toLink with proxy := rest } from rfl]
    have unlogged {link : Link} (moves : Moves host Offhand { system.client.toLink with proxy := rest } link) :
        logged link = logged { system.client.toLink with proxy := rest } := logged_moves moves fun _ offhand => offhand.2.2
    cases handled with
    | spared _ _ spares => exact unlogged spares.link
    | started _ same =>
      rw [same]
      rfl
    | draw _ same => rw [same]
    | clipped _ clips =>
      refine logged_moves clips.link fun packet about logging => ?_
      rcases about with type | type <;> exact logging.ne (by decide) type
    | logged kind => simp [takes, queued, kind] at other
    | hello _ greeted => exact logged_moves greeted.link fun _ plain => plain.2.2.2.2
    | decoded _ acknowledges | failed _ acknowledges =>
      exact logged_moves acknowledges.moves fun _ acking => acking.ne (by decide) (by decide)
    | ended _ _ link => exact unlogged link
  | spared _ spares => exact logged_moves spares.link fun _ offhand => offhand.2.2
  | received _ _ _ _ link | posted _ _ _ link | decoded _ _ _ _ _ _ _ _ link => rw [link, logged, logged]
  | written _ _ _ _ _ link => rw [link]

theorem deliver_record {env : Env} {system after : System} {rest : List Packet} (queued : system.client.proxy = packet :: rest)
    (kind : kindOf host packet = .sendLog) (running : system.client.exitCode = none)
    (stepped : System.step host (.deliver env) system = .ok after) :
    after.client.sent = system.client.sent ++ [.array ["logging-event", (read packet).1, (read packet).2, env.nowMs]] ∧
      (after.client.exitCode = none → after.client.proxy = rest) := by
  rw [System.step, System.deliver, queued] at stepped
  dsimp only at stepped
  rw [userEvent_eq, kind, doProcessPacket] at stepped
  cases handled : sendLog host env { system.client with proxy := rest } packet with
  | error cause =>
    rw [handled] at stepped
    cases stepped
  | ok client =>
    rw [handled] at stepped
    cases stepped
    rw [sendLog_ok handled]
    rcases writeJson_cases host { system.client.toLink with proxy := rest }
        (.array ["logging-event", (read packet).1, (read packet).2, env.nowMs]) with ⟨out, -⟩ | ⟨-, sent, ⟨-, proxy⟩ | ⟨out, -⟩⟩
    · simp [running] at out
    · exact ⟨sent, fun _ => proxy⟩
    · refine ⟨sent, fun still => ?_⟩
      have still : (Link.writeJson host { system.client.toLink with proxy := rest }
        (.array ["logging-event", (read packet).1, (read packet).2, env.nowMs])).exitCode = none := still
      rw [still] at out
      cases out

/-! ### Runs -/

/-- What the UI thread hands over when it takes a record. -/
def handed (host : Host) (event : Client.Event) (system : System) : List Json :=
  if takes host event system then
    match System.step host event system with
    | .ok next => next.client.sent.drop system.client.sent.length
    | .error _ => []
  else []

/-- The records that have gone out, and those that wait. -/
structure Follows (host : Host) (records : List Record) (told : List Json) (system : System) : Prop where
  split : ∃ done waiting, records = done ++ waiting ∧ List.Forall₂ Carries done told ∧
    (system.client.exitCode = none → postsOf host .sendLog read system.client.proxy = waiting.map carried)
  sent : logged system.client.toLink = told

variable {records : List Record} {told : List Json} {system after : System}

theorem Follows.posts (follows : Follows host records told system) (record : Record) :
    Follows host (records ++ [record]) told (system.posted (logPacket record.level record.message)) := by
  obtain ⟨⟨done, waiting, rfl, carries, posts⟩, sent⟩ := follows
  refine ⟨⟨done, waiting ++ [record], List.append_assoc .., carries, fun running => ?_⟩, sent⟩
  have here : postsOf host .sendLog read [logPacket record.level record.message] = [carried record] :=
    postsOf_cons (logPacket_kind record.level record.message)
  rw [System.posted, postsOf_append, here, List.map_append, posts running]
  rfl

theorem Follows.takes_record (follows : Follows host records told system) {env : Env} {rest : List Packet}
    (queued : system.client.proxy = packet :: rest) (kind : kindOf host packet = .sendLog)
    (running : system.client.exitCode = none) (stepped : System.step host (.deliver env) system = .ok after) :
    Follows host records (told ++ after.client.sent.drop system.client.sent.length) after := by
  obtain ⟨⟨done, waiting, rfl, carries, posts⟩, sent⟩ := follows
  obtain ⟨grown, proxy⟩ := deliver_record queued kind running stepped
  have first := posts running
  rw [queued, postsOf_cons kind] at first
  cases waiting with
  | nil => cases first
  | cons record later =>
    obtain ⟨same, others⟩ := List.cons.inj first
    rw [grown, List.drop_left]
    have carried : Carries record (.array ["logging-event", (read packet).1, (read packet).2, env.nowMs]) := by
      rw [same]
      exact ⟨env.nowMs.toInt, rfl⟩
    refine ⟨⟨done ++ [record], later, by simp, List.rel_append carries (.cons carried .nil), fun still => ?_⟩, ?_⟩
    · rw [proxy still]
      exact others
    · rw [logged, grown, List.filter_append, ← logged, sent]
      rfl

theorem Follows.client (follows : Follows host records told system) {event : Client.Event} (quiet : Quiet host .sendLog event)
    (stepped : System.step host event system = .ok after) : Follows host records (told ++ handed host event system) after := by
  have latched := step_silent stepped
  cases taken : takes host event system with
  | false =>
    rw [handed, taken, if_neg Bool.false_ne_true, List.append_nil]
    obtain ⟨done, waiting, split, carries, posts⟩ := follows.split
    refine ⟨⟨done, waiting, split, carries, fun running => ?_⟩, (step_logged taken stepped).trans follows.sent⟩
    rw [other_posts quiet taken stepped]
    refine posts (Option.not_isSome_iff_eq_none.mp fun out => ?_)
    rw [running] at latched
    cases (latched out).1
  | true =>
    rw [handed, taken, if_pos rfl, stepped]
    cases exit : system.client.exitCode with
    | none =>
      obtain ⟨env, packet, rest, rfl, queued, kind⟩ := takes_cases taken
      exact follows.takes_record queued kind exit stepped
    | some code =>
      obtain ⟨out, same⟩ := latched (by rw [exit]; rfl)
      dsimp only
      rw [same, List.drop_length, List.append_nil]
      obtain ⟨done, waiting, split, carries, -⟩ := follows.split
      refine ⟨⟨done, waiting, split, carries, fun running => ?_⟩, ?_⟩
      · rw [running] at out
        cases out
      · rw [logged, same]
        exact follows.sent

def forwarded (filter : Nat) (event : RemoteLogger.Session.Event) (session : RemoteLogger.Session) : List Record :=
  match event with
  | .log record => if Forwarded filter record session then [record] else []
  | .client _ => []

def toldOf (host : Host) (event : RemoteLogger.Session.Event) (session : RemoteLogger.Session) : List Json :=
  match event with
  | .log _ => []
  | .client event => handed host event session.system

theorem step_follows {event : RemoteLogger.Session.Event} (follows : Follows host records told session.system)
    (unforged : Unforged host event) (moved : RemoteLogger.Session.step host filter event session = .ok next) :
    Follows host (records ++ forwarded filter event session) (told ++ toldOf host event session) next.system := by
  cases event with
  | log record =>
    cases moved
    rw [log_system, forwarded, toldOf, List.append_nil]
    by_cases goes : Forwarded filter record session
    · rw [if_pos goes, if_pos goes]
      exact follows.posts record
    · rw [if_neg goes, if_neg goes, List.append_nil]
      exact follows
  | client event =>
    rw [RemoteLogger.Session.step] at moved
    split at moved
    next => cases moved
    next own =>
      split at moved
      next system stepped =>
        cases moved
        rw [forwarded, toldOf, List.append_nil]
        exact follows.client (quiet_of_unforged unforged own) stepped
      next => cases moved

theorem run_follows {events : List RemoteLogger.Session.Event} {final : RemoteLogger.Session}
    (follows : Follows host records told session.system) (unforged : ∀ event ∈ events, Unforged host event)
    (ran : RemoteLogger.Session.run host filter events session = .ok final) :
    Follows host (records ++ Machine.observed (RemoteLogger.Session.step host filter) (forwarded filter) events session)
      (told ++ Machine.observed (RemoteLogger.Session.step host filter) (toldOf host) events session) final.system := by
  induction events generalizing session records told with
  | nil =>
    cases ran
    rw [Machine.observed, Machine.observed, List.append_nil, List.append_nil]
    exact follows
  | cons event events ih =>
    obtain ⟨middle, moved, later⟩ := (Machine.run_cons_ok _).mp ran
    have reached := ih (step_follows follows (unforged event List.mem_cons_self) moved)
      (fun other member => unforged other (List.mem_cons_of_mem event member)) later
    simpa only [Machine.observed, moved, List.append_assoc] using reached

/-- The records that the filter lets through. -/
def passed (filter : Nat) (event : RemoteLogger.Session.Event) (_ : RemoteLogger.Session) : List Record :=
  match event with
  | .log record => if record.level.number ≤ filter then [record] else []
  | .client _ => []

/-- A server that takes log records. -/
def listening : Host := { Host.plain with
  loadYaml := fun payload => match payload with
    | [1] => .ok [.array [.string "hello", .hash [(.string "version", .string "6.4"),
        (.string "remote-logging", .hash [(.string "receive", .boolean true)])]]]
    | _ => .error "invalid utf-8 sequence" }

end Xpra.Proofs.RemoteLogger
