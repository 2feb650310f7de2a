import Xpra.Proofs.DrawSteps

/-! The way out. The first cause sets the exit code and nothing is written after
it, so what the connection has seen is whole packets, cut at most in the last. -/

namespace Xpra.Proofs.ExitLatch
open Xpra.Net Xpra.Client Library Handlers DrawSteps

variable {host : Host}

/-! ### Writes -/

def framed (host : Host) (packet : Json) : Bytes := makeHeader (host.render packet) ++ host.render packet

/-- The packets handed over are on the connection in their order, all of them
whole, or all but the last, which the failure that ended the session has cut. -/
inductive WholePackets (host : Host) (link : Link) : Prop where
  | whole (wire : link.stream.wire = (link.sent.map (framed host)).flatten)
  | cut (before : List Json) (last : Json) (part : Bytes) (sent : link.sent = before ++ [last])
      (wire : link.stream.wire = (before.map (framed host)).flatten ++ part) (truncated : part <+: framed host last)
      (out : link.exitCode.isSome)

theorem writeJson_out {link : Link} (out : link.exitCode.isSome) (packet : Json) : link.writeJson host packet = link := by
  rw [Link.writeJson, if_pos out]

theorem writeJson_running {link : Link} (running : link.exitCode = none) (packet : Json) :
    (link.stream.outcome link.stream.calls = .written ∧
        link.writeJson host packet = { link with
          sent := link.sent ++ [packet]
          stream := { link.stream with calls := link.stream.calls + 1, wire := link.stream.wire ++ framed host packet } }) ∨
      ∃ accepted error, link.stream.outcome link.stream.calls = .failed accepted error ∧
        link.writeJson host packet = { link with
          sent := link.sent ++ [packet]
          stream := { link.stream with
            calls := link.stream.calls + 1, wire := link.stream.wire ++ (framed host packet).take accepted }
          exitCode := some link.connectionLostCode
          proxy := link.proxy ++ [clientPacket "connection-lost" error.message] } := by
  rw [Link.writeJson, if_neg (by simp [running])]
  cases outcome : link.stream.outcome link.stream.calls with
  | written =>
    refine .inl ⟨rfl, ?_⟩
    simp only [writePacket, Sink.writeAll, outcome, framed]
  | failed accepted error =>
    refine .inr ⟨accepted, error, rfl, ?_⟩
    simp only [writePacket, Sink.writeAll, outcome, framed]

theorem WholePackets.write {link : Link} (packets : WholePackets host link) (packet : Json) :
    WholePackets host (link.writeJson host packet) := by
  cases code : link.exitCode with
  | some code => rwa [writeJson_out (by simp [code])]
  | none =>
    cases packets with
    | cut before last part sent wire truncated out => simp [code] at out
    | whole wire =>
      rcases writeJson_running code packet with ⟨-, written⟩ | ⟨accepted, error, -, failed⟩
      · rw [written]
        exact .whole (by simp [wire])
      · rw [failed]
        exact .cut link.sent packet _ rfl (by rw [wire]) (List.take_prefix _ _) rfl

theorem WholePackets.quit {link : Link} (packets : WholePackets host link) (code : ExitCode) :
    WholePackets host (link.quit code) := by
  cases packets with
  | whole wire => exact .whole wire
  | cut before last part sent wire truncated out => exact .cut before last part sent wire truncated rfl

theorem WholePackets.moves {allowed : Json → Prop} {start link : Link} (packets : WholePackets host start)
    (moved : Moves host allowed start link) : WholePackets host link := by
  induction moved with
  | refl => exact packets
  | write _ _ ih => exact ih.write _
  | quit code _ ih => exact ih.quit code

/-! ### The exit code -/

def WriteFailed (start link : Link) : Prop :=
  ∃ call accepted error, start.stream.calls ≤ call ∧ call < link.stream.calls ∧
    start.stream.outcome call = .failed accepted error

structure Course (start link : Link) : Prop where
  startup : link.startupComplete = start.startupComplete
  outcome : link.stream.outcome = start.stream.outcome
  calls : start.stream.calls ≤ link.stream.calls
  /-- A code that is set stands, and nothing is written any more. -/
  latched : ∀ code, start.exitCode = some code → link.exitCode = some code ∧ link.stream = start.stream
  lost : WriteFailed start link → link.exitCode = some start.connectionLostCode

theorem Course.refl (link : Link) : Course link link := by
  refine ⟨rfl, rfl, Nat.le_refl _, fun code set => ⟨set, rfl⟩, ?_⟩
  rintro ⟨call, -, -, first, last, -⟩
  exact absurd last (Nat.not_lt.mpr first)

theorem Course.write {start link : Link} (course : Course start link) (packet : Json) :
    Course start (link.writeJson host packet) := by
  cases code : link.exitCode with
  | some code => rwa [writeJson_out (by simp [code])]
  | none =>
    have running (first : ExitCode) : start.exitCode ≠ some first := by
      intro set
      simp [(course.latched first set).1] at code
    have clean : ¬ WriteFailed start link := by
      intro failed
      simp [course.lost failed] at code
    have lostCode : link.connectionLostCode = start.connectionLostCode := by
      rw [Link.connectionLostCode, course.startup, Link.connectionLostCode]
    rcases writeJson_running code packet with ⟨fine, written⟩ | ⟨accepted, error, -, failed⟩
    · rw [written]
      refine ⟨course.startup, course.outcome, Nat.le_succ_of_le course.calls, fun first set => absurd set (running first), ?_⟩
      rintro ⟨call, accepted, error, first, last, failed⟩
      -- the write that is new has not failed
      rcases Nat.lt_succ_iff_lt_or_eq.mp last with earlier | rfl
      · exact absurd ⟨call, accepted, error, first, earlier, failed⟩ clean
      · rw [← course.outcome, fine] at failed
        cases failed
    · rw [failed]
      exact ⟨course.startup, course.outcome, Nat.le_succ_of_le course.calls, fun first set => absurd set (running first),
        fun _ => congrArg some lostCode⟩

theorem Moves.course {allowed : Json → Prop} {start link : Link} (moved : Moves host allowed start link) :
    Course start link := by
  induction moved with
  | refl => exact .refl start
  | write _ _ ih => exact ih.write _
  | quit code _ ih =>
    refine ⟨ih.startup, ih.outcome, ih.calls, fun first set => ?_, fun failed => ?_⟩
    · obtain ⟨stands, stream⟩ := ih.latched first set
      exact ⟨by simp [Link.quit, stands], stream⟩
    · simp [Link.quit, ih.lost failed]

/-! ### The steps -/

def startups (host : Host) (event : Event) (system : System) : List Packet :=
  match event with
  | .deliver _ => system.client.proxy.head?.toList.filter fun packet => kindOf host packet = .startupComplete
  | _ => []

variable {event : Event} {system next : System}

/-- Apart from what is posted, the UI thread writes and quits, or notes that the
session is up. -/
inductive LinkStep (host : Host) (event : Event) (system next : System) : Prop where
  | moved (unseen : startups host event system = []) (proxy : List Packet)
      (link : Moves host (fun _ => True) { system.client.toLink with proxy } next.client.toLink)
  | started (seen : startups host event system ≠ []) (proxy : List Packet)
      (link : next.client.toLink = { system.client.toLink with proxy, startupComplete := true })

theorem LinkStep.posted (unseen : startups host event system = []) (proxy : List Packet)
    (link : next.client.toLink = { system.client.toLink with proxy }) : LinkStep host event system next := by
  refine .moved unseen proxy ?_
  rw [link]
  exact .refl

theorem LinkStep.aside {allowed : Json → Prop} (unseen : startups host event system = [])
    (link : Moves host allowed system.client.toLink next.client.toLink) : LinkStep host event system next := by
  have same : { system.client.toLink with proxy := system.client.proxy } = system.client.toLink := rfl
  refine .moved unseen system.client.proxy ?_
  rw [same]
  exact link.mono fun _ _ => trivial

theorem handled_link {env : Env} {packet : Packet} {rest : List Packet} (queued : system.client.proxy = packet :: rest)
    (handled : Handled host { system.client with proxy := rest } packet next.client) :
    LinkStep host (.deliver env) system next := by
  have unseen (other : kindOf host packet ≠ .startupComplete) : startups host (.deliver env) system = [] := by
    simp [startups, queued, other]
  cases handled with
  | spared _ other spares => exact .moved (unseen other) rest (spares.link.mono fun _ _ => trivial)
  | started kind same => exact .started (by simp [startups, queued, kind]) rest (by rw [same])
  | clipped about clips =>
    refine .moved (unseen fun kind => ?_) rest (clips.link.mono fun _ _ => trivial)
    simp [kind, clipboardKinds] at about
  | logged kind logs => exact .moved (unseen (by simp [kind])) rest (logs.link.mono fun _ _ => trivial)
  | hello kind greeted => exact .moved (unseen (by simp [kind])) rest (greeted.link.mono fun _ _ => trivial)
  | draw kind same => exact .posted (unseen (by simp [kind])) rest (by rw [same])
  | decoded kind acknowledges | failed kind acknowledges =>
    exact .moved (unseen (by simp [kind])) rest (acknowledges.moves.mono fun _ _ => trivial)
  | ended _ ends link =>
    refine .moved (unseen fun kind => ?_) rest (link.mono fun _ _ => trivial)
    have named := listed_of_kind kind (by decide)
    have type : yamlStr (packet.get 0) = "startup-complete" := by simpa [windowsPacketTypes, packetTypes] using named
    simp [endsStream, type] at ends

theorem turn_link (silent : startups host event system = []) (delivers : ∀ env, event ≠ .deliver env)
    (turn : Turn host event system next) : LinkStep host event system next := by
  cases turn with
  | handled env _ _ same => exact absurd same (delivers env)
  | spared _ spares => exact .aside silent spares.link
  | received _ _ _ _ link => exact .posted silent _ link
  | posted _ _ _ link => exact .posted silent _ link
  | decoded _ _ _ _ _ _ _ _ link => exact .posted silent _ link
  | written _ _ _ _ _ link => exact .posted silent system.client.proxy (by rw [link])

theorem step_link (moved : System.step host event system = .ok next) : LinkStep host event system next := by
  have turn := step_turn moved
  cases event with
  | deliver env =>
    obtain ⟨packet, rest, queued, handled⟩ := deliver_handles moved
    exact handled_link queued (userEvent_handled handled)
  | receive | input | resumed | decode | post | pinentry | serverWrites | audioTurn =>
    refine turn_link rfl (fun env same => ?_) turn
    cases same

/-! ### The runs -/

/-- A step that loses the connection: a connection-lost packet is processed, or a
write fails. -/
def Loses (host : Host) (event : Event) (system next : System) : Prop :=
  ((∃ env, event = .deliver env) ∧ ∃ packet, system.client.proxy.head? = some packet ∧
      kindOf host packet = .connectionLost) ∨
    WriteFailed system.client.toLink next.client.toLink

theorem LinkStep.latched (moved : LinkStep host event system next) {code : ExitCode}
    (set : system.client.exitCode = some code) :
    next.client.exitCode = some code ∧ next.client.stream = system.client.stream := by
  cases moved with
  | moved _ proxy link => exact (Moves.course link).latched code set
  | started _ proxy link =>
    rw [link]
    exact ⟨set, rfl⟩

theorem LinkStep.packets (moved : LinkStep host event system next)
    (packets : WholePackets host system.client.toLink) : WholePackets host next.client.toLink := by
  have reposted (proxy : List Packet) : WholePackets host { system.client.toLink with proxy } := by
    cases packets with
    | whole wire => exact .whole wire
    | cut before last part sent wire truncated out => exact .cut before last part sent wire truncated out
  cases moved with
  | moved _ proxy link => exact (reposted proxy).moves link
  | started _ proxy link =>
    rw [link]
    cases packets with
    | whole wire => exact .whole wire
    | cut before last part sent wire truncated out => exact .cut before last part sent wire truncated out

/-- A lost connection is reported by whether the session has been up. -/
theorem step_lost (moved : System.step host event system = .ok next) (running : system.client.exitCode = none)
    (loses : Loses host event system next) : next.client.exitCode = some system.client.connectionLostCode := by
  rcases loses with ⟨⟨env, rfl⟩, packet, head, kind⟩ | failed
  · obtain ⟨first, rest, queued, handled⟩ := deliver_handles moved
    have same : first = packet := by simpa [queued] using head
    rw [same, userEvent_eq, kind] at handled
    simp only [doProcessPacket, processConnectionLost, running, Option.isNone_none, if_true] at handled
    obtain ⟨-, handled⟩ := Packet.read_bind_ok.mp handled
    have quits : next.client = _ := (Except.ok.inj handled).symm
    rw [quits]
    simp [XpraClient.quit, Link.quit, Link.connectionLostCode]
  · cases step_link moved with
    | moved _ proxy link => exact (Moves.course link).lost failed
    | started _ proxy link =>
      obtain ⟨call, -, -, first, last, -⟩ := failed
      rw [link] at last
      exact absurd last (Nat.not_lt.mpr first)

theorem startup_observed {events : List Event} {start final : System} (fresh : start.client.startupComplete = false)
    (ran : System.run host events start = .ok final) :
    final.client.startupComplete = !(Machine.observed (System.step host) (startups host) events start).isEmpty := by
  have along : Machine.Along (System.step host) (fun _ _ => True) events start := .of_forall _ _ _ fun _ _ => trivial
  have kept : final.client.startupComplete =
      !([] ++ Machine.observed (System.step host) (startups host) events start).isEmpty := by
    refine Machine.invariant_observed (System.step host) (startups host)
      (fun state seen => state.client.startupComplete = !seen.isEmpty) ?_ along (by simp [fresh]) ran
    intro event system next seen _ flag moved
    cases step_link moved with
    | moved unseen proxy link =>
      have same : next.client.startupComplete = system.client.startupComplete := (Moves.course link).startup
      rw [unseen, List.append_nil, same, flag]
    | started fresh proxy link =>
      rw [link]
      simp [fresh]
  simpa using kept

/-- From a fresh client on, whatever happens: an exit code stands once it is set and
nothing is written after it; what has been written is whole packets, cut at most in
the last; and a lost connection is reported by whether startup-complete has been
processed. -/
theorem exit_code_latched (host : Host) (outcome : Nat → WriteOutcome) (username password : Option String)
    (area : Option MmapArea) (audioWorker : Option AudioWorker) (before after : List Event) (middle final : System)
    (reached : System.run host before { client := .new { outcome } username password area audioWorker } = .ok middle)
    (ran : System.run host after middle = .ok final) :
    (∀ code, middle.client.exitCode = some code →
        final.client.exitCode = some code ∧ final.client.stream = middle.client.stream) ∧
      WholePackets host final.client.toLink ∧
      ∀ event next, System.step host event final = .ok next → final.client.exitCode = none →
        Loses host event final next → next.client.exitCode = some
          (if (Machine.observed (System.step host) (startups host) (before ++ after)
              { client := .new { outcome } username password area audioWorker }).isEmpty then .connectionFailed
            else .connectionLost) := by
  have whole : System.run host (before ++ after) { client := .new { outcome } username password area audioWorker } =
      .ok final := by
    rw [System.run, Machine.run_append, ← System.run, reached]
    exact ran
  refine ⟨fun code set => ?_, ?_, fun event next moved running loses => ?_⟩
  · refine Machine.invariant (System.step host)
      (fun state => state.client.exitCode = some code ∧ state.client.stream = middle.client.stream) ?_ ⟨set, rfl⟩ ran
    rintro event system next ⟨set, same⟩ moved
    obtain ⟨stands, kept⟩ := (step_link moved).latched set
    exact ⟨stands, kept.trans same⟩
  · exact Machine.invariant (System.step host) (fun state => WholePackets host state.client.toLink)
      (fun _ _ _ packets moved => (step_link moved).packets packets) (.whole rfl) whole
  · rw [step_lost moved running loses, Link.connectionLostCode, startup_observed rfl whole]
    cases (Machine.observed (System.step host) (startups host) (before ++ after)
      { client := .new { outcome } username password area audioWorker }).isEmpty <;> rfl

theorem exit_code_latched_cut :
    ∃ middle final,
      System.run Host.plain [.resumed {}]
        { client := .new { outcome := fun _ => .failed 3 eof } none none none none } = .ok middle ∧
      System.run Host.plain [.deliver {}] middle = .ok final ∧
      middle.client.exitCode = some .connectionFailed ∧ final.client.exitCode = some .connectionFailed ∧
      final.client.stream = middle.client.stream ∧ WholePackets Host.plain final.client.toLink := by
  obtain ⟨latched, packets, -⟩ := exit_code_latched Host.plain (fun _ => .failed 3 eof) none none none none
    [.resumed {}] [.deliver {}] _ _ rfl rfl
  obtain ⟨stands, silent⟩ := latched .connectionFailed rfl
  exact ⟨_, _, rfl, rfl, rfl, stands, silent, packets⟩

end Xpra.Proofs.ExitLatch
