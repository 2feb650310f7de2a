import Xpra.Proofs.Handlers

/-! The packet types that only the client's own threads post. The dispatcher does
not tell who posted a packet, so the server can name them as well; what follows is
when that comes to nothing. -/

namespace Xpra.Proofs.InternalTypes
open Xpra.Net Xpra.Client Library Handlers

def internalTypes (windows : Bool) : List String :=
  ["draw-decoded", "draw-failed", "decoding-failed", "send-ping", "send-log", "challenge-password", "challenge-cancel",
    "challenge-fallback-dialog", "clipboard-changed", "tray-exit", "connection-lost", "invalid-packet"] ++
  if windows then ["audio-latency", "audio-worker-failed"] else []

def internalKinds : List Kind := [.drawDecoded, .drawFailed, .sendPing, .sendLog, .challengePassword, .challengeCancel,
  .challengeFallbackDialog, .clipboardChanged, .trayExit, .connectionLost, .invalidPacket, .audioLatency,
  .audioWorkerFailed]

theorem kind_of_internal {host : Host} {packet : Packet}
    (internal : yamlStr (packet.get 0) ∈ internalTypes host.windows) : kindOf host packet ∈ internalKinds := by
  rw [kindOf]
  generalize yamlStr (packet.get 0) = name at internal
  cases windows : host.windows <;> simp only [windows, internalTypes] at internal <;> revert name <;> decide

/-- The handler has left the client as it was, and so has sent nothing; only the
record of the authentication may say more. -/
def Leaves (client : XpraClient) (result : Except Panic XpraClient) : Prop :=
  ∃ log, result = .ok { client with authLog := log }

/-- The packet has the effect of one of an unhandled type. -/
def Ignored (host : Host) (env : Env) (client : XpraClient) (packet : Packet) : Prop :=
  Leaves client (userEvent host env client packet)

def openedDialog (env : Env) (client : XpraClient) (promptText : String) : Option AuthDialog :=
  match env.createWindow with
  | .ok window => if client.softbufferCtx && env.surface then some { window, prompt := promptText } else none
  | .error _ => none

/-- When the arm of a packet does nothing. An arm that writes or quits has nothing
left to do once the client is on its way out. -/
def Idle (host : Host) (env : Env) (client : XpraClient) (packet : Packet) : Kind → Prop
  | .drawDecoded => client.exitCode.isSome ∧ 9 ≤ packet.len ∧
      ∀ window, client.windows (yamlU64 (packet.get 1)) = some window →
        let pixels := (packet.raw 7).getD (yamlBytes host.base64 (packet.get 7))
        pixels = [] ∨ window.paint (yamlI32 (packet.get 2)) (yamlI32 (packet.get 3)) (yamlU32 (packet.get 4))
          (yamlU32 (packet.get 5)) (yamlStr (packet.get 6)) pixels = .ok window
  | .drawFailed => client.exitCode.isSome ∧ 9 ≤ packet.len
  | .sendPing | .trayExit | .connectionLost => client.exitCode.isSome
  | .sendLog => client.exitCode.isSome ∧ 3 ≤ packet.len
  | .invalidPacket => client.exitCode.isSome ∧ 2 ≤ packet.len
  | .challengePassword => client.pendingChallenge = none ∧ 2 ≤ packet.len
  | .challengeCancel => client.exitCode.isSome ∧ client.pendingChallenge = none ∧ client.authDialog = none
  | .challengeFallbackDialog => 2 ≤ packet.len ∧
      match openedDialog env client (yamlStr (packet.get 1)) with
      | some dialog => client.authDialog = some dialog
      | none => client.exitCode.isSome
  | .clipboardChanged => client.clipboardEnabled = false ∨
      2 ≤ packet.len ∧ (yamlStr (packet.get 1) = "" ∨ yamlStr (packet.get 1) = client.lastClipboard)
  | .audioLatency => 2 ≤ packet.len ∧
      (client.audioProtocol.negotiated = true → client.audioProtocol.serverAvSync = true →
        (client.audioSyncReporter.update (yamlU32 (packet.get 1))).1 = none)
  | .audioWorkerFailed => client.audioWorker = none ∧ 2 ≤ packet.len
  | _ => True

variable {host : Host} {env : Env} {client middle : XpraClient} {packet : Packet}

/-! ### What leaves the client alone -/

theorem leaves_refl : Leaves client (.ok client) := ⟨client.authLog, rfl⟩

/-- Whatever does not depend on the record is as it was. -/
theorem Leaves.kept {α : Type} (leaves : Leaves client (.ok middle)) (part : XpraClient → α)
    (apart : ∀ log, part { client with authLog := log } = part client) : part middle = part client := by
  obtain ⟨log, left⟩ := leaves
  rw [Except.ok.inj left]
  exact apart log

theorem leaves_read {α : Type} {convert : Yaml → α} {index : Nat} {rest : α → Except Panic XpraClient} :
    Leaves client (packet.read convert index >>= rest) ↔
      index < packet.len ∧ Leaves client (rest (convert (packet.get index))) := by
  simp only [Leaves, Packet.read_bind_ok, exists_and_left]

theorem leaves_map {α : Type} {convert : Yaml → α} {index : Nat} {rest : α → XpraClient} :
    Leaves client (rest <$> packet.read convert index) ↔
      index < packet.len ∧ Leaves client (.ok (rest (convert (packet.get index)))) :=
  leaves_read

theorem leaves_write (same : middle.toLink = client.toLink) (json : Json) :
    Leaves client (.ok (middle.writeJson host json)) ↔ client.exitCode.isSome ∧ Leaves client (.ok middle) := by
  rcases writeJson_cases host client.toLink json with ⟨out, unwritten⟩ | ⟨running, handed, -⟩
  · have unchanged : middle.writeJson host json = middle := by
      rw [XpraClient.writeJson, same, unwritten, ← same]
    simp [unchanged, out]
  · have grown : ¬ Leaves client (.ok (middle.writeJson host json)) := by
      intro leaves
      have sent := leaves.kept (fun next => next.sent) fun _ => rfl
      simp [XpraClient.writeJson, same, handed] at sent
    simp [grown, running]

theorem quit_of_exit {link : Link} (out : link.exitCode.isSome) (code : ExitCode) : link.quit code = link := by
  obtain ⟨first, running⟩ := Option.isSome_iff_exists.mp out
  cases link
  cases running
  rfl

theorem leaves_quit (code : ExitCode) : Leaves client (.ok (client.quit code)) ↔ client.exitCode.isSome := by
  constructor
  · intro leaves
    have exit := leaves.kept (fun next => next.exitCode) fun _ => rfl
    rw [← exit]
    rfl
  · intro out
    rw [XpraClient.quit, quit_of_exit out]
    exact leaves_refl

/-! ### The arms -/

theorem insert_leaves {wid : UInt64} {window painted : XpraWindow} (held : client.windows wid = some window) :
    Leaves client (.ok { client with windows := client.windows.insert wid painted }) ↔ painted = window := by
  constructor
  · intro leaves
    have windows := leaves.kept (fun next => next.windows wid) fun _ => rfl
    simpa [Table.insert, held] using windows
  · rintro rfl
    have same : client.windows.insert wid painted = client.windows := by
      funext w
      by_cases key : w = wid <;> simp [Table.insert, key, held]
    rw [same]
    exact leaves_refl

theorem leaves_bind {α : Type} {first : Except Panic α} {rest : α → Except Panic XpraClient} :
    Leaves client (first >>= rest) ↔ ∃ value, first = .ok value ∧ Leaves client (rest value) := by
  cases first with
  | error cause => simp [Leaves, bind, Except.bind]
  | ok value => simp [bind, Except.bind]

theorem leaves_painted {wid : UInt64} {window painted : XpraWindow} (held : client.windows wid = some window)
    (seq other : UInt64) (w h : UInt32) (time : Int) (message : String) :
    Leaves client (.ok (sendDrawAck host { client with windows := client.windows.insert wid painted } seq other w h
      time message)) ↔ client.exitCode.isSome ∧ painted = window := by
  refine Iff.trans (leaves_write ?_ _) (and_congr_right fun _ => insert_leaves held)
  rfl

theorem processDrawDecoded_leaves :
    Leaves client (processDrawDecoded host client packet) ↔ Idle host env client packet .drawDecoded := by
  rw [processDrawDecoded]
  constructor
  · intro leaves
    iterate 6 obtain ⟨-, leaves⟩ := leaves_read.mp leaves
    obtain ⟨⟨pixels, left⟩, taken, leaves⟩ := leaves_bind.mp leaves
    obtain ⟨kept, -, same⟩ := Packet.getBytes_ok taken
    have length : left.len = packet.len := congrArg List.length kept
    obtain ⟨long, leaves⟩ := leaves_read.mp leaves
    rw [length] at long
    rw [same] at leaves
    split at leaves
    next gone => exact ⟨((leaves_write rfl _).mp leaves).1, long, by simp [gone]⟩
    next window held =>
      split at leaves
      next empty =>
        obtain ⟨painted, -, leaves⟩ := leaves_bind.mp leaves
        exact ⟨((leaves_painted held _ _ _ _ _ _).mp leaves).1, long, fun _ _ => .inl empty⟩
      next =>
        obtain ⟨painted, paints, leaves⟩ := leaves_bind.mp leaves
        obtain ⟨out, rfl⟩ := (leaves_painted held _ _ _ _ _ _).mp leaves
        refine ⟨out, long, fun other found => .inr ?_⟩
        rw [held] at found
        cases found
        exact paints
  · rintro ⟨out, long, same⟩
    iterate 6 refine leaves_read.mpr ⟨by omega, ?_⟩
    rcases Packet.getBytes_cases host.base64 packet 7 with ⟨-, short, -⟩ | ⟨-, pixels, left, taken, kept⟩
    · have seven : (7 : UInt8).toNat = 7 := rfl
      omega
    · obtain ⟨-, -, pixels⟩ := Packet.getBytes_ok taken
      have length : left.len = packet.len := congrArg List.length kept
      refine leaves_bind.mpr ⟨_, taken, leaves_read.mpr ⟨by omega, ?_⟩⟩
      subst pixels
      dsimp only
      split
      next => exact (leaves_write rfl _).mpr ⟨out, leaves_refl⟩
      next window held =>
        have unchanged := same window held
        split
        next => exact (leaves_painted held _ _ _ _ _ _).mpr ⟨out, rfl⟩
        next filled =>
          refine leaves_bind.mpr ⟨window, unchanged.resolve_left filled, ?_⟩
          exact (leaves_painted held _ _ _ _ _ _).mpr ⟨out, rfl⟩

theorem processDrawFailed_leaves :
    Leaves client (processDrawFailed host client packet) ↔ Idle host env client packet .drawFailed := by
  rw [processDrawFailed]
  constructor
  · intro leaves
    iterate 4 obtain ⟨-, leaves⟩ := leaves_read.mp leaves
    obtain ⟨long, leaves⟩ := leaves_read.mp leaves
    exact ⟨((leaves_write rfl _).mp leaves).1, long⟩
  · rintro ⟨out, long⟩
    iterate 5 refine leaves_read.mpr ⟨by omega, ?_⟩
    exact (leaves_write rfl _).mpr ⟨out, leaves_refl⟩

theorem sendLog_leaves : Leaves client (sendLog host env client packet) ↔ Idle host env client packet .sendLog := by
  rw [sendLog]
  constructor
  · intro leaves
    obtain ⟨-, leaves⟩ := leaves_read.mp leaves
    obtain ⟨long, leaves⟩ := leaves_read.mp leaves
    exact ⟨((leaves_write rfl _).mp leaves).1, long⟩
  · rintro ⟨out, long⟩
    iterate 2 refine leaves_read.mpr ⟨by omega, ?_⟩
    exact (leaves_write rfl _).mpr ⟨out, leaves_refl⟩

theorem answerChallenge_leaves (password : String) :
    Leaves client (.ok (answerChallenge host env client password)) ↔ client.pendingChallenge = none := by
  rw [answerChallenge]
  split
  next none => exact iff_of_true leaves_refl none
  next salt pending =>
    refine iff_of_false ?_ (by simp [pending])
    intro leaves
    have challenge := leaves.kept (fun next => next.pendingChallenge) fun _ => rfl
    simp [sendHello, XpraClient.writeJson, pending] at challenge

theorem cancelAuth_leaves :
    Leaves client (.ok (cancelAuth client)) ↔ Idle host env client packet .challengeCancel := by
  constructor
  · intro leaves
    have exit := leaves.kept (fun next => next.exitCode) fun _ => rfl
    have challenge := leaves.kept (fun next => next.pendingChallenge) fun _ => rfl
    have dialog := leaves.kept (fun next => next.authDialog) fun _ => rfl
    simp only [cancelAuth, XpraClient.quit, Link.quit] at exit challenge dialog
    exact ⟨by rw [← exit]; rfl, challenge.symm, dialog.symm⟩
  · rintro ⟨out, challenge, dialog⟩
    refine ⟨client.authLog ++ [.cancelled], ?_⟩
    rw [cancelAuth, XpraClient.quit, quit_of_exit out, ← challenge, ← dialog]

theorem showAuthDialog_leaves (promptText : String) :
    Leaves client (.ok (showAuthDialog env client promptText)) ↔
      match openedDialog env client promptText with
      | some dialog => client.authDialog = some dialog
      | none => client.exitCode.isSome := by
  have quits : Leaves client (.ok (client.quit .authenticationFailed)) ↔ client.exitCode.isSome := leaves_quit _
  rw [showAuthDialog, openedDialog]
  cases ready : client.softbufferCtx with
  | false =>
    cases env.createWindow <;> simpa using quits
  | true =>
    cases env.createWindow with
    | error message => simpa using quits
    | ok window =>
      cases env.surface with
      | false => simpa using quits
      | true =>
        simp only [Bool.true_eq_false, if_false, if_true, Bool.and_self]
        constructor
        · intro leaves
          exact (leaves.kept (fun next => next.authDialog) fun _ => rfl).symm
        · intro open_
          exact ⟨client.authLog ++ [.prompted], by rw [← open_, ← ready]⟩

theorem processClipboardChanged_leaves :
    Leaves client (processClipboardChanged host client packet) ↔ Idle host env client packet .clipboardChanged := by
  rw [processClipboardChanged]
  split
  next disabled => exact iff_of_true leaves_refl (.inl disabled)
  next enabled =>
    simp only [Idle, enabled, Bool.true_eq_false, false_or]
    rw [leaves_read]
    apply and_congr .rfl
    split
    next known => exact iff_of_true leaves_refl known
    next fresh =>
      refine iff_of_false ?_ fresh
      intro leaves
      exact fresh (.inr (leaves.kept (fun next => next.lastClipboard) fun _ => rfl))

theorem trayExit_leaves : Leaves client (.ok (trayExit host client)) ↔ client.exitCode.isSome := by
  constructor
  · intro leaves
    have exit := leaves.kept (fun next => next.exitCode) fun _ => rfl
    rw [← exit]
    rfl
  · intro out
    have unwritten : client.writeJson host (.array ["connection-close", "client exit"]) = client := by
      simp only [XpraClient.writeJson, Link.writeJson, out, if_true]
    rw [trayExit, unwritten]
    exact (leaves_quit _).mpr out

theorem processConnectionLost_leaves :
    Leaves client (processConnectionLost client packet) ↔ client.exitCode.isSome := by
  rw [processConnectionLost]
  split
  next running =>
    rw [leaves_read]
    refine iff_of_false ?_ (by simpa using running)
    rintro ⟨-, leaves⟩
    have out := (leaves_quit _).mp leaves
    simp only [Option.isNone_iff_eq_none] at running
    simp [running] at out
  next => exact leaves_quit _

theorem update_cases (reporter : LatencyReporter) (total : UInt32) :
    reporter.update total = (none, reporter) ∨
      (reporter.update total = (some total, ⟨some total⟩) ∧ reporter.lastMs ≠ some total) := by
  cases last : reporter.lastMs with
  | none => exact .inr ⟨by simp [LatencyReporter.update, last], nofun⟩
  | some before =>
    by_cases moved : SYNC_THRESHOLD_MS ≤ max before.toNat total.toNat - min before.toNat total.toNat
    · refine .inr ⟨by simp [LatencyReporter.update, last, moved], ?_⟩
      intro same
      cases same
      simp [SYNC_THRESHOLD_MS] at moved
    · exact .inl (by simp [LatencyReporter.update, last, moved])

theorem reportAudioLatency_leaves (totalMs : UInt32) :
    Leaves client (.ok (reportAudioLatency host client totalMs)) ↔
      (client.audioProtocol.negotiated = true → client.audioProtocol.serverAvSync = true →
        (client.audioSyncReporter.update totalMs).1 = none) := by
  rw [reportAudioLatency]
  split
  next unsynced =>
    apply iff_of_true leaves_refl
    intro negotiated synced
    simp [negotiated, synced] at unsynced
  next synced =>
    simp only [Bool.or_eq_true, Bool.not_eq_true', not_or, Bool.not_eq_false] at synced
    simp only [synced, true_imp_iff]
    rcases update_cases client.audioSyncReporter totalMs with still | ⟨moved, other⟩
    · simp only [still]
      exact iff_of_true leaves_refl trivial
    · simp only [moved]
      apply iff_of_false _ (Option.some_ne_none totalMs)
      intro leaves
      have last := leaves.kept (fun next => next.audioSyncReporter) fun _ => rfl
      exact other (by rw [← last]; rfl)

theorem disableAudio_leaves : Leaves client (.ok (disableAudio host client)) ↔ client.audioWorker = none := by
  rw [disableAudio]
  cases worker : client.audioWorker with
  | none => exact iff_of_true leaves_refl rfl
  | some running =>
    apply iff_of_false _ (Option.some_ne_none running)
    intro leaves
    have gone := leaves.kept (fun next => next.audioWorker) fun _ => rfl
    simp [worker] at gone

/-! ### The types -/

/-- A packet of an internal type is ignored exactly where its arm has nothing to
do. -/
theorem internal_ignored_iff (host : Host) (env : Env) (client : XpraClient) (packet : Packet)
    (internal : yamlStr (packet.get 0) ∈ internalTypes host.windows) :
    Ignored host env client packet ↔ Idle host env client packet (kindOf host packet) := by
  have kind := kind_of_internal internal
  rw [Ignored, userEvent_eq]
  simp only [internalKinds, List.mem_cons, List.not_mem_nil, or_false] at kind
  rcases kind with kind | kind | kind | kind | kind | kind | kind | kind | kind | kind | kind | kind | kind <;>
    rw [kind]
  · exact processDrawDecoded_leaves
  · exact processDrawFailed_leaves
  · exact (leaves_write rfl _).trans (and_iff_left leaves_refl)
  · exact sendLog_leaves
  · exact leaves_map.trans (and_comm.trans (and_congr (answerChallenge_leaves _) .rfl))
  · exact cancelAuth_leaves
  · exact leaves_map.trans (and_congr .rfl (showAuthDialog_leaves _))
  · exact processClipboardChanged_leaves
  · exact trayExit_leaves
  · exact processConnectionLost_leaves
  · exact leaves_read.trans (and_comm.trans (and_congr (leaves_quit _) .rfl))
  · exact leaves_map.trans (and_congr .rfl (reportAudioLatency_leaves _))
  · exact leaves_map.trans (and_comm.trans (and_congr disableAudio_leaves .rfl))

theorem trayExit_not_ignored (kind : kindOf host packet = .trayExit) (running : client.exitCode = none) :
    ¬ Ignored host env client packet := by
  rw [Ignored, userEvent_eq, kind]
  intro leaves
  simpa [running] using trayExit_leaves.mp leaves

private def forgedText : Bytes := "[tray-exit]".toList.map fun c => c.toNat.toUInt8

private def forgedHost : Host := { Host.plain with
  loadYaml := fun payload =>
    if payload = forgedText then .ok [.array [.string "tray-exit"]] else .error "invalid utf-8 sequence" }

theorem internal_ignored_iff_tray_exit :
    yamlStr (Packet.get { main := [.string "tray-exit"] } 0) ∈ internalTypes Host.plain.windows ∧
      (Ignored Host.plain {} (XpraClient.new { outcome := fun _ => .written } none none none none)
          { main := [.string "tray-exit"] } ↔
        Idle Host.plain {} (XpraClient.new { outcome := fun _ => .written } none none none none)
          { main := [.string "tray-exit"] } (kindOf Host.plain { main := [.string "tray-exit"] })) :=
  ⟨by decide, internal_ignored_iff _ _ _ _ (by decide)⟩

/-- The server can end the session through the tray. -/
theorem forged_tray_exit_is_obeyed :
    ∃ system packet rest,
      System.run forgedHost [.resumed {}, .receive (.ok ⟨forgedText, fun _ => none⟩)]
        { client := .new { outcome := fun _ => .written } none none none none } = .ok system ∧
      system.client.proxy = packet :: rest ∧ yamlStr (packet.get 0) ∈ internalTypes forgedHost.windows ∧
      ¬ Ignored forgedHost {} { system.client with proxy := rest } packet :=
  ⟨_, _, _, rfl, rfl, by decide, trayExit_not_ignored (by decide) rfl⟩

end Xpra.Proofs.InternalTypes
