import Xpra.Client.System
import Xpra.Proofs.MmapRelease

/-! Which packets abort the process. Most handlers index the fields of their
packet without looking at how many there are; each result here gives the exact
number of fields a handler relies on. -/

namespace Xpra.Proofs.PacketFields
open Xpra.Net Xpra.Client Library

def Aborts {α : Type} (result : Except Panic α) : Prop := ∃ cause, result = .error cause ∧ cause.ofPacket = true

section

variable {α β : Type} {packet : Packet} {index : Nat}

@[simp] theorem aborts_ok (value : α) : ¬ Aborts (.ok value) := by simp [Aborts]

@[simp] theorem aborts_pure (value : α) : ¬ Aborts (pure value : Except Panic α) := aborts_ok value

@[simp] theorem aborts_error (cause : Panic) : Aborts (.error cause : Except Panic α) ↔ cause.ofPacket = true := by
  simp [Aborts]

@[simp] theorem aborts_map (convert : α → β) (result : Except Panic α) : Aborts (convert <$> result) ↔ Aborts result := by
  cases result <;> simp [Aborts, Functor.map, Except.map]

@[simp] theorem aborts_ite (condition : Prop) [Decidable condition] (first second : Except Panic α) :
    Aborts (if condition then first else second) ↔ if condition then Aborts first else Aborts second := by
  split <;> rfl

theorem aborts_bind (result : Except Panic α) (rest : α → Except Panic β) :
    Aborts (result >>= rest) ↔ Aborts result ∨ ∃ value, result = .ok value ∧ Aborts (rest value) := by
  cases result <;> simp [Aborts, bind, Except.bind]

@[simp] theorem aborts_ok_bind (value : α) (rest : α → Except Panic β) :
    Aborts (.ok value >>= rest) ↔ Aborts (rest value) := Iff.rfl

@[simp] theorem aborts_read (convert : Yaml → α) : Aborts (packet.read convert index) ↔ packet.len ≤ index := by
  by_cases inside : index < packet.len
  · simp [Packet.read_of_lt convert inside, inside]
  · simp [Packet.read_of_ge convert (Nat.not_lt.mp inside), Nat.not_lt.mp inside, Panic.ofPacket]

@[simp] theorem aborts_read_bind (convert : Yaml → α) (rest : α → Except Panic β) :
    Aborts (packet.read convert index >>= rest) ↔ packet.len ≤ index ∨ Aborts (rest (convert (packet.get index))) := by
  rw [aborts_bind, aborts_read]
  by_cases inside : index < packet.len
  · simp [Packet.read_of_lt convert inside]
  · simp [Nat.not_lt.mp inside]

@[simp] theorem aborts_field : Aborts (packet.field index) ↔ packet.len ≤ index := by
  by_cases inside : index < packet.len
  · simp [Packet.field_of_lt inside, inside]
  · simp [Packet.field_of_ge (Nat.not_lt.mp inside), Nat.not_lt.mp inside, Panic.ofPacket]

@[simp] theorem aborts_field_bind (rest : Yaml → Except Panic β) :
    Aborts (packet.field index >>= rest) ↔ packet.len ≤ index ∨ Aborts (rest (packet.get index)) := by
  rw [aborts_bind, aborts_field]
  by_cases inside : index < packet.len
  · simp [Packet.field_of_lt inside]
  · simp [Nat.not_lt.mp inside]

/-- A read after `get_bytes` finds the fields as they were. -/
theorem aborts_getBytes_bind {decode : String → Option Bytes} {chunk : UInt8} {rest : Bytes × Packet → Except Panic β}
    (later : Prop) (same : ∀ bytes left, left.main = packet.main → (Aborts (rest (bytes, left)) ↔ later)) :
    Aborts (packet.getBytes decode chunk >>= rest) ↔
      (packet.raw chunk = none ∧ packet.len ≤ chunk.toNat) ∨ later := by
  rw [aborts_bind]
  rcases Packet.getBytes_cases decode packet chunk with ⟨absent, short, failed⟩ | ⟨present, bytes, left, read, kept⟩
  · simp [failed, absent, short, Panic.ofPacket]
  · have there : ¬ (packet.raw chunk = none ∧ packet.len ≤ chunk.toNat) := by
      rintro ⟨absent, short⟩
      rcases present with some | inside
      · simp [absent] at some
      · omega
    simp [read, there, same bytes left kept]

@[simp] theorem aborts_getBytes (decode : String → Option Bytes) (chunk : UInt8) :
    Aborts (packet.getBytes decode chunk) ↔ packet.raw chunk = none ∧ packet.len ≤ chunk.toNat := by
  have returned : Aborts (packet.getBytes decode chunk >>= pure) ↔ _ ∨ False :=
    aborts_getBytes_bind False fun bytes left _ => iff_of_false (aborts_ok (bytes, left)) id
  rwa [bind_pure, or_false] at returned

theorem foldlM_safe {items : List β} {body : α → β → Except Panic α} (safe : ∀ state item, ¬ Aborts (body state item))
    (state : α) : ¬ Aborts (items.foldlM body state) := by
  induction items generalizing state with
  | nil => exact aborts_ok state
  | cons item rest ih =>
    rw [List.foldlM_cons, aborts_bind]
    rintro (first | ⟨next, -, later⟩)
    · exact safe _ _ first
    · exact ih next later

theorem mapM_safe {items : List α} {body : α → Except Panic β} (safe : ∀ item ∈ items, ¬ Aborts (body item)) :
    ¬ Aborts (items.mapM body) := by
  induction items with
  | nil => exact aborts_ok []
  | cons item rest ih =>
    obtain ⟨first, later⟩ := List.forall_mem_cons.mp safe
    rw [List.mapM_cons, aborts_bind]
    rintro (now | ⟨value, -, after⟩)
    · exact first now
    · rw [aborts_bind] at after
      rcases after with after | ⟨values, -, done⟩
      · exact ih later after
      · exact aborts_pure _ done

end

variable (host : Host) (env : Env) (client : XpraClient) (packet : Packet)

/-! ### The handlers -/

theorem processNewCommon_aborts (overrideRedirect : Bool) :
    Aborts (processNewCommon host env client packet overrideRedirect) ↔ packet.len < 7 := by
  have created (wid : UInt64) (id : WindowId) (w h : UInt32) :
      ¬ Aborts (XpraWindow.new env.surface host.debugAssertions wid id w h overrideRedirect) := by
    rw [XpraWindow.new]
    split <;> simp [Panic.ofPacket]
  simp only [processNewCommon, aborts_read_bind, aborts_field_bind]
  cases env.createWindow with
  | error message => simp; omega
  | ok id =>
    cases client.softbufferCtx with
    | false => simp [Panic.ofPacket]; omega
    | true => simp [created]; omega

theorem processWindowMoveResize_aborts :
    Aborts (processWindowMoveResize client packet) ↔
      packet.len < 2 ∨ ((client.windows (yamlU64 (packet.get 1))).isSome ∧ packet.len < 6) := by
  simp only [processWindowMoveResize, aborts_read_bind]
  cases client.windows (yamlU64 (packet.get 1)) with
  | none => simp
  | some window => simp; omega

theorem processInitiateMoveresize_aborts : Aborts (processInitiateMoveresize client packet) ↔ packet.len < 5 := by
  simp [processInitiateMoveresize]
  omega

theorem processRaiseWindow_aborts : Aborts (processRaiseWindow client packet) ↔ packet.len < 2 := by
  simp [processRaiseWindow]

theorem processLostWindow_aborts : Aborts (processLostWindow env client packet) ↔ packet.len < 2 := by
  simp only [processLostWindow, aborts_read_bind]
  split <;> simp

theorem processWindowMetadata_aborts : Aborts (processWindowMetadata client packet) ↔ packet.len < 3 := by
  simp only [processWindowMetadata, aborts_read_bind, aborts_field_bind]
  split <;> simp <;> omega

theorem processBell_aborts : Aborts (processBell client packet) ↔ packet.len < 6 := by
  simp [processBell]
  omega

theorem processCursor_aborts :
    Aborts (processCursor host env client packet) ↔
      2 < packet.len ∧ afterColon (yamlStr (packet.get 1)) = "png" ∧
        (packet.len < 8 ∨ (packet.raw 9 = none ∧ packet.len < 10)) := by
  rw [processCursor]
  by_cases few : packet.len ≤ 2
  · simp [few]
  by_cases png : afterColon (yamlStr (packet.get 1)) = "png"
  · rw [if_neg few, if_neg (not_not_intro png)]
    simp only [aborts_read_bind]
    rw [aborts_getBytes_bind False (fun bytes left same => ?_)]
    · by_cases absent : packet.raw 9 = none <;> simp [png, absent] <;> omega
    · cases host.pngRgba bytes <;> simp
  · simp [few, png]

theorem processWindowIcon_aborts :
    Aborts (processWindowIcon host client packet) ↔
      packet.len < 5 ∨ (yamlStr (packet.get 4) = "png" ∧ packet.raw 5 = none ∧ packet.len < 6) := by
  simp only [processWindowIcon, aborts_read_bind]
  by_cases png : yamlStr (packet.get 4) = "png"
  · by_cases absent : packet.raw 5 = none <;> simp [png, absent] <;> omega
  · simp [png]
    omega

theorem processNotifyShow_aborts : Aborts (processNotifyShow host client packet) ↔ packet.len < 8 := by
  simp only [processNotifyShow, aborts_read_bind]
  split <;> simp <;> omega

theorem processNotifyClose_aborts : Aborts (processNotifyClose client packet) ↔ packet.len < 2 := by
  simp [processNotifyClose]

theorem paint_safe (window : XpraWindow) (x y : Int32) (w h : UInt32) (coding : String) (pixels : Bytes) :
    ¬ Aborts (window.paint x y w h coding pixels) := by
  have dot (window : XpraWindow) (x y color : UInt32) : ¬ Aborts (window.setPixel x y color) := by
    simp [XpraWindow.setPixel, Panic.ofPacket]
  have border (window : XpraWindow) : ¬ Aborts (window.drawDebugBorder x y w h) := by
    simp only [XpraWindow.drawDebugBorder]
    split
    · simp
    · rw [aborts_bind, not_or]
      refine ⟨foldlM_safe (fun window item => ?_) _, ?_⟩
      · simp [aborts_bind, dot]
      · rintro ⟨window, -, aborted⟩
        refine foldlM_safe (fun window item => ?_) _ aborted
        simp [aborts_bind, dot]
  have row (window : XpraWindow) (row : Nat) : ¬ Aborts (XpraWindow.paintRow coding pixels x y w window row) := by
    simp only [XpraWindow.paintRow]
    split
    · simp
    · refine foldlM_safe (fun window col => ?_) _
      simp only [XpraWindow.paintPixel]
      split
      · simp
      · split <;> simp [Panic.ofPacket]
  simp only [XpraWindow.paint]
  split
  · simp
  · rw [aborts_bind, not_or]
    refine ⟨foldlM_safe row _, ?_⟩
    rintro ⟨painted, -, aborted⟩
    revert aborted
    split <;> simp [border]

theorem processDrawDecoded_aborts : Aborts (processDrawDecoded host client packet) ↔ packet.len < 9 := by
  simp only [processDrawDecoded, aborts_read_bind]
  rw [aborts_getBytes_bind (packet.len < 9) (fun bytes left same => ?_)]
  · simp
    omega
  · have kept : left.len = packet.len := congrArg List.length same
    simp only [aborts_read_bind, kept]
    split
    · simp [Nat.lt_succ_iff]
    · simp [paint_safe, Nat.lt_succ_iff]

theorem processDrawFailed_aborts : Aborts (processDrawFailed host client packet) ↔ packet.len < 9 := by
  simp [processDrawFailed]
  omega

theorem processPing_aborts : Aborts (processPing host client packet) ↔ packet.len < 2 := by
  simp [processPing]

theorem processPingEcho_aborts : Aborts (processPingEcho env client packet) ↔ packet.len < 2 := by
  simp [processPingEcho]

theorem sendLog_aborts : Aborts (sendLog host env client packet) ↔ packet.len < 3 := by
  simp [sendLog]
  omega

theorem clipboardText_safe (enc data : UInt8) (first : enc.toNat < packet.len) (second : data.toNat < packet.len) :
    ¬ Aborts (clipboardText host packet enc data) := by
  simp only [clipboardText, aborts_read_bind]
  split
  · simp; omega
  · simp; omega

theorem receivedText_safe {received : Except Panic (Option String)} (safe : ¬ Aborts received) : ¬ Aborts (do
    match ← received with
    | some text => return setLocalClipboard client text
    | none => return client) := by
  rw [aborts_bind]
  rintro (aborted | ⟨text, -, aborted⟩)
  · exact safe aborted
  · cases text <;> simp at aborted

theorem processClipboardToken_safe : ¬ Aborts (processClipboardToken host client packet) := by
  rw [processClipboardToken]
  split
  · simp
  · split
    next long =>
      exact receivedText_safe client (clipboardText_safe host packet 6 7 (by simpa using by omega) (by simpa using by omega))
    next => simp

theorem processClipboardContents_safe : ¬ Aborts (processClipboardContents host client packet) := by
  rw [processClipboardContents]
  split
  · simp
  · split
    next long =>
      exact receivedText_safe client (clipboardText_safe host packet 5 6 (by simpa using by omega) (by simpa using by omega))
    next => simp

theorem processClipboardRequest_aborts : Aborts (processClipboardRequest host client packet) ↔ packet.len < 4 := by
  simp [processClipboardRequest]
  omega

theorem processClipboardChanged_aborts :
    Aborts (processClipboardChanged host client packet) ↔ client.clipboardEnabled = true ∧ packet.len < 2 := by
  rw [processClipboardChanged]
  by_cases enabled : client.clipboardEnabled = false
  · simp [enabled]
  · simp [enabled]

theorem setClipboardEnabled_aborts : Aborts (setClipboardEnabled client packet) ↔ packet.len < 2 := by
  simp [setClipboardEnabled]

/-- The index is cut to a byte, and the byte is always a field. -/
theorem processDisconnect_safe : ¬ Aborts (processDisconnect client packet) := by
  rw [processDisconnect, aborts_bind]
  rintro (aborted | ⟨info, -, aborted⟩)
  · refine mapM_safe (fun i member => ?_) aborted
    have : 1 ≤ i ∧ i < packet.len := by
      have := List.mem_range'.mp member
      omega
    have := Nat.mod_le i 256
    simp
    omega
  · exact aborts_pure _ aborted

theorem processConnectionLost_aborts :
    Aborts (processConnectionLost client packet) ↔ client.exitCode = none ∧ packet.len < 2 := by
  rw [processConnectionLost]
  cases client.exitCode <;> simp

theorem processInvalidPacket_aborts : Aborts (processInvalidPacket client packet) ↔ packet.len < 2 := by
  simp [processInvalidPacket]

theorem processChallenge_aborts :
    Aborts (processChallenge host env client packet) ↔
      client.pendingChallenge = none ∧ client.authDialog = none ∧ packet.len < 4 := by
  rw [processChallenge]
  cases client.pendingChallenge with
  | some salt => simp
  | none =>
    cases client.authDialog with
    | some dialog => simp
    | none =>
      simp only [Option.isSome_none, Bool.or_self, Bool.false_eq_true, if_false, true_and]
      rw [aborts_getBytes_bind (packet.len < 4) (fun bytes left same => ?_)]
      · simp
        omega
      · have kept : left.len = packet.len := congrArg List.length same
        simp [kept, Nat.lt_succ_iff]

theorem processAudioData_safe : ¬ Aborts (processAudioData host env client packet) := by
  have parsed : ¬ Aborts (IncomingAudio.parse host packet) := by
    simp only [IncomingAudio.parse]
    split
    · simp
    · simp only [aborts_read_bind]
      rw [aborts_getBytes_bind (packet.len < 4) (fun bytes left same => ?_)]
      · simp
        omega
      · have kept : left.len = packet.len := congrArg List.length same
        simp [kept, Nat.lt_succ_iff]
  rw [processAudioData]
  split
  · simp
  · rw [aborts_bind]
    rintro (aborted | ⟨result, -, aborted⟩)
    · exact parsed aborted
    · cases result with
      | error message => exact aborts_pure _ aborted
      | ok incoming =>
        revert aborted
        simp only [aborts_ite, aborts_pure]
        split
        · exact id
        · split
          · split <;> exact aborts_pure _
          · simp

/-- A hash without the key that `process_hello` indexes it by. -/
def lacksVersion : Yaml → Bool
  | .hash entries => (Yaml.find VERSION_KEY_STR entries).isNone
  | _ => false

theorem processHello_aborts (hello : Yaml) : Aborts (processHello host client hello) ↔ lacksVersion hello = true := by
  cases hello with
  | hash entries =>
    simp only [processHello, lacksVersion]
    cases Yaml.find VERSION_KEY_STR entries <;> simp [Panic.ofPacket]
  | _ => simp [processHello, lacksVersion]

/-! ### The dispatch -/

/-- The packets a handler cannot take: too short for the fields it indexes, or a
hello without a version. -/
def Malformed (kind : Kind) (packet : Packet) : Prop :=
  match kind with
  | .hello => packet.len < 2 ∨ lacksVersion (packet.get 1) = true
  | .audioLatency | .audioWorkerFailed | .raiseWindow | .lostWindow | .notifyClose | .ping | .pingEcho
  | .challengePassword | .challengeFallbackDialog | .setClipboardEnabled | .invalidPacket => packet.len < 2
  | .encodings | .settingChange => host.debugLog = true ∧ packet.len < 2
  | .newWindow | .newOverrideRedirect => packet.len < 7
  | .windowMoveResize => packet.len < 2 ∨ ((client.windows (yamlU64 (packet.get 1))).isSome ∧ packet.len < 6)
  | .initiateMoveresize => packet.len < 5
  | .bell => packet.len < 6
  | .cursor => 2 < packet.len ∧ afterColon (yamlStr (packet.get 1)) = "png" ∧
      (packet.len < 8 ∨ (packet.raw 9 = none ∧ packet.len < 10))
  | .notifyShow => packet.len < 8
  | .windowIcon => packet.len < 5 ∨ (yamlStr (packet.get 4) = "png" ∧ packet.raw 5 = none ∧ packet.len < 6)
  | .windowMetadata | .sendLog => packet.len < 3
  | .drawDecoded | .drawFailed => packet.len < 9
  | .challenge => client.pendingChallenge = none ∧ client.authDialog = none ∧ packet.len < 4
  | .clipboardRequest => packet.len < 4
  | .clipboardChanged => client.clipboardEnabled = true ∧ packet.len < 2
  | .connectionLost => client.exitCode = none ∧ packet.len < 2
  | _ => False

theorem doProcessPacket_aborts (kind : Kind) :
    Aborts (doProcessPacket host env client kind packet) ↔ Malformed host client kind packet := by
  have debugged : Aborts (debugField host client packet) ↔ host.debugLog = true ∧ packet.len < 2 := by
    rw [debugField]
    cases host.debugLog <;> simp
  cases kind with
  | hello =>
    rw [doProcessPacket, Malformed, assertHello]
    by_cases long : packet.len > 1
    · simp [long, bind, Except.bind, processHello_aborts]
    · simp [long, bind, Except.bind, Panic.ofPacket]
      omega
  | audioData => simp [doProcessPacket, Malformed, processAudioData_safe]
  | encodings => exact debugged
  | settingChange => exact debugged
  | newWindow => exact processNewCommon_aborts _ _ _ _ _
  | newOverrideRedirect => exact processNewCommon_aborts _ _ _ _ _
  | windowMoveResize => exact processWindowMoveResize_aborts _ _
  | initiateMoveresize => exact processInitiateMoveresize_aborts _ _
  | raiseWindow => exact processRaiseWindow_aborts _ _
  | lostWindow => exact (aborts_map _ _).trans (processLostWindow_aborts _ _ _)
  | bell => exact processBell_aborts _ _
  | cursor => exact processCursor_aborts _ _ _ _
  | notifyShow => exact processNotifyShow_aborts _ _ _
  | notifyClose => exact processNotifyClose_aborts _ _
  | windowIcon => exact processWindowIcon_aborts _ _ _
  | windowMetadata => exact processWindowMetadata_aborts _ _
  | drawDecoded => exact processDrawDecoded_aborts _ _ _
  | drawFailed => exact processDrawFailed_aborts _ _ _
  | ping => exact processPing_aborts _ _ _
  | pingEcho => exact processPingEcho_aborts _ _ _
  | sendLog => exact sendLog_aborts _ _ _ _
  | challenge => exact processChallenge_aborts _ _ _ _
  | setClipboardEnabled => exact setClipboardEnabled_aborts _ _
  | clipboardToken => simp [doProcessPacket, Malformed, processClipboardToken_safe]
  | clipboardRequest => exact processClipboardRequest_aborts _ _ _
  | clipboardContents => simp [doProcessPacket, Malformed, processClipboardContents_safe]
  | clipboardChanged => exact processClipboardChanged_aborts _ _ _
  | disconnect => simp [doProcessPacket, Malformed, processDisconnect_safe]
  | connectionLost => exact processConnectionLost_aborts _ _
  | invalidPacket => exact processInvalidPacket_aborts _ _
  | _ => simp [doProcessPacket, Malformed]

theorem userEvent_aborts : Aborts (userEvent host env client packet) ↔ Malformed host client (kindOf host packet) packet := by
  have untyped : Kind.parse host.windows "" = .unhandled := by cases host.windows <;> decide
  rw [userEvent]
  by_cases empty : packet.len = 0
  · have absent : packet.get 0 = .badValue := by
      have : packet.main = [] := List.eq_nil_of_length_eq_zero empty
      simp [Packet.get, this]
    simp [empty, kindOf, absent, yamlStr, untyped, Malformed]
  · by_cases blank : yamlStr (packet.get 0) = ""
    · simp [empty, kindOf, blank, untyped, Malformed]
    · simp [empty, blank, doProcessPacket_aborts]

/-! ### The decode thread -/

theorem destride_safe (area : Memory) (chunks : List (Nat × Nat)) (w h rowstride : Nat) :
    ¬ Aborts (destride area chunks w h rowstride) := by
  have copied (skip written : Nat) (dst : Bytes) : ¬ Aborts (copyLogical area chunks skip dst written) := by
    induction chunks generalizing skip written dst with
    | nil => exact aborts_ok dst
    | cons chunk rest ih => simp [copyLogical, ih, Panic.ofPacket]
  have rows (out : Bytes) (rows : List Nat) (widthBytes stride : Nat) :
      ¬ Aborts (copyRows area chunks widthBytes stride out rows) := by
    refine foldlM_safe (fun out row => ?_) _
    simp [copied, Panic.ofPacket]
  simp only [destride]
  cases countAvailable area chunks 0 <;> simp [rows, Panic.ofPacket]

theorem readMmapDraw_aborts (area : MmapArea) :
    Aborts (readMmapDraw host packet area) ↔
      (∃ chunks, mmapChunks host packet = .ok chunks) ∧ ¬ MmapRelease.Formatted packet := by
  rw [readMmapDraw]
  cases parsed : mmapChunks host packet with
  | error message => simp
  | ok chunks =>
    have long := MmapRelease.mmapChunks_len parsed
    rcases MmapRelease.mmapRgbFormat_eq packet with ⟨formatted, format, named⟩ | ⟨bare, missing⟩
    · have pixels : ¬ Aborts (readMmapPixels host packet area chunks) := by
        simp only [readMmapPixels, named, aborts_bind]
        simp [MmapArea.readImage, destride_safe]
        omega
      simp [pixels, formatted]
    · simp [readMmapPixels, missing, bare, bind, Except.bind, Panic.ofPacket]

/-- The packets the decode thread cannot take. -/
def Undecodable (area : Option MmapArea) (packet : Packet) : Prop :=
  packet.len < 1 ∨
    if endsStream packet then host.windows = true ∧ packet.len < 2
    else packet.len < 9 ∨
      (yamlStr (packet.get 6) = "mmap" ∧ area.isSome ∧ (∃ chunks, mmapChunks host packet = .ok chunks) ∧
        ¬ MmapRelease.Formatted packet)

theorem decodeDraw_aborts (env : DecodeEnv) (area : Option MmapArea) :
    Aborts (decodeDraw host env area packet) ↔
      packet.len < 9 ∨ (yamlStr (packet.get 6) = "mmap" ∧ area.isSome ∧
        (∃ chunks, mmapChunks host packet = .ok chunks) ∧ ¬ MmapRelease.Formatted packet) := by
  simp only [decodeDraw, aborts_read_bind]
  by_cases shared : yamlStr (packet.get 6) = "mmap"
  · have short : packet.len ≤ 1 ∨ packet.len ≤ 4 ∨ packet.len ≤ 5 ∨ packet.len ≤ 6 ∨ packet.len ≤ 8 ↔
        packet.len < 9 := by omega
    cases area with
    | none => simp [shared, short]
    | some area =>
      simp only [shared, if_true, aborts_ok_bind, aborts_read_bind, String.reduceEq, if_false, bind_pure_comp,
        aborts_map, readMmapDraw_aborts, ← or_assoc]
      simp [← short, or_assoc]
  · have used (rest : Bytes → Except Panic (Decoded × Option MmapArea)) (safe : ∀ data, ¬ Aborts (rest data)) :
        Aborts (do
          let data ← Prod.fst <$> packet.getBytes host.base64 7
          let _seq ← packet.getI64 8
          rest data) ↔ packet.len < 9 := by
      simp only [map_eq_pure_bind, bind_assoc, pure_bind]
      rw [aborts_getBytes_bind (packet.len < 9) (fun bytes left same => ?_)]
      · simp
        omega
      · simp [safe, Nat.lt_succ_iff]
    simp only [shared, if_false, false_and, or_false]
    rw [used _ (fun data => by split <;> exact aborts_pure _)]
    omega

theorem decodeTurn_aborts (env : DecodeEnv) (area : Option MmapArea) :
    Aborts (decodeTurn host env area packet) ↔ Undecodable host area packet := by
  rw [decodeTurn, aborts_read_bind, Undecodable]
  by_cases ends : endsStream packet = true
  · cases host.windows <;> simp [ends]
  · simp [ends, decodeDraw_aborts]

/-! ### Runs -/

/-- Every packet that reaches a thread has the fields which that thread relies
on. -/
def WellFormed (event : Event) (system : System) : Prop :=
  match event with
  | .receive (.ok raw) => system.client.helloSent = true → system.readerEnded = false →
      ∀ packet, parsePacket host raw = .ok packet → packet.len ≠ 0
  | .deliver _ => ∀ packet, system.client.proxy.head? = some packet →
      ¬ Malformed host system.client (kindOf host packet) packet
  | .decode _ => ∀ packet, system.client.decodeSender.head? = some packet →
      ¬ Undecodable host system.client.area packet
  | _ => True

/-- A thread has aborted over the fields of a packet. -/
def Stop.ofPacket : Stop → Prop
  | .blocked => False
  | .panic cause => cause.ofPacket = true

theorem step_aborts_iff (event : Event) (system : System) :
    (∃ stop, System.step host event system = .error stop ∧ Stop.ofPacket stop) ↔ ¬ WellFormed host event system := by
  cases event with
  | receive read =>
    cases read with
    | error error =>
      simp only [System.step, System.receive, WellFormed, not_true_eq_false, iff_false]
      split <;> simp [Stop.ofPacket]
    | ok raw =>
      simp only [System.step, System.receive, WellFormed]
      by_cases closed : system.client.helloSent = false ∨ system.readerEnded = true
      · rw [if_pos closed]
        rcases closed with closed | closed <;> simp [closed, Stop.ofPacket]
      · rw [if_neg closed]
        simp only [not_or, Bool.not_eq_false, Bool.not_eq_true] at closed
        cases parsed : parsePacket host raw with
        | error message => simp
        | ok packet =>
          by_cases empty : packet.len = 0
          · simp [Packet.getStr, Packet.read_of_ge yamlStr (Nat.le_of_eq empty), closed, empty, Stop.ofPacket,
              Panic.ofPacket]
          · simp [Packet.getStr, Packet.read_of_lt yamlStr (Nat.pos_of_ne_zero empty), empty]
  | deliver env =>
    simp only [System.step, System.deliver, WellFormed]
    cases queued : system.client.proxy with
    | nil => simp [Stop.ofPacket]
    | cons packet rest =>
      have handled := userEvent_aborts host env { system.client with proxy := rest } packet
      simp only [List.head?_cons, Option.some.injEq, forall_eq', not_not]
      refine Iff.trans ?_ handled
      cases userEvent host env { system.client with proxy := rest } packet <;>
        simp [System.ofClient, Aborts, Stop.ofPacket]
  | decode env =>
    simp only [System.step, System.decode, WellFormed]
    cases queued : system.client.decodeSender with
    | nil => simp [Stop.ofPacket]
    | cons packet rest =>
      have handled := decodeTurn_aborts host packet env system.client.area
      simp only [List.head?_cons, Option.some.injEq, forall_eq', not_not]
      refine Iff.trans ?_ handled
      cases decodeTurn host env system.client.area packet <;> simp [Aborts, Stop.ofPacket]
  | input id event env => simp [System.step, WellFormed]
  | resumed env => simp [System.step, WellFormed]
  | post posted =>
    simp only [System.step, WellFormed, not_true_eq_false, iff_false]
    split <;> simp [Stop.ofPacket]
  | pinentry prompt outcome =>
    simp only [System.step, WellFormed, not_true_eq_false, iff_false]
    split <;> simp [Stop.ofPacket]
  | serverWrites index byte =>
    simp only [System.step, System.serverWrites, WellFormed, not_true_eq_false, iff_false]
    split <;> simp [Stop.ofPacket]
  | audioTurn running connected =>
    simp only [System.step, System.audioTurn, WellFormed, not_true_eq_false, iff_false]
    split <;> simp [Stop.ofPacket]

/-- Whatever the threads do, the process survives its packets exactly as long as
no thread meets one without the fields it relies on. -/
theorem packets_abort_iff (events : List Event) (system : System) :
    (¬ ∃ stop, System.run host events system = .error stop ∧ Stop.ofPacket stop) ↔
      Machine.Along (System.step host) (WellFormed host) events system :=
  not_iff_comm.mp (Machine.fails_iff_not_along _ (step_aborts_iff host) events system).symm

private def emptyArrayHost : Host := { Host.plain with
  loadYaml := fun payload => if payload = [0x5b, 0x5d] then .ok [.array []] else .error "invalid utf-8 sequence" }

theorem empty_array_aborts_reader :
    System.run emptyArrayHost [.resumed {}, .receive (.ok ⟨[0x5b, 0x5d], fun _ => none⟩)]
      { client := .new { outcome := fun _ => .written } none none none none } = .error (.panic .index) ∧
      Stop.ofPacket (.panic .index) := ⟨rfl, rfl⟩

end Xpra.Proofs.PacketFields
