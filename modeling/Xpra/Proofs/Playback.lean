import Xpra.Client.Playback
import Xpra.Library.Passage
import Xpra.Proofs.AudioStream
import Xpra.Proofs.Jitter
import Xpra.Proofs.PcmQueue

/-! What the sound device is given, over every run of a pipeline: the decoded frames in
their order, without the first ones that Opus has its decoders skip, and never silence in
their place. -/

namespace Xpra.Proofs.Playback
open Xpra.Net Xpra.Client Xpra.Client.Checked Xpra.Client.Playback PcmQueue Library Library.Frames
open AudioStream (opusHeader opusHead_parsed)

variable {checks : Bool} {fade : PcmBuffer.Fade} {channels : Nat} {decoder : OpusDecoder}
  {pipeline next : Playback.Pipeline} {queue heard : List PcmQueue.Frame}

/-! ### The queue and the device -/

/-- The frames that wait and those that the device was given. -/
structure Carries (channels : Nat) (decoder : OpusDecoder) (pipeline : Playback.Pipeline) (queue heard : List PcmQueue.Frame) : Prop where
  width : pipeline.channels.toNat = channels
  decoder : pipeline.decoder = decoder
  holds : Holds channels pipeline.pcm queue
  rendered : pipeline.rendered = heard.flatten
  short : queue.length ≤ PcmBuffer.CAP_FRAMES

theorem Carries.of_same (carries : Carries channels decoder pipeline queue heard) (width : next.channels = pipeline.channels)
    (same : next.decoder = pipeline.decoder) (pcm : next.pcm = pipeline.pcm)
    (rendered : next.rendered = pipeline.rendered) : Carries channels decoder next queue heard :=
  ⟨width ▸ carries.width, same.trans carries.decoder, pcm ▸ carries.holds, rendered ▸ carries.rendered, carries.short⟩

theorem popInto_ok {buffer : PcmBuffer} (holds : Holds channels buffer queue) (destination : List Int16) (count : Nat)
    (enough : count ≤ queue.length) (room : destination.length = count * channels) :
    ∃ rest, buffer.popInto destination count = .ok (rest, (queue.take count).flatten, count) ∧
      Holds channels rest (queue.drop count) := by
  obtain ⟨rest, popped, held⟩ := @Holds.popInto _ ⟨fun _ _ sample => sample⟩ _ _ holds destination count
  have all : min (min count queue.length) (destination.length / channels) = count := by
    rw [room, Nat.mul_div_cancel _ holds.positive, Nat.min_eq_left enough, Nat.min_self]
  have none_left : destination.drop (count * channels) = [] := List.drop_eq_nil_of_le (Nat.le_of_eq room)
  simp only [queueCall, all, none_left, List.append_nil] at popped held
  refine ⟨rest, ?_, held⟩
  rw [bufferCall] at popped
  cases answer : buffer.popInto destination count with
  | error fault =>
    rw [answer] at popped
    cases popped
  | ok result =>
    obtain ⟨buffer', samples, frames⟩ := result
    simp only [answer, bind, Except.bind, pure, Except.pure, Except.ok.injEq, Prod.mk.injEq, PcmReply.popped.injEq] at popped
    obtain ⟨⟨rfl, rfl⟩, rfl⟩ := popped
    rfl

/-- Some frames leave the queue. They are lost only where the device does not take them. -/
def Moves (channels : Nat) (decoder : OpusDecoder) (release : Except OutputError Unit) (queue heard : List PcmQueue.Frame)
    (next : Playback.Pipeline) : Prop :=
  ∃ count, Carries channels decoder next (queue.drop count) (heard ++ queue.take count) ∨
    (∃ error, release = .error error) ∧ Carries channels decoder next (queue.drop count) heard

theorem Moves.none {release : Except OutputError Unit} (carries : Carries channels decoder next queue heard) :
    Moves channels decoder release queue heard next :=
  ⟨0, .inl (by rwa [List.drop_zero, List.take_zero, List.append_nil])⟩

theorem Moves.of_same {release : Except OutputError Unit} (moves : Moves channels decoder release queue heard pipeline)
    (width : next.channels = pipeline.channels) (same : next.decoder = pipeline.decoder)
    (pcm : next.pcm = pipeline.pcm) (rendered : next.rendered = pipeline.rendered) :
    Moves channels decoder release queue heard next := by
  obtain ⟨count, taken | ⟨failed, lost⟩⟩ := moves
  · exact ⟨count, .inl (taken.of_same width same pcm rendered)⟩
  · exact ⟨count, .inr ⟨failed, lost.of_same width same pcm rendered⟩⟩

/-- The frames asked for are all in the queue, so none of the device's buffer is filled
with silence. -/
theorem writeFrames_ok (carries : Carries channels decoder pipeline queue heard) (env : DeviceEnv) {frames : Nat}
    (enough : frames ≤ queue.length) :
    ∃ next done, pipeline.writeFrames env frames = .ok (next, done) ∧ Moves channels decoder env.release queue heard next ∧
      next = { pipeline with pcm := next.pcm, rendered := next.rendered } ∧
      (∀ memory, env.buffer = .ok memory → env.release = .ok () → done = .ok ()) := by
  rw [Pipeline.writeFrames]
  split
  next => exact ⟨pipeline, .ok (), rfl, .none carries, rfl, fun _ _ _ => rfl⟩
  next some =>
    cases locked : env.buffer with
    | error error => exact ⟨pipeline, .error error, rfl, .none carries, rfl, nofun⟩
    | ok memory =>
      obtain ⟨rest, popped, held⟩ := popInto_ok carries.holds ((List.range (frames * pipeline.channels.toNat)).map memory) frames
        enough (by rw [List.length_map, List.length_range, carries.width])
      have short : (queue.drop frames).length ≤ PcmBuffer.CAP_FRAMES := by
        have := carries.short
        rw [List.length_drop]
        omega
      simp only [popped, bind, Except.bind, Nat.lt_irrefl, if_false]
      cases released : env.release with
      | error error =>
        exact ⟨_, _, rfl, ⟨frames, .inr ⟨⟨error, rfl⟩, carries.width, carries.decoder, held, carries.rendered, short⟩⟩, rfl,
          fun _ _ taken => nomatch taken⟩
      | ok _ =>
        refine ⟨_, _, rfl, ⟨frames, .inl ⟨carries.width, carries.decoder, held, ?_, short⟩⟩, rfl, fun _ _ _ => rfl⟩
        simp only [List.flatten_append, ← carries.rendered]

/-! ### One turn of the device -/

/-- The device has room for more frames than wait in the queue. -/
def Short (env : DeviceEnv) (pipeline : Playback.Pipeline) : Prop :=
  ∃ available, pipeline.availableFrames env = .ok available ∧ pipeline.pcm.frames < available.toNat

/-- Playback starts with enough in the queue and stops where the device asks for more than
there is; it keeps the queue then, and the target rises. -/
inductive Switch (checks : Bool) (env : DeviceEnv) (nowMs : UInt64) (pipeline next : Playback.Pipeline) : Prop where
  | stays (playing : next.playing = pipeline.playing) (jitter : next.jitter = pipeline.jitter)
  | starts (before : pipeline.playing = false) (after : next.playing = true) (jitter : next.jitter = pipeline.jitter)
      (enough : pipeline.jitter.targetMs ≤ latencyMs pipeline.pcm)
  | stops (before : pipeline.playing = true) (after : next.playing = false) (short : Short env pipeline)
      (pcm : next.pcm = pipeline.pcm) (rendered : next.rendered = pipeline.rendered)
      (raised : pipeline.jitter.underrun checks nowMs = .ok next.jitter)

/-- Nothing the device is asked for fails. -/
structure Answers (env : DeviceEnv) : Prop where
  padding : ∃ padding, env.padding = .ok padding
  buffer : ∃ memory, env.buffer = .ok memory
  release : env.release = .ok ()
  start : env.start = .ok ()
  paddingAfter : ∃ padding, env.paddingAfter = .ok padding
  setRate : env.setRate = .ok ()

theorem startPlaying_ok (carries : Carries channels decoder pipeline queue heard) (env : DeviceEnv) :
    ∃ next done, pipeline.startPlaying env = .ok (next, done) ∧ Moves channels decoder env.release queue heard next ∧
      next.jitter = pipeline.jitter ∧ (Answers env → done = .ok () ∧ next.playing = true) := by
  rw [Pipeline.startPlaying, Pipeline.availableFrames]
  cases measured : env.padding with
  | error error =>
    refine ⟨pipeline, .error error, rfl, .none carries, rfl, fun answers => ?_⟩
    obtain ⟨padding, right⟩ := answers.padding
    exact nomatch measured.symm.trans right
  | ok padding =>
    have total := carries.holds.frames
    have enough : min (saturatingSub32 pipeline.bufferFrames padding).toNat (pipeline.pcm.frames % 2 ^ 32) ≤ queue.length := by
      have := Nat.mod_le pipeline.pcm.frames (2 ^ 32)
      omega
    obtain ⟨next, done, wrote, moves, same, right⟩ := writeFrames_ok carries env enough
    simp only [Functor.map, Except.map, wrote, bind, Except.bind]
    have kept : next.jitter = pipeline.jitter := by rw [same]
    cases done with
    | error error =>
      refine ⟨next, .error error, rfl, moves, kept, fun answers => ?_⟩
      obtain ⟨memory, locked⟩ := answers.buffer
      exact nomatch right memory locked answers.release
    | ok _ =>
      cases started : env.start with
      | error error => exact ⟨next, .error error, rfl, moves, kept, fun answers => nomatch started.symm.trans answers.start⟩
      | ok _ => exact ⟨{ next with playing := true }, .ok (), rfl, moves.of_same rfl rfl rfl rfl, kept, fun _ => ⟨rfl, rfl⟩⟩

theorem underrun_ok (checks : Bool) (bounded : Jitter.Bounded pipeline.jitter) (nowMs : UInt64) :
    ∃ later, pipeline.jitter.underrun checks nowMs = .ok later ∧ Jitter.Bounded later ∧ pipeline.jitter.targetMs ≤ later.targetMs := by
  obtain ⟨later, stepped, -, moves, -⟩ := Jitter.underrun_moves checks bounded [] nowMs
  have raised : later.targetMs.toNat = pipeline.jitter.targetMs.toNat + min 40 (400 - pipeline.jitter.targetMs.toNat) := moves
  exact ⟨later, stepped, moves.bounded bounded, UInt32.le_iff_toNat_le.mpr (by omega)⟩

theorem keepPlaying_ok (checks : Bool) (carries : Carries channels decoder pipeline queue heard) (bounded : Jitter.Bounded pipeline.jitter)
    (playing : pipeline.playing = true) (env : DeviceEnv) (nowMs : UInt64) :
    ∃ next done, pipeline.keepPlaying checks env nowMs = .ok (next, done) ∧ Moves channels decoder env.release queue heard next ∧
      Switch checks env nowMs pipeline next := by
  rw [Pipeline.keepPlaying, Pipeline.availableFrames]
  cases measured : env.padding with
  | error error => exact ⟨pipeline, .error error, rfl, .none carries, .stays rfl rfl⟩
  | ok padding =>
    have room : pipeline.availableFrames env = .ok (saturatingSub32 pipeline.bufferFrames padding) := by
      rw [Pipeline.availableFrames, measured]
      rfl
    simp only [Functor.map, Except.map]
    generalize saturatingSub32 pipeline.bufferFrames padding = available at room
    split
    next short =>
      cases stopped : env.stopAndReset with
      | error error => exact ⟨pipeline, .error error, rfl, .none carries, .stays rfl rfl⟩
      | ok _ =>
        obtain ⟨later, raised, -⟩ := underrun_ok checks bounded nowMs
        simp only [raised, bind, Except.bind]
        exact ⟨_, _, rfl, .none (carries.of_same rfl rfl rfl rfl), .stops playing rfl ⟨available, room, short.2⟩ rfl rfl raised⟩
    next full =>
      have total := carries.holds.frames
      have enough : available.toNat ≤ queue.length := by
        by_cases none : available = 0
        · subst none
          exact Nat.zero_le _
        · have := Nat.not_lt.mp (fun less => full ⟨none, less⟩)
          omega
      obtain ⟨next, done, wrote, moves, same, -⟩ := writeFrames_ok carries env enough
      exact ⟨next, done, wrote, moves, .stays (by rw [same]) (by rw [same])⟩

theorem feedDevice_ok (checks : Bool) (carries : Carries channels decoder pipeline queue heard) (bounded : Jitter.Bounded pipeline.jitter)
    (env : DeviceEnv) (nowMs : UInt64) :
    ∃ next done, pipeline.feedDevice checks env nowMs = .ok (next, done) ∧ Moves channels decoder env.release queue heard next ∧
      Switch checks env nowMs pipeline next ∧
      (Answers env → pipeline.playing = false → pipeline.jitter.targetMs ≤ latencyMs pipeline.pcm →
        done = .ok () ∧ next.playing = true) := by
  rw [Pipeline.feedDevice]
  cases playing : pipeline.playing with
  | true =>
    obtain ⟨next, done, kept, moves, switch⟩ := keepPlaying_ok checks carries bounded playing env nowMs
    exact ⟨next, done, kept, moves, switch, nofun⟩
  | false =>
    simp only [Bool.false_eq_true, if_false]
    split
    next enough =>
      obtain ⟨next, done, started, moves, jitter, right⟩ := startPlaying_ok carries env
      refine ⟨next, done, started, moves, ?_, fun answers _ _ => right answers⟩
      cases after : next.playing with
      | true => exact .starts playing after jitter enough
      | false => exact .stays (after.trans playing.symm) jitter
    next less => exact ⟨pipeline, .ok (), rfl, .none carries, .stays rfl rfl, fun _ _ enough => absurd enough less⟩

theorem serviceOutput_ok (checks : Bool) (carries : Carries channels decoder pipeline queue heard) (bounded : Jitter.Bounded pipeline.jitter)
    (env : DeviceEnv) (nowMs : UInt64) :
    ∃ next answer, pipeline.serviceOutput checks env nowMs = .ok (next, answer) ∧ Moves channels decoder env.release queue heard next ∧
      Switch checks env nowMs pipeline next ∧
      (Answers env → pipeline.playing = false → pipeline.jitter.targetMs ≤ latencyMs pipeline.pcm →
        next.playing = true ∧ ∃ totalMs, answer = .ok totalMs) := by
  obtain ⟨next, done, fed, moves, switch, right⟩ := feedDevice_ok checks carries bounded env nowMs
  rw [Pipeline.serviceOutput, fed]
  simp only [bind, Except.bind]
  cases done with
  | error error => exact ⟨next, .error error, rfl, moves, switch, fun answers quiet enough => nomatch (right answers quiet enough).1⟩
  | ok _ =>
    cases measured : env.paddingAfter with
    | error error =>
      refine ⟨next, .error error, rfl, moves, switch, fun answers _ _ => ?_⟩
      obtain ⟨padding, answered⟩ := answers.paddingAfter
      exact nomatch measured.symm.trans answered
    | ok padding =>
      cases adjusted : env.setRate with
      | error error => exact ⟨next, .error error, rfl, moves, switch, fun answers _ _ => nomatch adjusted.symm.trans answers.setRate⟩
      | ok _ => exact ⟨next, _, rfl, moves, switch, fun answers quiet enough => ⟨(right answers quiet enough).2, _, rfl⟩⟩

theorem updateStable_bounded {jitter later : AdaptiveJitter} (bounded : Jitter.Bounded jitter) {nowMs : UInt64} {changed : Bool}
    (updated : jitter.updateStable checks nowMs = .ok (later, changed)) :
    Jitter.Bounded later ∧ jitter.targetMs.toNat ≤ later.targetMs.toNat + 10 := by
  rw [AdaptiveJitter.updateStable] at updated
  split at updated
  next =>
    cases updated
    exact ⟨bounded, Nat.le_add_right _ _⟩
  next =>
    cases doubled : mul32 checks 2 jitter.p95JitterMs with
    | error fault =>
      rw [doubled] at updated
      cases updated
    | ok twice =>
      cases added : add32 checks MIN_TARGET_MS twice with
      | error fault =>
        simp only [doubled, bind, Except.bind, added] at updated
        cases updated
      | ok sum =>
        have least : MIN_TARGET_MS.toNat = 80 := rfl
        have most : MAX_TARGET_MS.toNat = 400 := rfl
        have ten : (10 : UInt32).toNat = 10 := rfl
        have floor : (min (max sum MIN_TARGET_MS) MAX_TARGET_MS).toNat = min (max sum.toNat 80) 400 := by
          rw [Jitter.toNat_min, Jitter.toNat_max, least, most]
        simp only [doubled, bind, Except.bind, added, pure, Except.pure, Except.ok.injEq, Prod.mk.injEq] at updated
        generalize min (max sum MIN_TARGET_MS) MAX_TARGET_MS = limit at *
        obtain ⟨rfl, -⟩ := updated
        rw [Jitter.Bounded] at bounded ⊢
        dsimp only
        split
        next =>
          rw [Jitter.toNat_max, Jitter.toNat_saturatingSub32]
          omega
        next => exact ⟨bounded, Nat.le_add_right _ _⟩

theorem updateStable_release (jitter : AdaptiveJitter) (nowMs : UInt64) : ∃ result, jitter.updateStable false nowMs = .ok result := by
  rw [AdaptiveJitter.updateStable]
  split
  · exact ⟨_, rfl⟩
  · exact ⟨_, rfl⟩

/-! ### One call -/

/-- How playback turns on and off in one call. -/
inductive Turned (call : Call) (pipeline next : Playback.Pipeline) : Prop where
  | stays (playing : next.playing = pipeline.playing)
  | starts (before : pipeline.playing = false) (after : next.playing = true)
      (enough : next.jitter.targetMs ≤ latencyMs pipeline.pcm)
  | underruns (before : pipeline.playing = true) (after : next.playing = false) (env : ServiceEnv) (called : call = .service env)
      (short : Short env.device pipeline) (pcm : next.pcm = pipeline.pcm) (rendered : next.rendered = pipeline.rendered)
      (raised : min (pipeline.jitter.targetMs.toNat + 30) 400 ≤ next.jitter.targetMs.toNat)
  | rebuilt (after : next.playing = false) (env : ServiceEnv) (called : call = .service env)
      (output : env.rebuilt = .ok next.bufferFrames)

theorem Turned.reported {call : Call} (turned : Turned call pipeline next) (latencyReporter : LatencyReporter) :
    Turned call pipeline { next with latencyReporter } := by
  cases turned with
  | stays playing => exact .stays playing
  | starts before after enough => exact .starts before after enough
  | underruns before after env called short pcm rendered raised => exact .underruns before after env called short pcm rendered raised
  | rebuilt after env called output => exact .rebuilt after env called output

theorem Switch.turned {later : AdaptiveJitter} {changed : Bool} {env : ServiceEnv} (bounded : Jitter.Bounded pipeline.jitter)
    (updated : pipeline.jitter.updateStable checks env.nowMs = .ok (later, changed))
    (switch : Switch checks env.device env.nowMs { pipeline with jitter := later } next) :
    Jitter.Bounded next.jitter ∧ Turned (.service env) pipeline next := by
  obtain ⟨still, near⟩ := updateStable_bounded bounded updated
  cases switch with
  | stays playing jitter => exact ⟨jitter ▸ still, .stays playing⟩
  | starts before after jitter enough => exact ⟨jitter ▸ still, .starts before after (jitter ▸ enough)⟩
  | stops before after short pcm rendered raised =>
    obtain ⟨risen, stepped, -, moves, -⟩ := Jitter.underrun_moves checks still [] env.nowMs
    have same : next.jitter = risen := Except.ok.inj (raised.symm.trans stepped)
    have height : risen.targetMs.toNat = later.targetMs.toNat + min 40 (400 - later.targetMs.toNat) := moves
    subst same
    exact ⟨moves.bounded still, .underruns before after env rfl short pcm rendered (by omega)⟩

theorem service_ok (carries : Carries channels decoder pipeline queue heard) (bounded : Jitter.Bounded pipeline.jitter) {env : ServiceEnv}
    {later : AdaptiveJitter} {changed : Bool} (updated : pipeline.jitter.updateStable checks env.nowMs = .ok (later, changed)) :
    ∃ next output, service checks env pipeline = .ok (next, output) ∧ Moves channels decoder env.device.release queue heard next ∧
      Jitter.Bounded next.jitter ∧ Turned (.service env) pipeline next ∧
      (Answers env.device → pipeline.playing = false → later.targetMs ≤ latencyMs pipeline.pcm →
        next.playing = true ∧ ∃ totalMs, output = .total totalMs) := by
  have begun : Carries channels decoder { pipeline with jitter := later } queue heard := carries.of_same rfl rfl rfl rfl
  obtain ⟨next, answer, served, moves, switch, right⟩ :=
    serviceOutput_ok checks begun (updateStable_bounded bounded updated).1 env.device env.nowMs
  obtain ⟨still, turned⟩ := switch.turned bounded updated
  rw [service, updated]
  simp only [bind, Except.bind, served]
  cases answer with
  | ok totalMs => exact ⟨next, _, rfl, moves, still, turned, fun answers quiet enough => ⟨(right answers quiet enough).1, _, rfl⟩⟩
  | error error =>
    have wrong : Answers env.device → pipeline.playing = false → later.targetMs ≤ latencyMs pipeline.pcm → False := by
      intro answers quiet enough
      obtain ⟨totalMs, failed⟩ := (right answers quiet enough).2
      exact nomatch failed
    dsimp only
    split
    next =>
      cases rebuilt : env.rebuilt with
      | error message => exact ⟨next, _, rfl, moves, still, turned, fun answers quiet enough => (wrong answers quiet enough).elim⟩
      | ok bufferFrames =>
        exact ⟨_, _, rfl, moves.of_same rfl rfl rfl rfl, still, .rebuilt rfl env rfl rebuilt,
          fun answers quiet enough => (wrong answers quiet enough).elim⟩
    next => exact ⟨next, _, rfl, moves, still, turned, fun answers quiet enough => (wrong answers quiet enough).elim⟩

/-! ### Decoding -/

/-- The samples that the transform puts out for a call. -/
def produced : Call → List Int16
  | .decodePacket _ _ _ _ env => (drain env.outputs).toOption.getD []
  | .service _ => []

/-- The frames that wait once the cap has been enforced. -/
def capped (fade : PcmBuffer.Fade) (queue : List PcmQueue.Frame) : List PcmQueue.Frame :=
  if queue.length ≤ PcmBuffer.CAP_FRAMES then queue
  else ramp fade 0 PcmBuffer.FADE_FRAMES (queue.drop (queue.length - PcmBuffer.CAP_FRAMES))

theorem length_capped : (capped fade queue).length = min queue.length PcmBuffer.CAP_FRAMES := by
  rw [capped]
  split
  next short => exact (Nat.min_eq_left short).symm
  next long =>
    rw [length_ramp, List.length_drop]
    omega

theorem enforceHardCap_ok (fade : PcmBuffer.Fade) {buffer : PcmBuffer} (holds : Holds channels buffer queue) :
    ∃ rest dropped, buffer.enforceHardCap fade = .ok (rest, dropped) ∧ Holds channels rest (capped fade queue) := by
  rw [PcmBuffer.enforceHardCap, holds.frames, capped]
  split
  next => exact ⟨buffer, 0, rfl, holds⟩
  next long =>
    obtain ⟨middle, discarded, held⟩ := holds.discardFrames (Nat.sub_le queue.length PcmBuffer.CAP_FRAMES)
    obtain ⟨rest, faded, ramped⟩ := held.fadeIn fade
    refine ⟨rest, queue.length - PcmBuffer.CAP_FRAMES, ?_, ramped⟩
    simp only [sub_le (Nat.le_of_not_le long), discarded, faded, bind, Except.bind]
    rfl

/-- Opus has its decoders skip the first frames. -/
theorem decode_ok {decoder later : OpusDecoder} {env : DecoderEnv} {data : Bytes} {timestampNs durationNs : Option Int64}
    {samples : List Int16} (decoded : decoder.decode env data timestampNs durationNs = .ok (later, samples)) :
    ∃ result, drain env.outputs = .ok result ∧ later.channels = decoder.channels ∧
      later.preSkipFrames = decoder.preSkipFrames - (cut decoder.channels.toNat result).length ∧
      cut decoder.channels.toNat samples = (cut decoder.channels.toNat result).drop decoder.preSkipFrames := by
  rw [OpusDecoder.decode] at decoded
  split at decoded
  next => cases decoded
  next frames =>
    cases input : env.input with
    | error message =>
      simp only [input, bind, Except.bind] at decoded
      cases decoded
    | ok _ =>
      cases drained : drain env.outputs with
      | error message =>
        simp only [input, drained, bind, Except.bind] at decoded
        cases decoded
      | ok result =>
        simp only [input, drained, bind, Except.bind, pure, Except.pure, Except.ok.injEq, Prod.mk.injEq] at decoded
        obtain ⟨rfl, rfl⟩ := decoded
        refine ⟨result, rfl, rfl, ?_, ?_⟩
        · rw [length_cut]
          dsimp only
          split
          next => omega
          next none =>
            rcases not_and_or.mp none with zero | empty
            · rw [not_not.mp zero, Nat.zero_sub, Nat.zero_sub]
            · rw [not_not.mp empty, List.length_nil, Nat.zero_div]
        · rw [cut_drop]
          split
          next =>
            rw [← length_cut]
            rcases Nat.le_total (cut decoder.channels.toNat result).length decoder.preSkipFrames with all | some
            · rw [Nat.min_eq_left all, List.drop_length, List.drop_eq_nil_of_le all]
            · rw [Nat.min_eq_right some]
          next none =>
            rcases not_and_or.mp none with zero | empty
            · rw [not_not.mp zero]
            · rw [not_not.mp empty]
              simp [cut]

theorem decodePacket_ok (fade : PcmBuffer.Fade) (carries : Carries channels decoder pipeline queue heard)
    (width : decoder.channels.toNat = channels) (data : Bytes) (timestampNs durationNs : Option Int64) (arrivalMs : UInt64)
    (env : DecoderEnv) {frames : List PcmQueue.Frame}
    (out : cut channels (produced (.decodePacket data timestampNs durationNs arrivalMs env)) = frames) :
    (∃ message, pipeline.decodePacket fade env data timestampNs durationNs arrivalMs = .ok (.error message)) ∨
      ∃ next later, pipeline.decodePacket fade env data timestampNs durationNs arrivalMs = .ok (.ok next) ∧
        Carries channels later next (capped fade (queue ++ frames.drop decoder.preSkipFrames)) heard ∧
        later.channels.toNat = channels ∧ later.preSkipFrames = decoder.preSkipFrames - frames.length ∧
        next.jitter.targetMs = pipeline.jitter.targetMs ∧ next.playing = pipeline.playing := by
  rw [Pipeline.decodePacket, carries.decoder]
  cases decoded : decoder.decode env data timestampNs durationNs with
  | error message => exact .inl ⟨message, rfl⟩
  | ok result =>
    obtain ⟨later, samples⟩ := result
    obtain ⟨result, drained, still, skipped, passed⟩ := decode_ok decoded
    rw [produced, drained] at out
    rw [width] at skipped passed
    have pushed := carries.holds.push samples
    rw [passed] at pushed
    obtain ⟨rest, dropped, enforced, held⟩ := enforceHardCap_ok fade pushed
    simp only [enforced, bind, Except.bind]
    subst out
    exact .inr ⟨_, later, rfl, ⟨carries.width, rfl, held, carries.rendered, length_capped ▸ Nat.min_le_right _ _⟩, still ▸ width, skipped, rfl, rfl⟩

/-! ### Runs -/

/-- A frame as the fade at the front of a cut leaves it. -/
def Attenuated (fade : PcmBuffer.Fade) (frame softer : PcmQueue.Frame) : Prop :=
  ∃ position, softer = frame.map (fade.scale position PcmBuffer.FADE_FRAMES)

theorem ramp_attenuates (position count : Nat) (frames : List PcmQueue.Frame) :
    List.Forall₂ (Relation.ReflTransGen (Attenuated fade)) frames (ramp fade position count frames) := by
  rw [List.forall₂_iff_get]
  refine ⟨length_ramp.symm, fun index inside within => ?_⟩
  simp only [ramp, List.get_eq_getElem, List.getElem_mapIdx]
  split
  next => exact .single ⟨_, rfl⟩
  next => exact .refl

/-- What a pipeline still holds, or has given to the device, of the frames that its
transform has put out. -/
structure Follows (fade : PcmBuffer.Fade) (channels preSkip : Nat) (decoded : List PcmQueue.Frame) (pipeline : Playback.Pipeline)
    (queue heard : List PcmQueue.Frame) : Prop where
  carries : Carries channels pipeline.decoder pipeline queue heard
  width : pipeline.decoder.channels.toNat = channels
  bounded : Jitter.Bounded pipeline.jitter
  skipping : pipeline.decoder.preSkipFrames = preSkip - decoded.length
  passed : Passage.Passed (Attenuated fade) (decoded.drop preSkip) (heard ++ queue)

variable {preSkip : Nat} {decoded : List PcmQueue.Frame}

theorem capped_passed (passed : Passage.Passed (Attenuated fade) (decoded.drop preSkip) (heard ++ queue)) (frames : List PcmQueue.Frame) :
    Passage.Passed (Attenuated fade) ((decoded ++ frames).drop preSkip)
      (heard ++ capped fade (queue ++ frames.drop (preSkip - decoded.length))) := by
  have entered := passed.enter (frames.drop (preSkip - decoded.length))
  rw [List.append_assoc, ← List.drop_append] at entered
  rw [capped]
  split
  next => exact entered
  next => exact (entered.lose _).alter (ramp_attenuates 0 _ _)

theorem Moves.passed {release : Except OutputError Unit} (moves : Moves channels decoder release queue heard next)
    {entered : List PcmQueue.Frame} (passed : Passage.Passed (Attenuated fade) entered (heard ++ queue)) :
    ∃ rest given, Carries channels decoder next rest given ∧ Passage.Passed (Attenuated fade) entered (given ++ rest) ∧
      (release = .ok () → given ++ rest = heard ++ queue) := by
  obtain ⟨count, taken | ⟨⟨error, failed⟩, lost⟩⟩ := moves
  · refine ⟨_, _, taken, ?_, fun _ => ?_⟩
    · rwa [List.append_assoc, List.take_append_drop]
    · rw [List.append_assoc, List.take_append_drop]
  · exact ⟨_, _, lost, passed.lose count, fun released => nomatch failed.symm.trans released⟩

/-- No call makes the queue drop frames, neither at its cap nor at a device that fails. -/
def Spares (call : Call) (pipeline : Playback.Pipeline) : Prop :=
  match call with
  | .decodePacket .. => pipeline.pcm.frames + (produced call).length / pipeline.channels.toNat ≤ PcmBuffer.CAP_FRAMES
  | .service env => env.device.release = .ok ()

theorem decode_follows (follows : Follows fade channels preSkip decoded pipeline queue heard) {data : Bytes}
    {timestampNs durationNs : Option Int64} {arrivalMs : UInt64} {env : DecoderEnv} {frames : List PcmQueue.Frame}
    (stepped : step checks fade (.decodePacket data timestampNs durationNs arrivalMs env) pipeline = .ok next)
    (out : cut channels (produced (.decodePacket data timestampNs durationNs arrivalMs env)) = frames) :
    Follows fade channels preSkip (decoded ++ frames) next
        (capped fade (queue ++ frames.drop pipeline.decoder.preSkipFrames)) heard ∧
      next.playing = pipeline.playing := by
  rcases decodePacket_ok fade follows.carries follows.width data timestampNs durationNs arrivalMs env out with
    ⟨message, failed⟩ | ⟨done, later, decodes, carries, width, skipped, target, playing⟩
  · rw [step, failed] at stepped
    cases stepped
  · rw [step, decodes] at stepped
    cases stepped
    have same := carries.decoder
    subst same
    refine ⟨⟨carries, width, ?_, ?_, ?_⟩, playing⟩
    · rw [Jitter.Bounded, target]
      exact follows.bounded
    · rw [skipped, follows.skipping, List.length_append, Nat.sub_sub]
    · rw [follows.skipping]
      exact capped_passed follows.passed frames

theorem step_follows (follows : Follows fade channels preSkip decoded pipeline queue heard) {call : Call}
    (stepped : step checks fade call pipeline = .ok next) :
    ∃ rest given, Follows fade channels preSkip (decoded ++ cut channels (produced call)) next rest given ∧
      Turned call pipeline next ∧
      (Spares call pipeline → heard ++ queue = decoded.drop preSkip →
        given ++ rest = (decoded ++ cut channels (produced call)).drop preSkip) := by
  cases call with
  | decodePacket data timestampNs durationNs arrivalMs env =>
    obtain ⟨followed, playing⟩ := decode_follows follows stepped rfl
    refine ⟨_, heard, followed, .stays playing, fun spares whole => ?_⟩
    rw [Spares, follows.carries.holds.frames, follows.carries.width, ← length_cut] at spares
    rw [capped, if_pos (by rw [List.length_append, List.length_drop]; omega), ← List.append_assoc, whole, List.drop_append,
      follows.skipping]
  | service env =>
    cases updated : pipeline.jitter.updateStable checks env.nowMs with
    | error fault =>
      rw [step, service, updated] at stepped
      cases stepped
    | ok result =>
      obtain ⟨later, changed⟩ := result
      obtain ⟨middle, output, served, moves, bounded, turned, -⟩ := service_ok follows.carries follows.bounded updated
      rw [step, served] at stepped
      dsimp only at stepped
      split at stepped
      next => cases stepped
      next =>
        cases stepped
        obtain ⟨rest, given, carries, passed, whole⟩ := moves.passed follows.passed
        have same : middle.decoder = pipeline.decoder := carries.decoder
        have none : cut channels (produced (.service env)) = [] := by
          simp [produced, cut]
        rw [none, List.append_nil]
        refine ⟨rest, given, ⟨?_, same ▸ follows.width, bounded, same ▸ follows.skipping, passed⟩, turned.reported _,
          fun spares before => (whole spares).trans before⟩
        exact ⟨carries.width, rfl, carries.holds, carries.rendered, carries.short⟩

/-- The frames that the transform puts out over some calls. -/
def decodedFrames (channels : Nat) (calls : List Call) : List PcmQueue.Frame := calls.flatMap fun call => cut channels (produced call)

theorem run_follows {calls : List Call} {final : Playback.Pipeline}
    (follows : Follows fade channels preSkip decoded pipeline queue heard)
    (ran : Machine.run (step checks fade) calls pipeline = .ok final) :
    ∃ rest given, Follows fade channels preSkip (decoded ++ decodedFrames channels calls) final rest given ∧
      (Machine.Along (step checks fade) Spares calls pipeline → heard ++ queue = decoded.drop preSkip →
        given ++ rest = (decoded ++ decodedFrames channels calls).drop preSkip) := by
  induction calls generalizing pipeline decoded queue heard with
  | nil =>
    cases ran
    rw [decodedFrames, List.flatMap_nil, List.append_nil]
    exact ⟨queue, heard, follows, fun _ whole => whole⟩
  | cons call calls ih =>
    obtain ⟨middle, stepped, later⟩ := (Machine.run_cons_ok (step checks fade)).mp ran
    obtain ⟨waiting, given, followed, -, kept⟩ := step_follows follows stepped
    obtain ⟨rest, last, reached, whole⟩ := ih followed later
    rw [List.append_assoc] at reached whole
    exact ⟨rest, last, reached, fun spares before => whole (spares.2 middle stepped) (kept spares.1 before)⟩

theorem channels_of_parse {opusHead : Bytes} {header : OpusHeader} (parsed : OpusHeader.parse opusHead = .ok header) :
    header.channels ≠ 0 := by
  rw [OpusHeader.parse] at parsed
  dsimp only at parsed
  split at parsed
  next => cases parsed
  split at parsed
  next => cases parsed
  split at parsed
  next => cases parsed
  next some =>
    split at parsed
    next => cases parsed
    split at parsed
    next => cases parsed
    cases parsed
    exact some

variable {sequence : UInt64} {opusHead : Bytes} {header : OpusHeader} {nowMs : UInt64} {transform : Except String Unit}
  {output : Except String UInt32}

theorem created_follows (fade : PcmBuffer.Fade) (parsed : OpusHeader.parse opusHead = .ok header)
    (created : Pipeline.new sequence header nowMs transform output = .ok pipeline) :
    Follows fade header.channels.toNat header.preSkip [] pipeline [] [] := by
  have some := channels_of_parse parsed
  have width : (max header.channels 1).toNat = header.channels.toNat := by
    have : 1 ≤ header.channels := UInt8.le_iff_toNat_le.mpr (Nat.pos_of_ne_zero fun zero => some (UInt8.toNat_inj.mp zero))
    by_cases one : header.channels ≤ 1
    · rw [UInt8.le_antisymm one this]
      rfl
    · simp [max, one]
  rw [Pipeline.new] at created
  split at created
  next => cases created
  next =>
    cases transform with
    | error message => cases created
    | ok _ =>
      cases output with
      | error message => cases created
      | ok bufferFrames =>
        cases created
        have holds := Holds.new header.channels
        rw [width] at holds
        exact ⟨⟨rfl, rfl, holds, rfl, Nat.zero_le _⟩, rfl, (Jitter.holds_new nowMs).bounded, (Nat.sub_zero _).symm, by
          simpa using Passage.Passed.empty⟩

section Created

variable {calls : List Call} {final : Playback.Pipeline}

theorem reached_follows (fade : PcmBuffer.Fade) (parsed : OpusHeader.parse opusHead = .ok header)
    (created : Pipeline.new sequence header nowMs transform output = .ok pipeline)
    (ran : Machine.run (step checks fade) calls pipeline = .ok final) :
    ∃ queue heard, Follows fade header.channels.toNat header.preSkip (decodedFrames header.channels.toNat calls) final queue heard ∧
      (Machine.Along (step checks fade) Spares calls pipeline →
        heard ++ queue = (decodedFrames header.channels.toNat calls).drop header.preSkip) := by
  obtain ⟨queue, heard, follows, whole⟩ := run_follows (created_follows fade parsed created) ran
  rw [List.nil_append] at follows whole
  exact ⟨queue, heard, follows, fun spares => whole spares (by simp)⟩

theorem Follows.frames (follows : Follows fade channels preSkip (decodedFrames channels calls) pipeline queue heard) :
    pipeline.rendered.length % channels = 0 ∧ cut channels pipeline.rendered = heard ∧
      contents channels pipeline.pcm.chunks = queue := by
  have each : ∀ frame ∈ heard ++ queue, frame.length = channels := by
    refine follows.passed.forall_seen (fun frame => frame.length = channels) ?_ ?_
    · intro frame member
      obtain ⟨call, -, inside⟩ := List.mem_flatMap.mp (List.mem_of_mem_drop member)
      exact length_of_mem_cut inside
    · rintro frame _ length ⟨position, rfl⟩
      rw [List.length_map, length]
  have given : ∀ frame ∈ heard, frame.length = channels := fun frame member => each frame (List.mem_append_left _ member)
  rw [follows.carries.rendered]
  refine ⟨?_, cut_flatten follows.carries.holds.positive given, follows.carries.holds.contents⟩
  rw [length_flatten given, Nat.mul_mod_left]

def stereo : Playback.Pipeline where
  sequence := 1
  channels := 2
  decoder := { channels := 2, preSkipFrames := 312 }
  bufferFrames := 5760
  pcm := .new 2
  jitter := .new 0

theorem stereo_created : Pipeline.new 1 opusHeader 0 (.ok ()) (.ok 5760) = .ok stereo := rfl

def decodes (frames : Nat) (level : Int16) : Call :=
  .decodePacket [0xFC] none none 5 { outputs := [.pcm (List.replicate (2 * frames) level)] }

theorem length_decodes (frames : Nat) (level : Int16) : (produced (decodes frames level)).length = 2 * frames := by
  rw [decodes, produced]
  simp only [drain, Functor.map, Except.map, Except.toOption, Option.getD, List.append_nil, List.length_replicate]

def serves (nowMs : UInt64) : Call := .service { nowMs, device := {}, rebuilt := .ok 5760 }

/-- What is left after the first 312 frames is enough to play, and then runs out. -/
def stereoCalls : List Call := [decodes 6100 3, serves 20, serves 40]

def plainFade : PcmBuffer.Fade := ⟨fun _ _ sample => sample⟩

theorem stereo_ran : ∃ final, Machine.run (step true plainFade) stereoCalls stereo = .ok final ∧
    final.playing = false ∧ final.jitter.targetMs = 160 ∧ final.pcm.frames = 28 ∧ final.decoder.preSkipFrames = 0 := by
  obtain ⟨final, ran, checked⟩ : ∃ final, Machine.run (step true plainFade) stereoCalls stereo = .ok final ∧
      (!final.playing && final.jitter.targetMs == 160 && final.pcm.frames == 28 && final.decoder.preSkipFrames == 0) = true :=
    Machine.ends_in (by decide +kernel)
  simp only [Bool.and_eq_true, Bool.not_eq_true', beq_iff_eq] at checked
  obtain ⟨⟨⟨quiet, target⟩, left⟩, skipped⟩ := checked
  exact ⟨final, ran, quiet, target, left, skipped⟩

/-- Calls that decode and whose frames are all it takes to play again. -/
def Refills (channels : Nat) (pipeline : Playback.Pipeline) (calls : List Call) : Prop :=
  (∀ call ∈ calls, ∃ data timestampNs durationNs arrivalMs env, call = .decodePacket data timestampNs durationNs arrivalMs env) ∧
    pipeline.decoder.preSkipFrames + 19200 ≤ (decodedFrames channels calls).length

theorem target_reached (bounded : Jitter.Bounded pipeline.jitter) (holds : Holds channels pipeline.pcm queue)
    (enough : 19200 ≤ queue.length) (short : queue.length ≤ PcmBuffer.CAP_FRAMES) :
    pipeline.jitter.targetMs ≤ latencyMs pipeline.pcm := by
  rw [cap_frames] at short
  rw [UInt32.le_iff_toNat_le, latencyMs, holds.frames, SAMPLE_RATE, UInt32.toNat_ofNat']
  have := bounded.2
  omega

theorem refill_run (follows : Follows fade channels preSkip decoded pipeline queue heard)
    (each : ∀ call ∈ calls, ∃ data timestampNs durationNs arrivalMs env, call = .decodePacket data timestampNs durationNs arrivalMs env)
    (ran : Machine.run (step checks fade) calls pipeline = .ok final) :
    ∃ decoded rest given, Follows fade channels preSkip decoded final rest given ∧
      min (queue.length + ((decodedFrames channels calls).length - pipeline.decoder.preSkipFrames)) PcmBuffer.CAP_FRAMES ≤
        rest.length := by
  induction calls generalizing pipeline decoded queue heard with
  | nil =>
    cases ran
    exact ⟨decoded, queue, heard, follows, by simp [decodedFrames]⟩
  | cons call calls ih =>
    obtain ⟨middle, stepped, later⟩ := (Machine.run_cons_ok (step checks fade)).mp ran
    obtain ⟨⟨data, timestampNs, durationNs, arrivalMs, env, rfl⟩, others⟩ := List.forall_mem_cons.mp each
    obtain ⟨followed, -⟩ := decode_follows follows stepped rfl
    obtain ⟨decoded, rest, given, reached, least⟩ := ih followed others later
    refine ⟨decoded, rest, given, reached, ?_⟩
    rw [length_capped, List.length_append, List.length_drop, followed.skipping, List.length_append, ← Nat.sub_sub,
      ← follows.skipping] at least
    rw [decodedFrames, List.flatMap_cons, List.length_append, ← decodedFrames]
    omega

theorem resumes (carries : Carries channels decoder pipeline queue heard) (bounded : Jitter.Bounded pipeline.jitter)
    (enough : 19200 ≤ queue.length) (quiet : pipeline.playing = false) (fade : PcmBuffer.Fade) {env : ServiceEnv}
    (answers : Answers env.device) :
    ∃ next, step false fade (.service env) pipeline = .ok next ∧ next.playing = true := by
  obtain ⟨⟨later, changed⟩, updated⟩ := updateStable_release pipeline.jitter env.nowMs
  obtain ⟨next, output, served, -, -, -, right⟩ := service_ok carries bounded updated
  have calm : Jitter.Bounded { pipeline with jitter := later }.jitter := (updateStable_bounded bounded updated).1
  have full : later.targetMs ≤ latencyMs pipeline.pcm := target_reached calm carries.holds enough carries.short
  obtain ⟨playing, totalMs, rfl⟩ := right answers quiet full
  rw [step, served]
  exact ⟨_, rfl, playing⟩

theorem never_faults (carries : Carries channels decoder pipeline queue heard) (width : decoder.channels.toNat = channels)
    (bounded : Jitter.Bounded pipeline.jitter) (fade : PcmBuffer.Fade) (call : Call) (fault : Fault) :
    step false fade call pipeline ≠ .error (.fault fault) := by
  cases call with
  | decodePacket data timestampNs durationNs arrivalMs env =>
    rcases decodePacket_ok fade carries width data timestampNs durationNs arrivalMs env rfl with
      ⟨message, failed⟩ | ⟨next, later, decodes, -⟩
    · rw [step, failed]
      exact nofun
    · rw [step, decodes]
      exact nofun
  | service env =>
    obtain ⟨⟨later, changed⟩, updated⟩ := updateStable_release pipeline.jitter env.nowMs
    obtain ⟨next, output, served, -⟩ := service_ok carries bounded updated
    rw [step, served]
    dsimp only
    split
    next => exact nofun
    next => exact nofun

/-- Whatever the decoder and the device answer, at most half a second waits, the target is
between 80 and 400 ms, and the release build never stops at a fault. Playback starts only
with the target in the queue and stops only where the device asks for more than there is,
which raises the target, or is replaced. It is never stuck: once 400 ms have been decoded,
a device that answers plays again. -/
theorem playback_disciplined (fade : PcmBuffer.Fade) (parsed : OpusHeader.parse opusHead = .ok header)
    (created : Pipeline.new sequence header nowMs transform output = .ok pipeline)
    (ran : Machine.run (step checks fade) calls pipeline = .ok final) :
    final.pcm.frames ≤ SAMPLE_RATE / 2 ∧ MIN_TARGET_MS ≤ final.jitter.targetMs ∧ final.jitter.targetMs ≤ MAX_TARGET_MS ∧
      (∀ call next, step checks fade call final = .ok next → Turned call final next) ∧
      (∀ call fault, step false fade call final ≠ .error (.fault fault)) ∧
      ∀ more last env, Refills header.channels.toNat final more → Machine.run (step checks fade) more final = .ok last →
        Answers env.device → last.playing = false →
        ∃ next, step false fade (.service env) last = .ok next ∧ next.playing = true := by
  obtain ⟨queue, heard, follows, -⟩ := reached_follows fade parsed created ran
  have total := follows.carries.holds.frames
  have short := follows.carries.short
  rw [cap_frames] at short
  refine ⟨by rw [total, SAMPLE_RATE]; omega, UInt32.le_iff_toNat_le.mpr follows.bounded.1, UInt32.le_iff_toNat_le.mpr follows.bounded.2,
    ?_, never_faults follows.carries follows.width follows.bounded fade, ?_⟩
  · intro call next stepped
    obtain ⟨_, _, _, turned, _⟩ := step_follows follows stepped
    exact turned
  · intro more last env refills later answers quiet
    obtain ⟨_, rest, given, reached, least⟩ := refill_run follows refills.1 later
    have enough := refills.2
    rw [cap_frames] at least
    exact resumes reached.carries reached.bounded (by omega) quiet fade answers

def refilling : List Call := [1, 2, 3, 4].map (decodes 4800)

theorem refilling_decodes {pipeline : Playback.Pipeline} (skipped : pipeline.decoder.preSkipFrames = 0) :
    Refills 2 pipeline refilling := by
  constructor
  · intro call member
    obtain ⟨level, -, rfl⟩ := List.mem_map.mp member
    exact ⟨_, _, _, _, _, rfl⟩
  · simp only [decodedFrames, refilling, List.flatMap_map, List.length_flatMap, length_cut, length_decodes, skipped]
    decide

/-- A decoder that answers is never refused. -/
theorem run_decodes (follows : Follows fade channels preSkip decoded pipeline queue heard) (frames : Nat) (levels : List Int16) :
    ∃ last, Machine.run (step checks fade) (levels.map (decodes frames)) pipeline = .ok last ∧ last.playing = pipeline.playing := by
  induction levels generalizing pipeline decoded queue with
  | nil => exact ⟨pipeline, rfl, rfl⟩
  | cons level levels ih =>
    have answers : (pipeline.decoder.decode { outputs := [.pcm (List.replicate (2 * frames) level)] } [0xFC] none none).isOk := rfl
    obtain ⟨next, stepped⟩ : ∃ next, step checks fade (decodes frames level) pipeline = .ok next := by
      rcases decodePacket_ok fade follows.carries follows.width [0xFC] none none 5 { outputs := [.pcm (List.replicate (2 * frames) level)] }
        rfl with ⟨message, failed⟩ | ⟨next, later, decoded, -⟩
      · rw [Pipeline.decodePacket] at failed
        split at failed
        next refused =>
          rw [refused] at answers
          cases answers
        next =>
          obtain ⟨_, -, failed⟩ := bind_ok failed
          cases failed
      · rw [decodes, step, decoded]
        exact ⟨next, rfl⟩
    obtain ⟨followed, playing⟩ := decode_follows follows stepped rfl
    obtain ⟨last, ran, same⟩ := ih followed
    exact ⟨last, (Machine.run_cons_ok _).mpr ⟨next, stepped, ran⟩, same.trans playing⟩

/-- The queue has run out, and the stream plays again once it is refilled. -/
theorem playback_disciplined_stereo : ∃ final last, Machine.run (step true plainFade) stereoCalls stereo = .ok final ∧
    Machine.run (step true plainFade) refilling final = .ok last ∧ final.playing = false ∧ final.jitter.targetMs = 160 ∧
    final.pcm.frames ≤ SAMPLE_RATE / 2 ∧ MIN_TARGET_MS ≤ final.jitter.targetMs ∧ final.jitter.targetMs ≤ MAX_TARGET_MS ∧
      (∀ call next, step true plainFade call final = .ok next → Turned call final next) ∧
      (∀ call fault, step false plainFade call final ≠ .error (.fault fault)) ∧
      ∃ next, step false plainFade (serves 60) last = .ok next ∧ next.playing = true := by
  obtain ⟨final, ran, quiet, target, -, skipped⟩ := stereo_ran
  obtain ⟨_, _, follows, -⟩ := reached_follows plainFade opusHead_parsed stereo_created ran
  obtain ⟨last, refilled, waits⟩ := run_decodes follows 4800 [1, 2, 3, 4]
  obtain ⟨short, least, most, turned, sound, resumes⟩ := playback_disciplined plainFade opusHead_parsed stereo_created ran
  have answers : Answers {} := ⟨⟨_, rfl⟩, ⟨_, rfl⟩, rfl, rfl, ⟨_, rfl⟩, rfl⟩
  refine ⟨final, last, ran, refilled, quiet, target, short, least, most, turned, sound, ?_⟩
  exact resumes refilling last { nowMs := 60, device := {}, rebuilt := .ok 5760 } (refilling_decodes skipped) refilled answers
    (waits.trans quiet)

end Created

end Xpra.Proofs.Playback
