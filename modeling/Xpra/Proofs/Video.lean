import Xpra.Client.Video
import Xpra.Library.Machine
import Xpra.Library.Purge

/-! Video streams over the runs of the decode thread: each window has its own, and what the
others do cannot be told from its frames. -/

namespace Xpra.Proofs.Video
open Xpra.Net Xpra.Client Xpra.Client.Video Library

variable {host : Host} {env : ThreadEnv} {thread next shadow : Thread} {packet : Packet} {result : Option Decoded} {key : UInt64}

/-! ### One turn -/

/-- The packet is about the video of a window: the end of a stream, or a frame of it. -/
def videoOf (packet : Packet) : Option UInt64 :=
  if endsStream packet ∨ yamlStr (packet.get 6) = "h264" then some (yamlU64 (packet.get 1)) else none

theorem setDecoder_self (thread : Thread) (key : UInt64) (decoder : Option H264Decoder) :
    (setDecoder thread key decoder).decoders key = decoder := if_pos rfl

theorem setDecoder_other {other : UInt64} (thread : Thread) (decoder : Option H264Decoder) (apart : other ≠ key) :
    (setDecoder thread key decoder).decoders other = thread.decoders other := if_neg apart

theorem key_same (value : Yaml) : (yamlI64 value).toUInt64 = yamlU64 value := by
  cases value <;> rfl

theorem decodeVideo_other (key : UInt64) (w h : Int32) (data : Bytes) {other : UInt64} (apart : other ≠ key) :
    (decodeVideo env thread packet key w h data).2.decoders other = thread.decoders other := by
  rw [decodeVideo]
  dsimp only
  split
  next => exact setDecoder_other _ _ apart
  next => rfl
  next => exact setDecoder_other _ _ apart

theorem decodeVideo_area (key : UInt64) (w h : Int32) (data : Bytes) :
    (decodeVideo env thread packet key w h data).2.area = thread.area := by
  rw [decodeVideo]
  dsimp only
  split <;> rfl

theorem decodeVideo_own (key : UInt64) (w h : Int32) (data : Bytes) (alike : shadow.decoders key = thread.decoders key) :
    (decodeVideo env shadow packet key w h data).1 = (decodeVideo env thread packet key w h data).1 ∧
      (decodeVideo env shadow packet key w h data).2.decoders key = (decodeVideo env thread packet key w h data).2.decoders key := by
  rw [decodeVideo, decodeVideo, alike]
  dsimp only
  split
  next => exact ⟨rfl, (setDecoder_self ..).trans (setDecoder_self ..).symm⟩
  next => exact ⟨rfl, alike⟩
  next => exact ⟨rfl, (setDecoder_self ..).trans (setDecoder_self ..).symm⟩

theorem draw_cases {decoded : Decoded} (drawn : draw host env thread packet = .ok (decoded, next)) :
    (yamlStr (packet.get 6) = "h264" ∧ host.windows = true ∧
      (∃ w h data, ∀ shadow, draw host env shadow packet =
        .ok (Option.map Video.Frame.pixels <$> (decodeVideo env shadow packet (yamlU64 (packet.get 1)) w h data).1,
          (decodeVideo env shadow packet (yamlU64 (packet.get 1)) w h data).2)) ∧
      ∀ h264 area, decodeDraw host { h264, elapsed := env.elapsed } area packet = .ok (h264, area)) ∨
    (yamlStr (packet.get 6) = "h264" ∧
      (∀ shadow, draw host env shadow packet = .ok (.error "h264 decoding is only supported on Windows", shadow)) ∧
      ∀ h264 area, decodeDraw host { h264, elapsed := env.elapsed } area packet =
        .ok (.error "h264 decoding is only supported on Windows", area)) ∨
    (yamlStr (packet.get 6) ≠ "h264" ∧ next.decoders = thread.decoders ∧
      ∀ h264, decodeDraw host { h264, elapsed := env.elapsed } thread.area packet = .ok (decoded, next.area)) := by
  simp only [draw, decodeDraw, Packet.read_bind_ok] at drawn ⊢
  obtain ⟨wid, width, height, coding, drawn⟩ := drawn
  by_cases video : yamlStr (packet.get 6) = "h264"
  · simp only [video, if_neg (show ("h264" : String) ≠ "mmap" by decide), if_true] at drawn ⊢
    obtain ⟨data, taken, drawn⟩ := bind_ok drawn
    obtain ⟨seq, drawn⟩ := Packet.read_bind_ok.mp drawn
    simp only [taken, bind, Except.bind, Packet.read_of_lt _ seq]
    cases windows : host.windows with
    | true =>
      refine .inl ⟨trivial, rfl, ⟨yamlI32 (packet.get 4), yamlI32 (packet.get 5), data, fun shadow => ⟨wid, width, height, coding, ?_⟩⟩,
        fun h264 area => ⟨wid, width, height, coding, rfl⟩⟩
      rw [← key_same]
      rfl
    | false =>
      exact .inr (.inl ⟨trivial, fun shadow => ⟨wid, width, height, coding, rfl⟩, fun h264 area => ⟨wid, width, height, coding, rfl⟩⟩)
  · refine .inr (.inr ⟨video, ?_⟩)
    simp only [if_neg video] at drawn ⊢
    by_cases shared : yamlStr (packet.get 6) = "mmap"
    · simp only [shared, if_true, bind, Except.bind] at drawn ⊢
      obtain ⟨seq, drawn⟩ := Packet.read_bind_ok.mp drawn
      simp only [Packet.read_of_lt _ seq]
      cases held : thread.area with
      | some area =>
        rw [held] at drawn
        obtain ⟨⟨pixels, after⟩, answered, drawn⟩ := bind_ok drawn
        cases drawn
        refine ⟨rfl, fun h264 => ⟨wid, width, height, coding, ?_⟩⟩
        simp only [answered]
        rfl
      | none =>
        rw [held] at drawn
        cases drawn
        exact ⟨rfl, fun h264 => ⟨wid, width, height, coding, congrArg _ (congrArg _ held.symm)⟩⟩
    · simp only [if_neg shared] at drawn ⊢
      obtain ⟨data, taken, drawn⟩ := bind_ok drawn
      obtain ⟨seq, drawn⟩ := Packet.read_bind_ok.mp drawn
      cases drawn
      simp only [taken, bind, Except.bind, Packet.read_of_lt _ seq]
      exact ⟨trivial, fun h264 => ⟨wid, width, height, coding, rfl⟩⟩

/-- With its decoders, the thread does what it does when it is told their answers. -/
theorem turn_refines (turned : turn host env thread packet = .ok (result, next)) :
    ∃ h264, decodeTurn host { h264, elapsed := env.elapsed } thread.area packet = .ok (result, next.area) := by
  simp only [turn, decodeTurn, Packet.read_bind_ok] at turned ⊢
  obtain ⟨some, turned⟩ := turned
  split at turned
  next ends =>
    simp only [if_pos ends]
    split at turned
    next windows =>
      obtain ⟨key, turned⟩ := Packet.read_bind_ok.mp turned
      cases turned
      refine ⟨.ok none, some, ?_⟩
      rw [if_pos windows]
      exact Packet.read_bind_ok.mpr ⟨key, rfl⟩
    next other =>
      cases turned
      refine ⟨.ok none, some, ?_⟩
      rw [if_neg other]
      rfl
  next goes =>
    simp only [if_neg goes]
    obtain ⟨⟨decoded, after⟩, drawn, turned⟩ := bind_ok turned
    cases turned
    rcases draw_cases drawn with ⟨-, -, ⟨w, h, data, draws⟩, told⟩ | ⟨-, draws, told⟩ | ⟨-, -, told⟩
    · rw [draws] at drawn
      cases drawn
      refine ⟨Option.map Video.Frame.pixels <$> (decodeVideo env thread packet (yamlU64 (packet.get 1)) w h data).1, some, ?_⟩
      rw [told, decodeVideo_area]
      rfl
    · rw [draws] at drawn
      cases drawn
      refine ⟨.ok none, some, ?_⟩
      rw [told]
      rfl
    · refine ⟨.ok none, some, ?_⟩
      rw [told]
      rfl

/-! ### The processor -/

variable {decoder later : H264Decoder} {w h : UInt32}

/-- What a frame has to be converted with. -/
def wanted (types : Nat) (fullRange : Bool) (w h : UInt32) : Processor := { input := some (types, fullRange), output := some (w, h) }

/-- A clean processor is set to what the decoder remembers of it. -/
structure Coherent (decoder : H264Decoder) : Prop where
  clean : decoder.vpDirty = false → decoder.processor = wanted decoder.types decoder.fullRange decoder.outW decoder.outH
  fresh : decoder.started = false → decoder.vpDirty = true

theorem coherent_dirty (dirty : decoder.vpDirty = true) : Coherent decoder := by
  refine ⟨fun clean => ?_, fun _ => dirty⟩
  rw [dirty] at clean
  cases clean

/-- The processor never fails at the last step of being set up. -/
def Steady (env : VideoEnv) : Prop := ∀ converted message, .frame (.notStreaming message) converted ∉ env.outputs

structure Converted (decoder : H264Decoder) (w h : UInt32) (frame : Video.Frame) : Prop where
  length : frame.pixels.length = (w * h * 4).toNat
  processor : frame.processor = wanted frame.source decoder.fullRange w h

theorem ensureProcessor_ok (coherent : Coherent decoder) (started : decoder.started = true) {setup : Setup}
    (ensured : decoder.ensureProcessor w h setup = (later, .ok ())) :
    Coherent later ∧ later.started = true ∧ later.processor = wanted later.types later.fullRange w h := by
  rw [H264Decoder.ensureProcessor] at ensured
  split at ensured
  next clean =>
    obtain ⟨same, rfl, rfl⟩ := clean
    cases ensured
    exact ⟨coherent, started, coherent.clean same⟩
  next =>
    cases setup with
    | done =>
      cases ensured
      exact ⟨⟨fun _ => rfl, fun none => nomatch started.symm.trans none⟩, started, rfl⟩
    | noInput | noOutput | notStreaming => cases ensured

theorem ensureProcessor_failed (coherent : Coherent decoder) {setup : Setup} (steady : ∀ message, setup ≠ .notStreaming message)
    {message : String} (failed : decoder.ensureProcessor w h setup = (later, .error message)) : Coherent later := by
  rw [H264Decoder.ensureProcessor] at failed
  split at failed
  next => cases failed
  next =>
    cases setup with
    | done => cases failed
    | noInput => cases failed; exact coherent
    | noOutput =>
      cases failed
      refine ⟨fun clean => ?_, coherent.fresh⟩
      have same := coherent.clean clean
      simp only [same, wanted]
    | notStreaming message => exact absurd rfl (steady message)

theorem convertToBgra_converted (w h : UInt32) (memory : Bytes) (set : decoder.processor = wanted decoder.types decoder.fullRange w h) :
    Converted decoder w h (decoder.convertToBgra w h memory) := by
  refine ⟨?_, set⟩
  simp only [H264Decoder.convertToBgra, List.length_append, List.length_take, List.length_replicate]
  omega

theorem drain_ok {outputs : List DecoderOutput} {latest : Option Video.Frame} {answer : Except String (Option Video.Frame)}
    (steady : ∀ converted message, .frame (.notStreaming message) converted ∉ outputs) (coherent : Coherent decoder)
    (started : decoder.started = true) (before : ∀ frame, latest = some frame → Converted decoder w h frame)
    (drained : H264Decoder.drain w h outputs decoder latest = (later, answer)) :
    Coherent later ∧ ∀ frame, answer = .ok (some frame) → Converted later w h frame := by
  induction outputs generalizing decoder latest with
  | nil =>
    cases drained
    refine ⟨coherent, fun frame same => before frame ?_⟩
    cases same
    rfl
  | cons output outputs ih =>
    have others : ∀ converted message, .frame (.notStreaming message) converted ∉ outputs :=
      fun converted message among => steady converted message (List.mem_cons_of_mem _ among)
    cases output with
    | failed message =>
      cases drained
      exact ⟨coherent, nofun⟩
    | streamChange nv12 =>
      cases nv12 with
      | error message =>
        cases drained
        exact ⟨coherent, nofun⟩
      | ok _ =>
        have changed : Coherent { decoder with types := decoder.types + 1, vpDirty := true } := coherent_dirty rfl
        refine ih others changed started (fun frame same => ?_) drained
        obtain ⟨length, processor⟩ := before frame same
        exact ⟨length, processor⟩
    | frame setup converted =>
      rcases ensured : decoder.ensureProcessor w h setup with ⟨middle, message | _⟩
      · simp only [H264Decoder.drain, ensured] at drained
        cases drained
        refine ⟨ensureProcessor_failed coherent (fun message same => ?_) ensured, nofun⟩
        exact steady converted message (same ▸ List.mem_cons_self)
      · obtain ⟨kept, going, set⟩ := ensureProcessor_ok coherent started ensured
        simp only [H264Decoder.drain, ensured] at drained
        cases converted with
        | error message =>
          cases drained
          exact ⟨kept, nofun⟩
        | ok memory =>
          refine ih others kept going (fun frame same => ?_) drained
          cases same
          exact convertToBgra_converted w h memory set

theorem ranged_coherent (coherent : Coherent decoder) (fullRange : Option Bool) : Coherent (decoder.ranged fullRange) := by
  rw [H264Decoder.ranged]
  split
  next => exact coherent_dirty rfl
  next => exact coherent

theorem start_coherent (coherent : Coherent decoder) {env : VideoEnv} {answer : Except String Unit}
    (begun : decoder.start env = (later, answer)) : Coherent later ∧ (answer = .ok () → later.started = true) := by
  rw [H264Decoder.start] at begun
  split at begun
  next started =>
    cases begun
    exact ⟨coherent, fun _ => started⟩
  next idle =>
    split at begun
    next =>
      cases begun
      exact ⟨coherent, nofun⟩
    next =>
      cases begun
      exact ⟨coherent_dirty (coherent.fresh (Bool.eq_false_of_not_eq_true idle)), fun _ => rfl⟩

theorem feed_coherent (coherent : Coherent decoder) {env : VideoEnv} {data : Bytes} {answer : Except String Unit}
    (fed : decoder.feed env data = (later, answer)) : Coherent later ∧ later.started = decoder.started := by
  rw [H264Decoder.feed] at fed
  rcases made : env.sample with message | _
  · simp only [made] at fed
    obtain ⟨rfl, -⟩ := Prod.mk.inj fed
    exact ⟨coherent, rfl⟩
  · rcases taken : env.input with message | _
    all_goals
      simp only [made, taken] at fed
      obtain ⟨rfl, -⟩ := Prod.mk.inj fed
      exact ⟨⟨coherent.clean, coherent.fresh⟩, rfl⟩

theorem decode_ok (coherent : Coherent decoder) {env : VideoEnv} (steady : Steady env) {data : Bytes} {fullRange : Option Bool}
    {answer : Except String (Option Video.Frame)} (decoded : decoder.decode w h env data fullRange = (later, answer)) :
    Coherent later ∧ ∀ frame, answer = .ok (some frame) → Converted later w h frame := by
  rw [H264Decoder.decode] at decoded
  split at decoded
  next =>
    cases decoded
    exact ⟨coherent, nofun⟩
  next =>
    split at decoded
    next begun =>
      cases decoded
      exact ⟨(start_coherent (ranged_coherent coherent fullRange) begun).1, nofun⟩
    next begun =>
      obtain ⟨kept, started⟩ := start_coherent (ranged_coherent coherent fullRange) begun
      split at decoded
      next fed =>
        cases decoded
        exact ⟨(feed_coherent kept fed).1, nofun⟩
      next fed =>
        obtain ⟨held, same⟩ := feed_coherent kept fed
        exact drain_ok steady held (same.trans (started rfl)) (fun frame none => by cases none) decoded

/-! ### The range and the samples -/

/-- What only the server and the samples change. -/
structure Keeps (decoder later : H264Decoder) : Prop where
  range : later.fullRange = decoder.fullRange
  frame : later.frame = decoder.frame
  fed : later.fed = decoder.fed

theorem Keeps.trans {between : H264Decoder} (first : Keeps decoder between) (second : Keeps between later) : Keeps decoder later :=
  ⟨second.range.trans first.range, second.frame.trans first.frame, second.fed.trans first.fed⟩

/-- The samples are in the order of their times, the last of them made within `turns` turns. -/
structure Timed (turns : Nat) (decoder : H264Decoder) : Prop where
  counted : 0 ≤ decoder.frame.toInt
  made : decoder.frame.toInt ≤ turns
  timed : (decoder.fed.map InputSample.sampleTime).Pairwise (· < ·)
  below : ∀ sample ∈ decoder.fed, sample.sampleTime.toInt < decoder.frame.toInt * 166667

theorem Timed.keeps {turns turns' : Nat} (timed : Timed turns decoder) (frame : later.frame = decoder.frame)
    (fed : later.fed = decoder.fed) (more : turns ≤ turns') : Timed turns' later := by
  refine ⟨?_, ?_, ?_, ?_⟩
  · rw [frame]
    exact timed.counted
  · rw [frame]
    exact Int.le_trans timed.made (Int.ofNat_le.mpr more)
  · rw [fed]
    exact timed.timed
  · rw [fed, frame]
    exact timed.below

/-- The time of the next sample, and the one after, do not wrap. -/
theorem Timed.room {turns : Nat} (timed : Timed turns decoder) (room : (turns + 1) * 166667 < 2 ^ 63) :
    (decoder.frame * 166667).toInt = decoder.frame.toInt * 166667 ∧ (decoder.frame + 1).toInt = decoder.frame.toInt + 1 := by
  have low := timed.counted
  have high := timed.made
  constructor
  · rw [Int64.toInt_mul]
    exact Int.bmod_eq_of_le (by simp; omega) (by simp; omega)
  · rw [Int64.toInt_add]
    exact Int.bmod_eq_of_le (by simp; omega) (by simp; omega)

/-- The video of a window. -/
def Mine (key : UInt64) (input : ThreadEnv × Packet) : Prop := videoOf input.2 = some key

instance (key : UInt64) : DecidablePred (Mine key) := fun input => inferInstanceAs (Decidable (videoOf input.2 = some key))

abbrev step (host : Host) (input : ThreadEnv × Packet) (thread : Thread) : Except Panic (Option Decoded × Thread) :=
  turn host input.1 thread input.2

theorem turn_other (others : videoOf packet ≠ some key) (turned : turn host env thread packet = .ok (result, next)) :
    next.decoders key = thread.decoders key := by
  simp only [turn, Packet.read_bind_ok] at turned
  obtain ⟨some, turned⟩ := turned
  split at turned
  next ends =>
    have apart : key ≠ yamlU64 (packet.get 1) := fun same => others (by rw [videoOf, if_pos (.inl ends), same])
    split at turned
    next =>
      obtain ⟨-, turned⟩ := Packet.read_bind_ok.mp turned
      cases turned
      exact setDecoder_other _ _ apart
    next => cases turned; rfl
  next =>
    obtain ⟨⟨decoded, after⟩, drawn, turned⟩ := bind_ok turned
    cases turned
    rcases draw_cases drawn with ⟨coding, -, ⟨w, h, data, draws⟩, -⟩ | ⟨-, draws, -⟩ | ⟨-, same, -⟩
    · have apart : key ≠ yamlU64 (packet.get 1) := fun same => others (by rw [videoOf, if_pos (.inr coding), same])
      rw [draws] at drawn
      cases drawn
      exact decodeVideo_other _ w h data apart
    · rw [draws] at drawn
      cases drawn
      rfl
    · exact congrFun same key

theorem turn_own (own : videoOf packet = some key) (alike : shadow.decoders key = thread.decoders key)
    (turned : turn host env thread packet = .ok (result, next)) :
    ∃ later, turn host env shadow packet = .ok (result, later) ∧ later.decoders key = next.decoders key := by
  simp only [turn, Packet.read_bind_ok] at turned ⊢
  obtain ⟨some, turned⟩ := turned
  rw [videoOf] at own
  split at own
  next video =>
    cases own
    split at turned
    next ends =>
      simp only [if_pos ends]
      split at turned
      next windows =>
        obtain ⟨inside, turned⟩ := Packet.read_bind_ok.mp turned
        cases turned
        refine ⟨_, ⟨some, ?_⟩, (setDecoder_self shadow _ none).trans (setDecoder_self thread _ none).symm⟩
        rw [if_pos windows]
        exact Packet.read_bind_ok.mpr ⟨inside, rfl⟩
      next other =>
        cases turned
        exact ⟨shadow, ⟨some, if_neg other⟩, alike⟩
    next goes =>
      simp only [if_neg goes]
      obtain ⟨⟨decoded, after⟩, drawn, turned⟩ := bind_ok turned
      cases turned
      rcases draw_cases drawn with ⟨-, -, ⟨w, h, data, draws⟩, -⟩ | ⟨-, draws, -⟩ | ⟨coding, -⟩
      · obtain ⟨answer, held⟩ := @decodeVideo_own env thread shadow packet _ w h data alike
        rw [draws] at drawn
        cases drawn
        refine ⟨_, ⟨some, ?_⟩, held⟩
        rw [draws shadow, answer]
        rfl
      · rw [draws] at drawn
        cases drawn
        refine ⟨shadow, ⟨some, ?_⟩, alike⟩
        rw [draws shadow]
        rfl
      · exact absurd video (not_or.mpr ⟨goes, coding⟩)
  next => cases own

theorem isolated (host : Host) (key : UInt64) : Purge.Isolated (step host) (fun thread => thread.decoders key) (Mine key) where
  other others turned := turn_other others turned
  own mine alike turned := turn_own mine alike turned

/-! ### Runs -/

section Each

variable {holds later : H264Decoder → Prop} (new : holds {}) (weaker : ∀ decoder, holds decoder → later decoder)
  (decodes : ∀ decoder w h data fullRange, holds decoder → later (H264Decoder.decode decoder w h env.video data fullRange).1)
  (each : ∀ key decoder, thread.decoders key = some decoder → holds decoder)

include new weaker decodes each

end Each

variable {inputs : List (ThreadEnv × Packet)} {answers : List ((ThreadEnv × Packet) × Option Decoded)} {area : Option MmapArea}

/-- A window's video is answered as if there were nothing else: whatever the thread is given
between its frames, they are those of a thread that is given this window's video only, and
its decoder is the same. -/
theorem video_isolated (host : Host) (key : UInt64) (other : Option MmapArea)
    (ran : Purge.run (step host) inputs { area := area } = .ok (answers, next)) :
    ∃ last, Purge.run (step host) (inputs.filter (Mine key)) { area := other } =
        .ok (answers.filter fun entry => Mine key entry.1, last) ∧ last.decoders key = next.decoders key := by
  refine (isolated host key).purged (step host) ?_ ran
  rfl

/-- Where the processor does fail at the last step, a draw of the size before it gets a frame
of the other size. -/
theorem stale_size_kept :
    let first := ({} : H264Decoder).decode 2 2 { outputs := [.frame .done (.ok [])] } [1] none
    let failed := first.1.decode 4 4 { outputs := [.frame (.notStreaming "processor begin streaming") (.ok [])] } [2] none
    let last := failed.1.decode 2 2 { outputs := [.frame .done (.ok [])] } [3] none
    last.2.toOption.bind (Option.map fun frame => frame.processor.output) = some (some (4, 4)) := rfl

/-! ### Two windows -/

def videoHost : Host := { Host.plain with windows := true }

def videoDraw (wid : Int64) (data : Bytes) : Packet where
  main := [.string "draw", .integer wid, .integer 0, .integer 0, .integer 2, .integer 2, .string "h264", .null, .integer 1, .integer 0,
    .hash []]
  raw := fun index => if index = 7 then some data else none

def framed : VideoEnv := { outputs := [.streamChange (.ok ()), .frame .done (.ok [1, 2, 3])] }

/-- Two windows show video, and the stream of one ends. -/
def twoWindows (elapsed : Fin (2 ^ 63)) : List (ThreadEnv × Packet) :=
  let env : ThreadEnv := { video := framed, elapsed }
  [(env, videoDraw 1 [10]), (env, videoDraw 2 [20]), (env, { main := [.string "eos", .integer 2] }), (env, videoDraw 1 [11])]

theorem video_isolated_two : ∃ answers next, Purge.run (step videoHost) (twoWindows 0) { area := none } = .ok (answers, next) ∧
    ∃ last, Purge.run (step videoHost) ((twoWindows 0).filter (Mine 1)) { area := none } =
      .ok (answers.filter fun entry => Mine 1 entry.1, last) ∧ last.decoders 1 = next.decoders 1 :=
  ⟨_, _, rfl, video_isolated videoHost 1 none rfl⟩

end Xpra.Proofs.Video
