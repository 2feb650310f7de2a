import Xpra.Client.Pcm
import Xpra.Library.Frames
import Xpra.Library.Loop
import Xpra.Library.Machine

/-! The sample buffer is a queue of whole frames. Chunks, offsets and the separate
total are only how it is stored. -/

namespace Xpra.Proofs.PcmQueue
open Xpra.Net Xpra.Client Xpra.Client.Checked PcmBuffer Library Library.Frames

abbrev Frame := List Int16

/-! ### What is stored -/

/-- The frames of a chunk that have not been taken. -/
def pending (channels : Nat) (chunk : PcmChunk) : List Frame := (cut channels chunk.samples).drop chunk.frameOffset

def contents (channels : Nat) (chunks : List PcmChunk) : List Frame := chunks.flatMap (pending channels)

/-- No chunk is empty or used up. -/
def Live (channels : Nat) (chunks : List PcmChunk) : Prop :=
  ∀ chunk ∈ chunks, chunk.frameOffset < chunk.samples.length / channels

variable {channels : Nat} {chunk : PcmChunk} {chunks rest : List PcmChunk}

@[simp] theorem contents_nil : contents channels [] = [] := rfl

@[simp] theorem contents_cons : contents channels (chunk :: chunks) = pending channels chunk ++ contents channels chunks := rfl

theorem length_pending : (pending channels chunk).length = chunk.samples.length / channels - chunk.frameOffset := by
  rw [pending, List.length_drop, length_cut]

theorem Live.nil : Live channels [] := nofun

theorem Live.cons (here : chunk.frameOffset < chunk.samples.length / channels) (live : Live channels chunks) :
    Live channels (chunk :: chunks) := List.forall_mem_cons.mpr ⟨here, live⟩

theorem Live.head (live : Live channels (chunk :: chunks)) : chunk.frameOffset < chunk.samples.length / channels :=
  live chunk List.mem_cons_self

theorem Live.tail (live : Live channels (chunk :: chunks)) : Live channels chunks :=
  fun other member => live other (List.mem_cons_of_mem _ member)

/-! ### Taking frames from the front -/

/-- The chunks without the first `count` frames. -/
structure Advanced (channels : Nat) (chunks : List PcmChunk) (count : Nat) (rest : List PcmChunk) : Prop where
  contents : contents channels rest = (contents channels chunks).drop count
  live : Live channels rest

theorem Advanced.none (live : Live channels chunks) : Advanced channels chunks 0 chunks := ⟨rfl, live⟩

theorem Advanced.past {count : Nat} (all : (pending channels chunk).length ≤ count)
    (advanced : Advanced channels chunks (count - (pending channels chunk).length) rest) :
    Advanced channels (chunk :: chunks) count rest := by
  refine ⟨?_, advanced.live⟩
  rw [advanced.contents, contents_cons, List.drop_append, List.drop_eq_nil_of_le all, List.nil_append]

theorem Advanced.within {count : Nat} (live : Live channels (chunk :: chunks)) (some : count < (pending channels chunk).length) :
    Advanced channels (chunk :: chunks) count ({ chunk with frameOffset := chunk.frameOffset + count } :: chunks) := by
  rw [length_pending] at some
  refine ⟨?_, .cons (by dsimp only; omega) live.tail⟩
  rw [contents_cons, contents_cons, List.drop_append_of_le_length (by rw [length_pending]; omega), pending, pending,
    List.drop_drop]

theorem available_ok (live : Live channels (chunk :: chunks)) :
    sub (chunk.samples.length / channels) chunk.frameOffset = .ok (pending channels chunk).length := by
  rw [length_pending]
  exact sub_le live.head.le

/-- A chunk is used up when all of its frames have been taken. -/
theorem used_up_iff (live : Live channels (chunk :: chunks)) (count : Nat) :
    chunk.frameOffset + min (pending channels chunk).length count = chunk.samples.length / channels ↔
      (pending channels chunk).length ≤ count := by
  have here := live.head
  rw [length_pending]
  omega

/-- The samples of the next frames of a chunk. -/
theorem samples_of_frames {count : Nat} (live : Live channels (chunk :: chunks)) (some : count ≤ (pending channels chunk).length) :
    chunk.frameOffset * channels + count * channels ≤ chunk.samples.length ∧
      (chunk.samples.drop (chunk.frameOffset * channels)).take (count * channels) =
        ((pending channels chunk).take count).flatten := by
  have here := live.head
  rw [length_pending] at some
  have fits : chunk.frameOffset + count ≤ chunk.samples.length / channels := by
    omega
  refine ⟨?_, (flatten_cut chunk.frameOffset count fits).symm⟩
  rw [← Nat.add_mul]
  exact (Nat.mul_le_mul_right channels fits).trans (Nat.div_mul_le_self _ _)

theorem length_frames {count : Nat} (live : Live channels (chunk :: chunks)) (some : count ≤ (pending channels chunk).length) :
    ((pending channels chunk).take count).flatten.length = count * channels := by
  obtain ⟨inside, same⟩ := samples_of_frames live some
  rw [← same, List.length_take, List.length_drop]
  omega

/-! ### Writing frames -/

/-- The destination with `count` frames written behind the `copied` that are there. -/
def overlay (channels copied count : Nat) (frames : List Frame) (destination : List Int16) : List Int16 :=
  destination.take (copied * channels) ++ frames.flatten ++ destination.drop ((copied + count) * channels)

section Overlay

variable {copied count later : Nat} {frames others : List Frame} {destination : List Int16}

theorem overlay_none : overlay channels copied 0 [] destination = destination := by
  rw [overlay, List.flatten_nil, List.append_nil, Nat.add_zero, List.take_append_drop]

theorem length_written (length : frames.flatten.length = count * channels) (room : (copied + count) * channels ≤ destination.length) :
    (destination.take (copied * channels) ++ frames.flatten).length = (copied + count) * channels := by
  rw [Nat.add_mul] at room ⊢
  rw [List.length_append, List.length_take, length]
  omega

theorem length_overlay (length : frames.flatten.length = count * channels) (room : (copied + count) * channels ≤ destination.length) :
    (overlay channels copied count frames destination).length = destination.length := by
  rw [overlay, List.length_append, length_written length room, List.length_drop]
  omega

theorem overlay_overlay (length : frames.flatten.length = count * channels) (room : (copied + count) * channels ≤ destination.length) :
    overlay channels (copied + count) later others (overlay channels copied count frames destination) =
      overlay channels copied (count + later) (frames ++ others) destination := by
  have written := length_written length room
  have past : (copied + count) * channels ≤ (copied + count + later) * channels := Nat.mul_le_mul_right channels (Nat.le_add_right _ _)
  have kept : (overlay channels copied count frames destination).take ((copied + count) * channels) =
      destination.take (copied * channels) ++ frames.flatten := List.take_left' written
  have left : (overlay channels copied count frames destination).drop ((copied + count + later) * channels) =
      destination.drop ((copied + count + later) * channels) := by
    rw [overlay, List.drop_append, written, List.drop_eq_nil_of_le (written ▸ past), List.nil_append, List.drop_drop,
      Nat.add_sub_cancel' past]
  rw [overlay, kept, left, overlay, List.flatten_append, ← Nat.add_assoc]
  simp only [List.append_assoc]

end Overlay

/-- A chunk gives what is wanted of it, and the loop goes on if that is all it has. -/
theorem popChunks_front (live : Live channels (chunk :: chunks)) {count : Nat} (some : 0 < count) (copied : Nat) {destination : List Int16}
    (room : (copied + count) * channels ≤ destination.length) :
    popChunks channels (copied + count) (chunk :: chunks) destination copied =
      if (pending channels chunk).length ≤ count then
        popChunks channels (copied + count) chunks
          (overlay channels copied (pending channels chunk).length (pending channels chunk) destination)
          (copied + (pending channels chunk).length)
      else
        .ok ({ chunk with frameOffset := chunk.frameOffset + count } :: chunks,
          overlay channels copied count ((pending channels chunk).take count) destination, copied + count) := by
  have left : sub (copied + count) copied = .ok count := by
    rw [sub_le (Nat.le_add_right copied count), Nat.add_sub_cancel_left]
  obtain ⟨inside, source⟩ := samples_of_frames live (Nat.min_le_left (pending channels chunk).length count)
  have stop : copied * channels + min (pending channels chunk).length count * channels ≤ destination.length := by
    rw [← Nat.add_mul]
    exact (Nat.mul_le_mul_right channels (by omega)).trans room
  rw [popChunks, if_pos (by omega)]
  simp only [available_ok live, left, bind, Except.bind, if_pos (And.intro stop inside), source, used_up_iff live]
  split
  next all => rw [Nat.min_eq_left all, List.take_length, overlay, Nat.add_mul]
  next some =>
    rw [Nat.min_eq_right (Nat.le_of_not_le some), overlay, Nat.add_mul]
    rfl

theorem popChunks_done (copied : Nat) (chunks : List PcmChunk) (destination : List Int16) :
    popChunks channels copied chunks destination copied = .ok (chunks, destination, copied) := by
  cases chunks with
  | nil => rfl
  | cons => rw [popChunks, if_neg (Nat.lt_irrefl copied)]

theorem popChunks_ok (live : Live channels chunks) (count copied : Nat) (destination : List Int16)
    (enough : count ≤ (contents channels chunks).length) (room : (copied + count) * channels ≤ destination.length) :
    ∃ rest, popChunks channels (copied + count) chunks destination copied =
        .ok (rest, overlay channels copied count ((contents channels chunks).take count) destination, copied + count) ∧
      Advanced channels chunks count rest := by
  induction chunks generalizing count copied destination with
  | nil =>
    have none : count = 0 := Nat.le_zero.mp enough
    subst none
    exact ⟨[], by rw [Nat.add_zero, popChunks_done, List.take_zero, overlay_none], .none .nil⟩
  | cons chunk chunks ih =>
    rcases Nat.eq_zero_or_pos count with none | some
    · subst none
      exact ⟨chunk :: chunks, by rw [Nat.add_zero, popChunks_done, List.take_zero, overlay_none], .none live⟩
    rw [popChunks_front live some copied room]
    split
    next all =>
      obtain ⟨later, rfl⟩ := Nat.exists_eq_add_of_le all
      have whole : (pending channels chunk).flatten.length = (pending channels chunk).length * channels := by
        simpa using length_frames live (Nat.le_refl _)
      have here : (copied + (pending channels chunk).length) * channels ≤ destination.length :=
        (Nat.mul_le_mul_right channels (by omega)).trans room
      rw [contents_cons, List.length_append] at enough
      rw [← Nat.add_assoc] at room ⊢
      obtain ⟨rest, popped, advanced⟩ := ih live.tail later (copied + (pending channels chunk).length)
        (overlay channels copied (pending channels chunk).length (pending channels chunk) destination) (by omega)
        (by rw [length_overlay whole here]; exact room)
      rw [overlay_overlay whole here] at popped
      refine ⟨rest, ?_, .past all (by rw [Nat.add_sub_cancel_left]; exact advanced)⟩
      rw [popped, contents_cons, List.take_length_add_append]
    next some =>
      refine ⟨_, ?_, .within live (Nat.lt_of_not_le some)⟩
      rw [contents_cons, List.take_append_of_le_length (Nat.le_of_not_le some)]

theorem discardChunks_ok (live : Live channels chunks) (count : Nat) (enough : count ≤ (contents channels chunks).length) :
    ∃ rest, discardChunks channels chunks count = .ok (rest, 0) ∧ Advanced channels chunks count rest := by
  induction chunks generalizing count with
  | nil =>
    have none : count = 0 := Nat.le_zero.mp enough
    subst none
    exact ⟨[], rfl, .none .nil⟩
  | cons chunk chunks ih =>
    rcases Nat.eq_zero_or_pos count with none | some
    · subst none
      exact ⟨chunk :: chunks, rfl, .none live⟩
    · have left : sub count (min (pending channels chunk).length count) =
          .ok (count - min (pending channels chunk).length count) := sub_le (Nat.min_le_right _ _)
      rw [discardChunks, if_pos (by omega)]
      simp only [available_ok live, left, bind, Except.bind, used_up_iff live]
      by_cases all : (pending channels chunk).length ≤ count
      · obtain ⟨rest, discarded, advanced⟩ := ih live.tail (count - (pending channels chunk).length)
          (by rw [contents_cons, List.length_append] at enough; omega)
        rw [if_pos all, Nat.min_eq_left all]
        exact ⟨rest, discarded, .past all advanced⟩
      · rw [if_neg all, Nat.min_eq_right (Nat.le_of_not_le all), Nat.sub_self]
        exact ⟨_, rfl, .within live (Nat.lt_of_not_le all)⟩

/-! ### The fade at the front -/

variable (fade : Fade)

theorem cap_frames : CAP_FRAMES = 24000 := rfl

theorem fade_frames : FADE_FRAMES = 240 := rfl

/-- The first frames, scaled by their position. -/
def ramp (position count : Nat) (frames : List Frame) : List Frame :=
  frames.mapIdx fun index frame => if index < count then frame.map (fade.scale (position + index) FADE_FRAMES) else frame

variable {fade} {position count : Nat} {frames : List Frame}

theorem ramp_zero : ramp fade position 0 frames = frames := by
  apply List.ext_getElem?
  intro index
  rw [ramp, List.getElem?_mapIdx]
  simp

theorem ramp_append {later : List Frame} : ramp fade position count (frames ++ later) =
    ramp fade position count frames ++ ramp fade (position + frames.length) (count - frames.length) later := by
  rw [ramp, List.mapIdx_append]
  congr 1
  apply List.ext_getElem?
  intro index
  rw [ramp, List.getElem?_mapIdx, List.getElem?_mapIdx]
  congr 1
  funext frame
  rw [Nat.add_comm index, ← Nat.add_assoc]
  congr 1
  exact propext (by omega)

theorem ramp_succ : ramp fade position (count + 1) frames =
    (ramp fade position count frames).modify count (List.map (fade.scale (position + count) FADE_FRAMES)) := by
  apply List.ext_getElem?
  intro index
  rw [List.getElem?_modify, ramp, ramp, List.getElem?_mapIdx, List.getElem?_mapIdx]
  rcases Nat.lt_trichotomy index count with before | here | after
  · simp [before, Nat.lt_succ_of_lt before, before.ne']
  · simp [here]
  · simp [Nat.not_lt_of_lt after, after.ne, Nat.not_lt.mpr (Nat.succ_le_of_lt after)]

theorem length_ramp : (ramp fade position count frames).length = frames.length := List.length_mapIdx

/-- The frames past the count stay as they are. -/
theorem ramp_full : ramp fade position (min frames.length count) frames = ramp fade position count frames := by
  apply List.ext_getElem?
  intro index
  rw [ramp, ramp, List.getElem?_mapIdx, List.getElem?_mapIdx]
  by_cases inside : index < frames.length
  · simp [inside]
  · simp [Nat.le_of_not_lt inside]

theorem fadeFrame_ok (fade : Fade) (position : Nat) {samples : List Int16} {base : Nat} (fits : base + channels ≤ samples.length) :
    ∃ faded, fadeFrame fade channels position FADE_FRAMES base samples = .ok faded ∧ faded.length = samples.length ∧
      ∀ i, faded[i]? = if base ≤ i ∧ i < base + channels then samples[i]?.map (fade.scale position FADE_FRAMES)
        else samples[i]? := by
  rw [fadeFrame]
  apply Loop.range fun done (faded : List Int16) => faded.length = samples.length ∧
    ∀ i, faded[i]? = if base ≤ i ∧ i < base + done then samples[i]?.map (fade.scale position FADE_FRAMES) else samples[i]?
  · exact ⟨rfl, fun i => by rw [if_neg (by omega)]⟩
  · intro channel below faded held
    obtain ⟨length, same⟩ := held
    have bound : base + channel < samples.length := by omega
    have here : faded[base + channel]? = some samples[base + channel] := by
      rw [same, if_neg (by omega), List.getElem?_eq_getElem]
    refine ⟨faded.set (base + channel) (fade.scale position FADE_FRAMES samples[base + channel]), by rw [here], ?_, ?_⟩
    · rw [List.length_set, length]
    · intro i
      rw [List.getElem?_set, same]
      grind

theorem fadeRun_ok (fade : Fade) (position : Nat) {samples : List Int16} {offset : Nat} (fits : offset + count ≤ samples.length / channels) :
    ∃ faded, (List.range count).foldlM (fun samples frame =>
          fadeFrame fade channels (position + frame) FADE_FRAMES ((offset + frame) * channels) samples) samples = .ok faded ∧
      faded.length = samples.length ∧
      (cut channels faded).drop offset = ramp fade position count ((cut channels samples).drop offset) := by
  apply Loop.range fun done (faded : List Int16) => faded.length = samples.length ∧
    (cut channels faded).drop offset = ramp fade position done ((cut channels samples).drop offset)
  · exact ⟨rfl, ramp_zero.symm⟩
  · intro frame below faded held
    obtain ⟨length, same⟩ := held
    have whole : offset + frame + 1 ≤ samples.length / channels := by omega
    have inside : (offset + frame) * channels + channels ≤ faded.length := by
      rw [length, ← Nat.succ_mul]
      exact (Nat.mul_le_mul_right channels whole).trans (Nat.div_mul_le_self _ _)
    obtain ⟨last, here, size, changed⟩ := fadeFrame_ok fade (position + frame) inside
    refine ⟨last, here, size.trans length, ?_⟩
    rw [cut_modify (offset + frame) _ size changed, List.drop_modify_of_ge _ _ _ _ (Nat.le_add_right offset frame), same,
      Nat.add_sub_cancel_left, ramp_succ]

theorem fadeChunks_ok (fade : Fade) (live : Live channels chunks) (remaining position : Nat) :
    ∃ faded, fadeChunks fade channels FADE_FRAMES chunks remaining position = .ok faded ∧
      contents channels faded = ramp fade position remaining (contents channels chunks) ∧ Live channels faded := by
  induction chunks generalizing remaining position with
  | nil => exact ⟨[], rfl, rfl, .nil⟩
  | cons chunk chunks ih =>
    have here := live.head
    have fits : chunk.frameOffset + min (pending channels chunk).length remaining ≤ chunk.samples.length / channels := by
      rw [length_pending]
      omega
    obtain ⟨samples, run, length, same⟩ := fadeRun_ok fade position fits
    have left : sub remaining (min (pending channels chunk).length remaining) =
        .ok (remaining - min (pending channels chunk).length remaining) := sub_le (Nat.min_le_right _ _)
    have kept : pending channels { chunk with samples } = ramp fade position remaining (pending channels chunk) := by
      rw [← ramp_full]
      exact same
    have alive : chunk.frameOffset < samples.length / channels := by
      rwa [length]
    rw [fadeChunks]
    simp only [available_ok live, run, left, bind, Except.bind]
    split
    next done =>
      refine ⟨_, rfl, ?_, .cons alive live.tail⟩
      rw [contents_cons, contents_cons, ramp_append, kept, show remaining - (pending channels chunk).length = 0 by omega,
        ramp_zero]
    next more =>
      obtain ⟨faded, later, rest, still⟩ := ih live.tail (remaining - min (pending channels chunk).length remaining)
        (position + min (pending channels chunk).length remaining)
      have all : (pending channels chunk).length ≤ remaining := by
        omega
      simp only [later]
      refine ⟨_, rfl, ?_, .cons alive still⟩
      rw [contents_cons, contents_cons, ramp_append, kept, rest, Nat.min_eq_left all]

/-! ### The buffer and the queue -/

inductive PcmCall where
  | push (samples : List Int16)
  | popInto (destination : List Int16) (requestedFrames : Nat)
  | enforceHardCap

inductive PcmReply where
  | pushed
  | popped (destination : List Int16) (frames : Nat)
  | capped (dropped : Nat)

/-- A plain queue of frames, its oldest frame first. -/
def queueCall (fade : Fade) (channels : Nat) (call : PcmCall) (queue : List Frame) : PcmReply × List Frame :=
  match call with
  | .push samples => (.pushed, queue ++ cut channels samples)
  | .popInto destination requestedFrames =>
    let count := min (min requestedFrames queue.length) (destination.length / channels)
    (.popped ((queue.take count).flatten ++ destination.drop (count * channels)) count, queue.drop count)
  | .enforceHardCap =>
    let count := queue.length - 24000
    (.capped count, if count = 0 then queue else ramp fade 0 240 (queue.drop count))

def bufferCall (fade : Fade) (call : PcmCall) (buffer : PcmBuffer) : Except Fault (PcmReply × PcmBuffer) :=
  match call with
  | .push samples => .ok (.pushed, buffer.push samples)
  | .popInto destination requestedFrames => do
    let (buffer, destination, frames) ← buffer.popInto destination requestedFrames
    return (.popped destination frames, buffer)
  | .enforceHardCap => do
    let (buffer, dropped) ← buffer.enforceHardCap fade
    return (.capped dropped, buffer)

/-- The buffer holds the queue: its total is the length of the queue, and none of its
chunks is empty or used up. -/
structure Holds (channels : Nat) (buffer : PcmBuffer) (queue : List Frame) : Prop where
  positive : 0 < channels
  width : buffer.channels = channels
  contents : contents channels buffer.chunks = queue
  frames : buffer.frames = queue.length
  live : Live channels buffer.chunks

section Holds

variable {buffer : PcmBuffer} {queue : List Frame}

theorem Holds.new (channels : UInt8) : Holds (max channels 1).toNat (PcmBuffer.new channels) [] := by
  refine ⟨?_, rfl, rfl, rfl, .nil⟩
  by_cases small : channels ≤ 1
  · simp [max, small]
  · have large : 1 < channels.toNat := UInt8.lt_iff_toNat_lt.mp (UInt8.not_le.mp small)
    simp [max, small]
    omega

theorem Holds.push (holds : Holds channels buffer queue) (samples : List Int16) :
    Holds channels (buffer.push samples) (queue ++ cut channels samples) := by
  have whole : (if samples.length % channels ≠ 0 then samples.take (samples.length - samples.length % channels) else samples) =
      samples.take (samples.length - samples.length % channels) := by
    split
    next => rfl
    next none =>
      rw [not_not.mp none, Nat.sub_zero, List.take_length]
  have same := cut_whole channels samples
  have length := congrArg List.length same
  rw [length_cut, length_cut] at length
  rw [PcmBuffer.push]
  simp only [holds.width, whole, length]
  split
  next some =>
    refine ⟨holds.positive, rfl, ?_, ?_, ?_⟩
    · rw [PcmQueue.contents, List.flatMap_append, ← PcmQueue.contents, holds.contents, List.flatMap_singleton, pending, List.drop_zero, same]
    · rw [List.length_append, length_cut, holds.frames]
    · intro chunk member
      rcases List.mem_append.mp member with old | added
      · exact holds.live chunk old
      · cases List.mem_singleton.mp added
        rw [length]
        exact Nat.pos_of_ne_zero some
  next none =>
    have empty : cut channels samples = [] := by
      rw [← List.length_eq_zero_iff, length_cut]
      exact not_not.mp none
    rw [empty, List.append_nil]
    exact holds

theorem Holds.advance (holds : Holds channels buffer queue) {count : Nat} (advanced : Advanced channels buffer.chunks count rest) :
    Holds channels { buffer with chunks := rest, frames := buffer.frames - count } (queue.drop count) :=
  ⟨holds.positive, holds.width, by rw [advanced.contents, holds.contents], by rw [holds.frames, List.length_drop],
    advanced.live⟩

theorem Holds.popInto (holds : Holds channels buffer queue) (destination : List Int16) (requestedFrames : Nat) :
    ∃ next, bufferCall fade (.popInto destination requestedFrames) buffer =
        .ok ((queueCall fade channels (.popInto destination requestedFrames) queue).1, next) ∧
      Holds channels next (queueCall fade channels (.popInto destination requestedFrames) queue).2 := by
  have enough : min (min requestedFrames queue.length) (destination.length / channels) ≤ queue.length := by
    omega
  have room : (0 + min (min requestedFrames queue.length) (destination.length / channels)) * channels ≤ destination.length := by
    rw [Nat.zero_add]
    exact (Nat.mul_le_mul_right channels (Nat.min_le_right _ _)).trans (Nat.div_mul_le_self _ _)
  obtain ⟨rest, popped, advanced⟩ := popChunks_ok holds.live _ 0 destination (holds.contents ▸ enough) room
  rw [overlay, Nat.zero_add, Nat.zero_mul, List.take_zero, List.nil_append, holds.contents] at popped
  have total := sub_le (holds.frames ▸ enough)
  refine ⟨_, ?_, holds.advance advanced⟩
  rw [bufferCall, PcmBuffer.popInto]
  simp only [holds.width, holds.frames, popped, bind, Except.bind]
  rw [holds.frames] at total
  rw [total]
  rfl

theorem Holds.discardFrames (holds : Holds channels buffer queue) {count : Nat} (enough : count ≤ queue.length) :
    ∃ next, buffer.discardFrames count = .ok next ∧ Holds channels next (queue.drop count) := by
  have stored : count ≤ (PcmQueue.contents channels buffer.chunks).length := by
    rwa [holds.contents]
  obtain ⟨rest, discarded, advanced⟩ := discardChunks_ok holds.live count stored
  have some : count ≤ buffer.frames := by
    rwa [holds.frames]
  refine ⟨_, ?_, holds.advance advanced⟩
  rw [PcmBuffer.discardFrames]
  simp only [holds.width, discarded, Nat.min_eq_left some, sub_le (Nat.zero_le count), Nat.sub_zero, sub_le some, bind, Except.bind]
  rfl

theorem Holds.fadeIn (fade : Fade) (holds : Holds channels buffer queue) :
    ∃ next, buffer.fadeIn fade FADE_FRAMES = .ok next ∧ Holds channels next (ramp fade 0 FADE_FRAMES queue) := by
  obtain ⟨faded, ramped, same, live⟩ := fadeChunks_ok fade holds.live (min FADE_FRAMES buffer.frames) 0
  refine ⟨{ buffer with chunks := faded }, ?_, holds.positive, holds.width, ?_, ?_, live⟩
  · rw [PcmBuffer.fadeIn]
    simp only [holds.width, ramped, bind, Except.bind]
    rfl
  · rw [same, holds.contents, holds.frames, Nat.min_comm, ramp_full]
  · rw [length_ramp, holds.frames]

theorem Holds.enforceHardCap (holds : Holds channels buffer queue) :
    ∃ next, bufferCall fade .enforceHardCap buffer = .ok ((queueCall fade channels .enforceHardCap queue).1, next) ∧
      Holds channels next (queueCall fade channels .enforceHardCap queue).2 := by
  rw [bufferCall, PcmBuffer.enforceHardCap, holds.frames, queueCall, ← cap_frames]
  split
  next small =>
    have none : queue.length - CAP_FRAMES = 0 := Nat.sub_eq_zero_of_le small
    rw [none]
    exact ⟨buffer, rfl, holds⟩
  next large =>
    have some : queue.length - CAP_FRAMES ≠ 0 := Nat.sub_ne_zero_of_lt (Nat.lt_of_not_le large)
    have dropped : sub queue.length CAP_FRAMES = .ok (queue.length - CAP_FRAMES) := sub_le (Nat.le_of_not_le large)
    obtain ⟨middle, discarded, held⟩ := holds.discardFrames (Nat.sub_le queue.length CAP_FRAMES)
    obtain ⟨next, faded, ramped⟩ := held.fadeIn fade
    refine ⟨next, ?_, ?_⟩
    · simp only [dropped, discarded, faded, bind, Except.bind]
      rfl
    · rw [if_neg some]
      dsimp only
      rw [← fade_frames]
      exact ramped

theorem bufferCall_ok (fade : Fade) (holds : Holds channels buffer queue) (call : PcmCall) :
    ∃ next, bufferCall fade call buffer = .ok ((queueCall fade channels call queue).1, next) ∧
      Holds channels next (queueCall fade channels call queue).2 := by
  cases call with
  | push samples => exact ⟨_, rfl, holds.push samples⟩
  | popInto destination requestedFrames => exact holds.popInto destination requestedFrames
  | enforceHardCap => exact holds.enforceHardCap

end Holds

/-! ### Any sequence of calls -/

/-- The buffer and the replies given so far. -/
def bufferStep (fade : Fade) (call : PcmCall) (state : List PcmReply × PcmBuffer) : Except Fault (List PcmReply × PcmBuffer) := do
  let (reply, buffer) ← bufferCall fade call state.2
  return (state.1 ++ [reply], buffer)

def queueStep (fade : Fade) (channels : Nat) (call : PcmCall) (state : List PcmReply × List Frame) :
    List PcmReply × List Frame :=
  let (reply, queue) := queueCall fade channels call state.2
  (state.1 ++ [reply], queue)

/-- Over any calls the buffer answers as a queue of frames does, and it holds that queue
after each of them. -/
theorem buffer_is_queue (fade : Fade) (channels : UInt8) (calls : List PcmCall) :
    ∃ replies buffer queue,
      Machine.run (bufferStep fade) calls ([], PcmBuffer.new channels) = .ok (replies, buffer) ∧
      calls.foldl (fun state call => queueStep fade (max channels 1).toNat call state) ([], []) = (replies, queue) ∧
      Holds (max channels 1).toNat buffer queue := by
  have simulated : ∃ final, Machine.run (bufferStep fade) calls ([], PcmBuffer.new channels) = .ok final ∧
      final.1 = (calls.foldl (fun state call => queueStep fade (max channels 1).toNat call state) ([], [])).1 ∧
      Holds (max channels 1).toNat final.2
        (calls.foldl (fun state call => queueStep fade (max channels 1).toNat call state) ([], [])).2 :=
    Machine.simulates (bufferStep fade) (queueStep fade (max channels 1).toNat)
      (fun state shadow => state.1 = shadow.1 ∧ Holds (max channels 1).toNat state.2 shadow.2) ?_ calls ⟨rfl, .new channels⟩
  · obtain ⟨⟨replies, buffer⟩, ran, answered, holds⟩ := simulated
    exact ⟨replies, buffer, _, ran, Prod.ext answered.symm rfl, holds⟩
  · intro call state shadow related
    obtain ⟨next, called, holds⟩ := bufferCall_ok fade related.2 call
    have answered : bufferStep fade call state =
        .ok (state.1 ++ [(queueCall fade (max channels 1).toNat call shadow.2).1], next) := by
      rw [bufferStep, called]
      rfl
    refine ⟨_, answered, ?_, holds⟩
    rw [related.1]
    rfl

end Xpra.Proofs.PcmQueue
