import Xpra.Client.Checked

/-! The queue of decoded samples between the Opus decoder and the sound device
(`client/audio.rs`). Differences of sizes are checked, so that a total that drifts
shows as a fault; sums and products count samples held in memory. -/

namespace Xpra.Client
open Xpra.Net Checked

def SAMPLE_RATE : Nat := 48000
def HARD_CAP_MS : Nat := 500

structure PcmChunk where
  samples : List Int16
  frameOffset : Nat

structure PcmBuffer where
  channels : Nat
  chunks : List PcmChunk
  frames : Nat

namespace PcmBuffer

def new (channels : UInt8) : PcmBuffer := { channels := (max channels 1).toNat, chunks := [], frames := 0 }

def push (buffer : PcmBuffer) (samples : List Int16) : PcmBuffer :=
  let remainder := samples.length % buffer.channels
  let samples := if remainder ≠ 0 then samples.take (samples.length - remainder) else samples
  let frames := samples.length / buffer.channels
  if frames ≠ 0 then
    { buffer with frames := buffer.frames + frames, chunks := buffer.chunks ++ [{ samples, frameOffset := 0 }] }
  else buffer

/-- The loop of `pop_into`. A front chunk that is not used up has given all that was
still wanted, so the loop ends there. -/
def popChunks (channels want : Nat) : List PcmChunk → (destination : List Int16) → (copiedFrames : Nat) →
    Except Fault (List PcmChunk × List Int16 × Nat)
  | [], destination, copiedFrames => .ok ([], destination, copiedFrames)
  | front :: chunks, destination, copiedFrames =>
    if copiedFrames < want then do
      let available ← sub (front.samples.length / channels) front.frameOffset
      let left ← sub want copiedFrames
      let take := min available left
      let srcStart := front.frameOffset * channels
      let srcEnd := srcStart + take * channels
      let dstStart := copiedFrames * channels
      let dstEnd := dstStart + take * channels
      if dstEnd ≤ destination.length ∧ srcEnd ≤ front.samples.length then
        let source := (front.samples.drop srcStart).take (take * channels)
        let destination := destination.take dstStart ++ source ++ destination.drop dstEnd
        let front := { front with frameOffset := front.frameOffset + take }
        let copiedFrames := copiedFrames + take
        if front.frameOffset = front.samples.length / channels then popChunks channels want chunks destination copiedFrames
        else return (front :: chunks, destination, copiedFrames)
      else .error (.panic .bounds)
    else .ok (front :: chunks, destination, copiedFrames)

/-- The destination after the call, and the frames copied into it. -/
def popInto (buffer : PcmBuffer) (destination : List Int16) (requestedFrames : Nat) :
    Except Fault (PcmBuffer × List Int16 × Nat) := do
  let want := min (min requestedFrames buffer.frames) (destination.length / buffer.channels)
  let (chunks, destination, copiedFrames) ← popChunks buffer.channels want buffer.chunks destination 0
  let frames ← sub buffer.frames copiedFrames
  return ({ buffer with chunks, frames }, destination, copiedFrames)

/-- The loop of `discard_frames`, with the frames it could not discard. -/
def discardChunks (channels : Nat) : List PcmChunk → (frames : Nat) → Except Fault (List PcmChunk × Nat)
  | [], frames => .ok ([], frames)
  | front :: chunks, frames =>
    if frames ≠ 0 then do
      let available ← sub (front.samples.length / channels) front.frameOffset
      let take := min available frames
      let front := { front with frameOffset := front.frameOffset + take }
      let frames ← sub frames take
      if front.frameOffset = front.samples.length / channels then discardChunks channels chunks frames
      else return (front :: chunks, frames)
    else .ok (front :: chunks, frames)

def discardFrames (buffer : PcmBuffer) (frames : Nat) : Except Fault PcmBuffer := do
  let original := min frames buffer.frames
  let (chunks, frames) ← discardChunks buffer.channels buffer.chunks frames
  let discarded ← sub original frames
  let frames ← sub buffer.frames discarded
  return { buffer with chunks, frames }

/-- `sample * (position / fade_frames)` in 32-bit floating point. -/
structure Fade where
  scale : (position fadeFrames : Nat) → Int16 → Int16

variable (fade : Fade)

def fadeFrame (channels position fadeFrames base : Nat) (samples : List Int16) : Except Fault (List Int16) :=
  (List.range channels).foldlM (fun samples channel =>
    match samples[base + channel]? with
    | some sample => .ok (samples.set (base + channel) (fade.scale position fadeFrames sample))
    | none => .error (.panic .bounds)) samples

def fadeChunks (channels fadeFrames : Nat) : List PcmChunk → (remaining position : Nat) → Except Fault (List PcmChunk)
  | [], _, _ => .ok []
  | chunk :: chunks, remaining, position => do
    let available ← sub (chunk.samples.length / channels) chunk.frameOffset
    let take := min available remaining
    let samples ← (List.range take).foldlM (fun samples frame =>
      fadeFrame fade channels (position + frame) fadeFrames ((chunk.frameOffset + frame) * channels) samples) chunk.samples
    let position := position + take
    let remaining ← sub remaining take
    if remaining = 0 then return { chunk with samples } :: chunks
    else
      let chunks ← fadeChunks channels fadeFrames chunks remaining position
      return { chunk with samples } :: chunks

def fadeIn (buffer : PcmBuffer) (fadeFrames : Nat) : Except Fault PcmBuffer := do
  let remaining := min fadeFrames buffer.frames
  let chunks ← fadeChunks fade buffer.channels fadeFrames buffer.chunks remaining 0
  return { buffer with chunks }

def CAP_FRAMES : Nat := SAMPLE_RATE * HARD_CAP_MS / 1000
def FADE_FRAMES : Nat := SAMPLE_RATE * 5 / 1000

/-- The frames dropped come with the buffer. -/
def enforceHardCap (buffer : PcmBuffer) : Except Fault (PcmBuffer × Nat) :=
  if buffer.frames ≤ CAP_FRAMES then .ok (buffer, 0)
  else do
    let dropFrames ← sub buffer.frames CAP_FRAMES
    let buffer ← buffer.discardFrames dropFrames
    let buffer ← buffer.fadeIn fade FADE_FRAMES
    return (buffer, dropFrames)

end PcmBuffer
end Xpra.Client
