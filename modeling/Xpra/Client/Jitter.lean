import Mathlib.Data.List.Sort
import Xpra.Client.Audio
import Xpra.Client.Checked

/-! The delay that the speaker aims for (`AdaptiveJitter` in `client/audio.rs`). A build
with overflow checks stops where a sum or a product leaves the 32 bits, and a release
build wraps. -/

namespace Xpra.Client
open Checked (Fault)

def MIN_TARGET_MS : UInt32 := 80
def MAX_TARGET_MS : UInt32 := 400

def add32 (checks : Bool) (a b : UInt32) : Except Fault UInt32 :=
  if checks ∧ 2 ^ 32 ≤ a.toNat + b.toNat then .error .overflow else .ok (a + b)

def mul32 (checks : Bool) (a b : UInt32) : Except Fault UInt32 :=
  if checks ∧ 2 ^ 32 ≤ a.toNat * b.toNat then .error .overflow else .ok (a * b)

/-- `a.saturating_sub(b)`. -/
def saturatingSub64 (a b : UInt64) : UInt64 := if b ≤ a then a - b else 0

def saturatingSub32 (a b : UInt32) : UInt32 := if b ≤ a then a - b else 0

def absDiff (a b : UInt32) : UInt32 := if a ≤ b then b - a else a - b

structure AdaptiveJitter where
  targetMs : UInt32
  /-- The oldest sample first. -/
  jitterMs : List UInt32
  lastArrivalMs : Option UInt64
  lastDurationMs : UInt32
  stableSinceMs : UInt64
  deriving DecidableEq

namespace AdaptiveJitter

def new (nowMs : UInt64) : AdaptiveJitter :=
  { targetMs := .ofNat START_TARGET_MS, jitterMs := [], lastArrivalMs := none, lastDurationMs := 0, stableSinceMs := nowMs }

/-- The loop that takes samples from the front while there are more than 256. -/
def trim : List UInt32 → List UInt32
  | [] => []
  | front :: rest => if (front :: rest).length > 256 then trim rest else front :: rest

def observePacket (jitter : AdaptiveJitter) (nowMs : UInt64) (durationMs : UInt32) : AdaptiveJitter :=
  let jitterMs := match jitter.lastArrivalMs with
    | some last =>
      let actual := (min (saturatingSub64 nowMs last) 0xFFFFFFFF).toUInt32
      trim (jitter.jitterMs ++ [absDiff actual jitter.lastDurationMs])
    | none => jitter.jitterMs
  { jitter with jitterMs, lastArrivalMs := some nowMs, lastDurationMs := durationMs }

def underrun (checks : Bool) (jitter : AdaptiveJitter) (nowMs : UInt64) : Except Fault AdaptiveJitter := do
  let raised ← add32 checks jitter.targetMs 40
  return { jitter with targetMs := min raised MAX_TARGET_MS, stableSinceMs := nowMs }

def p95JitterMs (jitter : AdaptiveJitter) : UInt32 :=
  if jitter.jitterMs = [] then 0
  else
    let values := jitter.jitterMs.insertionSort (· ≤ ·)
    let index := ((values.length - 1) * 95 + 99) / 100
    values.getD (min index (values.length - 1)) 0

/-- The second part tells whether the target has changed. -/
def updateStable (checks : Bool) (jitter : AdaptiveJitter) (nowMs : UInt64) : Except Fault (AdaptiveJitter × Bool) :=
  if saturatingSub64 nowMs jitter.stableSinceMs < 30000 then .ok (jitter, false)
  else do
    let twice ← mul32 checks 2 jitter.p95JitterMs
    let sum ← add32 checks MIN_TARGET_MS twice
    let floor := min (max sum MIN_TARGET_MS) MAX_TARGET_MS
    let old := jitter.targetMs
    let targetMs := if jitter.targetMs > floor then max (saturatingSub32 jitter.targetMs 10) floor else jitter.targetMs
    return ({ jitter with targetMs, stableSinceMs := nowMs }, targetMs ≠ old)

end AdaptiveJitter
end Xpra.Client
