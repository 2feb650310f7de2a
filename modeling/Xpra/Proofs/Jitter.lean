import Xpra.Client.Jitter
import Xpra.Library.Machine
import Xpra.Library.Rank

/-! The delay that the speaker aims for, over any sequence of arrivals, underruns and
quiet times. -/

namespace Xpra.Proofs.Jitter
open Xpra.Net Xpra.Client Library
open Checked (Fault)

/-! ### Calls -/

inductive Call where
  | observePacket (nowMs : UInt64) (durationMs : UInt32)
  | underrun (nowMs : UInt64)
  | updateStable (nowMs : UInt64)

namespace Call

def nowMs : Call → UInt64
  | .observePacket nowMs _ | .underrun nowMs | .updateStable nowMs => nowMs

def step (checks : Bool) (call : Call) (jitter : AdaptiveJitter) : Except Fault AdaptiveJitter :=
  match call with
  | .observePacket nowMs durationMs => .ok (jitter.observePacket nowMs durationMs)
  | .underrun nowMs => jitter.underrun checks nowMs
  | .updateStable nowMs => (jitter.updateStable checks nowMs).map Prod.fst

end Call

/-! ### The samples of a history -/

/-- The packets that have arrived, with their durations. -/
def arrivals (calls : List Call) : List (UInt64 × UInt32) :=
  calls.filterMap fun call => match call with
    | .observePacket nowMs durationMs => some (nowMs, durationMs)
    | .underrun _ | .updateStable _ => none

/-- How far a packet comes from where the one before it would have ended. -/
def sample (first second : UInt64 × UInt32) : ℕ :=
  ((min (second.1.toNat - first.1.toNat) (2 ^ 32 - 1) : ℕ) - first.2.toNat : ℤ).natAbs

def samples : List (UInt64 × UInt32) → List ℕ
  | first :: second :: rest => sample first second :: samples (second :: rest)
  | _ => []

/-- The last 256 samples. -/
def recent (calls : List Call) : List ℕ := (samples (arrivals calls)).drop ((samples (arrivals calls)).length - 256)

/-- At least 95% of the samples are not above this one. -/
def Covers (samples : List ℕ) (p : ℕ) : Prop :=
  samples = [] ∧ p = 0 ∨ p ∈ samples ∧ 95 * samples.length ≤ 100 * samples.countP (· ≤ p)

/-- The limits of the target, in exact integers. -/
def floorOf (p : ℕ) : ℕ := min (max (80 + 2 * p) 80) 400

/-! ### What a call may do -/

def Bounded (jitter : AdaptiveJitter) : Prop := 80 ≤ jitter.targetMs.toNat ∧ jitter.targetMs.toNat ≤ 400

/-- A target rises in an underrun only and falls in a quiet time only, and not below the
floor that the samples so far ask for. -/
def Moves (samples : List ℕ) (call : Call) (jitter next : AdaptiveJitter) : Prop :=
  match call with
  | .observePacket _ _ => next.targetMs = jitter.targetMs
  | .underrun _ => next.targetMs.toNat = jitter.targetMs.toNat + min 40 (400 - jitter.targetMs.toNat)
  | .updateStable _ => next.targetMs = jitter.targetMs ∨
      next.targetMs.toNat < jitter.targetMs.toNat ∧ jitter.targetMs.toNat ≤ next.targetMs.toNat + 10 ∧
        ∃ p, Covers samples p ∧ floorOf p ≤ next.targetMs.toNat

/-- The floor's arithmetic stays in 32 bits: of the last samples enough are below 2^31 - 40. -/
def Low (samples : List ℕ) : Prop :=
  samples = [] ∨ ((samples.length - 1) * 95 + 99) / 100 < samples.countP (· < 2 ^ 31 - 40)

/-- Once 30 seconds have been stable, the samples are low. -/
def FloorFits (call : Call) (jitter : AdaptiveJitter) : Prop :=
  match call with
  | .observePacket _ _ | .underrun _ => True
  | .updateStable nowMs => 30000 ≤ nowMs.toNat - jitter.stableSinceMs.toNat → Low (jitter.jitterMs.map UInt32.toNat)

/-! ### Arithmetic of the source -/

theorem toNat_saturatingSub64 (a b : UInt64) : (saturatingSub64 a b).toNat = a.toNat - b.toNat := by
  rw [saturatingSub64]
  split
  next fits => exact UInt64.toNat_sub_of_le _ _ fits
  next under =>
    rw [UInt64.le_iff_toNat_le] at under
    exact (Nat.sub_eq_zero_of_le (by omega)).symm

theorem toNat_saturatingSub32 (a b : UInt32) : (saturatingSub32 a b).toNat = a.toNat - b.toNat := by
  rw [saturatingSub32]
  split
  next fits => exact UInt32.toNat_sub_of_le _ _ fits
  next under =>
    rw [UInt32.le_iff_toNat_le] at under
    exact (Nat.sub_eq_zero_of_le (by omega)).symm

theorem toNat_absDiff (a b : UInt32) : (absDiff a b).toNat = ((a.toNat : ℤ) - b.toNat).natAbs := by
  rw [absDiff]
  split
  next below =>
    rw [UInt32.toNat_sub_of_le _ _ below]
    rw [UInt32.le_iff_toNat_le] at below
    omega
  next above =>
    rw [UInt32.le_iff_toNat_le] at above
    rw [UInt32.toNat_sub_of_le _ _ (UInt32.le_iff_toNat_le.mpr (by omega))]
    omega

theorem toNat_min (a b : UInt32) : (min a b).toNat = min a.toNat b.toNat := by
  change (if a ≤ b then a else b).toNat = _
  split
  next below =>
    rw [UInt32.le_iff_toNat_le] at below
    omega
  next above =>
    rw [UInt32.le_iff_toNat_le] at above
    omega

theorem toNat_max (a b : UInt32) : (max a b).toNat = max a.toNat b.toNat := by
  change (if a ≤ b then b else a).toNat = _
  split
  next below =>
    rw [UInt32.le_iff_toNat_le] at below
    omega
  next above =>
    rw [UInt32.le_iff_toNat_le] at above
    omega

/-- The time between two packets, cut off at the largest duration. -/
theorem toNat_elapsed (first second : UInt64) : (min (saturatingSub64 second first) 0xFFFFFFFF).toUInt32.toNat =
    min (second.toNat - first.toNat) (2 ^ 32 - 1) := by
  have difference := toNat_saturatingSub64 second first
  have largest : (0xFFFFFFFF : UInt64).toNat = 2 ^ 32 - 1 := rfl
  have least : (min (saturatingSub64 second first) 0xFFFFFFFF).toNat = min (second.toNat - first.toNat) (2 ^ 32 - 1) := by
    change (if saturatingSub64 second first ≤ 0xFFFFFFFF then saturatingSub64 second first else 0xFFFFFFFF).toNat = _
    split
    next below =>
      rw [UInt64.le_iff_toNat_le] at below
      omega
    next above =>
      rw [UInt64.le_iff_toNat_le] at above
      omega
  rw [UInt64.toNat_toUInt32, least]
  omega

theorem add32_fits {checks : Bool} {a b : UInt32} (fits : a.toNat + b.toNat < 2 ^ 32) :
    ∃ sum, add32 checks a b = .ok sum ∧ sum.toNat = a.toNat + b.toNat := by
  refine ⟨a + b, if_neg (fun exceeds => ?_), ?_⟩
  · omega
  · rw [UInt32.toNat_add, Nat.mod_eq_of_lt fits]

theorem mul32_fits {checks : Bool} {a b : UInt32} (fits : a.toNat * b.toNat < 2 ^ 32) :
    ∃ product, mul32 checks a b = .ok product ∧ product.toNat = a.toNat * b.toNat := by
  refine ⟨a * b, if_neg (fun exceeds => ?_), ?_⟩
  · omega
  · rw [UInt32.toNat_mul, Nat.mod_eq_of_lt fits]

theorem add32_checked {a b sum : UInt32} (added : add32 true a b = .ok sum) : a.toNat + b.toNat < 2 ^ 32 ∧ sum = a + b := by
  rw [add32] at added
  split at added
  next => cases added
  next fits =>
    cases added
    exact ⟨Nat.lt_of_not_le fun exceeds => fits ⟨rfl, exceeds⟩, rfl⟩

theorem mul32_checked {a b product : UInt32} (multiplied : mul32 true a b = .ok product) :
    a.toNat * b.toNat < 2 ^ 32 ∧ product = a * b := by
  rw [mul32] at multiplied
  split at multiplied
  next => cases multiplied
  next fits =>
    cases multiplied
    exact ⟨Nat.lt_of_not_le fun exceeds => fits ⟨rfl, exceeds⟩, rfl⟩

/-! ### The percentile -/

variable {checks : Bool} {jitter next : AdaptiveJitter}

theorem p95_eq (present : jitter.jitterMs ≠ []) {samples : List ℕ} (same : jitter.jitterMs.map UInt32.toNat = samples) :
    ∃ inside : ((samples.length - 1) * 95 + 99) / 100 < samples.length,
      jitter.p95JitterMs.toNat = Rank.atPlace samples (((samples.length - 1) * 95 + 99) / 100) inside := by
  have length : jitter.jitterMs.length = samples.length := by rw [← same, List.length_map]
  have positive := List.length_pos_iff.mpr present
  have inside : ((samples.length - 1) * 95 + 99) / 100 < samples.length := by omega
  have sorted : (jitter.jitterMs.insertionSort (· ≤ ·)).map UInt32.toNat = samples.insertionSort (· ≤ ·) := by
    rw [← same, List.map_insertionSort (· ≤ ·) (· ≤ ·)]
    intro first _ second _
    exact UInt32.le_iff_toNat_le
  have index : min (((samples.length - 1) * 95 + 99) / 100) (samples.length - 1) = ((samples.length - 1) * 95 + 99) / 100 := by omega
  refine ⟨inside, ?_⟩
  rw [AdaptiveJitter.p95JitterMs, if_neg present]
  simp only [List.length_insertionSort, length, index]
  have place : ((samples.length - 1) * 95 + 99) / 100 < (jitter.jitterMs.insertionSort (· ≤ ·)).length := by
    rwa [List.length_insertionSort, length]
  simp only [Rank.atPlace, List.get_eq_getElem, ← sorted, List.getElem_map, List.getD_eq_getElem?_getD,
    List.getElem?_eq_getElem place, Option.getD_some]

theorem covers_p95 {samples : List ℕ} (same : jitter.jitterMs.map UInt32.toNat = samples) :
    Covers samples jitter.p95JitterMs.toNat := by
  by_cases empty : jitter.jitterMs = []
  · rw [empty] at same
    left
    rw [AdaptiveJitter.p95JitterMs, if_pos empty]
    exact ⟨same.symm, rfl⟩
  · obtain ⟨inside, value⟩ := p95_eq empty same
    have count := Rank.place_lt_countP_le inside
    rw [value]
    exact .inr ⟨Rank.atPlace_mem inside, by omega⟩

theorem low_iff {samples : List ℕ} (same : jitter.jitterMs.map UInt32.toNat = samples) :
    Low samples ↔ jitter.p95JitterMs.toNat < 2 ^ 31 - 40 := by
  by_cases empty : jitter.jitterMs = []
  · rw [empty] at same
    rw [Low, ← same, AdaptiveJitter.p95JitterMs, if_pos empty]
    simp
  · obtain ⟨inside, value⟩ := p95_eq empty same
    have present : samples ≠ [] := by
      rintro rfl
      cases inside
    rw [Low, value, Rank.atPlace_lt_iff, or_iff_right present]

/-! ### One call -/

theorem Moves.bounded {samples : List ℕ} {call : Call} (moves : Moves samples call jitter next) (bounded : Bounded jitter) :
    Bounded next := by
  rw [Bounded] at bounded ⊢
  cases call with
  | observePacket nowMs durationMs =>
    rw [Moves] at moves
    rwa [moves]
  | underrun nowMs =>
    rw [Moves] at moves
    omega
  | updateStable nowMs =>
    rcases moves with same | ⟨falls, slow, p, -, above⟩
    · rwa [same]
    · rw [floorOf] at above
      omega

/-- A call that sees no packet. -/
structure Quiet (jitter next : AdaptiveJitter) : Prop where
  samples : next.jitterMs = jitter.jitterMs
  arrival : next.lastArrivalMs = jitter.lastArrivalMs
  duration : next.lastDurationMs = jitter.lastDurationMs

/-- The start of the stable time moves to the call or stays, and before a fall 30 seconds
have been stable. -/
structure Timed (call : Call) (jitter next : AdaptiveJitter) : Prop where
  moved : next.stableSinceMs = jitter.stableSinceMs ∨ next.stableSinceMs = call.nowMs
  fallen : next.targetMs < jitter.targetMs →
    30000 ≤ call.nowMs.toNat - jitter.stableSinceMs.toNat ∧ next.stableSinceMs = call.nowMs

theorem underrun_moves (checks : Bool) (bounded : Bounded jitter) (samples : List ℕ) (nowMs : UInt64) :
    ∃ next, (Call.underrun nowMs).step checks jitter = .ok next ∧ Quiet jitter next ∧
      Moves samples (.underrun nowMs) jitter next ∧ Timed (.underrun nowMs) jitter next := by
  rw [Bounded] at bounded
  have forty : (40 : UInt32).toNat = 40 := rfl
  have most : MAX_TARGET_MS.toNat = 400 := rfl
  obtain ⟨sum, added, value⟩ : ∃ sum, add32 checks jitter.targetMs 40 = .ok sum ∧
      sum.toNat = jitter.targetMs.toNat + (40 : UInt32).toNat := add32_fits (by omega)
  have raised : (min sum MAX_TARGET_MS).toNat = jitter.targetMs.toNat + min 40 (400 - jitter.targetMs.toNat) := by
    rw [toNat_min]
    omega
  refine ⟨{ jitter with targetMs := min sum MAX_TARGET_MS, stableSinceMs := nowMs }, ?_, ⟨rfl, rfl, rfl⟩, raised, .inr rfl, ?_⟩
  · rw [Call.step, AdaptiveJitter.underrun, added]
    rfl
  · intro falls
    have falls : (min sum MAX_TARGET_MS).toNat < jitter.targetMs.toNat := UInt32.lt_iff_toNat_lt.mp falls
    omega

theorem updateStable_moves (checks : Bool) {samples : List ℕ} (same : jitter.jitterMs.map UInt32.toNat = samples)
    {nowMs : UInt64} (fits : FloorFits (.updateStable nowMs) jitter) :
    ∃ next, (Call.updateStable nowMs).step checks jitter = .ok next ∧ Quiet jitter next ∧
      Moves samples (.updateStable nowMs) jitter next ∧ Timed (.updateStable nowMs) jitter next := by
  have gate : saturatingSub64 nowMs jitter.stableSinceMs < 30000 ↔ nowMs.toNat - jitter.stableSinceMs.toNat < 30000 := by
    rw [UInt64.lt_iff_toNat_lt, toNat_saturatingSub64]
    rfl
  rw [Call.step, AdaptiveJitter.updateStable]
  split
  next early =>
    refine ⟨jitter, rfl, ⟨rfl, rfl, rfl⟩, .inl rfl, .inl rfl, ?_⟩
    intro falls
    exact absurd falls (UInt32.lt_irrefl _)
  next open' =>
    have late := Nat.not_lt.mp (mt gate.mpr open')
    have two : (2 : UInt32).toNat = 2 := rfl
    have ten : (10 : UInt32).toNat = 10 := rfl
    have least : MIN_TARGET_MS.toNat = 80 := rfl
    have most : MAX_TARGET_MS.toNat = 400 := rfl
    have small := (low_iff same).mp (same ▸ fits late)
    have covers := covers_p95 same
    obtain ⟨twice, doubled, double⟩ : ∃ twice, mul32 checks 2 jitter.p95JitterMs = .ok twice ∧
        twice.toNat = 2 * jitter.p95JitterMs.toNat := mul32_fits (by rw [two]; omega)
    obtain ⟨sum, added, total⟩ : ∃ sum, add32 checks MIN_TARGET_MS twice = .ok sum ∧
        sum.toNat = MIN_TARGET_MS.toNat + twice.toNat := add32_fits (by omega)
    have floor : (min (max sum MIN_TARGET_MS) MAX_TARGET_MS).toNat = floorOf jitter.p95JitterMs.toNat := by
      rw [toNat_min, toNat_max, floorOf]
      omega
    rw [doubled]
    simp only [bind, Except.bind, added]
    generalize min (max sum MIN_TARGET_MS) MAX_TARGET_MS = limit at *
    refine ⟨_, rfl, ⟨rfl, rfl, rfl⟩, ?_, .inr rfl, fun _ => ⟨late, rfl⟩⟩
    by_cases above : jitter.targetMs > limit
    · right
      have lowered : (max (saturatingSub32 jitter.targetMs 10) limit).toNat =
          max (jitter.targetMs.toNat - (10 : UInt32).toNat) (floorOf jitter.p95JitterMs.toNat) := by
        rw [toNat_max, toNat_saturatingSub32, floor]
      have higher : limit.toNat < jitter.targetMs.toNat := UInt32.lt_iff_toNat_lt.mp above
      simp only [above, if_true, lowered]
      exact ⟨by omega, by omega, jitter.p95JitterMs.toNat, covers, Nat.le_max_right _ _⟩
    · left
      exact if_neg above

/-- A build that checks its sums goes on only where the floor fits. -/
theorem floorFits_of_returned {call : Call} (stepped : call.step true jitter = .ok next) : FloorFits call jitter := by
  cases call with
  | observePacket nowMs durationMs => exact trivial
  | underrun nowMs => exact trivial
  | updateStable nowMs =>
    intro late
    obtain ⟨⟨later, changed⟩, updated, -⟩ := map_ok stepped
    rw [AdaptiveJitter.updateStable, if_neg] at updated
    · obtain ⟨twice, doubled, updated⟩ := bind_ok updated
      obtain ⟨sum, added, -⟩ := bind_ok updated
      obtain ⟨small, rfl⟩ := mul32_checked doubled
      obtain ⟨fits, -⟩ := add32_checked added
      have two : (2 : UInt32).toNat = 2 := rfl
      have least : MIN_TARGET_MS.toNat = 80 := rfl
      rw [UInt32.toNat_mul, Nat.mod_eq_of_lt small, two, least] at fits
      exact (low_iff rfl).mpr (by omega)
    · rw [UInt64.lt_iff_toNat_lt, toNat_saturatingSub64]
      exact Nat.not_lt.mpr late

/-! ### The window of samples -/

theorem trim_eq (values : List UInt32) : AdaptiveJitter.trim values = values.drop (values.length - 256) := by
  induction values with
  | nil => rfl
  | cons front rest ih =>
    rw [AdaptiveJitter.trim, List.length_cons]
    split
    next more => rw [ih, show rest.length + 1 - 256 = rest.length - 256 + 1 by omega, List.drop_succ_cons]
    next few => rw [Nat.sub_eq_zero_of_le (by omega), List.drop_zero]

theorem samples_snoc (before : List (UInt64 × UInt32)) (last next : UInt64 × UInt32) :
    samples (before ++ [last, next]) = samples (before ++ [last]) ++ [sample last next] := by
  induction before with
  | nil => rfl
  | cons first before ih =>
    cases before with
    | nil => rfl
    | cons second before => exact congrArg (sample first second :: ·) ih

/-- The window of a longer history is cut from the old window and the new sample. -/
theorem window_snoc (values : List ℕ) (value : ℕ) :
    (values.drop (values.length - 256) ++ [value]).drop ((values.drop (values.length - 256) ++ [value]).length - 256) =
      (values ++ [value]).drop ((values ++ [value]).length - 256) := by
  have moved : values.drop (values.length - 256) ++ [value] = (values ++ [value]).drop (values.length - 256) :=
    (List.drop_append_of_le_length (Nat.sub_le _ _)).symm
  have total : (values ++ [value]).length = values.length + 1 := List.length_append
  rw [moved, List.drop_drop, List.length_drop, total]
  exact congrArg (List.drop · (values ++ [value])) (by omega)

/-! ### Any sequence of calls -/

/-- After a history of calls. -/
structure Holds (history : List Call) (jitter : AdaptiveJitter) : Prop where
  bounded : Bounded jitter
  window : jitter.jitterMs.map UInt32.toNat = recent history
  last : (arrivals history).getLast? = jitter.lastArrivalMs.map fun arrival => (arrival, jitter.lastDurationMs)

variable {history : List Call}

theorem Holds.quiet (holds : Holds history jitter) (quiet : Quiet jitter next) {call : Call} (silent : arrivals [call] = [])
    (bounded : Bounded next) : Holds (history ++ [call]) next := by
  have arrived : arrivals (history ++ [call]) = arrivals history := by
    rw [arrivals, List.filterMap_append, ← arrivals, ← arrivals, silent, List.append_nil]
  refine ⟨bounded, ?_, ?_⟩
  · rw [quiet.samples, holds.window, recent, recent, arrived]
  · rw [arrived, quiet.arrival, quiet.duration, holds.last]

theorem Holds.observe (holds : Holds history jitter) (nowMs : UInt64) (durationMs : UInt32) :
    Holds (history ++ [.observePacket nowMs durationMs]) (jitter.observePacket nowMs durationMs) := by
  have arrived : arrivals (history ++ [.observePacket nowMs durationMs]) = arrivals history ++ [(nowMs, durationMs)] :=
    List.filterMap_append
  refine ⟨holds.bounded, ?_, ?_⟩
  · rw [AdaptiveJitter.observePacket, recent, arrived]
    have last := holds.last
    have window := holds.window
    cases arrival : jitter.lastArrivalMs with
    | none =>
      rw [arrival, Option.map_none, List.getLast?_eq_none_iff] at last
      rw [recent, last] at window
      rw [last]
      exact window
    | some before =>
      rw [arrival, Option.map_some] at last
      obtain ⟨earlier, split⟩ := List.getLast?_eq_some_iff.mp last
      have window' := window_snoc (samples (earlier ++ [(before, jitter.lastDurationMs)]))
        (sample (before, jitter.lastDurationMs) (nowMs, durationMs))
      rw [recent, split] at window
      rw [split, List.append_assoc, List.singleton_append, samples_snoc, ← window', ← window]
      simp only [trim_eq, List.map_drop, List.map_append, List.map_singleton, toNat_absDiff, toNat_elapsed, List.length_append,
        List.length_map, List.length_singleton]
      rfl
  · rw [arrived, List.getLast?_concat]
    rfl

theorem step_holds (checks : Bool) (holds : Holds history jitter) {call : Call} (fits : FloorFits call jitter) :
    ∃ next, call.step checks jitter = .ok next ∧ Holds (history ++ [call]) next ∧ Moves (recent history) call jitter next ∧
      Timed call jitter next := by
  cases call with
  | observePacket nowMs durationMs =>
    refine ⟨_, rfl, holds.observe nowMs durationMs, rfl, .inl rfl, ?_⟩
    intro falls
    exact absurd falls (UInt32.lt_irrefl _)
  | underrun nowMs =>
    obtain ⟨next, stepped, quiet, moves, timed⟩ := underrun_moves checks holds.bounded (recent history) nowMs
    exact ⟨next, stepped, holds.quiet quiet rfl (moves.bounded holds.bounded), moves, timed⟩
  | updateStable nowMs =>
    obtain ⟨next, stepped, quiet, moves, timed⟩ := updateStable_moves checks holds.window fits
    exact ⟨next, stepped, holds.quiet quiet rfl (moves.bounded holds.bounded), moves, timed⟩

theorem holds_new (start : UInt64) : Holds [] (.new start) := ⟨(by decide : 80 ≤ 120 ∧ 120 ≤ 400), rfl, rfl⟩

variable {start : UInt64} {calls : List Call}

theorem run_holds (fits : Machine.Along (Call.step checks) FloorFits calls (.new start)) :
    ∃ final, Machine.run (Call.step checks) calls (.new start) = .ok final ∧ Holds calls final := by
  induction calls using List.reverseRecOn with
  | nil => exact ⟨_, rfl, holds_new start⟩
  | append_singleton calls call ih =>
    obtain ⟨before, last⟩ := (Machine.along_append (Call.step checks)).mp fits
    obtain ⟨middle, ran, holds⟩ := ih before
    obtain ⟨next, stepped, kept, -, -⟩ := step_holds checks holds (last middle ran).1
    refine ⟨next, ?_, kept⟩
    rw [Machine.run_append, ran]
    exact (Machine.run_cons_ok (Call.step checks)).mpr ⟨next, stepped, rfl⟩

/-- The times of the calls do not go back. -/
def Ordered (start : UInt64) (calls : List Call) : Prop := (start :: calls.map Call.nowMs).Pairwise (· ≤ ·)

theorem stable_since (moment : UInt64) {calls : List Call} {final : AdaptiveJitter} (later : ∀ call ∈ calls, moment ≤ call.nowMs)
    (fits : Machine.Along (Call.step checks) FloorFits calls jitter) (holds : Holds history jitter)
    (since : moment ≤ jitter.stableSinceMs) (ran : Machine.run (Call.step checks) calls jitter = .ok final) :
    moment ≤ final.stableSinceMs := by
  induction calls generalizing jitter history with
  | nil =>
    cases ran
    exact since
  | cons call rest ih =>
    obtain ⟨next, stepped, kept, -, timed⟩ := step_holds checks holds fits.1
    obtain ⟨other, same, remaining⟩ := (Machine.run_cons_ok (Call.step checks)).mp ran
    cases stepped.symm.trans same
    apply ih _ (fits.2 next stepped) kept _ remaining
    · intro other member
      exact later other (List.mem_cons_of_mem _ member)
    · rcases timed.moved with stays | moves
      · rw [stays]
        exact since
      · rw [moves]
        exact later call List.mem_cons_self

/-- A call that lowers the target. -/
def Falls (checks : Bool) (calls : List Call) (start : UInt64) (call : Call) : Prop :=
  ∃ jitter next, Machine.run (Call.step checks) calls (.new start) = .ok jitter ∧ call.step checks jitter = .ok next ∧
    next.targetMs < jitter.targetMs

theorem falls_apart {before between after : List Call} {first second : Call} (split : calls = before ++ first :: (between ++ second :: after))
    (ordered : Ordered start calls) (fits : Machine.Along (Call.step checks) FloorFits calls (.new start))
    (falls : Falls checks before start first) (again : Falls checks (before ++ first :: between) start second) :
    first.nowMs.toNat + 30000 ≤ second.nowMs.toNat := by
  subst split
  obtain ⟨jitter, next, ran, stepped, fell⟩ := falls
  obtain ⟨jitter', next', ran', stepped', fell'⟩ := again
  obtain ⟨fitsBefore, fitsRest⟩ := (Machine.along_append (Call.step checks)).mp fits
  obtain ⟨fitsFirst, fitsLater⟩ := fitsRest jitter ran
  obtain ⟨fitsBetween, fitsSecond⟩ := (Machine.along_append (Call.step checks)).mp (fitsLater next stepped)
  have later : ∀ call ∈ between, first.nowMs ≤ call.nowMs := by
    intro call member
    have times := (List.pairwise_cons.mp ordered).2
    rw [List.map_append, List.map_cons] at times
    have following := (List.pairwise_cons.mp (List.pairwise_append.mp times).2.1).1
    exact following _ (List.mem_map_of_mem (List.mem_append_left _ member))
  have ranBetween : Machine.run (Call.step checks) between next = .ok jitter' := by
    rw [Machine.run_append, ran] at ran'
    obtain ⟨other, same, remaining⟩ := (Machine.run_cons_ok (Call.step checks)).mp ran'
    cases stepped.symm.trans same
    exact remaining
  obtain ⟨state, ranState, holds⟩ := run_holds fitsBefore
  cases ran.symm.trans ranState
  obtain ⟨other, same, kept, -, timed⟩ := step_holds checks holds fitsFirst
  cases stepped.symm.trans same
  have since := stable_since first.nowMs later fitsBetween kept (UInt64.le_of_eq (timed.fallen fell).2.symm) ranBetween
  obtain ⟨same, ranSame, holds'⟩ : ∃ same, Machine.run (Call.step checks) (before ++ first :: between) (.new start) = .ok same ∧
      Holds (before ++ first :: between) same := by
    apply run_holds
    refine (Machine.along_append (Call.step checks)).mpr ⟨fitsBefore, ?_⟩
    intro middle here
    cases ran.symm.trans here
    refine ⟨fitsFirst, ?_⟩
    intro other there
    cases stepped.symm.trans there
    exact fitsBetween
  cases ran'.symm.trans ranSame
  obtain ⟨other', same', -, -, timed'⟩ := step_holds checks holds' (fitsSecond jitter' ranBetween).1
  cases stepped'.symm.trans same'
  have waited := (timed'.fallen fell').1
  rw [UInt64.le_iff_toNat_le] at since
  omega

/-- The target over a whole run. No call fails, so nothing overflows. -/
structure Kept (checks : Bool) (start : UInt64) (calls : List Call) : Prop where
  returns : ∃ final, Machine.run (Call.step checks) calls (.new start) = .ok final ∧ Bounded final
  moves : ∀ before call after, calls = before ++ call :: after → ∃ jitter next,
    Machine.run (Call.step checks) before (.new start) = .ok jitter ∧ call.step checks jitter = .ok next ∧
      Bounded jitter ∧ Moves (recent before) call jitter next
  apart : ∀ before first between second after, calls = before ++ first :: (between ++ second :: after) →
    Falls checks before start first → Falls checks (before ++ first :: between) start second →
      first.nowMs.toNat + 30000 ≤ second.nowMs.toNat

theorem kept_of_fits (ordered : Ordered start calls) (fits : Machine.Along (Call.step checks) FloorFits calls (.new start)) :
    Kept checks start calls := by
  constructor
  · obtain ⟨final, ran, holds⟩ := run_holds fits
    exact ⟨final, ran, holds.bounded⟩
  · rintro before call after rfl
    obtain ⟨first, rest⟩ := (Machine.along_append (Call.step checks)).mp fits
    obtain ⟨jitter, ran, holds⟩ := run_holds first
    obtain ⟨next, stepped, -, moves, -⟩ := step_holds checks holds (rest jitter ran).1
    exact ⟨jitter, next, ran, stepped, holds.bounded, moves⟩
  · intro before first between second after split falls again
    exact falls_apart split ordered fits falls again

theorem fits_of_returned {final : AdaptiveJitter} (ran : Machine.run (Call.step true) calls jitter = .ok final) :
    Machine.Along (Call.step true) FloorFits calls jitter := by
  induction calls generalizing jitter with
  | nil => trivial
  | cons call rest ih =>
    obtain ⟨next, stepped, later⟩ := (Machine.run_cons_ok (Call.step true)).mp ran
    refine ⟨floorFits_of_returned stepped, fun other same => ?_⟩
    cases stepped.symm.trans same
    exact ih later

/-- Where the floor fits at every call the target keeps to its rules in every build. A
build that checks its sums stops at the first call where it does not fit. -/
theorem target_kept (start : UInt64) (calls : List Call) (ordered : Ordered start calls) :
    (∀ checks, Machine.Along (Call.step checks) FloorFits calls (.new start) → Kept checks start calls) ∧
      (Kept true start calls ↔ Machine.Along (Call.step true) FloorFits calls (.new start)) := by
  refine ⟨fun checks fits => kept_of_fits ordered fits, fun kept => ?_, kept_of_fits ordered⟩
  obtain ⟨final, ran, -⟩ := kept.returns
  exact fits_of_returned ran

instance (samples : List ℕ) : Decidable (Low samples) :=
  inferInstanceAs (Decidable (samples = [] ∨ ((samples.length - 1) * 95 + 99) / 100 < samples.countP (· < 2 ^ 31 - 40)))

instance (call : Call) (jitter : AdaptiveJitter) : Decidable (FloorFits call jitter) :=
  match call with
  | .observePacket _ _ | .underrun _ => inferInstanceAs (Decidable True)
  | .updateStable nowMs => inferInstanceAs (Decidable
      (30000 ≤ nowMs.toNat - jitter.stableSinceMs.toNat → Low (jitter.jitterMs.map UInt32.toNat)))

instance (start : UInt64) (calls : List Call) : Decidable (Ordered start calls) :=
  inferInstanceAs (Decidable ((start :: calls.map Call.nowMs).Pairwise (· ≤ ·)))

theorem target_kept_quiet : Kept true 0 [.underrun 10, .observePacket 100 20, .observePacket 120 20, .updateStable 30010] ∧
    Kept false 0 [.underrun 10, .observePacket 100 20, .observePacket 120 20, .updateStable 30010] := by
  obtain ⟨fitting, checked⟩ :=
    target_kept 0 [.underrun 10, .observePacket 100 20, .observePacket 120 20, .updateStable 30010] (by decide)
  exact ⟨checked.mpr (by decide), fitting false (by decide)⟩

/-- A sample of 2^31 ms makes the floor overflow: it is then 80, and the target falls below
the 400 that the sample asks for. -/
theorem floor_overflows :
    let calls : List Call := [.observePacket 0 2147483648, .observePacket 0 0, .updateStable 30000]
    Ordered 0 calls ∧ ¬ Kept true 0 calls ∧ ¬ Kept false 0 calls := by
  refine ⟨by decide, ?_, ?_⟩
  · intro kept
    obtain ⟨final, ran, -⟩ := kept.returns
    cases ran
  · intro kept
    obtain ⟨jitter, next, ran, stepped, -, moves⟩ := kept.moves [.observePacket 0 2147483648, .observePacket 0 0]
      (.updateStable 30000) [] rfl
    cases ran
    cases stepped
    rcases moves with same | ⟨-, -, p, covers, above⟩
    · exact absurd same (by decide)
    · have only : p = 2147483648 := by
        rcases covers with ⟨empty, -⟩ | ⟨member, -⟩
        · exact absurd empty (by decide)
        · exact List.mem_singleton.mp member
      subst only
      exact absurd above (by decide)

end Xpra.Proofs.Jitter
