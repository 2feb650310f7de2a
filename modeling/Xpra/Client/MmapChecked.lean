import Xpra.Client.Checked

/-! The copy of an image out of the shared area as a build with overflow checks runs
it: arithmetic that leaves the 64-bit range stops the program instead of wrapping. -/

namespace Xpra.Client.Checked
open Xpra.Net

def copyLogical (area : Memory) : List (Nat × Nat) → (skip : Nat) → (dst : Bytes) → (written : Nat) → Except Fault Bytes
  | [], _, dst, _ => .ok dst
  | (offset, length) :: chunks, skip, dst, written =>
    if skip ≥ length then do
      let skip ← sub skip length
      copyLogical area chunks skip dst written
    else do
      let start ← add offset skip
      let left ← sub length skip
      let space ← sub dst.length written
      let take := min left space
      let reached ← add written take
      let stop ← add start take
      if reached ≤ dst.length ∧ stop ≤ area.size then
        let dst := dst.take written ++ area.slice start take ++ dst.drop reached
        if reached = dst.length then return dst else copyLogical area chunks 0 dst reached
      else .error (.panic .bounds)

def countAvailable (area : Memory) : List (Nat × Nat) → (available : Nat) → Except Fault (Except String Nat)
  | [], available => .ok (.ok available)
  | (offset, length) :: chunks, available =>
    -- `checked_add`
    if offset < HEADER_SIZE ∨ (if offset + length < USIZE then offset + length else USIZE - 1) > area.size then
      .ok (.error s!"mmap chunk ({offset}, {length}) is out of range")
    else do
      let available ← add available length
      countAvailable area chunks available

def copyRows (area : Memory) (chunks : List (Nat × Nat)) (widthBytes stride : Nat) (out : Bytes) (rows : List Nat) :
    Except Fault Bytes :=
  rows.foldlM (fun out row => do
    let lo ← mul row widthBytes
    let following ← add row 1
    let hi ← mul following widthBytes
    if lo ≤ hi ∧ hi ≤ out.length then
      let start ← mul row stride
      let copied ← copyLogical area chunks start ((out.take hi).drop lo) 0
      return out.take lo ++ copied ++ out.drop hi
    else .error (.panic .bounds)) out

def destride (area : Memory) (chunks : List (Nat × Nat)) (w h rowstride : Nat) : Except Fault (Except String Bytes) :=
  if w = 0 ∨ h = 0 then .ok (.error s!"empty mmap draw packet: {w}x{h}")
  else if w * 4 ≥ USIZE then .ok (.error "mmap draw packet width overflows")
  else
    let widthBytes := w * 4
    let stride := if rowstride = 0 then widthBytes else rowstride
    if stride < widthBytes then .ok (.error s!"mmap rowstride {stride} is smaller than {w}x4 bytes")
    else do
      match ← countAvailable area chunks 0 with
      | .error message => return .error message
      | .ok available =>
        let last ← sub h 1
        let start ← mul last stride
        let required ← add start widthBytes
        if available < required then
          return .error (s!"mmap chunks are too small: {available} bytes for a {w}x{h} image with a stride " ++
            s!"of {stride} ({required} needed)")
        else
          let size ← mul widthBytes h
          if size > VEC_MAX then .error (.panic .capacity)
          else
            let pixels ← copyRows area chunks widthBytes stride (List.replicate size 0) (List.range h)
            return .ok pixels

/-! ### Both builds agree -/

variable {area : Memory} {chunks : List (Nat × Nat)}

theorem copyLogical_agrees {skip written : Nat} {dst out : Bytes} (copied : copyLogical area chunks skip dst written = .ok out) :
    Client.copyLogical area chunks skip dst written = .ok out := by
  induction chunks generalizing skip dst written with
  | nil =>
    cases copied
    rfl
  | cons chunk rest ih =>
    obtain ⟨offset, length⟩ := chunk
    rw [copyLogical] at copied
    rw [Client.copyLogical]
    split at copied
    next passed =>
      obtain ⟨left, done, copied⟩ := bind_ok copied
      rw [if_pos passed, ← sub_ok done]
      exact ih copied
    next here =>
      obtain ⟨start, done, copied⟩ := bind_ok copied
      obtain ⟨rfl, fits⟩ := add_ok done
      obtain ⟨left, done, copied⟩ := bind_ok copied
      cases sub_ok done
      obtain ⟨space, done, copied⟩ := bind_ok copied
      cases sub_ok done
      obtain ⟨reached, done, copied⟩ := bind_ok copied
      obtain ⟨rfl, -⟩ := add_ok done
      obtain ⟨stop, done, copied⟩ := bind_ok copied
      obtain ⟨rfl, -⟩ := add_ok done
      rw [if_neg here, Nat.mod_eq_of_lt fits]
      dsimp only at copied ⊢
      split at copied
      next inside =>
        rw [if_pos inside]
        split at copied
        next full =>
          cases copied
          rw [if_pos full]
        next more =>
          rw [if_neg more]
          exact ih copied
      next => cases copied

theorem countAvailable_agrees {available : Nat} {counted : Except String Nat}
    (done : countAvailable area chunks available = .ok counted) : Client.countAvailable area chunks available = counted := by
  induction chunks generalizing available with
  | nil =>
    cases done
    rfl
  | cons chunk rest ih =>
    obtain ⟨offset, length⟩ := chunk
    rw [countAvailable] at done
    rw [Client.countAvailable]
    by_cases outside : offset < HEADER_SIZE ∨ (if offset + length < USIZE then offset + length else USIZE - 1) > area.size
    · rw [if_pos outside] at done ⊢
      cases done
      rfl
    · rw [if_neg outside] at done ⊢
      obtain ⟨sum, added, done⟩ := bind_ok done
      obtain ⟨rfl, fits⟩ := add_ok added
      rw [Nat.mod_eq_of_lt fits]
      exact ih done

theorem copyRows_agrees {widthBytes stride : Nat} {rows : List Nat} {out pixels : Bytes}
    (copied : copyRows area chunks widthBytes stride out rows = .ok pixels) :
    Client.copyRows area chunks widthBytes stride out rows = .ok pixels := by
  induction rows generalizing out with
  | nil =>
    cases copied
    rfl
  | cons row rest ih =>
    rw [copyRows, List.foldlM_cons] at copied
    obtain ⟨middle, first, copied⟩ := bind_ok copied
    obtain ⟨lo, done, first⟩ := bind_ok first
    obtain ⟨rfl, low⟩ := mul_ok done
    obtain ⟨following, done, first⟩ := bind_ok first
    obtain ⟨rfl, -⟩ := add_ok done
    obtain ⟨hi, done, first⟩ := bind_ok first
    obtain ⟨rfl, high⟩ := mul_ok done
    split at first
    next inside =>
      obtain ⟨start, done, first⟩ := bind_ok first
      obtain ⟨rfl, begun⟩ := mul_ok done
      obtain ⟨part, done, first⟩ := bind_ok first
      cases first
      rw [Client.copyRows, List.foldlM_cons, Nat.mod_eq_of_lt low, Nat.mod_eq_of_lt high, Nat.mod_eq_of_lt begun]
      simp only [if_pos inside, copyLogical_agrees done]
      exact ih copied
    next => cases first

/-- Where the checks find nothing, a build without them does the same. -/
theorem destride_agrees {w h rowstride : Nat} {result : Except String Bytes}
    (done : destride area chunks w h rowstride = .ok result) : Client.destride area chunks w h rowstride = .ok result := by
  rw [destride] at done
  rw [Client.destride]
  split at done
  next empty =>
    cases done
    rw [if_pos empty]
  next full =>
    rw [if_neg full]
    split at done
    next wide =>
      cases done
      rw [if_pos wide]
    next narrow =>
      rw [if_neg narrow]
      dsimp only at done ⊢
      generalize (if rowstride = 0 then w * 4 else rowstride) = stride at done ⊢
      split at done
      next small =>
        cases done
        rw [if_pos small]
      next large =>
        rw [if_neg large]
        obtain ⟨counted, available, done⟩ := bind_ok done
        rw [countAvailable_agrees available]
        cases counted with
        | error message =>
          cases done
          rfl
        | ok available =>
          obtain ⟨last, less, done⟩ := bind_ok done
          cases sub_ok less
          obtain ⟨start, times, done⟩ := bind_ok done
          obtain ⟨rfl, -⟩ := mul_ok times
          obtain ⟨required, sum, done⟩ := bind_ok done
          obtain ⟨rfl, fits⟩ := add_ok sum
          dsimp only at done ⊢
          rw [Nat.mod_eq_of_lt fits]
          split at done
          next few =>
            cases done
            rw [if_pos few]
          next enough =>
            obtain ⟨size, times, done⟩ := bind_ok done
            obtain ⟨rfl, bounded⟩ := mul_ok times
            rw [if_neg enough, Nat.mod_eq_of_lt bounded]
            split at done
            next => cases done
            next small =>
              obtain ⟨pixels, copied, done⟩ := bind_ok done
              cases done
              rw [if_neg small, copyRows_agrees copied]
              rfl

end Xpra.Client.Checked
