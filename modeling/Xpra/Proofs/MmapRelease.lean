import Xpra.Client.Decode
import Xpra.Client.MmapChecked
import Xpra.Library.Machine
import Mathlib.Algebra.Order.BigOperators.Group.List

/-! What a draw does to the shared area. Copying an image out never leaves the
area, whatever the server put in the packet, so the only way for a draw to miss
its `release` is the lookup of its pixel format. -/

namespace Xpra.Proofs.MmapRelease
open Xpra.Net Xpra.Client Library

/-! ### Copying out of the area -/

def InRange (area : Memory) (chunk : Nat × Nat) : Prop :=
  HEADER_SIZE ≤ chunk.1 ∧ chunk.1 + chunk.2 ≤ area.size

variable {area : Memory} {chunks : List (Nat × Nat)}

/-- The range check saturates, and a saturated sum lies outside any area. -/
theorem outside_iff (sized : area.size ≤ MAX_SIZE) {offset length : Nat} :
    (offset < HEADER_SIZE ∨ (if offset + length < USIZE then offset + length else USIZE - 1) > area.size) ↔
      ¬ InRange area (offset, length) := by
  simp only [InRange, MAX_SIZE] at sized ⊢
  by_cases small : offset + length < USIZE
  · rw [if_pos small]; omega
  · rw [if_neg small]; simp only [USIZE] at small ⊢; omega

theorem countAvailable_ok (sized : area.size ≤ MAX_SIZE) (start available : Nat) (started : start < USIZE) :
    countAvailable area chunks start = .ok available ↔
      (∀ chunk ∈ chunks, InRange area chunk) ∧ available = (start + (chunks.map Prod.snd).sum) % USIZE := by
  induction chunks generalizing start with
  | nil =>
    simp only [countAvailable, Except.ok.injEq, List.not_mem_nil, false_implies, implies_true, true_and,
      List.map_nil, List.sum_nil, Nat.add_zero, Nat.mod_eq_of_lt started]
    exact eq_comm
  | cons chunk rest ih =>
    obtain ⟨offset, length⟩ := chunk
    have wrapped : (start + length) % USIZE < USIZE := Nat.mod_lt _ (by decide)
    rw [countAvailable]
    by_cases inside : InRange area (offset, length)
    · rw [if_neg (by rw [outside_iff sized]; exact not_not_intro inside), ih _ wrapped]
      simp only [List.forall_mem_cons, inside, true_and, List.map_cons, List.sum_cons, Nat.mod_add_mod, Nat.add_assoc]
    · rw [if_pos ((outside_iff sized).mpr inside)]
      simp [inside]

/-- The bytes that the chunks stand for, one after another. -/
def logical (area : Memory) (chunks : List (Nat × Nat)) : Bytes :=
  chunks.flatMap fun chunk => area.slice chunk.1 chunk.2

theorem logical_length (area : Memory) (chunks : List (Nat × Nat)) :
    (logical area chunks).length = (chunks.map Prod.snd).sum := by
  simp [logical, List.length_flatMap]

/-- What a copy takes next is the rest of the chunk it is in, or less. -/
theorem slice_append_part (area : Memory) {offset length skip : Nat} (here : skip ≤ length) (later : Bytes) (count : Nat) :
    ((area.slice offset length ++ later).drop skip).take count =
      area.slice (offset + skip) (min (length - skip) count) ++ later.take (count - min (length - skip) count) := by
  have dropped : (area.slice offset length).drop skip = area.slice (offset + skip) (length - skip) := by
    apply List.ext_getElem
    · simp
    · intro i _ _
      simp [Memory.slice, Nat.add_assoc]
  have taken : (area.slice (offset + skip) (length - skip)).take count =
      area.slice (offset + skip) (min (length - skip) count) := by
    apply List.ext_getElem
    · simp [Nat.min_comm]
    · intro i _ _
      simp [Memory.slice]
  rw [List.drop_append_of_le_length (by simpa using here), dropped, List.take_append, taken, Memory.slice_length]
  congr 2
  omega

section Spliced

variable {out part : Bytes} {lo hi : Nat}

theorem length_spliced (filled : lo + part.length = hi) (room : hi ≤ out.length) :
    (out.take lo ++ part ++ out.drop hi).length = out.length := by
  rw [List.length_append, List.length_append, List.length_take, List.length_drop]
  omega

/-- What lies outside the part that is written stays. -/
theorem getElem?_spliced (filled : lo + part.length = hi) (room : hi ≤ out.length) (i : Nat) :
    (out.take lo ++ part ++ out.drop hi)[i]? = if lo ≤ i ∧ i < hi then part[i - lo]? else out[i]? := by
  have before : (out.take lo).length = lo := by
    rw [List.length_take]
    omega
  by_cases reached : lo ≤ i
  · by_cases past : i < hi
    · rw [if_pos ⟨reached, past⟩, List.append_assoc, List.getElem?_append_right (by omega), before,
        List.getElem?_append_left (by omega)]
    · rw [if_neg (by omega), List.getElem?_append_right (by rw [List.length_append]; omega), List.length_append, before, filled,
        List.getElem?_drop, Nat.add_sub_cancel' (Nat.le_of_not_lt past)]
  · rw [if_neg (by omega), List.append_assoc, List.getElem?_append_left (by omega), List.getElem?_take_of_lt (by omega)]

end Spliced

/-- Inside the area the rest of the destination is filled from the stream of the
chunks. -/
theorem copyLogical_ok (sized : area.size ≤ MAX_SIZE) {skip written : Nat} {dst : Bytes}
    (inside : ∀ chunk ∈ chunks, InRange area chunk) (room : written ≤ dst.length) (small : dst.length < USIZE)
    (enough : skip + (dst.length - written) ≤ (logical area chunks).length) :
    Checked.copyLogical area chunks skip dst written =
      .ok (dst.take written ++ ((logical area chunks).drop skip).take (dst.length - written)) := by
  induction chunks generalizing skip written dst with
  | nil =>
    have full : dst.length - written = 0 := by simp [logical] at enough; omega
    simp only [Checked.copyLogical, logical, List.flatMap_nil, List.drop_nil, List.take_nil, List.append_nil]
    rw [List.take_of_length_le (by omega)]
  | cons chunk rest ih =>
    obtain ⟨offset, length⟩ := chunk
    obtain ⟨first, later⟩ := List.forall_mem_cons.mp inside
    have joined : logical area ((offset, length) :: rest) = area.slice offset length ++ logical area rest := by
      simp [logical]
    rw [joined] at enough ⊢
    rw [List.length_append, Memory.slice_length] at enough
    rw [Checked.copyLogical]
    by_cases passed : skip ≥ length
    · have skipped : Checked.sub skip length = .ok (skip - length) := if_pos passed
      rw [if_pos passed, skipped, List.drop_append, List.drop_of_length_le (by simpa using passed), List.nil_append,
        Memory.slice_length]
      exact ih later room small (by omega)
    · have ends : offset + length < USIZE := by
        simp only [InRange, MAX_SIZE, USIZE] at first sized ⊢
        omega
      have start : Checked.add offset skip = .ok (offset + skip) := if_pos (by omega)
      have left : Checked.sub length skip = .ok (length - skip) := if_pos (by omega)
      have space : Checked.sub dst.length written = .ok (dst.length - written) := if_pos room
      have bounded : min (length - skip) (dst.length - written) ≤ length - skip := Nat.min_le_left _ _
      have fits : min (length - skip) (dst.length - written) ≤ dst.length - written := Nat.min_le_right _ _
      have spent : min (length - skip) (dst.length - written) = dst.length - written ∨
          min (length - skip) (dst.length - written) = length - skip := by omega
      rw [if_neg passed, slice_append_part area (by omega)]
      simp only [start, left, space, bind, Except.bind]
      generalize min (length - skip) (dst.length - written) = take at bounded fits spent ⊢
      have reached : Checked.add written take = .ok (written + take) := if_pos (by omega)
      have stop : Checked.add (offset + skip) take = .ok (offset + skip + take) := if_pos (by omega)
      have within : written + take ≤ dst.length ∧ offset + skip + take ≤ area.size := by
        simp only [InRange] at first
        omega
      have before : (dst.take written ++ area.slice (offset + skip) take).length = written + take := by simp [room]
      have kept : (dst.take written ++ area.slice (offset + skip) take ++ dst.drop (written + take)).length = dst.length :=
        length_spliced (by simp) within.1
      simp only [reached, stop, if_pos within, kept]
      by_cases full : written + take = dst.length
      · have none : dst.length - written - take = 0 := by omega
        rw [if_pos full, full, List.drop_length, none, List.take_zero]
        simp [pure, Except.pure]
      · rw [if_neg full, ih later (by rw [kept]; omega) (by rw [kept]; exact small) (by rw [kept]; omega), kept,
          List.take_left' before, List.drop_zero, List.append_assoc, Nat.sub_sub]

/-- One row is taken from the stream, and put in its place. -/
theorem copyRows_cons (sized : area.size ≤ MAX_SIZE) {widthBytes stride row : Nat} (rest : List Nat) {out : Bytes}
    (inside : ∀ chunk ∈ chunks, InRange area chunk) (small : out.length < USIZE) (room : (row + 1) * widthBytes ≤ out.length)
    (tall : row + 1 < USIZE) (strided : row * stride < USIZE)
    (enough : row * stride + widthBytes ≤ (logical area chunks).length) :
    Checked.copyRows area chunks widthBytes stride out (row :: rest) =
      Checked.copyRows area chunks widthBytes stride (out.take (row * widthBytes) ++
        ((logical area chunks).drop (row * stride)).take widthBytes ++ out.drop ((row + 1) * widthBytes)) rest := by
  have low : row * widthBytes + widthBytes = (row + 1) * widthBytes := by rw [Nat.succ_mul]
  have span : ((out.take ((row + 1) * widthBytes)).drop (row * widthBytes)).length = widthBytes := by
    rw [List.length_drop, List.length_take]
    omega
  have copied := copyLogical_ok sized inside (Nat.zero_le _) (by rw [span]; omega) (by rw [span]; omega : row * stride + _ ≤ _)
  rw [span, List.take_zero, List.nil_append, Nat.sub_zero] at copied
  have lo : Checked.mul row widthBytes = .ok (row * widthBytes) := if_pos (by omega)
  have following : Checked.add row 1 = .ok (row + 1) := if_pos tall
  have hi : Checked.mul (row + 1) widthBytes = .ok ((row + 1) * widthBytes) := if_pos (by omega)
  have start : Checked.mul row stride = .ok (row * stride) := if_pos strided
  rw [Checked.copyRows, List.foldlM_cons]
  simp only [lo, following, hi, start, bind, Except.bind]
  rw [if_pos (by omega), copied]
  rfl

theorem in_row_iff {width row other j : Nat} (inside : j < width) :
    row * width ≤ other * width + j ∧ other * width + j < (row + 1) * width ↔ other = row := by
  constructor
  · rintro ⟨low, high⟩
    have above : row < other + 1 := Nat.lt_of_mul_lt_mul_right (by rw [Nat.succ_mul]; omega : row * width < (other + 1) * width)
    have below : other < row + 1 := Nat.lt_of_mul_lt_mul_right (by omega : other * width < (row + 1) * width)
    omega
  · rintro rfl
    rw [Nat.succ_mul]
    omega

theorem copyRows_ok (sized : area.size ≤ MAX_SIZE) {widthBytes stride height : Nat} (rows : List Nat) (out : Bytes)
    (inside : ∀ chunk ∈ chunks, InRange area chunk) (long : out.length = widthBytes * height)
    (fits : widthBytes * height < USIZE) (tall : height < USIZE) (strided : (height - 1) * stride + widthBytes < USIZE)
    (enough : (height - 1) * stride + widthBytes ≤ (logical area chunks).length) (below : ∀ row ∈ rows, row < height) :
    ∃ pixels, Checked.copyRows area chunks widthBytes stride out rows = .ok pixels ∧ pixels.length = out.length ∧
      ∀ row j, j < widthBytes → pixels[row * widthBytes + j]? =
        if row ∈ rows then (logical area chunks)[row * stride + j]? else out[row * widthBytes + j]? := by
  induction rows generalizing out with
  | nil => exact ⟨out, rfl, rfl, by simp⟩
  | cons row rest ih =>
    obtain ⟨first, later⟩ := List.forall_mem_cons.mp below
    have high : (row + 1) * widthBytes ≤ out.length := by
      rw [long, Nat.mul_comm]
      exact Nat.mul_le_mul_left _ first
    have begun : row * stride ≤ (height - 1) * stride := Nat.mul_le_mul_right _ (by omega)
    have filled : row * widthBytes + (((logical area chunks).drop (row * stride)).take widthBytes).length = (row + 1) * widthBytes := by
      rw [List.length_take, List.length_drop, Nat.succ_mul]
      omega
    have moved := copyRows_cons sized rest inside (by omega) high (by omega) (by omega) (by omega : row * stride + widthBytes ≤ _)
    obtain ⟨pixels, done, same, written⟩ := ih _ (by rw [length_spliced filled high, long]) later
    refine ⟨pixels, moved.trans done, by rw [same, length_spliced filled high], fun other j inside => ?_⟩
    rw [written other j inside, getElem?_spliced filled high]
    simp only [List.mem_cons]
    by_cases member : other ∈ rest
    · rw [if_pos member, if_pos (.inr member)]
    · rw [if_neg member]
      by_cases here : other = row
      · rw [if_pos ((in_row_iff inside).mpr here), if_pos (.inl here), here, Nat.add_sub_cancel_left, List.getElem?_take_of_lt inside,
          List.getElem?_drop]
      · rw [if_neg (mt (in_row_iff inside).mp here), if_neg (not_or.mpr ⟨here, member⟩)]

def strideOf (w rowstride : Nat) : Nat := if rowstride = 0 then w * 4 else rowstride

/-- The chunks hold an image of the size and stride asked for. -/
structure Holds (area : Memory) (chunks : List (Nat × Nat)) (w h rowstride : Nat) : Prop where
  wide : 0 < w
  high : 0 < h
  stride : w * 4 ≤ strideOf w rowstride
  inside : ∀ chunk ∈ chunks, InRange area chunk
  enough : (h - 1) * strideOf w rowstride + w * 4 ≤ (chunks.map Prod.snd).sum

/-- The last byte of an image with the sizes of a packet is within 64 bits. -/
theorem image_end_lt {w h rowstride : Nat} (width : w < 2 ^ 31) (height : h < 2 ^ 31) (row : rowstride < 2 ^ 31) :
    (h - 1) * strideOf w rowstride + w * 4 < USIZE := by
  have strided : strideOf w rowstride ≤ 2 ^ 33 - 4 := by
    rw [strideOf]
    split <;> omega
  have last : (h - 1) * strideOf w rowstride ≤ (2 ^ 31 - 2) * (2 ^ 33 - 4) := Nat.mul_le_mul (by omega) strided
  simp only [USIZE]
  omega

theorem packed_le {width height stride : Nat} (high : 0 < height) (wide : width ≤ stride) :
    width * height ≤ (height - 1) * stride + width := by
  obtain ⟨rows, rfl⟩ : ∃ rows, height = rows + 1 := ⟨height - 1, by omega⟩
  calc width * (rows + 1) = rows * width + width := by rw [Nat.mul_comm, Nat.succ_mul]
    _ ≤ (rows + 1 - 1) * stride + width := Nat.add_le_add_right (Nat.mul_le_mul_left _ wide) _

private theorem lengths_le (short : chunks.length < 2 ^ 31) : chunks.length * MAX_SIZE ≤ VEC_MAX := by
  have below : chunks.length * MAX_SIZE ≤ (2 ^ 31 - 1) * MAX_SIZE := Nat.mul_le_mul_right _ (by omega)
  simp only [MAX_SIZE, VEC_MAX] at *
  omega

private theorem sum_le (sized : area.size ≤ MAX_SIZE) (short : chunks.length < 2 ^ 31) (inside : ∀ chunk ∈ chunks, InRange area chunk) :
    (chunks.map Prod.snd).sum ≤ VEC_MAX := by
  have bounded : ∀ length ∈ chunks.map Prod.snd, length ≤ MAX_SIZE := by
    intro length member
    obtain ⟨chunk, listed, rfl⟩ := List.mem_map.mp member
    obtain ⟨_, fits⟩ := inside chunk listed
    omega
  have total := List.sum_le_card_nsmul _ _ bounded
  rw [List.length_map] at total
  exact total.trans (lengths_le short)

theorem countAvailable_returns (sized : area.size ≤ MAX_SIZE) {available : Nat}
    (small : available + chunks.length * MAX_SIZE < USIZE) :
    ∃ counted, Checked.countAvailable area chunks available = .ok counted := by
  induction chunks generalizing available with
  | nil => exact ⟨_, rfl⟩
  | cons chunk rest ih =>
    obtain ⟨offset, length⟩ := chunk
    rw [Checked.countAvailable]
    by_cases inside : InRange area (offset, length)
    · have bounded : length ≤ MAX_SIZE := by
        simp only [InRange] at inside
        omega
      rw [List.length_cons, Nat.succ_mul] at small
      have added : Checked.add available length = .ok (available + length) := if_pos (by omega)
      rw [if_neg (by rw [outside_iff sized]; exact not_not_intro inside), added]
      exact ih (by omega)
    · exact ⟨_, if_pos ((outside_iff sized).mpr inside)⟩

/-- So few chunks are counted without an overflow. -/
theorem countAvailable_total (sized : area.size ≤ MAX_SIZE) (short : chunks.length < 2 ^ 31) :
    ∃ counted, Checked.countAvailable area chunks 0 = .ok counted ∧ ∀ available,
      counted = .ok available ↔ (∀ chunk ∈ chunks, InRange area chunk) ∧ available = (chunks.map Prod.snd).sum := by
  have room : 0 + chunks.length * MAX_SIZE < USIZE := by
    rw [Nat.zero_add]
    exact (lengths_le short).trans_lt (by decide)
  obtain ⟨counted, counts⟩ := countAvailable_returns sized room
  refine ⟨counted, counts, fun available => ?_⟩
  rw [← Checked.countAvailable_agrees counts, countAvailable_ok sized 0 available (by decide), Nat.zero_add]
  apply and_congr_right
  intro inside
  rw [Nat.mod_eq_of_lt ((sum_le sized short inside).trans_lt (by decide))]

/-- The pixels of an image, row by row out of the stream of the chunks. -/
structure Image (area : Memory) (chunks : List (Nat × Nat)) (w h rowstride : Nat) (pixels : Bytes) : Prop where
  size : pixels.length = w * 4 * h
  rows : ∀ row < h, ∀ j < w * 4, pixels[row * (w * 4) + j]? = (logical area chunks)[row * strideOf w rowstride + j]?

theorem copyRows_image (sized : area.size ≤ MAX_SIZE) {w h rowstride : Nat} (holds : Holds area chunks w h rowstride)
    (height : h < USIZE) (fits : (h - 1) * strideOf w rowstride + w * 4 < USIZE) :
    ∃ pixels, Checked.copyRows area chunks (w * 4) (strideOf w rowstride) (List.replicate (w * 4 * h) 0) (List.range h) = .ok pixels ∧
      Image area chunks w h rowstride pixels := by
  have packed := packed_le holds.high holds.stride
  have enough := holds.enough
  rw [← logical_length area chunks] at enough
  obtain ⟨pixels, copied, long, rows⟩ := copyRows_ok sized (List.range h) (List.replicate (w * 4 * h) 0) holds.inside
    List.length_replicate (by omega) height fits enough (fun row member => List.mem_range.mp member)
  refine ⟨pixels, copied, by rw [long, List.length_replicate], fun row high j inside => ?_⟩
  rw [rows row j inside, if_pos (List.mem_range.mpr high)]

/-- With the 32-bit sizes of a packet `destride` returns, even where overflows are
looked for. It returns the pixels of the image exactly when the chunks hold it. -/
theorem destride_ok (sized : area.size ≤ MAX_SIZE) (short : chunks.length < 2 ^ 31) {w h rowstride : Nat}
    (width : w < 2 ^ 31) (height : h < 2 ^ 31) (row : rowstride < 2 ^ 31) :
    ∃ result, Checked.destride area chunks w h rowstride = .ok result ∧
      ((∃ pixels, result = .ok pixels) ↔ Holds area chunks w h rowstride) ∧
      ∀ pixels, result = .ok pixels → Image area chunks w h rowstride pixels := by
  have refused (message : String) (lacking : ¬ Holds area chunks w h rowstride) :
      ((∃ pixels : Bytes, (Except.error message : Except String Bytes) = .ok pixels) ↔ Holds area chunks w h rowstride) ∧
        ∀ pixels, (Except.error message : Except String Bytes) = .ok pixels → Image area chunks w h rowstride pixels := by
    simp [lacking]
  have strides : (if rowstride = 0 then w * 4 else rowstride) = strideOf w rowstride := rfl
  have fits := image_end_lt width height row
  have bits : USIZE = 2 ^ 64 := rfl
  simp only [Checked.destride, strides]
  by_cases empty : w = 0 ∨ h = 0
  · rw [if_pos empty]
    refine ⟨_, rfl, refused _ ?_⟩
    rintro ⟨wide, high, -, -, -⟩
    omega
  rw [if_neg empty, if_neg (by omega)]
  by_cases narrow : strideOf w rowstride < w * 4
  · rw [if_pos narrow]
    refine ⟨_, rfl, refused _ ?_⟩
    rintro ⟨-, -, stride, -, -⟩
    omega
  rw [if_neg narrow]
  obtain ⟨counted, counts, total⟩ := countAvailable_total sized short
  simp only [counts, bind, Except.bind]
  cases counted with
  | error message =>
    refine ⟨_, rfl, refused _ ?_⟩
    rintro ⟨-, -, -, inside, -⟩
    cases (total _).mpr ⟨inside, rfl⟩
  | ok available =>
    obtain ⟨inside, rfl⟩ := (total available).mp rfl
    have less : Checked.sub h 1 = .ok (h - 1) := if_pos (by omega)
    have start : Checked.mul (h - 1) (strideOf w rowstride) = .ok ((h - 1) * strideOf w rowstride) := if_pos (by omega)
    have required : Checked.add ((h - 1) * strideOf w rowstride) (w * 4) = .ok ((h - 1) * strideOf w rowstride + w * 4) := if_pos fits
    simp only [less, start, required]
    by_cases few : (chunks.map Prod.snd).sum < (h - 1) * strideOf w rowstride + w * 4
    · rw [if_pos few]
      refine ⟨_, rfl, refused _ ?_⟩
      rintro ⟨-, -, -, -, enough⟩
      omega
    · have holds : Holds area chunks w h rowstride := ⟨by omega, by omega, by omega, inside, by omega⟩
      have packed := packed_le holds.high holds.stride
      have bound := sum_le sized short inside
      have size : Checked.mul (w * 4) h = .ok (w * 4 * h) := if_pos (by omega)
      obtain ⟨pixels, copied, image⟩ := copyRows_image sized holds (by omega) fits
      simp only [if_neg few, size, if_neg (by omega : ¬ w * 4 * h > VEC_MAX), copied]
      refine ⟨.ok pixels, rfl, ⟨fun _ => holds, fun _ => ⟨pixels, rfl⟩⟩, fun others same => ?_⟩
      cases same
      exact image

theorem holds_of_destride (sized : area.size ≤ MAX_SIZE) {w h rowstride : Nat}
    (width : w < 2 ^ 31) (height : h < 2 ^ 31) (row : rowstride < 2 ^ 31) {pixels : Bytes}
    (copied : destride area chunks w h rowstride = .ok (.ok pixels)) : Holds area chunks w h rowstride := by
  have strides : (if rowstride = 0 then w * 4 else rowstride) = strideOf w rowstride := rfl
  simp only [destride, strides] at copied
  split at copied
  next => cases copied
  next full =>
    rw [if_neg (by simp only [USIZE]; omega)] at copied
    split at copied
    next => cases copied
    next wide =>
      split at copied
      next => cases copied
      next available counted =>
        obtain ⟨inside, total⟩ := (countAvailable_ok sized 0 _ (by decide)).mp counted
        rw [Nat.mod_eq_of_lt (image_end_lt width height row)] at copied
        split at copied
        next => cases copied
        next enough =>
          have real : available ≤ (chunks.map Prod.snd).sum := by
            rw [total, Nat.zero_add]
            exact Nat.mod_le _ _
          exact ⟨by omega, by omega, by omega, inside, by omega⟩

/-! ### One draw -/

/-- A draw as it comes off the wire. The payload is shorter than 2^32 bytes, and
an item of a list takes two of them with its comma. -/
structure WireDraw where
  packet : Packet
  short : ∀ items, mmapChunkList packet = some (.array items) → items.length < 2 ^ 31

/-- The lookup of the pixel format finds an entry wherever there is a hash to
look it up in. -/
def Formatted (packet : Packet) : Prop :=
  ∀ entries, packet.main[10]? = some (.hash entries) → (Yaml.find "rgb_format" entries).isSome

theorem mmapRgbFormat_eq (packet : Packet) :
    (Formatted packet ∧ ∃ format, mmapRgbFormat packet = .ok format) ∨
      (¬ Formatted packet ∧ mmapRgbFormat packet = .error .missingKey) := by
  cases options : packet.main[10]? with
  | none => exact .inl ⟨fun entries found => by simp [options] at found, "", by simp [mmapRgbFormat, options]⟩
  | some value =>
    cases value with
    | hash entries =>
      cases found : Yaml.find "rgb_format" entries with
      | some format =>
        refine .inl ⟨fun others same => ?_, yamlStr format, by simp [mmapRgbFormat, options, yamlHashStr, found]⟩
        cases options.symm.trans same
        simp [found]
      | none =>
        refine .inr ⟨fun formatted => ?_, by simp [mmapRgbFormat, options, yamlHashStr, found]⟩
        simpa [found] using formatted entries options
    | _ => exact .inl ⟨fun entries found => by simp [options] at found, "", by simp [mmapRgbFormat, options, yamlHashStr]⟩

variable {host : Host} {packet : Packet}

private theorem mapM_length {items : List Yaml} {convert : Yaml → Except String (Nat × Nat)}
    {chunks : List (Nat × Nat)} (parsed : items.mapM convert = .ok chunks) : chunks.length = items.length := by
  induction items generalizing chunks with
  | nil => cases parsed; rfl
  | cons item rest ih =>
    rw [List.mapM_cons] at parsed
    cases first : convert item with
    | error => simp [first, bind, Except.bind] at parsed
    | ok chunk =>
      cases later : rest.mapM convert with
      | error => simp [first, later, bind, Except.bind] at parsed
      | ok others =>
        simp only [first, later, bind, Except.bind, pure, Except.pure, Except.ok.injEq] at parsed
        subst parsed
        simp [ih later]

theorem mmapChunks_ok (parsed : mmapChunks host packet = .ok chunks) :
    ∃ items, mmapChunkList packet = some (.array items) ∧ items.length = chunks.length ∧ chunks ≠ [] := by
  rw [mmapChunks] at parsed
  split at parsed
  next list found =>
    cases list with
    | array items =>
      simp only [parseChunks, bind, Except.bind] at parsed
      split at parsed
      next => cases parsed
      next pairs mapped =>
        split at parsed
        next => cases parsed
        next some_pairs =>
          cases parsed
          exact ⟨items, found, (mapM_length mapped).symm, some_pairs⟩
    | _ => cases parsed
  next => cases parsed

private theorem chunk_list_len {list : Yaml} (found : mmapChunkList packet = some list) : 8 ≤ packet.len := by
  have inside : 7 < packet.main.length := by
    by_contra outside
    have past : packet.main[10]? = none := List.getElem?_eq_none (by omega)
    have absent : packet.main[7]? = none := List.getElem?_eq_none (by omega)
    simp [mmapChunkList, past, absent] at found
  exact inside

theorem mmapChunks_len (parsed : mmapChunks host packet = .ok chunks) : 8 ≤ packet.len := by
  obtain ⟨items, found, -, -⟩ := mmapChunks_ok parsed
  exact chunk_list_len found

theorem toNat_lt_of_i32 (value : Int32) : value.toInt.toNat < 2 ^ 31 := by
  have := value.toInt_lt
  omega

/-- A draw for which the area holds pixels, in a format the client shows. -/
def Servable (host : Host) (area : Memory) (packet : Packet) : Prop :=
  ∃ chunks format, mmapChunks host packet = .ok chunks ∧ mmapRgbFormat packet = .ok format ∧
    (format = "" ∨ startsWith format "BGR" = true) ∧
    Holds area chunks (yamlI32 (packet.get 4)).toInt.toNat (yamlI32 (packet.get 5)).toInt.toNat
      (mmapRowstride packet)

theorem readMmapPixels_ok (area : MmapArea) (parsed : mmapChunks host packet = .ok chunks)
    (short : chunks.length < 2 ^ 31) {format : String} (named : mmapRgbFormat packet = .ok format) :
    ∃ result, readMmapPixels host packet area chunks = .ok result ∧
      ((∃ pixels, result = .ok pixels) ↔ Servable host area.memory packet) := by
  have long := mmapChunks_len parsed
  obtain ⟨result, copied, held, -⟩ := destride_ok area.upper short (toNat_lt_of_i32 (yamlI32 (packet.get 4)))
    (toNat_lt_of_i32 (yamlI32 (packet.get 5))) (toNat_lt_of_i32 ((packet.main[9]?.map yamlI32).getD 0))
  rw [readMmapPixels, named]
  by_cases foreign : format ≠ "" ∧ startsWith format "BGR" = false
  · refine ⟨.error s!"unsupported mmap pixel format {host.quote format}", if_pos foreign, ?_⟩
    simp only [reduceCtorEq, exists_false, false_iff]
    rintro ⟨_, shown, -, same, known, -⟩
    rw [named] at same
    cases same
    rcases known with empty | known
    · exact foreign.1 empty
    · simp [foreign.2] at known
  · have known : format = "" ∨ startsWith format "BGR" = true := by
      by_cases empty : format = ""
      · exact .inl empty
      · exact .inr (by simpa [empty] using foreign)
    refine ⟨result, ?_, held.trans ?_⟩
    · apply (if_neg foreign).trans
      rw [Packet.getI32, Packet.read_of_lt _ (by omega), Packet.getI32, Packet.read_of_lt _ (by omega)]
      exact Checked.destride_agrees copied
    · constructor
      · exact fun holds => ⟨chunks, format, parsed, named, known, holds⟩
      · rintro ⟨_, _, again, -, -, holds⟩
        rw [parsed] at again
        cases again
        exact holds

theorem servable_of_pixels {area next : MmapArea} {pixels : Bytes}
    (served : readMmapDraw host packet area = .ok (.ok pixels, next)) : Servable host area.memory packet := by
  rw [readMmapDraw] at served
  cases parsed : mmapChunks host packet with
  | error message => simp [parsed] at served
  | ok chunks =>
    have long := mmapChunks_len parsed
    rcases mmapRgbFormat_eq packet with ⟨-, format, named⟩ | ⟨-, missing⟩
    · simp only [parsed, readMmapPixels, named, bind, Except.bind] at served
      split at served
      next => cases served
      next result copied =>
        cases served
        split at copied
        next => cases copied
        next known =>
          rw [Packet.getI32, Packet.read_of_lt _ (by omega), Packet.getI32, Packet.read_of_lt _ (by omega)] at copied
          refine ⟨chunks, format, parsed, named, ?_, ?_⟩
          · by_cases empty : format = ""
            · exact .inl empty
            · exact .inr (by simpa [empty] using known)
          · exact holds_of_destride area.upper (toNat_lt_of_i32 _) (toNat_lt_of_i32 _) (toNat_lt_of_i32 _) copied
    · simp [parsed, readMmapPixels, missing, bind, Except.bind] at served

def drawEnd (host : Host) (packet : Packet) : Option Nat :=
  match mmapChunks host packet with
  | .ok chunks => chunks.getLast?.map fun chunk => (chunk.1 + chunk.2) % 2 ^ 32
  | .error _ => none

def native (host : Host) (value : Nat) : Bytes :=
  if host.littleEndian then Numeral.toLittle 4 value else Numeral.toBig 4 value

def settle (host : Host) (memory : Memory) (ends : List Nat) : Memory :=
  ends.foldl (fun memory stop => memory.store 0 (native host stop)) memory

/-- A draw that returns has stored the end of its last chunk once, or has left
the area alone for want of a chunk list. -/
theorem readMmapDraw_ok {area next : MmapArea} {result : Except String Bytes}
    (returned : readMmapDraw host packet area = .ok (result, next)) :
    next.released = area.released ++ (drawEnd host packet).toList ∧
      next.memory = settle host area.memory (drawEnd host packet).toList := by
  rw [readMmapDraw] at returned
  rw [drawEnd]
  cases parsed : mmapChunks host packet with
  | error message =>
    simp only [parsed] at returned
    cases returned
    simp [settle]
  | ok chunks =>
    simp only [parsed, bind, Except.bind] at returned
    split at returned
    next => cases returned
    next pixels read =>
      cases returned
      obtain ⟨-, -, -, nonempty⟩ := mmapChunks_ok parsed
      have last := List.getLast?_eq_some_getLast nonempty
      have wraps (stop : Nat) : stop % USIZE % 2 ^ 32 = stop % 2 ^ 32 := Nat.mod_mod_of_dvd _ (by decide)
      simp only [MmapArea.release, last, wraps, settle, native, Option.map_some, Option.toList_some,
        List.foldl_cons, List.foldl_nil, and_self]

/-- Whatever the draw: it aborts exactly when it has chunks and names its format
nowhere in the hash that should. -/
theorem readMmapDraw_aborts_iff (draw : WireDraw) (area : MmapArea) :
    (∃ cause, readMmapDraw host draw.packet area = .error cause) ↔
      (∃ chunks, mmapChunks host draw.packet = .ok chunks) ∧ ¬ Formatted draw.packet := by
  rw [readMmapDraw]
  cases parsed : mmapChunks host draw.packet with
  | error message => simp
  | ok chunks =>
    obtain ⟨items, found, long, -⟩ := mmapChunks_ok parsed
    rcases mmapRgbFormat_eq draw.packet with ⟨formatted, format, named⟩ | ⟨bare, missing⟩
    · obtain ⟨result, read, -⟩ := readMmapPixels_ok area parsed (by rw [← long]; exact draw.short items found) named
      simp [read, formatted, bind, Except.bind, pure, Except.pure]
    · simp [readMmapPixels, missing, bare, bind, Except.bind]

/-! ### A sequence of draws -/

theorem settle_byte (memory : Memory) (ends : List Nat) (index : Nat) (behind : 4 ≤ index) :
    (settle host memory ends).byte index = memory.byte index := by
  induction ends generalizing memory with
  | nil => rfl
  | cons stop rest ih =>
    apply (ih _).trans
    have outside : ¬ (0 ≤ index ∧ index < 0 + (native host stop).length) := by
      rw [native]
      split <;> simp <;> omega
    exact if_neg outside

theorem store_slice (memory : Memory) (bytes : Bytes) : (memory.store 0 bytes).slice 0 bytes.length = bytes := by
  apply List.ext_getElem (by simp)
  intro i short long
  simp [Memory.slice, Memory.store, long]

theorem settle_slice (memory : Memory) (ends : List Nat) (stop : Nat) (last : ends.getLast? = some stop) :
    (settle host memory ends).slice 0 4 = native host stop := by
  obtain ⟨init, rfl⟩ := List.getLast?_eq_some_iff.mp last
  have four : (native host stop).length = 4 := by
    rw [native]
    split <;> simp
  simp only [settle, List.foldl_append, List.foldl_cons, List.foldl_nil]
  rw [← four]
  exact store_slice _ _

def drawStep (host : Host) (packet : Packet) (area : MmapArea) : Except Panic MmapArea :=
  Prod.snd <$> readMmapDraw host packet area

/-- Every draw with a chunk list has moved `data_start` once, past its last
chunk, and nothing else has been written. -/
structure Reclaimed (host : Host) (area : MmapArea) (draws : List Packet) (final : MmapArea) : Prop where
  stores : final.released = area.released ++ draws.filterMap (drawEnd host)
  counter : ∀ stop, (draws.filterMap (drawEnd host)).getLast? = some stop →
    final.memory.slice 0 4 = native host stop
  idle : draws.filterMap (drawEnd host) = [] → final.memory = area.memory
  frame : ∀ index, 4 ≤ index → final.memory.byte index = area.memory.byte index
  whole : ∀ draw ∈ draws, ∀ chunks chunk, mmapChunks host draw = .ok chunks → chunks.getLast? = some chunk →
    chunk.1 + chunk.2 ≤ area.memory.size → drawEnd host draw = some (chunk.1 + chunk.2)

private theorem draws_settle {draws : List Packet} {area final : MmapArea}
    (ran : Machine.run (drawStep host) draws area = .ok final) :
    final.released = area.released ++ draws.filterMap (drawEnd host) ∧
      final.memory = settle host area.memory (draws.filterMap (drawEnd host)) := by
  induction draws generalizing area with
  | nil =>
    cases ran
    simp [settle]
  | cons draw rest ih =>
    obtain ⟨middle, moved, later⟩ := (Machine.run_cons_ok _).mp ran
    obtain ⟨stores, memory⟩ := ih later
    rw [drawStep] at moved
    cases read : readMmapDraw host draw area with
    | error cause => simp [read, Functor.map, Except.map] at moved
    | ok both =>
      obtain ⟨result, next⟩ := both
      simp only [read, Functor.map, Except.map, Except.ok.injEq] at moved
      subst moved
      obtain ⟨first, second⟩ := readMmapDraw_ok read
      rw [stores, memory, first, second, List.filterMap_cons]
      cases drawEnd host draw <;> simp [settle]

theorem reclaimed_of_run {draws : List Packet} {area final : MmapArea}
    (ran : Machine.run (drawStep host) draws area = .ok final) : Reclaimed host area draws final := by
  obtain ⟨stores, memory⟩ := draws_settle ran
  refine ⟨stores, fun stop last => ?_, fun none => ?_, fun index behind => ?_, ?_⟩
  · rw [memory]
    exact settle_slice _ _ _ last
  · simp [memory, none, settle]
  · rw [memory]
    exact settle_byte _ _ _ behind
  · intro draw _ chunks chunk parsed last inside
    have small : chunk.1 + chunk.2 < 2 ^ 32 := by
      have := area.upper
      simp only [MAX_SIZE] at this
      omega
    rw [drawEnd, parsed]
    simp only [last, Option.map_some, Nat.mod_eq_of_lt small]

/-- A sequence of draws reclaims all its space exactly when each draw that lists
chunks has a format to be looked up. -/
theorem draws_reclaimed_iff (host : Host) (area : MmapArea) (draws : List WireDraw) :
    (∃ final, Machine.run (drawStep host) (draws.map WireDraw.packet) area = .ok final ∧
        Reclaimed host area (draws.map WireDraw.packet) final) ↔
      ∀ draw ∈ draws, ∀ chunks, mmapChunks host draw.packet = .ok chunks → Formatted draw.packet := by
  constructor
  · rintro ⟨final, ran, -⟩
    induction draws generalizing area with
    | nil => simp
    | cons draw rest ih =>
      obtain ⟨middle, moved, later⟩ := (Machine.run_cons_ok _).mp ran
      refine List.forall_mem_cons.mpr ⟨fun chunks parsed => ?_, ih middle later⟩
      by_contra bare
      obtain ⟨cause, aborted⟩ := (readMmapDraw_aborts_iff draw area).mpr ⟨⟨chunks, parsed⟩, bare⟩
      simp [drawStep, aborted, Functor.map, Except.map] at moved
  · intro formatted
    have returns : ∃ final, Machine.run (drawStep host) (draws.map WireDraw.packet) area = .ok final := by
      induction draws generalizing area with
      | nil => exact ⟨area, rfl⟩
      | cons draw rest ih =>
        obtain ⟨first, later⟩ := List.forall_mem_cons.mp formatted
        cases read : readMmapDraw host draw.packet area with
        | error cause =>
          obtain ⟨⟨chunks, parsed⟩, bare⟩ := (readMmapDraw_aborts_iff draw area).mp ⟨cause, read⟩
          exact absurd (first chunks parsed) bare
        | ok both =>
          obtain ⟨final, ran⟩ := ih both.2 later
          exact ⟨final, (Machine.run_cons_ok _).mpr ⟨both.2, by simp [drawStep, read, Functor.map, Except.map], ran⟩⟩
    obtain ⟨final, ran⟩ := returns
    exact ⟨final, ran, reclaimed_of_run ran⟩

private def chunkList : Yaml := .array [.array [.integer 8, .integer 4]]

private def unformatted : WireDraw where
  packet := { main := [.string "draw", .integer 1, .integer 0, .integer 0, .integer 1, .integer 1, .string "mmap",
    chunkList, .integer 1, .integer 4, .hash [(.string "chunks", chunkList)]] }
  short := by
    intro items found
    cases found
    decide

theorem unformatted_draw_is_not_reclaimed :
    ∃ (host : Host) (area : MmapArea) (draw : WireDraw),
      (∃ chunks, mmapChunks host draw.packet = .ok chunks) ∧
      readMmapDraw host draw.packet area = .error .missingKey ∧
      ¬ ∃ final, Machine.run (drawStep host) [draw.packet] area = .ok final ∧
        Reclaimed host area [draw.packet] final := by
  refine ⟨.plain, .create "" ⟨MIN_SIZE, by decide⟩ 1 0, unformatted, ⟨[(8, 4)], rfl⟩, rfl, ?_⟩
  rintro ⟨final, ran, -⟩
  cases ran

end Xpra.Proofs.MmapRelease
