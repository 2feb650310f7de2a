import Xpra.Proofs.MmapRelease

/-! An image read out of the shared area: which requests succeed, and every byte of
what they return. -/

namespace Xpra.Proofs.Destride
open Xpra.Net Xpra.Client MmapRelease

/-- With the sizes that a packet can carry, `destride` returns in every build, and
nothing overflows or leaves the area on the way. It returns an image exactly when the
chunks lie in the area and hold it, and then every byte of a row is the byte of the
stream that the stride says. -/
theorem destride_reads_image (area : Memory) (sized : area.size ≤ 2 ^ 32 - 1) (chunks : List (Nat × Nat))
    (short : chunks.length < 2 ^ 31) (w h rowstride : Nat) (width : w < 2 ^ 31) (height : h < 2 ^ 31) (row : rowstride < 2 ^ 31) :
    ∃ result, Checked.destride area chunks w h rowstride = .ok result ∧
      destride area chunks w h rowstride = .ok result ∧
      ((∃ pixels, result = .ok pixels) ↔
        0 < w ∧ 0 < h ∧ 4 * w ≤ strideOf w rowstride ∧
          (∀ chunk ∈ chunks, 8 ≤ chunk.1 ∧ chunk.1 + chunk.2 ≤ area.size) ∧
          (h - 1) * strideOf w rowstride + 4 * w ≤ (chunks.map Prod.snd).sum) ∧
      ∀ pixels, result = .ok pixels → pixels.length = 4 * w * h ∧
        ∀ r < h, ∀ j < 4 * w, ∃ byte, pixels[r * (4 * w) + j]? = some byte ∧
          (logical area chunks)[r * strideOf w rowstride + j]? = some byte := by
  obtain ⟨result, checked, held, image⟩ := destride_ok sized short width height row
  refine ⟨result, checked, Checked.destride_agrees checked, held.trans ?_, ?_⟩
  · rw [Nat.mul_comm 4 w]
    exact ⟨fun holds => ⟨holds.wide, holds.high, holds.stride, holds.inside, holds.enough⟩,
      fun ⟨wide, high, stride, inside, enough⟩ => ⟨wide, high, stride, inside, enough⟩⟩
  · intro pixels same
    obtain ⟨size, rows⟩ := image pixels same
    rw [Nat.mul_comm 4 w]
    refine ⟨size, fun r above j across => ?_⟩
    have inside : r * (w * 4) + j < pixels.length := by
      have upto : (r + 1) * (w * 4) ≤ h * (w * 4) := Nat.mul_le_mul_right _ above
      rw [Nat.succ_mul] at upto
      rw [size, Nat.mul_comm (w * 4) h]
      omega
    exact ⟨pixels[r * (w * 4) + j], List.getElem?_eq_getElem inside,
      by rw [← rows r above j across]; exact List.getElem?_eq_getElem inside⟩

/-- Two rows of two pixels, split over the end of the ring in the middle of the first. -/
theorem destride_reads_image_wrapped :
    ∃ pixels, destride ⟨64, UInt8.ofNat⟩ [(58, 6), (8, 10)] 2 2 0 = .ok (.ok pixels) ∧ pixels.length = 16 ∧
      pixels = [58, 59, 60, 61, 62, 63, 8, 9, 10, 11, 12, 13, 14, 15, 16, 17] := by
  obtain ⟨result, -, returned, held, image⟩ := destride_reads_image ⟨64, UInt8.ofNat⟩ (by decide)
    [(58, 6), (8, 10)] (by decide) 2 2 0 (by decide) (by decide) (by decide)
  obtain ⟨pixels, rfl⟩ := held.mpr (by decide)
  refine ⟨pixels, returned, (image pixels rfl).1, ?_⟩
  have evaluated : destride ⟨64, UInt8.ofNat⟩ [(58, 6), (8, 10)] 2 2 0 =
      .ok (.ok [58, 59, 60, 61, 62, 63, 8, 9, 10, 11, 12, 13, 14, 15, 16, 17]) := rfl
  simpa [evaluated, eq_comm] using returned

end Xpra.Proofs.Destride
