/-
  Air updates — the chunks of an image.

  The chunks of an image are numbered from zero up to `chunkCount`: a chunk is
  empty exactly from that number on (`chunk_eq_nil_iff`), only the last one may
  be short (`succ_eq_chunkCount`), and all of them in order are the image
  (`flatten_chunks`).  The image is taken to be shorter than the span of a
  word, as every byte string in memory is.
-/
import AirUpdate.Fragment

namespace AirUpdate

variable {data : Bytes} {size i : Nat}

theorem lt_chunkCount_iff (hs : 0 < size) : i < chunkCount data size ↔ size * i < data.length := by
  have hmax : max size 1 = size := by omega
  have hmul : (i + 1) * size = size * i + size := by rw [Nat.succ_mul, Nat.mul_comm]
  rw [chunkCount, hmax, Nat.lt_iff_add_one_le, Nat.le_div_iff_mul_le hs, hmul]
  omega

theorem lt_chunkCount_of_chunk (hs : 0 < size) (h : chunk data size i ≠ []) :
    i < chunkCount data size := by
  rw [lt_chunkCount_iff hs, ← Nat.not_le]
  intro hle
  refine h ?_
  unfold chunk mulWord?
  split
  · rfl
  · next start hstart =>
    split at hstart
    · cases hstart
      rw [if_pos hle]
    · cases hstart

theorem length_chunk (hd : data.length < wordSpan) :
    (chunk data size i).length = min size (data.length - size * i) := by
  rw [chunk_eq size i hd, List.length_take, List.length_drop]

/-- A chunk is empty exactly from `chunkCount` on. -/
theorem chunk_eq_nil_iff (hd : data.length < wordSpan) (hs : 0 < size) :
    chunk data size i = [] ↔ chunkCount data size ≤ i := by
  have hlt : i < chunkCount data size ↔ size * i < data.length := lt_chunkCount_iff hs
  rw [← List.length_eq_zero_iff, length_chunk hd]
  omega

/-- Only the last chunk may be shorter than the full size. -/
theorem succ_eq_chunkCount (hd : data.length < wordSpan) (hs : 0 < size)
    (hne : chunk data size i ≠ []) (hshort : (chunk data size i).length < size) :
    i + 1 = chunkCount data size := by
  have hi : i < chunkCount data size := by
    rw [Ne, chunk_eq_nil_iff hd hs] at hne
    omega
  have hnext : ¬ i + 1 < chunkCount data size := by
    rw [lt_chunkCount_iff hs, Nat.mul_succ]
    rw [length_chunk hd] at hshort
    omega
  omega

theorem length_chunk_of_dvd (hd : data.length < wordSpan) (hs : 0 < size)
    (hdvd : size ∣ data.length) (hne : chunk data size i ≠ []) :
    (chunk data size i).length = size := by
  rw [Ne, chunk_eq_nil_iff hd hs, Nat.not_le, lt_chunkCount_iff hs] at hne
  obtain ⟨k, hk⟩ := hdvd
  rw [hk] at hne
  have hik : i + 1 ≤ k := Nat.lt_of_mul_lt_mul_left hne
  have hmul : size * (i + 1) ≤ size * k := Nat.mul_le_mul_left size hik
  rw [Nat.mul_succ] at hmul
  rw [length_chunk hd, hk]
  omega

theorem flatten_chunks_take (hd : data.length < wordSpan) (n : Nat) :
    ((List.range n).map (chunk data size)).flatten = data.take (size * n) := by
  induction n with
  | zero => simp
  | succ n ih =>
    rw [List.range_succ, List.map_append, List.flatten_append, ih, Nat.mul_succ, List.take_add]
    simp [chunk_eq size n hd]

/-- **The chunks in order are the image.** -/
theorem flatten_chunks (hd : data.length < wordSpan) (hs : 0 < size) :
    ((List.range (chunkCount data size)).map (chunk data size)).flatten = data := by
  rw [flatten_chunks_take hd, List.take_of_length_le]
  have hlt : _ ↔ size * chunkCount data size < data.length := lt_chunkCount_iff hs
  omega

/-- The fragment with this number. -/
def fragmentAt (data : Bytes) (size i : Nat) : Fragment :=
  ⟨UInt8.ofNat i, chunk data size i⟩

end AirUpdate
