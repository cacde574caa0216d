/-
  Air updates — how the chunks divide an image.

  Who reads the chunks of an image one after the other, up to the first that is
  shorter than the full size, has read the image: `ReadsFrom` is that way of
  reading, and it comes to the rest of the image from wherever it starts
  (`readsFrom_iff`).  `Divided` gathers what the chunks of one size are to an image:
  their place in it, their lengths, their number, and that they are all of it.
-/
import AirUpdate.Image
import AirUpdate.Proofs.Chunks

namespace AirUpdate

/-- Reading chunks from this number on, up to the first that is shorter than the full
    size, comes to these bytes. -/
inductive ReadsFrom (data : Bytes) (size : Nat) : Nat → Bytes → Prop
  | short {i : Nat} : (chunk data size i).length < size → ReadsFrom data size i (chunk data size i)
  | full {i : Nat} {rest : Bytes} : (chunk data size i).length = size →
      ReadsFrom data size (i + 1) rest → ReadsFrom data size i (chunk data size i ++ rest)

section
variable {data read : Bytes} {size i : Nat}

/-- A chunk and what is behind it are what is behind the chunk before. -/
theorem chunk_append_drop (hd : data.length < wordSpan) (size i : Nat) :
    chunk data size i ++ data.drop (size * (i + 1)) = data.drop (size * i) := by
  rw [chunk_eq size i hd, Nat.mul_succ, ← List.drop_drop, List.take_append_drop]

/-- A short chunk is all that is left. -/
theorem chunk_of_short (hd : data.length < wordSpan) (h : (chunk data size i).length < size) :
    chunk data size i = data.drop (size * i) := by
  rw [chunk_eq size i hd, List.length_take] at h
  rw [chunk_eq size i hd, List.take_of_length_le (by omega)]

theorem ReadsFrom.eq_drop (hd : data.length < wordSpan) (h : ReadsFrom data size i read) :
    read = data.drop (size * i) := by
  induction h with
  | short h => exact chunk_of_short hd h
  | full _ _ ih => rw [ih, chunk_append_drop hd]

/-- Reading comes to an end. -/
theorem readsFrom_drop (hd : data.length < wordSpan) (hs : 0 < size) (i : Nat) :
    ReadsFrom data size i (data.drop (size * i)) := by
  -- a full chunk leaves less than there was before it
  induction hn : data.length - size * i using Nat.strongRecOn generalizing i with
  | ind n ih =>
    have hlength : (chunk data size i).length = min size (data.length - size * i) := length_chunk hd
    by_cases hshort : (chunk data size i).length < size
    · rw [← chunk_of_short hd hshort]
      exact .short hshort
    · rw [← chunk_append_drop hd size i]
      refine .full (by omega) (ih (data.length - size * (i + 1)) ?_ (i + 1) rfl)
      rw [Nat.mul_succ]
      omega

/-- **Reading the chunks up to the first short one** comes to what is left of the data. -/
theorem readsFrom_iff (hd : data.length < wordSpan) (hs : 0 < size) :
    ReadsFrom data size i read ↔ read = data.drop (size * i) := by
  refine ⟨ReadsFrom.eq_drop hd, ?_⟩
  rintro rfl
  exact readsFrom_drop hd hs i

end

namespace Image

/-- How the chunks of one size divide an image. -/
structure Divided (image : Image) (size : Nat) : Prop where
  /-- a chunk is the next bytes behind those before it, for offsets of any length -/
  chunk_eq : ∀ i, chunk image.bytes size i = (image.bytes.drop (size * i)).take size
  length_eq : ∀ i, (chunk image.bytes size i).length = min size (image.size - size * i)
  /-- the chunks with something in them are those up to the number of fragments -/
  ne_nil_iff : 0 < size → ∀ i, chunk image.bytes size i ≠ [] ↔ i < image.fragmentCount size
  /-- only the last of them may be short -/
  last_of_short : 0 < size → ∀ i, chunk image.bytes size i ≠ [] →
    (chunk image.bytes size i).length < size → i + 1 = image.fragmentCount size
  flatten_eq : 0 < size →
    ((List.range (image.fragmentCount size)).map (chunk image.bytes size)).flatten = image.bytes
  /-- they are also what comes of reading up to the first short one, and nothing else does -/
  reads_iff : 0 < size → ∀ read, ReadsFrom image.bytes size 0 read ↔ read = image.bytes

/-- **The chunks of each size divide an image** that is shorter than the span of a word. -/
theorem divided_of_lt {image : Image} (h : image.size < wordSpan) (size : Nat) :
    image.Divided size := by
  have hlength : image.bytes.length < wordSpan := h
  constructor
  case chunk_eq => exact fun i => AirUpdate.chunk_eq size i hlength
  case length_eq => exact fun i => length_chunk hlength
  case ne_nil_iff =>
    intro hs i
    rw [Ne, chunk_eq_nil_iff hlength hs, Nat.not_le]
    rfl
  case last_of_short => exact fun hs i => succ_eq_chunkCount hlength hs
  case flatten_eq => exact fun hs => flatten_chunks hlength hs
  case reads_iff =>
    intro hs read
    rw [readsFrom_iff hlength hs, Nat.mul_zero, List.drop_zero]

/-- Seven bytes in chunks of three: the last is short, and a chunk whose offset is no word
    any more is empty. -/
theorem divided_of_seven :
    (⟨[1, 2, 3, 4, 5, 6, 7]⟩ : Image).fragmentCount 3 = 2 + 1 ∧
      ReadsFrom [1, 2, 3, 4, 5, 6, 7] 3 0 [1, 2, 3, 4, 5, 6, 7] ∧
      chunk [1, 2, 3, 4, 5, 6, 7] 3 (wordSpan - 1) = [] := by
  have hdivided : Divided ⟨[1, 2, 3, 4, 5, 6, 7]⟩ 3 := divided_of_lt (by decide) 3
  refine ⟨?_, (hdivided.reads_iff (by decide) _).2 rfl, ?_⟩
  · exact (hdivided.last_of_short (by decide) 2 (by decide) (by decide)).symm
  · exact Decidable.not_not.1 (mt (hdivided.ne_nil_iff (by decide) _).1 (by decide))

end Image

end AirUpdate
