/-
  Air updates — fragments and the chunks of an image.

  An image travels in fragments: a wrapping 8-bit id, then the payload.  The
  payload of fragment number `i` is the `i`-th chunk of the image.  Offsets
  are 64-bit words: `chunk` refuses an offset that is no word, so it never
  wraps around into the image (`chunk_of_overflow`), and otherwise it is what
  `drop` and `take` say (`chunk_eq`).
-/
import AirUpdate.Bytes

namespace AirUpdate

/-- Payload bytes per fragment unless the settings say otherwise. -/
def defaultFragmentSize : Nat := 128

/-- The largest fragment id; the id after it is zero. -/
def maximumFragmentId : UInt8 := 255

/-- One write to the binary stream. -/
structure Fragment where
  id : UInt8
  payload : Bytes
  deriving DecidableEq, Repr

namespace Fragment

/-- A fragment on the wire: its id, then its payload. -/
def toBytes (f : Fragment) : Bytes :=
  f.id :: f.payload

/-- The fragment in a write; an empty write holds none. -/
def ofBytes? : Bytes → Option Fragment
  | [] => none
  | id :: payload => some ⟨id, payload⟩

@[simp] theorem ofBytes?_toBytes (f : Fragment) : ofBytes? f.toBytes = some f := rfl

/-- A write holds a fragment exactly if it is that fragment on the wire. -/
theorem ofBytes?_eq_some_iff {bs : Bytes} {f : Fragment} : ofBytes? bs = some f ↔ bs = f.toBytes := by
  cases bs with
  | nil => simp [ofBytes?, toBytes]
  | cons b bs =>
    obtain ⟨id, payload⟩ := f
    simp [ofBytes?, toBytes]

end Fragment

/-- The number of values of a 64-bit word. -/
def wordSpan : Nat := UInt64.size

/-- The product of two words, if it is a word. -/
def mulWord? (a b : Nat) : Option Nat :=
  if a * b < wordSpan then some (a * b) else none

/-- The sum of two words, or the largest word if that is smaller. -/
def addWordCapped (a b : Nat) : Nat :=
  min (a + b) (wordSpan - 1)

/-- The `index`-th chunk of `size` bytes; the last one ends with the data, and
    a chunk that starts past the end is empty. -/
def chunk (data : Bytes) (size index : Nat) : Bytes :=
  match mulWord? size index with
  | none => []
  | some start =>
    if data.length ≤ start then []
    else (data.drop start).take (min (addWordCapped start size) data.length - start)

/-- How many chunks of `size` bytes the data has; a size of zero counts as one. -/
def chunkCount (data : Bytes) (size : Nat) : Nat :=
  (data.length + (max size 1 - 1)) / max size 1

theorem chunk_of_overflow {data : Bytes} {size index : Nat} (h : wordSpan ≤ size * index) :
    chunk data size index = [] := by
  simp [chunk, mulWord?, Nat.not_lt.2 h]

/-- On data shorter than the word span, a chunk is the next `size` bytes after
    the first `size * index` ones. -/
theorem chunk_eq {data : Bytes} (size index : Nat) (h : data.length < wordSpan) :
    chunk data size index = (data.drop (size * index)).take size := by
  unfold chunk mulWord?
  by_cases hw : size * index < wordSpan
  · rw [if_pos hw]
    simp only
    by_cases hl : data.length ≤ size * index
    · rw [if_pos hl, List.drop_eq_nil_of_le hl, List.take_nil]
    · rw [if_neg hl]
      have hlen : (data.drop (size * index)).length = data.length - size * index := by simp
      by_cases hs : size ≤ data.length - size * index
      · congr 1
        unfold addWordCapped
        omega
      · rw [List.take_of_length_le, List.take_of_length_le]
        · omega
        · unfold addWordCapped
          omega
  · rw [if_neg hw, List.drop_eq_nil_of_le (by omega), List.take_nil]

end AirUpdate
