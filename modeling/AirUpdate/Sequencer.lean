/-
  Air updates — the sequencer: which fragment goes out next.

  The device sees only an 8-bit fragment id.  The sender counts, beside it,
  how often the id has wrapped; both together are the index of the fragment
  in the image (`index`).  `advance` moves on by one fragment
  (`index_advance`) and `resync` adopts the id that the device reports.
-/
import AirUpdate.Fragment

namespace AirUpdate

/-- The next fragment to send. -/
structure Sequencer where
  /-- its id on the wire -/
  id : UInt8
  /-- how often the id has wrapped -/
  rollover : Nat
  deriving DecidableEq, Repr

namespace Sequencer

def initial : Sequencer := ⟨0, 0⟩

/-- The number of fragment ids. -/
def lap : Nat := maximumFragmentId.toNat + 1

/-- The index of the next fragment in the image. -/
def index (q : Sequencer) : Nat :=
  lap * q.rollover + q.id.toNat

def nextChunk (q : Sequencer) (data : Bytes) (size : Nat) : Bytes :=
  chunk data size q.index

/-- Moves on to the next fragment; after the largest id comes zero. -/
def advance (q : Sequencer) : Sequencer :=
  if q.id = maximumFragmentId then ⟨0, q.rollover + 1⟩ else ⟨q.id + 1, q.rollover⟩

def advanceBy : Nat → Sequencer → Sequencer
  | 0, q => q
  | n + 1, q => advanceBy n q.advance

/-- Adopts the id that the device reports.  An id ahead of ours means that the
    device has not seen the wrap that we counted, so one lap is taken back,
    as long as there is one. -/
def resync (q : Sequencer) (received : UInt8) : Sequencer :=
  ⟨received, if q.id < received then q.rollover - 1 else q.rollover⟩

@[simp] theorem index_initial : initial.index = 0 := rfl

@[simp] theorem index_advance (q : Sequencer) : q.advance.index = q.index + 1 := by
  unfold advance
  have hlap : lap = 256 := rfl
  split
  · next h => simp only [index, hlap, h]; show 256 * (q.rollover + 1) + 0 = _ + 255 + 1; omega
  · next h =>
    have hid : q.id.toNat ≠ 255 := fun e => h (UInt8.toNat_inj.1 e)
    have hlt := q.id.toNat_lt
    have h1 : (q.id + 1).toNat = q.id.toNat + 1 := by
      rw [UInt8.toNat_add]
      show (q.id.toNat + 1) % 256 = _
      omega
    simp only [index, h1]
    omega

@[simp] theorem id_resync (q : Sequencer) (r : UInt8) : (q.resync r).id = r := rfl

end Sequencer

end AirUpdate
