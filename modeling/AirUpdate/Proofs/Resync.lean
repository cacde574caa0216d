/-
  Air updates — where a reported id takes the sequencer.

  The device reports an 8-bit id, the sequencer counts laps.  A report of a
  fragment less than a lap behind the next one is understood exactly
  (`index_resync_of_le`).  A report of a fragment ahead is right in the first
  lap and otherwise a whole lap short (`index_resync_of_lt`).  So a report
  moves the sequencer forward only to its own id (`lt_of_lt_index_resync`).
-/
import AirUpdate.Proofs.Chunks
import AirUpdate.Sequencer

namespace AirUpdate.Sequencer

variable {q : Sequencer} {d j : Nat}

theorem index_eq (q : Sequencer) : q.index = 256 * q.rollover + q.id.toNat := rfl

theorem id_toNat (q : Sequencer) : q.id.toNat = q.index % 256 := by
  have := q.id.toNat_lt
  rw [index_eq]
  omega

theorem id_eq_ofNat (q : Sequencer) : q.id = UInt8.ofNat q.index := by
  apply UInt8.toNat_inj.1
  rw [id_toNat, UInt8.toNat_ofNat']

/-- The next fragment is the one with the number `index`. -/
theorem fragment_eq (q : Sequencer) (data : Bytes) (size : Nat) :
    (⟨q.id, q.nextChunk data size⟩ : Fragment) = fragmentAt data size q.index := by
  rw [fragmentAt, ← id_eq_ofNat]
  rfl

theorem index_resync (q : Sequencer) (r : UInt8) :
    (q.resync r).index =
      256 * (if q.id.toNat < r.toNat then q.rollover - 1 else q.rollover) + r.toNat := by
  rw [resync, index_eq]
  simp only [UInt8.lt_iff_toNat_lt]

/-- A report of a fragment less than a lap behind takes the sequencer to it. -/
theorem index_resync_of_le (h : d ≤ q.index) (hlap : q.index < d + 256) :
    (q.resync (UInt8.ofNat d)).index = d := by
  have hid := q.id.toNat_lt
  rw [index_eq] at h hlap
  rw [index_resync, UInt8.toNat_ofNat']
  split <;> omega

/-- A report of a fragment ahead, by less than a lap, takes the sequencer to it
    in the first lap only, and else to the fragment one lap before. -/
theorem index_resync_of_lt (h : q.index < d) (hlap : d < q.index + 256) :
    (q.resync (UInt8.ofNat d)).index = if d < 256 then d else d - 256 := by
  have hid := q.id.toNat_lt
  rw [index_eq] at h hlap
  rw [index_resync, UInt8.toNat_ofNat']
  split <;> split <;> omega

/-- A report moves the sequencer forward to its own id at most. -/
theorem lt_of_lt_index_resync {r : UInt8} (h : q.index ≤ j) (hj : j < (q.resync r).index) :
    j < r.toNat := by
  have hid := q.id.toNat_lt
  have hr := r.toNat_lt
  rw [index_eq] at h
  rw [index_resync] at hj
  split at hj <;> omega

end AirUpdate.Sequencer
