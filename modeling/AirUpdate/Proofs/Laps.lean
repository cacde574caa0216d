/-
  Air updates — the sequencer as an index without bound.

  An id and a count of laps are an index cut in two (`id_toNat`, `rollover_eq`).
  Moving on adds to the index (`index_advanceBy`).  A report takes it back to the
  nearest number with the reported id, if there is one
  (`isGreatest_index_resync`), so of all places in which the device may be, a
  report brings the sequencer to those of the last lap
  (`index_resync_eq_iff`).  None of this leaves the words as long as the index is
  one (`fitsWords_of_lt`).
-/
import AirUpdate.Proofs.Resync
import Mathlib.Order.Bounds.Basic

namespace AirUpdate.Sequencer

variable {q : Sequencer} {r : UInt8} {d : Nat}

theorem lap_eq : lap = 256 := rfl

theorem rollover_eq (q : Sequencer) : q.rollover = q.index / lap := by
  have hid := q.id.toNat_lt
  rw [index_eq, lap_eq]
  omega

theorem ext_index {p : Sequencer} (h : p.index = q.index) : p = q := by
  have hid : p.id = q.id := by rw [id_eq_ofNat, id_eq_ofNat, h]
  have hrollover : p.rollover = q.rollover := by rw [rollover_eq, rollover_eq, h]
  cases p
  cases q
  cases hid
  cases hrollover
  rfl

theorem index_advanceBy (n : Nat) (q : Sequencer) : (advanceBy n q).index = q.index + n := by
  induction n generalizing q with
  | zero => rfl
  | succ n ih =>
    rw [advanceBy, ih, index_advance]
    omega

/-! ## Words -/

/-- What is computed of the sequencer stays in the words: its index, the laps in it,
    and the count of the lap to come. -/
structure FitsWords (q : Sequencer) : Prop where
  laps_lt : lap * q.rollover < wordSpan
  index_lt : q.index < wordSpan
  next_lap_lt : q.rollover + 1 < wordSpan

theorem fitsWords_of_lt (h : q.index < wordSpan) : q.FitsWords := by
  have hspan : wordSpan = 18446744073709551616 := rfl
  have hindex := index_eq q
  rw [hspan] at h
  constructor <;> simp only [hspan, lap_eq] <;> omega

/-! ## Reports -/

/-- Back in its own lap, or in the one before, the sequencer is at the nearest number with
    the reported id. -/
theorem isGreatest_index_resync (h : r.toNat ≤ q.index) :
    IsGreatest {m | m ≤ q.index ∧ m % lap = r.toNat} (q.resync r).index := by
  have hid := q.id.toNat_lt
  have hr := r.toNat_lt
  rw [index_eq] at h
  rw [index_resync]
  refine ⟨⟨?_, ?_⟩, ?_⟩
  · rw [index_eq]
    split <;> omega
  · rw [lap_eq]
    omega
  · rintro m ⟨hle, hm⟩
    rw [index_eq] at hle
    rw [lap_eq] at hm
    split <;> omega

/-- There is no lap before the first. -/
theorem index_resync_of_first (h : q.index < r.toNat) : (q.resync r).index = r.toNat := by
  have hr := r.toNat_lt
  rw [index_eq] at h
  rw [index_resync]
  split <;> omega

theorem index_resync_le (q : Sequencer) (r : UInt8) : (q.resync r).index ≤ max 255 q.index := by
  by_cases h : r.toNat ≤ q.index
  · exact Nat.le_trans (isGreatest_index_resync h).1.1 (Nat.le_max_right 255 q.index)
  · have hr := r.toNat_lt
    rw [index_resync_of_first (Nat.lt_of_not_le h)]
    omega

theorem resync_ofNat_index (q : Sequencer) : q.resync (UInt8.ofNat q.index) = q :=
  ext_index (index_resync_of_le (Nat.le_refl _) (by omega))

/-- Hearing the same id again changes nothing. -/
theorem resync_resync (q : Sequencer) (r : UInt8) : (q.resync r).resync r = q.resync r := by
  have h := resync_ofNat_index (q.resync r)
  rwa [← id_eq_ofNat, id_resync] at h

/-- **The places that a report recovers** are those of the last lap, and in the first lap
    all of that. -/
theorem index_resync_eq_iff : (q.resync (UInt8.ofNat d)).index = d ↔
    q.index < lap ∧ d < lap ∨ lap ≤ q.index ∧ q.index < d + lap ∧ d ≤ q.index := by
  have hid := q.id.toNat_lt
  rw [index_resync, UInt8.toNat_ofNat', index_eq, lap_eq]
  split <;> omega

/-- What a sequencer does, in terms of its index alone. -/
structure RefinesIndex (q : Sequencer) : Prop where
  /-- the id is the place in the lap, the count that of the laps before -/
  split_eq : q.id.toNat = q.index % lap ∧ q.rollover = q.index / lap
  /-- moving on adds to the index, and never leaves the words on the way -/
  advances : ∀ k, q.index + k < wordSpan →
    (advanceBy k q).index = q.index + k ∧ ∀ i ≤ k, (advanceBy i q).FitsWords
  /-- a report takes it to the last number up to its index that has the id, and where there
      is none to the id itself -/
  lands : ∀ r : UInt8, IsGreatest {m | m ≤ q.index ∧ m % lap = r.toNat} (q.resync r).index ∨
    (∀ m ≤ q.index, m % lap ≠ r.toNat) ∧ (q.resync r).index = r.toNat
  fits_resync : ∀ r, (q.resync r).FitsWords
  again : ∀ r, (q.resync r).resync r = q.resync r
  own : q.resync (UInt8.ofNat q.index) = q
  recovers_iff : ∀ d, (q.resync (UInt8.ofNat d)).index = d ↔
    q.index < lap ∧ d < lap ∨ lap ≤ q.index ∧ q.index < d + lap ∧ d ≤ q.index

/-- **A sequencer is its index**, as long as that is a word. -/
theorem refinesIndex_of_lt (h : q.index < wordSpan) : q.RefinesIndex := by
  constructor
  case split_eq => exact ⟨id_toNat q, rollover_eq q⟩
  case advances =>
    intro k hk
    refine ⟨index_advanceBy k q, fun i hi => fitsWords_of_lt ?_⟩
    rw [index_advanceBy]
    omega
  case lands =>
    intro r
    by_cases hr : r.toNat ≤ q.index
    · exact Or.inl (isGreatest_index_resync hr)
    · refine Or.inr ⟨fun m hm hmod => ?_, index_resync_of_first (Nat.lt_of_not_le hr)⟩
      have hle := Nat.mod_le m lap
      omega
  case fits_resync =>
    intro r
    have hle := index_resync_le q r
    have hspan : 255 < wordSpan := by decide
    exact fitsWords_of_lt (lt_of_le_of_lt hle (max_lt hspan h))
  case again => exact resync_resync q
  case own => exact resync_ofNat_index q
  case recovers_iff => exact fun d => index_resync_eq_iff

/-- In the second lap, at its beginning: the fragment 255 places behind is found again, and
    one a whole lap behind is taken for that which is next. -/
theorem recovers_of_second_lap :
    (Sequencer.resync ⟨2, 1⟩ (UInt8.ofNat 3)).index = 3 ∧
      (Sequencer.resync ⟨2, 1⟩ (UInt8.ofNat 2)).index ≠ 2 := by
  have hrefines : RefinesIndex ⟨2, 1⟩ := refinesIndex_of_lt (by decide)
  rw [Ne, hrefines.recovers_iff, hrefines.recovers_iff]
  decide

end AirUpdate.Sequencer
