/-
  Air updates — reports that steer the stream.

  Of all notifications only XOFF, XON and SYNC_LOST with their id move the flow
  (`heeded_flow_of_none`, `heeded_flow_of_some`), and forward they move it to
  their own id at most (`exists_steering_of_lt`).
-/
import AirUpdate.Proofs.Turns

namespace AirUpdate

namespace StatusReport
variable {r : StatusReport}

/-- A report that was read has an id exactly if its status carries one. -/
theorem isSome_of_ofBytes {value : Bytes} (h : ofBytes value = .ok r) :
    r.fragmentId.isSome = r.status.carriesId := by
  cases value with
  | nil => cases h
  | cons code rest =>
    simp only [ofBytes] at h
    split at h
    · cases h
    · split at h
      · next hcarries =>
        split at h
        · cases h
        · cases h; exact hcarries.symm
      · next hcarries => cases h; simpa using hcarries

/-- A report whose status and id fit is read back from its bytes. -/
theorem ofBytes_toBytes (h : r.fragmentId.isSome = r.status.carriesId) :
    ofBytes r.toBytes = .ok r := by
  obtain ⟨status, id⟩ := r
  simp only at h
  simp only [toBytes, ofBytes, Status.ofByte?_toByte]
  cases id with
  | none => simp at h; simp [← h]
  | some id => simp at h; simp [← h]

end StatusReport

namespace Flow

theorem sequencer_absorb {f : Flow} {status : Status} {id : UInt8} (h : status.carriesId = true) :
    (f.absorb ⟨status, some id⟩).sequencer = f.sequencer.resync id := by
  cases status <;> first | rfl | cases h

end Flow

namespace Session
variable {D A : Type} {s : Session D A} {r : StatusReport} {j : Nat}

/-- The report in the mailbox, if it is one that steers the stream. -/
def steering? (s : Session D A) : Option StatusReport :=
  match s.world.mailbox.latest.map StatusReport.ofBytes with
  | some (.ok r) => if r.status.carriesId then some r else none
  | _ => none

theorem steering?_eq_some (h : s.steering? = some r) :
    r.status.carriesId = true ∧ ∃ value, s.world.mailbox.latest = some value ∧
      StatusReport.ofBytes value = .ok r := by
  unfold steering? at h
  cases hm : s.world.mailbox.latest with
  | none => rw [hm] at h; cases h
  | some value =>
    rw [hm, Option.map_some] at h
    cases hv : StatusReport.ofBytes value with
    | error e => rw [hv] at h; cases h
    | ok r' =>
      rw [hv] at h
      simp only at h
      split at h
      · next hcarries => cases h; exact ⟨hcarries, value, rfl, hv⟩
      · cases h

/-- Nothing but a steering report moves the flow. -/
theorem heeded_flow_of_none (h : s.steering? = none) : s.heeded.flow = s.flow := by
  unfold steering? at h
  unfold heeded
  cases hm : s.world.mailbox.latest with
  | none => rfl
  | some value =>
    rw [hm, Option.map_some] at h
    simp only [Option.elim_some, Flow.onNotification]
    cases hv : StatusReport.ofBytes value with
    | error e => rfl
    | ok r =>
      rw [hv] at h
      simp only at h
      split at h
      · cases h
      · next hcarries => exact Flow.absorb_of_not_carriesId (Bool.eq_false_iff.2 hcarries)

theorem heeded_flow_of_some (h : s.steering? = some r) : s.heeded.flow = s.flow.absorb r := by
  obtain ⟨-, value, hm, hv⟩ := steering?_eq_some h
  unfold heeded
  simp only [hm, Option.elim_some, Flow.onNotification, hv]

/-- A session fails on no steering report. -/
theorem refusal?_of_steering (h : s.steering? = some r) : s.refusal? = none := by
  obtain ⟨hcarries, value, hm, hv⟩ := steering?_eq_some h
  have hfailure : r.status.isFailure = false := by
    cases hs : r.status <;> rw [hs] at hcarries <;> first | rfl | cases hcarries
  unfold refusal?
  rw [hm, Option.map_some, hv]
  simp [hfailure]

theorem exists_id_of_steering (h : s.steering? = some r) :
    ∃ status id, r = ⟨status, some id⟩ ∧ status.carriesId = true := by
  obtain ⟨hcarries, value, -, hv⟩ := steering?_eq_some h
  have hid := StatusReport.isSome_of_ofBytes hv
  rw [hcarries, Option.isSome_iff_exists] at hid
  obtain ⟨id, hid⟩ := hid
  obtain ⟨status, _⟩ := r
  subst hid
  exact ⟨status, id, rfl, hcarries⟩

/-- What moves the flow forward is a steering report with an id ahead. -/
theorem exists_steering_of_lt (h : s.flow.sequencer.index ≤ j)
    (hj : j < s.heeded.flow.sequencer.index) :
    ∃ status id, s.steering? = some ⟨status, some id⟩ ∧ j < id.toNat := by
  cases hr : s.steering? with
  | none => rw [heeded_flow_of_none hr] at hj; omega
  | some r =>
    obtain ⟨status, id, rfl, hcarries⟩ := exists_id_of_steering hr
    rw [heeded_flow_of_some hr, Flow.sequencer_absorb hcarries] at hj
    exact ⟨status, id, rfl, Sequencer.lt_of_lt_index_resync h hj⟩

end Session

end AirUpdate
