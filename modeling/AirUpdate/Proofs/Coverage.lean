/-
  Air updates — which fragments have gone out at COMMIT.

  The next fragment moves past a number in two ways only: behind a write of the
  fragment with that number, or on a report whose id lies ahead, as it may in
  the first lap.  So at COMMIT every fragment has gone out or was jumped over
  by such a report (`sent_or_skipped_at_commit`).
-/
import AirUpdate.Bench
import AirUpdate.Proofs.Stages

namespace AirUpdate

variable {D A : Type}

/-- In the round the link completed the write of fragment number `j` while that
    was next. -/
def Round.Sends (link : Link D A) (x : Round D A) (image : Bytes) (size j : Nat) : Prop :=
  x.index = j ∧ x.completed? = some (fragmentAt image size j) ∧
    ∃ l w, link.write .binaryStream (fragmentAt image size j).toBytes .command
      { x.before.heeded.world with limit := l } = .ok () w

/-- The round takes a report that lies ahead of the next fragment, and jumps over
    fragment number `j`. -/
def Round.Skips (x : Round D A) (j : Nat) : Prop :=
  ∃ status id, x.steering? = some ⟨status, some id⟩ ∧
    x.before.flow.sequencer.index ≤ j ∧ j < id.toNat

/-- Fragment number `j` went out or was jumped over. -/
def Covers (link : Link D A) (image : Bytes) (size : Nat) (xs : List (Round D A))
    (j : Nat) : Prop :=
  (∃ x ∈ xs, x.Sends link image size j) ∨ ∃ x ∈ xs, x.Skips j

/-- The session streams this image in fragments of this size, and has covered
    what lies before its next fragment. -/
structure Covering (link : Link D A) (image : Bytes) (config : SessionConfig)
    (xs : List (Round D A)) (s : Session D A) : Prop where
  image_eq : s.image = image
  config_eq : s.config = config
  covers : ∀ j < s.flow.sequencer.index, Covers link image config.payloadSize xs j

section
variable {link : Link D A} {image : Bytes} {config : SessionConfig} {size j : Nat}
  {xs : List (Round D A)} {x : Round D A}

theorem Covers.mono (h : Covers link image size xs j) (ys : List (Round D A)) :
    Covers link image size (xs ++ ys) j := by
  rcases h with ⟨x, hx, h⟩ | ⟨x, hx, h⟩
  · exact Or.inl ⟨x, List.mem_append_left _ hx, h⟩
  · exact Or.inr ⟨x, List.mem_append_left _ hx, h⟩

/-- What lies before the next fragment of a round was covered before or is
    jumped over in it. -/
theorem Covering.of_lt_index (h : Covering link image config xs x.before) (hj : j < x.index) :
    Covers link image config.payloadSize (xs ++ [x]) j := by
  by_cases hbefore : j < x.before.flow.sequencer.index
  · exact (h.covers j hbefore).mono [x]
  · have hle : x.before.flow.sequencer.index ≤ j := Nat.le_of_not_lt hbefore
    obtain ⟨status, id, hsteering, hid⟩ := Session.exists_steering_of_lt hle hj
    exact Or.inr ⟨x, by simp, status, id, hsteering, hle, hid⟩

variable [Peer D A]

theorem Covering.turned {t : Turn} {report report' : TransferReport} (ht : x.turn = some t)
    (h : Covering link image config xs x.before)
    (hturned : Session.Turned link x.before report t report' x.after) :
    Covering link image config (xs ++ [x]) x.after := by
  refine ⟨hturned.image_eq.trans h.image_eq, hturned.config_eq.trans h.config_eq, fun j hj => ?_⟩
  rw [hturned.flow_eq] at hj
  split at hj
  · next hsends =>
    have hsucc : j < x.index + 1 := by simpa [Flow.advance, Round.index] using hj
    rcases Nat.lt_succ_iff_lt_or_eq.1 hsucc with hlt | rfl
    · exact h.of_lt_index hlt
    · have hattempt := hturned.attempt?_of_sends hsends
      have hfragment := Round.eq_of_attempt? hattempt
      rw [h.image_eq, h.config_eq] at hfragment
      refine Or.inl ⟨x, by simp, rfl, ?_⟩
      rw [← hfragment]
      exact ⟨Round.completed?_eq_some.2 ⟨t, ht, hsends, hattempt⟩, hturned.write_of_sends hsends⟩
  · exact h.of_lt_index hj

end

namespace Session
variable [Peer D A] {link : Link D A}

/-- The last turn of a stream leaves the next fragment past the end of the image. -/
theorem Turned.chunkCount_le {s s' : Session D A} {report report' : TransferReport} {t : Turn}
    (h : Turned link s report t report' s') (hd : s.image.length < wordSpan)
    (hlast : t.isLast = true) :
    chunkCount s.image s.config.payloadSize ≤ s'.flow.sequencer.index := by
  have hsize := payloadSize_pos s.config
  cases h with
  | held | stalled => cases hlast
  | drained _ _ hempty =>
    rw [payload_heeded] at hempty
    exact (chunk_eq_nil_iff hd hsize).1 hempty
  | sent _ _ hne _ _ ht =>
    rw [ht, Turn.isLast_sent, decide_eq_true_iff] at hlast
    rw [payload_heeded] at hne hlast
    have hsucc := succ_eq_chunkCount hd hsize hne hlast
    simp only [Flow.advance, Sequencer.index_advance]
    exact Nat.le_of_eq hsucc.symm

/-- **At COMMIT every fragment has gone out**, or a report of the device jumped
    over it in the first lap: it came when that fragment or an earlier one was
    next, and carried an id beyond it. -/
theorem sent_or_skipped_at_commit {turns : Nat} {image : Bytes} {config : SessionConfig}
    {w : World D A} {report : TransferReport} {s' : Session D A} (hd : image.length < wordSpan)
    (h : run link turns (idle image config w) = .ok report s') :
    ∀ j < chunkCount image config.payloadSize,
      Covers link image config.payloadSize (runRounds link turns (idle image config w)) j := by
  obtain ⟨s₂, hcommit, -⟩ := run_of_commitPoint h
  obtain ⟨s₁, pre, x, t, hstart, hrounds, ht, hlast, -⟩ := commitPoint_eq_some hcommit
  obtain ⟨w₁, rfl⟩ := of_start_eq_ok hstart
  have hruns := runs_runRounds turns hstart
  rw [hrounds] at hruns ⊢
  obtain ⟨report₁, hx, hturned⟩ := hruns.history
    (H := fun xs _ s => Covering link image config xs s)
    (fun _ x _ t _ hx ht _ hturned => hx.turned ht hturned)
    ⟨rfl, rfl, fun j hj => absurd hj (Nat.not_lt_zero j)⟩
  obtain ⟨report₂, hturned⟩ := hturned t ht
  -- all before the next fragment is covered, and that lies past the end now
  have hreach := hturned.chunkCount_le (hx.image_eq ▸ hd) hlast
  intro j hj
  rw [← hx.image_eq, ← hx.config_eq] at hj
  exact (hx.turned ht hturned).covers j (Nat.lt_of_lt_of_le hj hreach)

end Session

namespace Bench

/-- Settings for one byte in a fragment. -/
def bytewise : SessionConfig := { SessionConfig.default with fragmentSize := 1 }

/-- A session that streams three bytes to a bench device, one in a fragment. -/
def threeBytes (d : Bench) : Session Bench Bytes := .idle [7, 8, 9] bytewise (.initial 60000 d)

/-- Three fragments go out to a device that takes them. -/
theorem threeBytes_covered_at_commit :
    ∃ report s', Session.run link 8 (threeBytes quiet) = .ok report s' ∧
      ∀ j < 3, Covers link [7, 8, 9] 1 (Session.runRounds link 8 (threeBytes quiet)) j := by
  have hrun : Session.run link 8 (threeBytes quiet) = .ok ⟨3, 3, 0, 0, 225⟩ _ :=
    eq_ok_of_result? (by decide +kernel)
  exact ⟨_, _, hrun, Session.sent_or_skipped_at_commit (by decide) hrun⟩

/-- A device that answers the first fragment with a report of an id far ahead. -/
def hasty : Bench :=
  { quiet with
    script := [⟨.fragment 0, 0, 0, [(0, StatusReport.toBytes ⟨.syncLost, some 200⟩)], 0⟩] }

/-- Not every image is complete at COMMIT: after its report that a fragment past
    the end of the image comes next, the hasty device is asked to install one
    fragment out of three. -/
theorem not_all_sent_at_commit :
    ¬ ∀ (turns : Nat) (image : Bytes) (config : SessionConfig) (w : World Bench Bytes)
      (report : TransferReport) (s' : Session Bench Bytes), image.length < wordSpan →
      Session.run link turns (.idle image config w) = .ok report s' →
      ∀ j < chunkCount image config.payloadSize,
        ∃ x ∈ Session.runRounds link turns (.idle image config w),
          x.Sends link image config.payloadSize j := by
  intro h
  have hrun : result? (Session.run link 8 (threeBytes hasty)) = some ⟨1, 1, 0, 0, 75⟩ := by
    decide +kernel
  obtain ⟨x, hx, -, hsent, -⟩ := h 8 [7, 8, 9] bytewise (.initial 60000 hasty) _ _ (by decide)
    (eq_ok_of_result? hrun) 1 (by decide)
  have hfragments : (Session.runRounds link 8 (threeBytes hasty)).filterMap Round.completed? =
      [⟨0, [7]⟩] := by decide +kernel
  have hmem : fragmentAt [7, 8, 9] 1 1 ∈
      (Session.runRounds link 8 (threeBytes hasty)).filterMap Round.completed? :=
    List.mem_filterMap.2 ⟨x, hx, hsent⟩
  rw [hfragments] at hmem
  exact absurd hmem (by decide)

end Bench

end AirUpdate
