/-
  Air updates — what is outstanding at COMMIT.

  Every turn begins with a look at the mailbox, so a notification that arrives
  in one turn is acted on in the next.  A stream that ends because no fragment
  is left ends with such a look.  A stream that ends behind a last fragment
  shorter than the full size does not: what arrives while that is written, or
  in the pause after it, is still in the mailbox when COMMIT is written
  (`outstanding_at_commit_iff`).
-/
import AirUpdate.Bench
import AirUpdate.Proofs.Stages

namespace AirUpdate

variable {D A : Type}

/-- The round acted on what it heard: the session did not fail on it, and went on
    from where it took the flow. -/
def Round.Acts (x : Round D A) : Prop :=
  x.before.refusal? = none ∧
    (x.after.flow = x.before.heeded.flow ∨ x.after.flow = x.before.heeded.flow.advance)

namespace Session
variable [Peer D A] {link : Link D A} {turns : Nat} {report report' : TransferReport}
  {s s' : Session D A} {t : Turn} {pre post : List (Round D A)} {x y : Round D A}

theorem Runs.acts {xs : List (Round D A)} (h : Runs link report s xs) (hx : x ∈ xs)
    (ht : x.turn = some t) : x.Acts := by
  obtain ⟨_, _, hturned⟩ := h.turned_mem hx ht
  refine ⟨hturned.refusal?_eq, ?_⟩
  rw [hturned.flow_eq]
  split
  · exact Or.inr rfl
  · exact Or.inl rfl

/-- What arrives in a round is heard in the next one. -/
theorem Runs.heard_eq_late (h : Runs link report s (pre ++ x :: y :: post)) : y.heard = x.late := by
  unfold Round.heard Round.late
  rw [h.before_eq_after]

/-- Without a short last chunk, a stream ends only when no fragment is left. -/
theorem Turned.not_sentLast_of_dvd (hd : s.image.length < wordSpan)
    (hdvd : s.config.payloadSize ∣ s.image.length) :
    ¬ Turned link s report .sentLast report' s' := by
  intro h
  obtain ⟨hne, hshort⟩ := h.short_of_sentLast
  rw [payload_heeded] at hne hshort
  have hfull := length_chunk_of_dvd hd (payloadSize_pos s.config) hdvd hne
  exact absurd hshort (Nat.not_lt.2 (Nat.le_of_eq hfull.symm))

/-- **What is outstanding at COMMIT.**  What arrives in a round is heard and acted on
    in the next.  At COMMIT the mailbox is empty unless the stream ended behind a
    last fragment shorter than the full size and something arrived in that
    round; in particular it is empty if the image has no such fragment. -/
theorem outstanding_at_commit_iff (hd : s.image.length < wordSpan)
    (h : commitPoint link turns s = some s') :
    ∃ pre x, runRounds link turns s = pre ++ [x] ∧
      (∀ a y z b, pre ++ [x] = a ++ y :: z :: b → z.heard = y.late ∧ z.Acts) ∧
      (s'.world.mailbox.latest = none ↔ (x.turn = some .sentLast → x.late = none)) ∧
      (s.config.payloadSize ∣ s.image.length → s'.world.mailbox.latest = none) := by
  obtain ⟨s₁, pre, x, t, hstart, hrounds, ht, hlast, rfl⟩ := commitPoint_eq_some h
  obtain ⟨w₁, rfl⟩ := of_start_eq_ok hstart
  have hruns := runs_runRounds turns hstart
  rw [hrounds] at hruns
  obtain ⟨himage, hconfig⟩ := hruns.image_eq (x := x) (by simp)
  obtain ⟨_, _, hturned⟩ := hruns.turned_mem (x := x) (by simp) ht
  have hdrained : t = .drained → x.late = none := by
    rintro rfl
    unfold Round.late
    rw [hturned.mailbox_of_drained]
    rfl
  refine ⟨pre, x, hrounds, ?_, ?_, ?_⟩
  · intro a y z b hsplit
    obtain ⟨t', hz⟩ := hruns.exists_turn ht z (by rw [hsplit]; simp)
    rw [hsplit] at hruns
    exact ⟨hruns.heard_eq_late, hruns.acts (by simp) hz⟩
  · rw [ht, Option.some.injEq]
    refine ⟨fun hlate _ => hlate, fun hlate => ?_⟩
    rcases Turn.isLast_iff.1 hlast with hend | hend
    · exact hdrained hend
    · exact hlate hend
  · intro hdvd
    rcases Turn.isLast_iff.1 hlast with hend | rfl
    · exact hdrained hend
    · refine absurd hturned (Turned.not_sentLast_of_dvd ?_ ?_)
      · rw [himage]; exact hd
      · rw [himage, hconfig]; exact hdvd

end Session

namespace Bench

/-- A session of three bytes, two in a full fragment, with a device that asks for all
    of them again as the last one is written. -/
def lateSyncLost : Session Bench Bytes :=
  .idle [7, 8, 9] { SessionConfig.default with fragmentSize := 2 }
    (.initial 60000 { quiet with
      script := [⟨.fragment 1, 0, 1, [(0, StatusReport.toBytes ⟨.syncLost, some 0⟩)], 0⟩] })

/-- The late report arrived in the round of the last fragment. -/
theorem lateSyncLost_arrives_last :
    ∃ s' pre x, Session.commitPoint link 8 lateSyncLost = some s' ∧
      Session.runRounds link 8 lateSyncLost = pre ++ [x] ∧ x.turn = some .sentLast ∧
      x.late ≠ none := by
  have hcommit : (Session.commitPoint link 8 lateSyncLost).map (fun s => s.world.mailbox.latest) =
      some (some [4, 0]) := by decide +kernel
  obtain ⟨s', hs', hlatest⟩ := Option.map_eq_some_iff.1 hcommit
  obtain ⟨pre, x, hrounds, -, hiff, -⟩ := Session.outstanding_at_commit_iff (by decide) hs'
  rw [hlatest] at hiff
  refine ⟨s', pre, x, hs', hrounds, ?_⟩
  simpa using hiff

/-- Not every report is acted on before COMMIT. -/
theorem not_acted_on_at_commit :
    ¬ ∀ (turns : Nat) (s s' : Session Bench Bytes), s.image.length < wordSpan →
      Session.commitPoint link turns s = some s' → s'.world.mailbox.latest = none := by
  intro h
  have hcommit : (Session.commitPoint link 8 lateSyncLost).map (fun s => s.world.mailbox.latest) =
      some (some [4, 0]) := by decide +kernel
  obtain ⟨s', hs', hlatest⟩ := Option.map_eq_some_iff.1 hcommit
  rw [h 8 lateSyncLost s' (by decide) hs'] at hlatest
  cases hlatest

end Bench

end AirUpdate
