/-
  Air updates — the range of the sequencer.

  What a session maintains, its turns and its notifications included, holds
  whatever is called on it, and wherever the calls are cancelled
  (`of_mem_sessions`).  So the sequencer stays in a range: a turn moves it on
  only behind a chunk that is not empty, and a report moves it forward to its own
  id at most (`withinImage_turn`).  In that range all that is computed of it is a
  word, and the next chunk is the one that unbounded numbers give
  (`inRange_of_mem_history`).
-/
import AirUpdate.Bench
import AirUpdate.Image
import AirUpdate.Proofs.Calls
import AirUpdate.Proofs.Laps
import AirUpdate.Proofs.Upkeep

namespace AirUpdate

namespace Session

/-! ## Histories -/

section
variable {D A : Type} [Peer D A] {link : Link D A} {Q : Session D A → Prop} {x : Made D A}
  {s s' : Session D A}

theorem Runs.stays_mem {report : TransferReport} {xs : List (Round D A)} {z : Round D A}
    (hturn : ∀ report, Stays Q (turn link report)) (h : Runs link report s xs) (hs : Q s)
    (hz : z ∈ xs) : Q z.before ∧ Q z.after := by
  induction h with
  | nil => cases hz
  | @halted report s e s' hstep =>
    rw [List.mem_singleton] at hz
    subst hz
    exact ⟨hs, (hturn report s hs).2 e s' hstep⟩
  | @ended report s t report' s' xs hstep _ _ ih =>
    have hs' := (hturn report s hs).1 (t, report') s' hstep
    rcases List.mem_cons.1 hz with rfl | hz
    · exact ⟨hs, hs'⟩
    · exact ih hs' hz

variable (link) in
/-- The session as a call finds it and leaves it, and in the rounds in between: before the
    round, when the notification is heeded, and behind it. -/
def Made.sessions (x : Made D A) : List (Session D A) :=
  x.before :: (x.rounds link).flatMap (fun z => [z.before, z.before.heeded, z.after]) ++ [x.after]

theorem Made.mem_sessions : s ∈ x.sessions link ↔
    s = x.before ∨ (∃ z ∈ x.rounds link, s = z.before ∨ s = z.before.heeded ∨ s = z.after) ∨
      s = x.after := by
  simp [sessions]

namespace Maintains
variable (h : Maintains link Q) (hturn : ∀ report, Stays Q (turn link report))
include h hturn

theorem perform (turns : Nat) (c : Call) : Stays Q (perform link turns c) := by
  cases c with
  | start => exact (h.start turns).bind fun _ => stays_pure none
  | transfer => exact (h.transfer hturn turns).bind fun report => stays_pure (some report)
  | commit => exact h.commit.bind fun _ => stays_pure none
  | run => exact (h.run hturn turns).bind fun report => stays_pure (some report)

theorem of_mem_rounds {z : Round D A} (hx : Q x.before) (hz : z ∈ x.rounds link) :
    Q z.before ∧ Q z.after := by
  unfold Made.rounds at hz
  split at hz
  · cases hz
  · cases hz
  · exact (runs_transferRounds x.turns x.before).stays_mem hturn hx hz
  · unfold runRounds at hz
    split at hz
    · next s₁ hstart =>
      have hs₁ := (h.start x.turns x.before hx).1 _ s₁ hstart
      exact (runs_rounds x.turns .empty s₁).stays_mem hturn hs₁ hz
    · cases hz

/-- **What a session maintains** holds of it in all calls, be they cancelled or not. -/
theorem of_mem_sessions (hheeded : ∀ s, Q s → Q s.heeded)
    (hcalled : ∀ s pause limit, Q s → Q (s.called pause limit)) {attempts : List Attempt}
    (hs : Q s) (hx : x ∈ history link attempts s) (hs' : s' ∈ x.sessions link) : Q s' := by
  obtain ⟨pre, post, hsplit⟩ := List.append_of_mem hx
  have hmade : ∀ y : Made D A, Q y.before → y.Genuine link → Q y.after := by
    intro y hy hgenuine
    unfold Made.after
    rw [hgenuine]
    exact (h.perform hturn y.turns y.call).endState hy
  obtain ⟨hbefore, hafter, -⟩ := history_inv (G := fun _ => Q) (H := fun _ => Q)
    (fun _ => hcalled) (fun _ => hmade) hs hsplit
  rcases Made.mem_sessions.1 hs' with rfl | ⟨z, hz, hs'⟩ | rfl
  · exact hbefore
  · obtain ⟨hz₁, hz₂⟩ := h.of_mem_rounds hturn hbefore hz
    rcases hs' with rfl | rfl | rfl
    · exact hz₁
    · exact hheeded _ hz₁
    · exact hz₂
  · exact hafter

end Maintains

end

/-! ## The range of the index -/

section
variable {D A : Type} {image : Image} {config : SessionConfig} {s : Session D A}

/-- The session is about this image, and its sequencer is no further than the chunks of the
    image, or than the ids that a device may report. -/
structure WithinImage (image : Image) (config : SessionConfig) (s : Session D A) : Prop where
  image_eq : s.image = image.bytes
  config_eq : s.config = config
  index_le : s.flow.sequencer.index ≤ max 255 (image.fragmentCount config.payloadSize)

theorem inward_withinImage : Inward (WithinImage image config (D := D) (A := A)) :=
  fun _ _ _ h => ⟨h.image_eq, h.config_eq, h.index_le⟩

/-- A notification moves the sequencer back, or forward to an id. -/
theorem WithinImage.heeded (h : WithinImage image config s) :
    WithinImage image config s.heeded := by
  refine ⟨h.image_eq, h.config_eq, ?_⟩
  have hindex := h.index_le
  cases hr : s.steering? with
  | none =>
    rw [heeded_flow_of_none hr]
    exact hindex
  | some r =>
    obtain ⟨status, id, rfl, hcarries⟩ := exists_id_of_steering hr
    have hle := s.flow.sequencer.index_resync_le id
    rw [heeded_flow_of_some hr, Flow.sequencer_absorb hcarries]
    omega

/-- A session that has a chunk to send may move on. -/
theorem WithinImage.advance (h : WithinImage image config s) (hne : s.next.payload ≠ []) :
    s.flow.advance.sequencer.index ≤ max 255 (image.fragmentCount config.payloadSize) := by
  have hlt : s.flow.sequencer.index < chunkCount s.image s.config.payloadSize :=
    lt_chunkCount_of_chunk (payloadSize_pos s.config) hne
  rw [h.image_eq, h.config_eq] at hlt
  show s.flow.sequencer.advance.index ≤ max 255 (chunkCount image.bytes config.payloadSize)
  rw [Sequencer.index_advance]
  omega

variable [Peer D A] {link : Link D A}

/-- **A turn keeps the sequencer in its range.** -/
theorem withinImage_turn (report : TransferReport) :
    Stays (WithinImage image config) (turn link report) := by
  intro s hs
  have hheeded := hs.heeded
  constructor
  · rintro ⟨t, report'⟩ s' h
    cases turned_of_turn h with
    | held | drained | stalled => exact ⟨hheeded.image_eq, hheeded.config_eq, hheeded.index_le⟩
    | sent _ _ hne => exact ⟨hheeded.image_eq, hheeded.config_eq, hheeded.advance hne⟩
  · intro e s' h
    rw [(halted_of_turn h).eq_heeded]
    exact inward_withinImage s.heeded s.phase s'.world hheeded

end

end Session

theorem Image.fragmentCount_le {size : Nat} (image : Image) (hs : 0 < size) :
    image.fragmentCount size ≤ image.size := by
  have hlast : ¬ image.size < chunkCount image.bytes size := by
    rw [lt_chunkCount_iff hs]
    exact Nat.not_lt.2 (Nat.le_mul_of_pos_left image.size hs)
  exact Nat.le_of_not_lt hlast

/-- The sequencer is in the range that an image has in chunks of this size. -/
structure Sequencer.InRange (q : Sequencer) (image : Image) (size : Nat) : Prop where
  index_le : q.index ≤ max 255 (image.fragmentCount size)
  rollover_le : q.rollover ≤ max 255 (image.fragmentCount size) / lap
  fits : q.FitsWords
  /-- the next chunk is where unbounded numbers find it -/
  nextChunk_eq : q.nextChunk image.bytes size = (image.bytes.drop (size * q.index)).take size

theorem Sequencer.inRange_of_le {q : Sequencer} {image : Image} {size : Nat}
    (hd : image.size < wordSpan) (hs : 0 < size)
    (h : q.index ≤ max 255 (image.fragmentCount size)) : q.InRange image size := by
  have hcount := image.fragmentCount_le hs
  have hspan : 255 < wordSpan := by decide
  constructor
  case index_le => exact h
  case rollover_le =>
    rw [rollover_eq]
    exact Nat.div_le_div_right h
  case fits => exact fitsWords_of_lt (by omega)
  case nextChunk_eq => exact chunk_eq size q.index hd

namespace Session
variable {D A : Type} [Peer D A] {link : Link D A}

/-- **The sequencer never leaves its range**: not in any call that is made on a session, be it
    cancelled or not, whatever the device does. -/
theorem inRange_of_mem_history {image : Image} (hd : image.size < wordSpan)
    {config : SessionConfig} {w : World D A} {attempts : List Attempt} {x : Made D A}
    (hx : x ∈ history link attempts (idle image.bytes config w)) {s : Session D A}
    (hs : s ∈ x.sessions link) :
    s.image = image.bytes ∧ s.config = config ∧
      s.flow.sequencer.InRange image config.payloadSize := by
  have hidle : WithinImage image config (idle image.bytes config w) := ⟨rfl, rfl, Nat.zero_le _⟩
  have hwithin := inward_withinImage.maintains.of_mem_sessions withinImage_turn
    (fun _ h => h.heeded) (fun s _ _ => inward_withinImage s s.phase _) hidle hx hs
  exact ⟨hwithin.image_eq, hwithin.config_eq,
    Sequencer.inRange_of_le hd (payloadSize_pos config) hwithin.index_le⟩

end Session

namespace Bench

open Session

/-- A device that answers the first fragment with an id far behind the end of the image. -/
def astray : Session Bench Bytes :=
  idle [7, 8, 9] { SessionConfig.default with fragmentSize := 1 }
    (.initial 0 { quiet with
      script := [⟨.anyFragment, 0, 1, [(0, StatusReport.toBytes ⟨.syncLost, some 200⟩)], 0⟩] })

/-- The stream given up in the pause behind the first write, and taken up again. -/
def astrayAttempts : List Attempt :=
  [⟨0, .start, 60000, 16⟩, ⟨0, .transfer, 40, 16⟩, ⟨10, .transfer, 60000, 16⟩]

/-- The last call leaves the sequencer behind the end of the image, but not of the ids. -/
theorem astray_inRange :
    ∃ x ∈ history link astrayAttempts astray, x.after.flow.sequencer.index = 200 ∧
      x.after.flow.sequencer.InRange ⟨[7, 8, 9]⟩ 1 := by
  have hlast : (history link astrayAttempts astray).getLast?.map
      (fun x => x.after.flow.sequencer.index) = some 200 := by decide +kernel
  obtain ⟨x, hx, hindex⟩ := Option.map_eq_some_iff.1 hlast
  have hmem := List.mem_of_getLast? hx
  have hsize : (⟨[7, 8, 9]⟩ : Image).size < wordSpan := by decide
  obtain ⟨-, -, hrange⟩ := inRange_of_mem_history hsize hmem
    (Made.mem_sessions.2 (Or.inr (Or.inr rfl)))
  exact ⟨x, hmem, hindex, hrange⟩

end Bench

end AirUpdate
