/-
  Air updates — the stages of a session.

  A session that runs to its end has opened, streamed and committed
  (`run_eq_ok`).  Opening leaves the flow where it was (`start_eq_ok`), and
  COMMIT is written in the world in which the stream ended (`commitPoint`,
  `run_eq_of_commitPoint`, `run_of_commitPoint`).
-/
import AirUpdate.Proofs.Rounds

namespace AirUpdate.Session

variable {D A α : Type} {s s' : Session D A}

theorem settling_eq_ok {step : Step D A α} {a : α} :
    settling step s = .ok a s' ↔ step s = .ok a s' := by
  unfold settling
  split
  · next h => simp [h]
  · rfl

theorem asAct_eq_ok {step : Step D A α} {image : Bytes} {config : SessionConfig} {a : α}
    {w w' : World D A} (h : asAct step image config w = .ok a w') :
    ∃ s, step (.idle image config { w with mailbox := .empty }) = .ok a s ∧ s.world = w' := by
  unfold asAct at h
  split at h
  · next s hstep => cases h; exact ⟨s, hstep, rfl⟩
  · cases h

theorem of_expect_eq_ok {phase : Phase} {u : Unit} (h : expect phase s = .ok u s') :
    s.phase = phase ∧ s = s' := by
  unfold expect at h
  split at h
  · next hphase => cases h; exact ⟨hphase, rfl⟩
  · cases h

/-- A session that differs only in its world. -/
def SameBut (s s' : Session D A) : Prop := ∃ w, s' = { s with world := w }

theorem SameBut.trans {s'' : Session D A} (h : s.SameBut s') (h' : s'.SameBut s'') :
    s.SameBut s'' := by
  obtain ⟨w, rfl⟩ := h
  obtain ⟨w', rfl⟩ := h'
  exact ⟨w', rfl⟩

theorem commit_eq_ok {link : Link D A} (h : commit link s = .ok () s') :
    s.phase = .committing ∧ ∃ w,
      link.write .control [Control.commit.toByte] .request s.world = .ok () w ∧
      s' = { s with world := w, phase := .closed } := by
  obtain ⟨_, s₁, hexpect, h⟩ := bind_eq_ok.1 h
  obtain ⟨hphase, rfl⟩ := of_expect_eq_ok hexpect
  obtain ⟨_, s₂, hwrite, h⟩ := bind_eq_ok.1 h
  cases h
  obtain ⟨w, hwritten, rfl⟩ := onWorld_eq_ok.1 (settling_eq_ok.1 hwrite)
  exact ⟨hphase, w, hwritten, rfl⟩

theorem commit_of_write {link : Link D A} {w : World D A} (hphase : s.phase = .committing)
    (h : link.write .control [Control.commit.toByte] .request s.world = .ok () w) :
    commit link s = .ok () { s with world := w, phase := .closed } :=
  bind_eq_ok.2 ⟨(), s, if_pos hphase,
    bind_eq_ok.2 ⟨(), _, settling_eq_ok.2 (onWorld_eq_ok.2 ⟨w, h, rfl⟩), rfl⟩⟩

variable [Peer D A] {link : Link D A} {P : World D A → Prop}

/-- Waiting for XON changes only the world, and keeps what each wait keeps. -/
theorem awaitXon_eq_ok
    (hwait : ∀ ms w v w', P w → World.receiveWithin ms w = .ok v w' → P w') :
    ∀ {waits timeouts : Nat} {s : Session D A}, awaitXon waits timeouts s = .ok () s' → P s.world →
      s.SameBut s' ∧ P s'.world
  | 0, _, _, h, _ => by cases h
  | waits + 1, timeouts, s, h, hs => by
    obtain ⟨_, _, hget, h⟩ := bind_eq_ok.1 h
    cases hget
    obtain ⟨value, s₁, hreceive, h⟩ := bind_eq_ok.1 h
    obtain ⟨w, hreceived, rfl⟩ := onWorld_eq_ok.1 hreceive
    have hw := hwait _ _ _ _ hs hreceived
    have hsame : s.SameBut { s with world := w } := ⟨w, rfl⟩
    cases value with
    | some value =>
      simp only at h
      split at h
      · cases h; exact ⟨hsame, hw⟩
      · obtain ⟨h₁, h₂⟩ := awaitXon_eq_ok hwait h hw
        exact ⟨hsame.trans h₁, h₂⟩
    | none =>
      simp only at h
      split at h
      · cases h
      · obtain ⟨h₁, h₂⟩ := awaitXon_eq_ok hwait h hw
        exact ⟨hsame.trans h₁, h₂⟩

/-- Opening a session is subscribing, writing START and waiting for XON. -/
theorem handshake_of_start {turns : Nat} (h : start link turns s = .ok () s') :
    s.phase = .idle ∧ ∃ w₁ w₂ s₃, link.subscribe .status s.world = .ok () w₁ ∧
      link.write .control [Control.start.toByte] .request w₁ = .ok () w₂ ∧
      awaitXon turns 0 { s with phase := .starting, world := w₂ } = .ok () s₃ ∧
      s' = { s₃ with phase := .streaming } := by
  obtain ⟨_, s₁, hexpect, h⟩ := bind_eq_ok.1 h
  obtain ⟨hphase, rfl⟩ := of_expect_eq_ok hexpect
  obtain ⟨_, s₂, henter, h⟩ := bind_eq_ok.1 h
  cases henter
  obtain ⟨_, s₃, hshake, h⟩ := bind_eq_ok.1 h
  cases h
  obtain ⟨_, s₄, hsub, hshake⟩ := bind_eq_ok.1 (settling_eq_ok.1 hshake)
  obtain ⟨w₁, hsubscribed, rfl⟩ := onWorld_eq_ok.1 hsub
  obtain ⟨_, s₅, hstart, hshake⟩ := bind_eq_ok.1 hshake
  obtain ⟨w₂, hstarted, rfl⟩ := onWorld_eq_ok.1 hstart
  exact ⟨hphase, w₁, w₂, s₃, hsubscribed, hstarted, hshake, rfl⟩

theorem mailbox_of_awaitXon {waits timeouts : Nat} (h : awaitXon waits timeouts s = .ok () s') :
    s'.world.mailbox = .empty := by
  induction waits generalizing timeouts s with
  | zero => cases h
  | succ waits ih =>
    obtain ⟨_, _, hget, h⟩ := bind_eq_ok.1 h
    cases hget
    obtain ⟨value, s₁, hreceive, h⟩ := bind_eq_ok.1 h
    obtain ⟨w, hreceived, rfl⟩ := onWorld_eq_ok.1 hreceive
    cases value with
    | some value =>
      simp only at h
      split at h
      · cases h
        exact World.mailbox_of_receiveWithin hreceived
      · exact ih h
    | none =>
      simp only at h
      split at h
      · cases h
      · exact ih h

/-- A stream begins with the mailbox empty. -/
theorem mailbox_of_start {turns : Nat} (h : start link turns s = .ok () s') :
    s'.phase = .streaming ∧ s'.world.mailbox = .empty := by
  obtain ⟨-, _, _, s₃, -, -, hawaited, rfl⟩ := handshake_of_start h
  have hmailbox := mailbox_of_awaitXon hawaited
  exact ⟨rfl, hmailbox⟩

/-- **Opening a session** changes only its phase and its world, and keeps what
    subscribing, writing START and waiting keep. -/
theorem start_eq_ok {turns : Nat}
    (hsubscribe : ∀ w w', P w → link.subscribe .status w = .ok () w' → P w')
    (hwrite : ∀ w w', P w →
      link.write .control [Control.start.toByte] .request w = .ok () w' → P w')
    (hwait : ∀ ms w v w', P w → World.receiveWithin ms w = .ok v w' → P w')
    (h : start link turns s = .ok () s') (hs : P s.world) :
    s.phase = .idle ∧ ∃ w, s' = { s with phase := .streaming, world := w } ∧ P w := by
  obtain ⟨hphase, w₁, w₂, s₃, hsubscribed, hstarted, hawaited, rfl⟩ := handshake_of_start h
  have hw₂ := hwrite _ _ (hsubscribe _ _ hs hsubscribed) hstarted
  obtain ⟨⟨w, rfl⟩, hw⟩ := awaitXon_eq_ok hwait hawaited hw₂
  exact ⟨hphase, w, rfl, hw⟩

theorem of_start_eq_ok {turns : Nat} (h : start link turns s = .ok () s') :
    ∃ w, s' = { s with phase := .streaming, world := w } := by
  obtain ⟨-, w, hs', -⟩ := start_eq_ok (P := fun _ => True) (fun _ _ _ _ => trivial)
    (fun _ _ _ _ => trivial) (fun _ _ _ _ _ _ => trivial) h trivial
  exact ⟨w, hs'⟩

theorem transfer_eq_ok {turns : Nat} {report : TransferReport}
    (h : transfer link turns s = .ok report s') :
    s.phase = .streaming ∧ ∃ report₁ s₁, stream link turns .empty s = .ok report₁ s₁ ∧
      report = { report₁ with elapsed := s₁.world.now - s.world.now } ∧
      s' = { s₁ with phase := .committing } := by
  obtain ⟨_, s₁, hexpect, h⟩ := bind_eq_ok.1 h
  obtain ⟨hphase, rfl⟩ := of_expect_eq_ok hexpect
  obtain ⟨report', s₂, htimed, h⟩ := bind_eq_ok.1 h
  obtain ⟨_, s₃, henter, h⟩ := bind_eq_ok.1 h
  cases henter
  cases h
  obtain ⟨started, s₄, hnow, htimed⟩ := bind_eq_ok.1 (settling_eq_ok.1 htimed)
  cases hnow
  obtain ⟨report₁, s₅, hstream, htimed⟩ := bind_eq_ok.1 htimed
  obtain ⟨ended, s₆, hnow, htimed⟩ := bind_eq_ok.1 htimed
  cases hnow
  cases htimed
  exact ⟨hphase, report₁, _, hstream, rfl, rfl⟩

/-- A transfer comes to its end where its stream does, and takes the time. -/
theorem transfer_of_stream {turns : Nat} {report : TransferReport} (hphase : s.phase = .streaming)
    (h : stream link turns .empty s = .ok report s') :
    transfer link turns s =
      .ok { report with elapsed := s'.world.now - s.world.now } { s' with phase := .committing } := by
  have htimed : timedStream link turns s =
      .ok { report with elapsed := s'.world.now - s.world.now } s' :=
    bind_eq_ok.2 ⟨s.world.now, s, rfl, bind_eq_ok.2 ⟨report, s', h,
      bind_eq_ok.2 ⟨s'.world.now, s', rfl, rfl⟩⟩⟩
  exact bind_eq_ok.2 ⟨(), s, if_pos hphase, bind_eq_ok.2 ⟨_, s', settling_eq_ok.2 htimed, rfl⟩⟩

theorem run_eq_ok {turns : Nat} {report : TransferReport}
    (h : run link turns s = .ok report s') :
    ∃ s₁ s₂, start link turns s = .ok () s₁ ∧ transfer link turns s₁ = .ok report s₂ ∧
      commit link s₂ = .ok () s' := by
  obtain ⟨_, s₁, hstart, h⟩ := bind_eq_ok.1 h
  obtain ⟨report', s₂, htransfer, h⟩ := bind_eq_ok.1 h
  obtain ⟨_, s₃, hcommit, h⟩ := bind_eq_ok.1 h
  cases h
  exact ⟨s₁, s₂, hstart, htransfer, hcommit⟩

variable (link)

/-- The rounds of the stream in a whole session. -/
def runRounds (turns : Nat) (s : Session D A) : List (Round D A) :=
  match start link turns s with
  | .ok _ s₁ => rounds link turns .empty s₁
  | .error _ _ => []

/-- The session at the moment when it writes COMMIT, if it gets there. -/
def commitPoint (turns : Nat) (s : Session D A) : Option (Session D A) :=
  match start link turns s with
  | .error _ _ => none
  | .ok _ s₁ =>
    match transfer link turns s₁ with
    | .ok _ s₂ => some s₂
    | .error _ _ => none

variable {link}

theorem runRounds_of_start {turns : Nat} {s₁ : Session D A} (h : start link turns s = .ok () s₁) :
    runRounds link turns s = rounds link turns .empty s₁ := by
  unfold runRounds
  rw [h]

theorem runs_runRounds (turns : Nat) {s₁ : Session D A} (h : start link turns s = .ok () s₁) :
    Runs link .empty s₁ (runRounds link turns s) := by
  rw [runRounds_of_start h]
  exact runs_rounds turns .empty s₁

/-- At COMMIT the session has a last round, and stands where that ended. -/
theorem commitPoint_eq_some {turns : Nat} (h : commitPoint link turns s = some s') :
    ∃ s₁ pre x t, start link turns s = .ok () s₁ ∧ runRounds link turns s = pre ++ [x] ∧
      x.turn = some t ∧ t.isLast = true ∧ s' = { x.after with phase := .committing } := by
  unfold commitPoint at h
  split at h
  · cases h
  · next u s₁ hstart =>
    split at h
    · next report s₂ htransfer =>
      cases h
      obtain ⟨-, report₁, s₃, hstream, -, rfl⟩ := transfer_eq_ok htransfer
      obtain ⟨pre, x, t, hrounds, hx, ht, rfl⟩ := stream_eq_ok hstream
      exact ⟨s₁, pre, x, t, hstart, (runRounds_of_start hstart).trans hrounds, hx, ht, rfl⟩
    · cases h

/-- From the point of COMMIT on, a session writes it and closes. -/
theorem run_eq_of_commitPoint {turns : Nat} (h : commitPoint link turns s = some s') :
    ∃ report, run link turns s = (do commit link; pure report : Step D A TransferReport) s' := by
  unfold commitPoint at h
  split at h
  · cases h
  · next u s₁ hstart =>
    split at h
    · next report s₂ htransfer =>
      cases h
      refine ⟨report, ?_⟩
      show EStateM.bind (start link turns) _ s = _
      unfold EStateM.bind
      rw [hstart]
      show EStateM.bind (transfer link turns) _ s₁ = _
      unfold EStateM.bind
      rw [htransfer]
    · cases h

/-- A session that runs to its end gets to COMMIT and writes it there. -/
theorem run_of_commitPoint {turns : Nat} {report : TransferReport}
    (h : run link turns s = .ok report s') :
    ∃ s₂, commitPoint link turns s = some s₂ ∧ commit link s₂ = .ok () s' := by
  obtain ⟨s₁, s₂, hstart, htransfer, hcommit⟩ := run_eq_ok h
  refine ⟨s₂, ?_, hcommit⟩
  unfold commitPoint
  rw [hstart]; simp only; rw [htransfer]

end AirUpdate.Session
