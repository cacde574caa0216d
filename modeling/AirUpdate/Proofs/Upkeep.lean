/-
  Air updates — what a session upholds.

  `Stays` says of a step that it keeps a property of the session, however it
  ends.  A session touches its device only through the link and by waiting, and
  its flow only in its turns.  So a property stays as it is up to XON if neither
  the link nor a wait for a notification breaks it (`Withstands`), and if it looks
  at no phase, while a session is opened and committed (`Maintains`), and all
  through the session if no turn breaks it either (`Maintains.run`).  What looks
  neither at the phase nor at the world is such a property (`Inward.maintains`),
  and so is one of the device and its mailbox that nothing the device does breaks
  (`Keeping.maintains`).
-/
import AirUpdate.Proofs.Ends

namespace AirUpdate

variable {D A α β : Type}

namespace Session

/-- The step keeps the property, however it ends. -/
def Stays (Q : Session D A → Prop) (step : Step D A α) : Prop :=
  Ends Q step (fun _ => Q) (fun _ => Q)

section
variable {Q : Session D A → Prop} {step : Step D A α} {s : Session D A}

theorem Stays.bind {f : α → Step D A β} (h : Stays Q step) (hf : ∀ a, Stays Q (f a)) :
    Stays Q (step >>= f) :=
  Ends.bind h hf

theorem stays_pure (a : α) : Stays Q (pure a) := ends_pure fun _ h => h

theorem stays_throw (e : Halt) : Stays Q (throw e : Step D A α) := ends_throw fun _ h => h

theorem stays_get_bind {f : Session D A → Step D A α} (hf : ∀ s, Stays Q (f s)) :
    Stays Q (get >>= f) :=
  ends_get.bind fun s => (hf s).pre fun _ h => h.2

/-- A step leaves behind what it keeps. -/
theorem Stays.endState (h : Stays Q step) (hs : Q s) : Q (endState (step s)) := by
  obtain ⟨hok, herror⟩ := h s hs
  cases hstep : step s with
  | ok a s' => exact hok a s' hstep
  | error e s' => exact herror e s' hstep

theorem stays_onWorld {act : Act D A α}
    (h : ∀ s, Q s → Q { s with world := AirUpdate.endState (act s.world) }) :
    Stays Q (onWorld act) := by
  intro s hs
  have hend := h s hs
  constructor
  · intro a s' hstep
    obtain ⟨w, hact, rfl⟩ := onWorld_eq_ok.1 hstep
    rwa [hact] at hend
  · intro e s' hstep
    obtain ⟨w, hact, rfl⟩ := onWorld_eq_error.1 hstep
    rwa [hact] at hend

/-- Looking at the clock changes nothing. -/
theorem stays_moment : Stays Q (onWorld World.moment : Step D A Nat) := stays_onWorld fun _ hs => hs

theorem stays_expect (phase : Phase) : Stays Q (expect phase) := by
  intro s hs
  constructor
  · intro _ s' h
    obtain ⟨-, rfl⟩ := of_expect_eq_ok h
    exact hs
  · intro e s' h
    obtain ⟨-, -, rfl⟩ := of_expect_eq_error h
    exact hs

theorem stays_enter (phase : Phase) (h : ∀ s, Q s → Q { s with phase := phase }) :
    Stays Q (enter phase) := by
  intro s hs
  constructor
  · intro _ s' hstep
    cases hstep
    exact h s hs
  · intro e s' hstep
    cases hstep

theorem Stays.settling (h : Stays Q step) (hphase : ∀ s phase, Q s → Q { s with phase := phase }) :
    Stays Q (settling step) := by
  refine ends_settling (Ends.imp h (fun _ _ hs => hs) fun e s hs => ?_)
  cases e with
  | failed error => exact hphase s _ hs
  | cut | exhausted => exact hs

end

/-! ## The stages -/

/-- Neither the link nor a wait for a notification breaks the property. -/
structure Withstands [Peer D A] (link : Link D A) (Q : Session D A → Prop) : Prop where
  write : ∀ characteristic data mode, Stays Q (onWorld (link.write characteristic data mode))
  subscribe : ∀ characteristic, Stays Q (onWorld (link.subscribe characteristic))
  receive : ∀ milliseconds, Stays Q (onWorld (World.receiveWithin milliseconds))

/-- And it looks at no phase. -/
structure Maintains [Peer D A] (link : Link D A) (Q : Session D A → Prop) : Prop
    extends Withstands link Q where
  phase : ∀ s phase, Q s → Q { s with phase := phase }

section
variable [Peer D A] {link : Link D A} {Q : Session D A → Prop}

theorem stays_stream (hturn : ∀ report, Stays Q (turn link report)) (turns : Nat)
    (report : TransferReport) : Stays Q (stream link turns report) := by
  induction turns generalizing report with
  | zero => exact stays_throw _
  | succ turns ih =>
    refine (hturn report).bind fun a => ?_
    obtain ⟨t, report'⟩ := a
    simp only
    split
    · exact stays_pure report'
    · exact ih report'

namespace Withstands
variable (h : Withstands link Q)
include h

theorem awaitXon (waits timeouts : Nat) : Stays Q (awaitXon waits timeouts) := by
  induction waits generalizing timeouts with
  | zero => exact stays_throw _
  | succ waits ih =>
    refine stays_get_bind fun s => (h.receive _).bind fun value => ?_
    cases value with
    | some value =>
      simp only
      split
      · exact stays_pure ()
      · exact ih timeouts
    | none =>
      simp only
      split
      · exact stays_throw _
      · exact ih (timeouts + 1)

theorem handshake (waits : Nat) : Stays Q (handshake link waits) :=
  (h.subscribe _).bind fun _ => (h.write _ _ _).bind fun _ => h.awaitXon waits 0

end Withstands

/-- Until XON has come the phase stays the same. -/
theorem withstands_phase (phase : Phase) : Withstands link fun s => s.phase = phase where
  write _ _ _ := stays_onWorld fun _ hs => hs
  subscribe _ := stays_onWorld fun _ hs => hs
  receive _ := stays_onWorld fun _ hs => hs

namespace Maintains
variable (h : Maintains link Q)
include h

theorem enter (phase : Phase) : Stays Q (enter phase) := stays_enter phase fun s => h.phase s phase

theorem start (turns : Nat) : Stays Q (start link turns) :=
  (stays_expect _).bind fun _ => (h.enter _).bind fun _ =>
    ((h.handshake turns).settling h.phase).bind fun _ => h.enter _

theorem commit : Stays Q (commit link) :=
  (stays_expect _).bind fun _ => ((h.write _ _ _).settling h.phase).bind fun _ => h.enter _

variable (hturn : ∀ report, Stays Q (turn link report))
include hturn

theorem transfer (turns : Nat) : Stays Q (transfer link turns) := by
  have htimed : Stays Q (timedStream link turns) :=
    stays_moment.bind fun _ => (stays_stream hturn turns .empty).bind fun _ =>
      stays_moment.bind fun _ => stays_pure _
  exact (stays_expect _).bind fun _ => (htimed.settling h.phase).bind fun _ =>
    (h.enter _).bind fun _ => stays_pure _

/-- **A session maintains what its turns keep**, its waits, writes and subscriptions. -/
theorem run (turns : Nat) : Stays Q (run link turns) :=
  (h.start turns).bind fun _ => (h.transfer hturn turns).bind fun _ =>
    h.commit.bind fun _ => stays_pure _

end Maintains

/-- A property that looks neither at the phase nor at the world. -/
def Inward (Q : Session D A → Prop) : Prop :=
  ∀ s phase w, Q s → Q { s with phase := phase, world := w }

/-- What a session does outside its turns, it does to its phase and its world. -/
theorem Inward.maintains (h : Inward Q) : Maintains link Q where
  phase s phase := h s phase s.world
  write _ _ _ := stays_onWorld fun s => h s s.phase _
  subscribe _ := stays_onWorld fun s => h s s.phase _
  receive _ := stays_onWorld fun s => h s s.phase _

end

/-! ## The device and its mailbox -/

/-- The step keeps the property of device and mailbox, however it ends. -/
def Upholds (P : D → Mailbox → Prop) (step : Step D A α) : Prop :=
  Ends (fun s => s.world.Has P) step (fun _ s => s.world.Has P) (fun _ s => s.world.Has P)

section
variable {P : D → Mailbox → Prop}

theorem upholds_onWorld {act : Act D A α} (h : World.ActKeeps P act) : Upholds P (onWorld act) :=
  stays_onWorld fun s hs => h s.world hs

theorem upholds_moveFlow (f : Flow → Flow) : Upholds P (moveFlow f : Step D A Unit) := by
  intro s hs
  constructor
  · intro _ s' h
    cases h; exact hs
  · intro e s' h
    cases h

theorem upholds_heed (report : TransferReport) (value : Option Bytes) :
    Upholds P (heed report value : Step D A TransferReport) := by
  unfold heed
  split
  · exact stays_pure _
  · split
    · exact stays_pure _
    · refine stays_get_bind fun s => ?_
      split
      · exact stays_throw _
      · exact Stays.bind (upholds_moveFlow _) fun _ => stays_pure _

end

/-- What a session that asks this link for its writes and subscriptions upholds. -/
structure Keeping [Peer D A] (link : Link D A) (P : D → Mailbox → Prop) : Prop where
  alone : Peer.Keeps (A := A) P
  empty : ∀ d m, P d m → P d .empty
  write : ∀ characteristic data mode, World.ActKeeps P (link.write characteristic data mode)
  subscribe : ∀ characteristic, World.ActKeeps P (link.subscribe characteristic)

variable [Peer D A] {link : Link D A} {P : D → Mailbox → Prop} (hP : Keeping link P)
include hP

theorem Keeping.maintains : Maintains link (fun s => s.world.Has P) where
  phase _ _ hs := hs
  write characteristic data mode := upholds_onWorld (hP.write characteristic data mode)
  subscribe characteristic := upholds_onWorld (hP.subscribe characteristic)
  receive milliseconds := upholds_onWorld (World.keeps_receiveWithin hP.alone hP.empty milliseconds)

theorem upholds_turn (report : TransferReport) : Upholds P (turn link report) := by
  refine Stays.bind (upholds_onWorld (World.keeps_poll hP.empty)) fun value => ?_
  refine Stays.bind (upholds_heed report value) fun report => stays_get_bind fun s => ?_
  have hpause : ∀ milliseconds, Upholds P (onWorld (World.sleep milliseconds) : Step D A Unit) :=
    fun milliseconds => upholds_onWorld (World.keeps_sleep hP.alone milliseconds)
  split
  · exact Stays.bind (hpause _) fun _ => stays_pure _
  · simp only
    split
    · exact stays_pure _
    · have hsend : ∀ fragment, Upholds P (send link fragment) := fun fragment =>
        stays_get_bind fun _ => Stays.bind
          (upholds_onWorld (World.keeps_within hP.alone (hP.write _ _ _) _)) fun _ => stays_pure _
      refine Stays.bind (hsend _) fun written => ?_
      split
      · exact Stays.bind (hpause _) fun _ => Stays.bind (upholds_moveFlow _) fun _ => stays_pure _
      · exact Stays.bind (hpause _) fun _ => stays_pure _

/-- **A session upholds what its waits, writes and subscriptions keep.** -/
theorem upholds_run (turns : Nat) : Upholds P (run link turns) :=
  hP.maintains.run (upholds_turn hP) turns

/-- As an activity of its own, it keeps that. -/
theorem keeps_asAct_run (turns : Nat) (image : Bytes) (config : SessionConfig) :
    World.ActKeeps P (asAct (run link turns) image config) := by
  intro w hw
  have hidle : (idle image config { w with mailbox := .empty }).world.Has P := hP.empty _ _ hw
  have hrun := upholds_run hP turns _ hidle
  unfold asAct
  cases hend : run link turns (idle image config { w with mailbox := .empty }) with
  | ok report s => exact hrun.1 report s hend
  | error e s => exact hrun.2 e s hend

end Session

end AirUpdate
