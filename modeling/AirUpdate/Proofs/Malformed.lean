/-
  Air updates — notifications that are no report.

  A malformed notification is one that `StatusReport.ofBytes` does not read.
  A turn of the stream that finds one goes on as if the mailbox had been empty
  (`turn_of_malformed`).  The wait for XON looks at the first byte of a
  notification only: it passes over what does not begin with the code of XON
  (`awaitXon_of_received`), and of all malformed notifications one does, the
  code alone (`opens_of_malformed`).  `awaited` lists what the waits came to.
-/
import AirUpdate.Bench
import AirUpdate.Proofs.Stages

namespace AirUpdate

/-- The notification is no report. -/
def Malformed (value : Bytes) : Prop := ∃ e, StatusReport.ofBytes value = .error e

/-- The notification ends the wait for XON: it begins with the code of XON. -/
def Opens (value : Bytes) : Prop := value.head?.bind Status.ofByte? = some .xon

instance (value : Bytes) : Decidable (Opens value) := inferInstanceAs (Decidable (_ = _))

section
variable {value : Bytes}

theorem opens_iff : Opens value ↔ ∃ rest, value = Status.xon.toByte :: rest := by
  unfold Opens
  cases value with
  | nil => simp
  | cons code rest => simp [Status.ofByte?_eq_some_iff]

/-- What ends the wait for XON is XON with its id, or its code alone. -/
theorem report_of_opens (h : Opens value) :
    (∃ id, StatusReport.ofBytes value = .ok ⟨.xon, some id⟩) ∨ value = [Status.xon.toByte] := by
  obtain ⟨rest, rfl⟩ := opens_iff.1 h
  cases rest with
  | nil => exact Or.inr rfl
  | cons id rest => exact Or.inl ⟨id, rfl⟩

theorem opens_of_report {id : UInt8} (h : StatusReport.ofBytes value = .ok ⟨.xon, some id⟩) :
    Opens value := by
  unfold Opens
  cases value with
  | nil => cases h
  | cons code rest =>
    simp only [StatusReport.ofBytes] at h
    split at h
    · cases h
    · next status hstatus =>
      split at h
      · split at h
        · cases h
        · cases h; exact hstatus
      · cases h

/-- Of what is no report, only the code of XON alone ends the wait for XON. -/
theorem opens_of_malformed (h : Malformed value) : Opens value ↔ value = [Status.xon.toByte] := by
  obtain ⟨e, he⟩ := h
  constructor
  · intro hopens
    rcases report_of_opens hopens with ⟨id, hid⟩ | hcode
    · rw [hid] at he
      cases he
    · exact hcode
  · rintro rfl
    exact opens_iff.2 ⟨[], rfl⟩

end

namespace Session
variable {D A : Type} {s s' : Session D A} {report : TransferReport} {value : Bytes}

/-- The session with nothing in its mailbox. -/
def emptied (s : Session D A) : Session D A :=
  { s with world := { s.world with mailbox := .empty } }

/-- Heeding what is no report does nothing. -/
theorem heed_of_malformed (h : Malformed value) :
    (heed report (some value) : Step D A TransferReport) = pure report := by
  obtain ⟨e, he⟩ := h
  simp only [heed, he]

variable [Peer D A] {link : Link D A}

/-- **A turn passes over what is no report**: it goes on as if it had found nothing. -/
theorem turn_of_malformed (hvalue : Malformed value) (h : s.world.mailbox.latest = some value) :
    turn link report s = turn link report s.emptied := by
  have hfound : onWorld World.poll s = .ok (some value) s.emptied := by
    rw [← h]
    rfl
  have hnothing : onWorld World.poll s.emptied = .ok none s.emptied := rfl
  unfold turn
  rw [bind_of_ok hfound, bind_of_ok hnothing, heed_of_malformed hvalue]
  rfl

/-! ## Waiting for XON -/

/-- What the waits for XON come to, in order: a notification, or nothing in time. -/
def awaited : Nat → Nat → Session D A → List (Option Bytes)
  | 0, _, _ => []
  | waits + 1, timeouts, s =>
    match World.receiveWithin s.config.startTimeout.toNat s.world with
    | .ok (some value) w =>
      some value :: if Opens value then [] else awaited waits timeouts { s with world := w }
    | .ok none w =>
      none :: if s.config.startAttempts.toNat ≤ timeouts + 1 then []
        else awaited waits (timeouts + 1) { s with world := w }
    | .error _ _ => []

/-- A wait that takes a notification ends the waiting, or the next wait follows. -/
theorem awaitXon_of_received {waits timeouts : Nat} {w : World D A}
    (h : World.receiveWithin s.config.startTimeout.toNat s.world = .ok (some value) w) :
    awaitXon (waits + 1) timeouts s =
      if Opens value then .ok () { s with world := w }
      else awaitXon waits timeouts { s with world := w } := by
  have hconfig : (get : Step D A (Session D A)) s = .ok s s := rfl
  have hreceived : onWorld (World.receiveWithin s.config.startTimeout.toNat) s =
      .ok (some value) { s with world := w } := onWorld_eq_ok.2 ⟨w, h, rfl⟩
  rw [awaitXon, bind_of_ok hconfig, bind_of_ok hreceived]
  by_cases hopens : Opens value
  · rw [if_pos hopens]
    exact congrFun (if_pos hopens) _
  · rw [if_neg hopens]
    exact congrFun (if_neg hopens) _

/-- Waiting comes to its end with the first notification that ends it. -/
theorem awaited_of_awaitXon {waits timeouts : Nat} (h : awaitXon waits timeouts s = .ok () s') :
    ∃ pre value, awaited waits timeouts s = pre ++ [some value] ∧ Opens value ∧
      ∀ v, some v ∈ pre → ¬ Opens v := by
  induction waits generalizing timeouts s with
  | zero => cases h
  | succ waits ih =>
    obtain ⟨_, _, hget, hrest⟩ := bind_eq_ok.1 h
    cases hget
    obtain ⟨found, s₁, hreceive, hrest⟩ := bind_eq_ok.1 hrest
    obtain ⟨w, hreceived, rfl⟩ := onWorld_eq_ok.1 hreceive
    unfold awaited
    rw [hreceived]
    cases found with
    | some value =>
      rw [awaitXon_of_received hreceived] at h
      by_cases hopens : Opens value
      · exact ⟨[], value, by simp [hopens], hopens, by simp⟩
      · rw [if_neg hopens] at h
        obtain ⟨pre, last, hpre, hlast, hbefore⟩ := ih h
        refine ⟨some value :: pre, last, by simp [hopens, hpre], hlast, fun v hv => ?_⟩
        rcases List.mem_cons.1 hv with hv | hv
        · cases hv
          exact hopens
        · exact hbefore v hv
    | none =>
      simp only at hrest ⊢
      split at hrest
      · cases hrest
      · next hattempts =>
        obtain ⟨pre, last, hpre, hlast, hbefore⟩ := ih hrest
        refine ⟨none :: pre, last, by simp [hattempts, hpre], hlast, fun v hv => ?_⟩
        exact hbefore v (by simpa using hv)

/-- What comes before the first wait: subscribing, and writing START. -/
def knock (link : Link D A) : Step D A Unit := do
  onWorld (link.subscribe .status)
  onWorld (link.write .control [Control.start.toByte] .request)

/-- What the waits come to when the session is opened. -/
def answers (link : Link D A) (waits : Nat) (s : Session D A) : List (Option Bytes) :=
  match knock link { s with phase := .starting } with
  | .ok _ s₁ => awaited waits 0 s₁
  | .error _ _ => []

theorem answers_of_start {turns : Nat} (h : start link turns s = .ok () s') :
    ∃ pre value, answers link turns s = pre ++ [some value] ∧ Opens value ∧
      ∀ v, some v ∈ pre → ¬ Opens v := by
  obtain ⟨_, s₁, hexpect, h⟩ := bind_eq_ok.1 h
  obtain ⟨-, rfl⟩ := of_expect_eq_ok hexpect
  obtain ⟨_, s₂, henter, h⟩ := bind_eq_ok.1 h
  cases henter
  obtain ⟨_, s₃, hshake, -⟩ := bind_eq_ok.1 h
  obtain ⟨_, s₄, hsubscribe, hshake⟩ := bind_eq_ok.1 (settling_eq_ok.1 hshake)
  obtain ⟨_, s₅, hstart, hawait⟩ := bind_eq_ok.1 hshake
  have hknock : knock link { s with phase := .starting } = .ok () s₅ :=
    bind_eq_ok.2 ⟨(), s₄, hsubscribe, hstart⟩
  unfold answers
  rw [hknock]
  exact awaited_of_awaitXon hawait

variable (D A) in
/-- **What is no report is passed over**, but for the code of XON alone, which ends
    the wait for XON.  A turn of the stream goes on as if the mailbox had been
    empty; a wait for XON is followed by the next, with no more timeouts
    counted; and a session that opens has taken XON with its id last, or the
    code of XON alone. -/
theorem malformed_passed_over_iff (link : Link D A) :
    (∀ value, Malformed value →
      (∀ (s : Session D A) report, s.world.mailbox.latest = some value →
        turn link report s = turn link report s.emptied) ∧
      ∀ (s : Session D A) waits timeouts w,
        World.receiveWithin s.config.startTimeout.toNat s.world = .ok (some value) w →
        awaitXon (waits + 1) timeouts s =
          if value = [Status.xon.toByte] then .ok () { s with world := w }
          else awaitXon waits timeouts { s with world := w }) ∧
    ∀ (s s' : Session D A) turns, start link turns s = .ok () s' →
      ∃ pre value, answers link turns s = pre ++ [some value] ∧
        ((∃ id, StatusReport.ofBytes value = .ok ⟨.xon, some id⟩) ∨
          value = [Status.xon.toByte]) := by
  refine ⟨fun value hvalue => ⟨fun s report h => turn_of_malformed hvalue h,
    fun s waits timeouts w h => ?_⟩, fun s s' turns h => ?_⟩
  · rw [awaitXon_of_received h]
    simp only [opens_of_malformed hvalue]
  · obtain ⟨pre, value, hanswers, hopens, -⟩ := answers_of_start h
    exact ⟨pre, value, hanswers, report_of_opens hopens⟩

end Session

namespace Bench

/-- A device that answers START with this notification, and 5 ms later with XON. -/
def mumbling (value : Bytes) : Session Bench Bytes :=
  .idle [7, 8, 9] .default
    (.initial 60000 { quiet with
      answersStart := false
      script := [⟨.control Control.start.toByte, 0, 1,
        [(0, value), (5, StatusReport.toBytes ⟨.xon, some 0⟩)], 0⟩] })

/-- A session that streams, or waits for XON, and has XOFF without its id to take. -/
def mumbled : Session Bench Bytes :=
  { mumbling [2] with
    phase := .streaming
    world := { (mumbling [2]).world with mailbox := ⟨some [2]⟩ } }

/-- XOFF without its id is passed over, in the stream and by the waits for XON. -/
theorem mumbling_passed_over :
    Session.turn link .empty mumbled = Session.turn link .empty mumbled.emptied ∧
      Session.awaitXon 4 0 mumbled = Session.awaitXon 3 0 mumbled.emptied ∧
      ∃ pre value, Session.answers link 4 (mumbling [2]) = pre ++ [some value] ∧
        ((∃ id, StatusReport.ofBytes value = .ok ⟨.xon, some id⟩) ∨
          value = [Status.xon.toByte]) := by
  obtain ⟨hpassed, hopened⟩ := Session.malformed_passed_over_iff Bench Bytes link
  obtain ⟨hturn, hawait⟩ := hpassed [2] ⟨.missingFragmentId .xoff, rfl⟩
  have hstart : (result? (Session.start link 4 (mumbling [2]))).isSome = true := by decide +kernel
  obtain ⟨_, hstarted⟩ := Option.isSome_iff_exists.1 hstart
  exact ⟨hturn mumbled .empty rfl, hawait mumbled 3 0 _ rfl,
    hopened _ _ 4 (eq_ok_of_result? hstarted)⟩

/-- The code of XON alone opens a session, with no report of XON taken. -/
theorem not_opened_by_report :
    ¬ ∀ (turns : Nat) (s s' : Session Bench Bytes), Session.start link turns s = .ok () s' →
      ∃ value id, some value ∈ Session.answers link turns s ∧
        StatusReport.ofBytes value = .ok ⟨.xon, some id⟩ := by
  intro h
  have hstart : (result? (Session.start link 4 (mumbling [3]))).isSome = true := by decide +kernel
  obtain ⟨_, hstarted⟩ := Option.isSome_iff_exists.1 hstart
  have hanswers : Session.answers link 4 (mumbling [3]) = [some [3]] := by decide +kernel
  obtain ⟨value, id, hmem, hreport⟩ := h 4 _ _ (eq_ok_of_result? hstarted)
  rw [hanswers, List.mem_singleton, Option.some.injEq] at hmem
  rw [hmem] at hreport
  cases hreport

end Bench

end AirUpdate
