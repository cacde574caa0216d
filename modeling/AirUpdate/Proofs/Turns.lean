/-
  Air updates — what a turn of the stream does.

  A turn heeds the notification in the mailbox (`Session.heeded`), and then
  waits, writes the next fragment or finds none.  `Turned` lists the ways in
  which it comes to its end, each with all that it does; `turned_of_turn` says
  that there are no others, and `turn_of_turned` that these are.
-/
import AirUpdate.Proofs.Resync
import AirUpdate.Proofs.Waiting
import AirUpdate.Session

namespace AirUpdate

/-- Whether a write came to its end in the turn. -/
def Turn.sends : Turn → Bool
  | .sent | .sentLast => true
  | .held | .stalled | .drained => false

theorem Turn.isLast_iff {t : Turn} : t.isLast = true ↔ t = .drained ∨ t = .sentLast := by
  cases t <;> simp [isLast]

/-- A turn that sends is the last exactly if the fragment is short. -/
theorem Turn.isLast_sent (short : Prop) [Decidable short] :
    (if short then Turn.sentLast else .sent).isLast = decide short := by
  split
  · next h => exact (decide_eq_true h).symm
  · next h => exact (decide_eq_false h).symm

namespace Session
variable {D A α : Type}

/-- The session after it has acted on the notification in its mailbox. -/
def heeded (s : Session D A) : Session D A :=
  { s with
    flow := s.world.mailbox.latest.elim s.flow s.flow.onNotification
    world := { s.world with mailbox := .empty } }

/-- The failure in the mailbox, if it is one on which the session fails. -/
def refusal? (s : Session D A) : Option Status :=
  match s.world.mailbox.latest.map StatusReport.ofBytes with
  | some (.ok r) => if r.status.isFailure ∧ s.config.failOnDeviceError then some r.status else none
  | _ => none

/-- The report of the stream after the notification in the mailbox. -/
def noted (s : Session D A) (report : TransferReport) : TransferReport :=
  match s.world.mailbox.latest.map StatusReport.ofBytes with
  | some (.ok r) => if s.flow.holds r then { report with pauses := report.pauses + 1 } else report
  | _ => report

/-- The fragment that goes out next. -/
def next (s : Session D A) : Fragment :=
  ⟨s.flow.sequencer.id, s.flow.sequencer.nextChunk s.image s.config.payloadSize⟩

/-- Writing the next fragment, for as long as a write may take. -/
def writeNext (link : Link D A) [Peer D A] (s : Session D A) : Act D A (Option Unit) :=
  World.within s.config.writeTimeout.toNat (link.write .binaryStream s.next.toBytes .command)

@[simp] theorem heeded_image (s : Session D A) : s.heeded.image = s.image := rfl

@[simp] theorem heeded_config (s : Session D A) : s.heeded.config = s.config := rfl

/-- The fragment whose write a turn begins, if it gets to that: the session does
    not fail on the notification, is not held, and has a fragment left. -/
def attempt? (s : Session D A) : Option Fragment :=
  if s.refusal?.isSome ∨ s.heeded.flow.held ∨ s.heeded.next.payload = [] then none
  else some s.heeded.next

/-- A session that is held begins no write. -/
theorem attempt?_of_held {s : Session D A} (h : s.heeded.flow.held = true) :
    s.attempt? = none := by
  unfold attempt?
  rw [if_pos (Or.inr (Or.inl h))]

theorem attempt?_of_refusal {s : Session D A} (h : s.refusal? ≠ none) : s.attempt? = none := by
  unfold attempt?
  rw [if_pos (Or.inl (Option.isSome_iff_ne_none.2 h))]

/-- A write begins only of a fragment that is left. -/
theorem payload_ne_of_attempt? {s : Session D A} {f : Fragment} (h : s.attempt? = some f) :
    f.payload ≠ [] := by
  unfold attempt? at h
  split at h
  · cases h
  · next hnot =>
    cases h
    exact fun hempty => hnot (Or.inr (Or.inr hempty))

theorem next_eq (s : Session D A) :
    s.next = fragmentAt s.image s.config.payloadSize s.flow.sequencer.index :=
  s.flow.sequencer.fragment_eq s.image s.config.payloadSize

theorem payload_heeded (s : Session D A) : s.heeded.next.payload =
    chunk s.image s.config.payloadSize s.heeded.flow.sequencer.index := rfl

theorem payloadSize_pos (c : SessionConfig) : 0 < c.payloadSize := by
  unfold SessionConfig.payloadSize; omega

/-- A turn of the stream that comes to its end: how the session and the report
    are before it, what it comes to, and how they are after it. -/
inductive Turned [Peer D A] (link : Link D A) (s : Session D A) (report : TransferReport) :
    Turn → TransferReport → Session D A → Prop
  | held {w} : s.refusal? = none → s.heeded.flow.held = true →
      World.sleep s.config.pausePoll.toNat s.heeded.world = .ok () w →
      Turned link s report .held (s.noted report) { s.heeded with world := w }
  | drained : s.refusal? = none → s.heeded.flow.held = false → s.heeded.next.payload = [] →
      Turned link s report .drained (s.noted report) s.heeded
  | sent {t w₁ w₂} : s.refusal? = none → s.heeded.flow.held = false → s.heeded.next.payload ≠ [] →
      s.heeded.writeNext link s.heeded.world = .ok (some ()) w₁ →
      World.sleep s.config.pacing.toNat w₁ = .ok () w₂ →
      t = (if s.heeded.next.payload.length < s.config.payloadSize then .sentLast else .sent) →
      Turned link s report t
        { s.noted report with
          fragmentsSent := (s.noted report).fragmentsSent + 1
          bytesSent := (s.noted report).bytesSent + s.heeded.next.payload.length }
        { s.heeded with flow := s.heeded.flow.advance, world := w₂ }
  | stalled {w₁ w₂} : s.refusal? = none → s.heeded.flow.held = false → s.heeded.next.payload ≠ [] →
      s.heeded.writeNext link s.heeded.world = .ok none w₁ →
      World.sleep s.config.writeBackoff.toNat w₁ = .ok () w₂ →
      Turned link s report .stalled
        { s.noted report with writeTimeouts := (s.noted report).writeTimeouts + 1 }
        { s.heeded with world := w₂ }

theorem onWorld_eq_ok {act : Act D A α} {s s' : Session D A} {a : α} :
    onWorld act s = .ok a s' ↔ ∃ w, act s.world = .ok a w ∧ s' = { s with world := w } := by
  unfold onWorld
  cases act s.world with
  | ok b w =>
    refine ⟨fun h => ?_, ?_⟩
    · cases h; exact ⟨w, rfl, rfl⟩
    · rintro ⟨w', h, rfl⟩
      cases h; rfl
  | error e w => simp

/-- Heeding the notification taken from the mailbox. -/
theorem heed_eq_ok {s s' : Session D A} {report report' : TransferReport}
    (h : heed report s.world.mailbox.latest { s with world := { s.world with mailbox := .empty } } =
      .ok report' s') : s' = s.heeded ∧ report' = s.noted report ∧ s.refusal? = none := by
  unfold heeded noted refusal?
  cases hm : s.world.mailbox.latest with
  | none => rw [hm] at h; cases h; exact ⟨rfl, rfl, rfl⟩
  | some value =>
    rw [hm] at h
    simp only [heed] at h
    simp only [Option.elim_some, Option.map_some, Flow.onNotification]
    cases hv : StatusReport.ofBytes value with
    | error e => rw [hv] at h; cases h; exact ⟨rfl, rfl, rfl⟩
    | ok r =>
      rw [hv] at h
      obtain ⟨_, _, hget, h⟩ := bind_eq_ok.1 h
      cases hget
      simp only at h ⊢
      split at h
      · cases h
      · next hr =>
        rw [if_neg hr]
        cases h
        exact ⟨rfl, rfl, rfl⟩

/-- Sending the next fragment says whether the write came to its end. -/
theorem send_next_eq_ok [Peer D A] {link : Link D A} {s s' : Session D A} {done : Bool} :
    send link s.next s = .ok done s' ↔ ∃ written w, s.writeNext link s.world = .ok written w ∧
      done = written.isSome ∧ s' = { s with world := w } := by
  constructor
  · intro h
    obtain ⟨_, _, hget, h⟩ := bind_eq_ok.1 h
    cases hget
    obtain ⟨written, _, hwrite, h⟩ := bind_eq_ok.1 h
    obtain ⟨w, hwritten, rfl⟩ := onWorld_eq_ok.1 hwrite
    cases h
    exact ⟨written, w, hwritten, rfl, rfl⟩
  · rintro ⟨written, w, hwritten, rfl, rfl⟩
    exact bind_eq_ok.2 ⟨s, s, rfl,
      bind_eq_ok.2 ⟨written, _, onWorld_eq_ok.2 ⟨w, hwritten, rfl⟩, rfl⟩⟩

/-- **A turn that comes to its end is one of `Turned`.** -/
theorem turned_of_turn [Peer D A] {link : Link D A} {s s' : Session D A}
    {report report' : TransferReport} {t : Turn} (h : turn link report s = .ok (t, report') s') :
    Turned link s report t report' s' := by
  unfold turn at h
  obtain ⟨value, s₁, hpoll, h⟩ := bind_eq_ok.1 h
  obtain ⟨w, hpoll, rfl⟩ := onWorld_eq_ok.1 hpoll
  cases hpoll
  obtain ⟨report₁, s₁, hheed, h⟩ := bind_eq_ok.1 h
  obtain ⟨rfl, rfl, hrefusal⟩ := heed_eq_ok hheed
  obtain ⟨_, _, hget, h⟩ := bind_eq_ok.1 h
  cases hget
  split at h
  · next hheld =>
    obtain ⟨_, s₁, hsleep, h⟩ := bind_eq_ok.1 h
    obtain ⟨w, hslept, rfl⟩ := onWorld_eq_ok.1 hsleep
    cases h
    exact .held hrefusal hheld hslept
  · next hheld =>
    have hheld : s.heeded.flow.held = false := by simpa using hheld
    simp only at h
    split at h
    · next hempty =>
      cases h
      exact .drained hrefusal hheld (List.isEmpty_iff.1 hempty)
    · next hempty =>
      have hne : s.heeded.next.payload ≠ [] := fun he => hempty (List.isEmpty_iff.2 he)
      obtain ⟨done, s₁, hsend, h⟩ := bind_eq_ok.1 h
      obtain ⟨written, w₁, hwritten, rfl, rfl⟩ := send_next_eq_ok.1 hsend
      cases written with
      | none =>
        obtain ⟨_, s₁, hsleep, h⟩ := bind_eq_ok.1 h
        obtain ⟨w₂, hslept, rfl⟩ := onWorld_eq_ok.1 hsleep
        cases h
        exact .stalled hrefusal hheld hne hwritten hslept
      | some _ =>
        obtain ⟨_, s₁, hsleep, h⟩ := bind_eq_ok.1 h
        obtain ⟨w₂, hslept, rfl⟩ := onWorld_eq_ok.1 hsleep
        obtain ⟨_, s₂, hmove, h⟩ := bind_eq_ok.1 h
        cases hmove
        cases h
        exact .sent hrefusal hheld hne hwritten hslept rfl

theorem heed_of_refusal? {s : Session D A} (report : TransferReport) (h : s.refusal? = none) :
    heed report s.world.mailbox.latest { s with world := { s.world with mailbox := .empty } } =
      .ok (s.noted report) s.heeded := by
  unfold refusal? at h
  unfold heeded noted
  cases hm : s.world.mailbox.latest with
  | none => rfl
  | some value =>
    rw [hm] at h
    simp only [Option.map_some] at h
    simp only [heed, Option.elim_some, Option.map_some, Flow.onNotification]
    cases hv : StatusReport.ofBytes value with
    | error e => rfl
    | ok r =>
      rw [hv] at h
      have hr : ¬ (r.status.isFailure = true ∧ s.config.failOnDeviceError = true) := by
        intro hr
        simp only [if_pos hr] at h
        cases h
      refine bind_eq_ok.2 ⟨_, _, rfl, ?_⟩
      simp only [if_neg hr]
      exact bind_eq_ok.2 ⟨(), _, rfl, rfl⟩

/-- **Each of `Turned` is a turn** that comes to its end so. -/
theorem turn_of_turned [Peer D A] {link : Link D A} {s s' : Session D A}
    {report report' : TransferReport} {t : Turn} (h : Turned link s report t report' s') :
    turn link report s = .ok (t, report') s' := by
  have hpoll : onWorld World.poll s =
      .ok s.world.mailbox.latest { s with world := { s.world with mailbox := .empty } } := rfl
  have hrefusal : s.refusal? = none := by cases h <;> assumption
  have hnext : (s.heeded.flow.sequencer.nextChunk s.heeded.image
      s.heeded.config.payloadSize).isEmpty = true ↔ s.heeded.next.payload = [] := List.isEmpty_iff
  unfold turn
  refine bind_eq_ok.2 ⟨_, _, hpoll, bind_eq_ok.2 ⟨_, _, heed_of_refusal? report hrefusal, ?_⟩⟩
  refine bind_eq_ok.2 ⟨s.heeded, s.heeded, rfl, ?_⟩
  cases h with
  | held _ hheld hslept =>
    rw [if_pos hheld]
    exact bind_eq_ok.2 ⟨(), _, onWorld_eq_ok.2 ⟨_, hslept, rfl⟩, rfl⟩
  | drained _ hheld hempty =>
    rw [if_neg (by simp [hheld])]
    simp only [if_pos (hnext.2 hempty)]
    rfl
  | sent _ hheld hne hwritten hslept ht =>
    rw [if_neg (by simp [hheld])]
    simp only [if_neg (mt hnext.1 hne)]
    refine bind_eq_ok.2 ⟨true, _, send_next_eq_ok.2 ⟨_, _, hwritten, rfl, rfl⟩, ?_⟩
    refine bind_eq_ok.2 ⟨(), _, onWorld_eq_ok.2 ⟨_, hslept, rfl⟩, ?_⟩
    rw [ht]
    rfl
  | stalled _ hheld hne hwritten hslept =>
    rw [if_neg (by simp [hheld])]
    simp only [if_neg (mt hnext.1 hne)]
    refine bind_eq_ok.2 ⟨false, _, send_next_eq_ok.2 ⟨_, _, hwritten, rfl, rfl⟩, ?_⟩
    exact bind_eq_ok.2 ⟨(), _, onWorld_eq_ok.2 ⟨_, hslept, rfl⟩, rfl⟩

namespace Turned
variable [Peer D A] {link : Link D A} {s s' : Session D A} {report report' : TransferReport}
  {t : Turn}

theorem image_eq (h : Turned link s report t report' s') : s'.image = s.image := by
  cases h <;> rfl

theorem config_eq (h : Turned link s report t report' s') : s'.config = s.config := by
  cases h <;> rfl

theorem phase_eq (h : Turned link s report t report' s') : s'.phase = s.phase := by
  cases h <;> rfl

theorem refusal?_eq (h : Turned link s report t report' s') : s.refusal? = none := by
  cases h <;> assumption

/-- The flow moves on only behind a write that came to its end. -/
theorem flow_eq (h : Turned link s report t report' s') :
    s'.flow = if t.sends then s.heeded.flow.advance else s.heeded.flow := by
  cases h with
  | held | drained | stalled => rfl
  | sent _ _ _ _ _ ht =>
    have hsends : t.sends = true := by rw [ht]; split <;> rfl
    rw [if_pos hsends]

theorem attempt?_eq (h : Turned link s report t report' s') :
    s.attempt? = if t = .held ∨ t = .drained then none else some s.heeded.next := by
  unfold attempt?
  cases h with
  | held hrefusal hheld => simp [hheld]
  | drained hrefusal hheld hempty => simp [hempty]
  | sent hrefusal hheld hne _ _ ht =>
    have htne : ¬ (t = .held ∨ t = .drained) := by rw [ht]; split <;> simp
    rw [if_neg htne]
    simp [hrefusal, hheld, hne]
  | stalled hrefusal hheld hne => simp [hrefusal, hheld, hne]

theorem attempt?_of_sends (h : Turned link s report t report' s') (ht : t.sends = true) :
    s.attempt? = some s.heeded.next := by
  rw [h.attempt?_eq, if_neg]
  rintro (rfl | rfl) <;> cases ht

/-- A turn that finds no fragment left ends with the mailbox empty. -/
theorem mailbox_of_drained (h : Turned link s report .drained report' s') :
    s'.world.mailbox = .empty := by
  generalize ht : Turn.drained = t at h
  cases h with
  | held | stalled => cases ht
  | drained => rfl
  | sent _ _ _ _ _ hsent => rw [hsent] at ht; split at ht <;> cases ht

/-- Only a fragment shorter than the full size is sent as the last. -/
theorem short_of_sentLast (h : Turned link s report .sentLast report' s') :
    s.heeded.next.payload ≠ [] ∧ s.heeded.next.payload.length < s.config.payloadSize := by
  generalize ht : Turn.sentLast = t at h
  cases h with
  | held | stalled | drained => cases ht
  | sent _ _ hne _ _ hsent =>
    rw [hsent] at ht
    split at ht
    · next hshort => exact ⟨hne, hshort⟩
    · cases ht

/-- A turn that sends has the link write the fragment, under some limit. -/
theorem write_of_sends (h : Turned link s report t report' s') (ht : t.sends = true) :
    ∃ l w, link.write .binaryStream s.heeded.next.toBytes .command
      { s.heeded.world with limit := l } = .ok () w := by
  cases h with
  | held | drained | stalled => cases ht
  | sent _ _ _ hwritten =>
    obtain ⟨l, w, -, hwrite, -⟩ := World.within_eq_some hwritten
    exact ⟨l, w, hwrite⟩

end Turned

end Session

end AirUpdate
