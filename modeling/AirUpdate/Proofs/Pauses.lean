/-
  Air updates — pauses of a stream.

  A transfer that begins with the stream going on keeps book of its pauses
  (`PausesKept`, `pausesKept_transfer`).  The stream is held exactly if the last
  XOFF or XON taken was XOFF; while it is, no write begins, and steering reports
  move the sequencer and nothing else; each XOFF that found the stream going on
  counts as a pause; and a transfer does not come to its end with the stream
  held.  A held stream looks at the mailbox again after the time of a poll, so
  XON is taken no later than that behind its arrival, and the next fragment is
  written at once.
-/
import AirUpdate.Proofs.Accounting
import AirUpdate.Proofs.Arrivals
import AirUpdate.Proofs.Resumption

namespace AirUpdate

namespace Session
variable {D A : Type} {s s' : Session D A}

/-- A stream is held anew by XOFF that finds it going on. -/
theorem toHold_iff : s.toHold = true ↔ s.hold? = some true ∧ s.flow.held = false := by
  unfold toHold hold?
  cases hlatest : s.world.mailbox.latest with
  | none => simp
  | some value =>
    have hheld := held_onNotification s.flow value
    unfold Flow.onNotification at hheld
    cases hvalue : StatusReport.ofBytes value with
    | error e =>
      have hnone : holding? value = none := by simp only [holding?, hvalue]
      simp [hvalue, hnone]
    | ok r =>
      rw [hvalue] at hheld
      simp only at hheld
      cases hf : s.flow.held <;> cases hv : holding? value <;>
        simp [hvalue, Flow.holds, hheld, hf, hv]

/-- XOFF and SYNC_LOST leave a held stream held, and take it to their id. -/
theorem heeded_flow_of_held {status : Status} {id : UInt8} (hheld : s.flow.held = true)
    (h : s.steering? = some ⟨status, some id⟩) (hstatus : status ≠ .xon) :
    s.heeded.flow = ⟨s.flow.sequencer.resync id, true⟩ := by
  have hcarries := (steering?_eq_some h).1
  rw [heeded_flow_of_some h]
  cases status <;> simp_all [Flow.absorb, Status.carriesId]

/-- XON takes a held stream to its id, and the next fragment is written if there is one. -/
theorem attempt?_of_taken_xon {value : Bytes} {id : UInt8} (hm : s.world.mailbox = ⟨some value⟩)
    (hvalue : StatusReport.ofBytes value = .ok ⟨.xon, some id⟩) :
    s.heeded.flow.sequencer = s.flow.sequencer.resync id ∧
      (s.image.length < wordSpan → s.attempt? =
        if s.heeded.flow.sequencer.index < chunkCount s.image s.config.payloadSize then
          some (fragmentAt s.image s.config.payloadSize s.heeded.flow.sequencer.index) else none) := by
  have hsteering : s.steering? = some ⟨.xon, some id⟩ := by
    simp [steering?, hm, hvalue, Status.carriesId]
  exact ⟨by rw [heeded_of_xon hsteering], fun himage => attempt?_of_xon himage hsteering⟩

variable [Peer D A] {link : Link D A} {report report' : TransferReport} {t : Turn}

theorem Turned.held_iff (h : Turned link s report t report' s') :
    s.heeded.flow.held = true ↔ t = .held := by
  cases h with
  | held _ hheld => simp [hheld]
  | drained _ hheld | stalled _ hheld => simp [hheld]
  | sent _ hheld _ _ _ ht =>
    rw [hheld, ht]
    split <;> simp

/-- A turn that finds the stream held takes the time of a poll. -/
theorem Turned.now_of_held (h : Turned link s report t report' s')
    (hheld : s.heeded.flow.held = true) :
    s'.world.now = s.world.now + s.config.pausePoll.toNat := by
  cases h with
  | held _ _ hslept =>
    have hnow := World.now_of_sleep hslept
    exact hnow
  | drained _ hnot | sent _ hnot | stalled _ hnot =>
    rw [hheld] at hnot
    cases hnot

variable (link) in
/-- The book that a transfer keeps of its pauses. -/
structure PausesKept (turns : Nat) (s : Session D A) : Prop where
  /-- behind each look the stream is held exactly if the last XOFF or XON taken was XOFF -/
  held_iff : ∀ {pre x post}, transferRounds link turns s = pre ++ x :: post →
    (x.before.heeded.flow.held = true ↔
      ((pre ++ [x]).filterMap Round.hold?).getLast? = some true)
  /-- while it is held no write begins, and the flow stays where the notification took it -/
  still : ∀ {x}, x ∈ transferRounds link turns s → x.before.heeded.flow.held = true →
    x.attempt? = none ∧ x.after.flow = x.before.heeded.flow
  /-- XOFF and SYNC_LOST take a held stream to their id, and leave it held -/
  resynced : ∀ {x status id}, x ∈ transferRounds link turns s → x.before.flow.held = true →
    x.steering? = some ⟨status, some id⟩ → status ≠ .xon →
    x.before.heeded.flow = ⟨x.before.flow.sequencer.resync id, true⟩
  /-- what steers no stream leaves the flow where it was -/
  unmoved : ∀ {x}, x ∈ transferRounds link turns s → x.steering? = none →
    x.before.heeded.flow = x.before.flow
  /-- each XOFF that found the stream going on is a pause -/
  counted : ∀ {report s'}, transfer link turns s = .ok report s' → report.pauses =
    (transferRounds link turns s).countP fun x =>
      decide (x.hold? = some true ∧ x.before.flow.held = false)
  /-- a transfer comes to its end with the stream going on -/
  released : ∀ {report s'}, transfer link turns s = .ok report s' → s'.flow.held = false
  /-- a stream that is held, and has not failed, is given up so or looks again after the
      time of a poll, if there may be one more turn -/
  looks_again : ∀ {pre x post}, transferRounds link turns s = pre ++ x :: post →
    x.before.heeded.flow.held = true → x.before.refusal? = none →
    (∃ s', transfer link turns s = .error .cut s') ∨
    ∃ y post', transferRounds link (turns + 1) s = pre ++ x :: y :: post' ∧
      y.before.world.now = x.before.world.now + s.config.pausePoll.toNat
  /-- XON that arrives last between two such looks is taken by the second, no later than
      the time of a poll behind it, and the fragment is written that is next then -/
  resumes : ∀ {pre mid post : List (MailEvent D A)} {x y moment value id},
    Accounts s.world.mailbox (pre ++ .polled x :: mid ++ .arrived moment value :: .polled y :: post)
      (transferRounds link turns s) →
    MailEvent.InOrder (pre ++ .polled x :: mid ++ .arrived moment value :: .polled y :: post) →
    (∀ e ∈ mid, e.IsArrival) → x.before.heeded.flow.held = true →
    StatusReport.ofBytes value = .ok ⟨.xon, some id⟩ →
    y.heard = some value ∧ y.before.world.now ≤ moment + s.config.pausePoll.toNat ∧
      y.index = (x.before.heeded.flow.sequencer.resync id).index ∧
      (s.image.length < wordSpan → y.attempt? =
        if y.index < chunkCount s.image s.config.payloadSize then
          some (fragmentAt s.image s.config.payloadSize y.index) else none)

section
variable {turns : Nat} {pre post : List (Round D A)} {x y : Round D A}

/-- A round that found the stream held has waited before the next one begins. -/
theorem Runs.now_of_held (h : Runs link report s (pre ++ x :: y :: post))
    (hheld : x.before.heeded.flow.held = true) :
    y.before.world.now = x.before.world.now + s.config.pausePoll.toNat := by
  have hconfig := (h.image_eq (x := x) (by simp)).2
  have hnext := h.before_eq_after
  obtain ⟨_, hruns⟩ := h.of_append
  have hruns : Runs link _ x.before (x :: [] ++ y :: post) := hruns
  obtain ⟨-, _, _, -, hturned, -⟩ := hruns.of_cons_append
  rw [hnext, ← hconfig]
  exact hturned.now_of_held hheld

/-- A transfer that comes to its end ends behind a turn that was not held. -/
theorem released_of_transfer (h : transfer link turns s = .ok report s') :
    s'.flow.held = false := by
  obtain ⟨-, _, s₁, hstream, -, rfl⟩ := transfer_eq_ok h
  obtain ⟨pre, x, t, hrounds, ht, hlast, rfl⟩ := stream_eq_ok hstream
  have hruns : Runs link .empty s (rounds link turns .empty s) := runs_rounds turns .empty s
  have hmem : x ∈ rounds link turns .empty s := by simp [hrounds]
  obtain ⟨_, _, hturned⟩ := hruns.turned_mem hmem ht
  show x.after.flow.held = false
  rw [hruns.held_after hmem]
  by_contra hheld
  rw [Bool.not_eq_false, hturned.held_iff] at hheld
  rw [hheld] at hlast
  cases hlast

/-- A held stream is given up in its wait, or looks again behind it. -/
theorem cut_or_next_of_held (hxs : transferRounds link turns s = pre ++ x :: post)
    (hheld : x.before.heeded.flow.held = true) (hrefusal : x.before.refusal? = none) :
    (∃ s', transfer link turns s = .error .cut s') ∨
      ∃ y post', transferRounds link (turns + 1) s = pre ++ x :: y :: post' ∧
        y.before.world.now = x.before.world.now + s.config.pausePoll.toNat := by
  have hruns : Runs link .empty s (transferRounds link turns s) := runs_transferRounds turns s
  have hmem : x ∈ transferRounds link turns s := by simp [hxs]
  have hphase : s.phase = .streaming := by
    by_contra hphase
    simp [transferRounds, hphase] at hxs
  simp only [transferRounds, hphase, if_true] at hxs ⊢
  cases ht : x.turn with
  | none =>
    obtain ⟨-, e, hhalted, hstream⟩ := stream_of_halted hxs ht
    rw [hhalted.eq_cut_of_held hrefusal hheld] at hstream
    exact Or.inl ⟨_, transfer_of_stream_error hphase hstream⟩
  | some t =>
    obtain ⟨_, _, hturned⟩ := hruns.turned_mem hmem ht
    obtain rfl := hturned.held_iff.1 hheld
    obtain ⟨y, post', hmore⟩ := rounds_succ hxs ht rfl
    have hlonger : Runs link .empty s (rounds link (turns + 1) .empty s) :=
      runs_rounds (turns + 1) .empty s
    rw [hmore] at hlonger
    exact Or.inr ⟨y, post', hmore, hlonger.now_of_held hheld⟩

/-- Of two looks of a held stream with XON the last arrival between, the second takes
    XON, no later than the time of a poll behind it. -/
theorem Runs.takes_xon {xs : List (Round D A)} {es mid later : List (MailEvent D A)}
    {moment : Nat} {value : Bytes} {id : UInt8} (h : Runs link report s xs)
    (haccounts : Accounts s.world.mailbox
      (es ++ .polled x :: mid ++ .arrived moment value :: .polled y :: later) xs)
    (horder : MailEvent.InOrder
      (es ++ .polled x :: mid ++ .arrived moment value :: .polled y :: later))
    (hmid : ∀ e ∈ mid, e.IsArrival) (hheld : x.before.heeded.flow.held = true)
    (hvalue : StatusReport.ofBytes value = .ok ⟨.xon, some id⟩) :
    y.heard = some value ∧ y.before.world.now ≤ moment + s.config.pausePoll.toNat ∧
      y.index = (x.before.heeded.flow.sequencer.resync id).index ∧
      (s.image.length < wordSpan → y.attempt? =
        if y.index < chunkCount s.image s.config.payloadSize then
          some (fragmentAt s.image s.config.payloadSize y.index) else none) := by
  obtain ⟨⟨ys, zs, rfl⟩, hmailbox⟩ := haccounts.of_arrived_last hmid
  obtain ⟨hindex, hattempt⟩ := attempt?_of_taken_xon hmailbox hvalue
  obtain ⟨himage, hconfig⟩ := h.image_eq (x := y) (by simp)
  rw [himage, hconfig] at hattempt
  refine ⟨by rw [Round.heard, hmailbox], ?_, ?_, hattempt⟩
  · have hbefore : x.before.world.now ≤ moment := by
      obtain ⟨-, -, hcross⟩ := List.pairwise_append.1 horder
      exact hcross (.polled x) (by simp) (.arrived moment value) List.mem_cons_self
    rw [h.now_of_held hheld]
    exact Nat.add_le_add_right hbefore _
  · have hflow := h.flow_of_held (x := x) (by simp) hheld
    rw [Round.index, hindex, h.before_eq_after, hflow]

variable (link) in
/-- **A transfer keeps book of its pauses**, if it begins with the stream going on. -/
theorem pausesKept_transfer (turns : Nat) (s : Session D A) (h : s.flow.held = false) :
    PausesKept link turns s := by
  have hruns : Runs link .empty s (transferRounds link turns s) := runs_transferRounds turns s
  constructor
  case held_iff =>
    intro pre x post hxs
    have hlinked : Linked s.flow.held (transferRounds link turns s) :=
      (carried_transfer turns s).linked
    rw [hxs, h] at hlinked
    rw [hlinked.held_eq]
    cases ((pre ++ [x]).filterMap Round.hold?).getLast? <;> simp
  case still =>
    intro x hx hheld
    exact ⟨attempt?_of_held hheld, hruns.flow_of_held hx hheld⟩
  case resynced =>
    intro x status id _ hheld hsteering hstatus
    exact heeded_flow_of_held hheld hsteering hstatus
  case unmoved =>
    intro x _ hsteering
    exact heeded_flow_of_none hsteering
  case counted =>
    intro report s' htransfer
    rw [report_of_transfer htransfer]
    show 0 + _ = _
    rw [Nat.zero_add]
    refine List.countP_congr fun x _ => ?_
    rw [decide_eq_true_iff]
    exact toHold_iff
  case released =>
    intro report s' htransfer
    exact released_of_transfer htransfer
  case looks_again =>
    intro pre x post hxs hheld hrefusal
    exact cut_or_next_of_held hxs hheld hrefusal
  case resumes =>
    intro pre mid post x y moment value id haccounts horder hmid hheld hvalue
    exact hruns.takes_xon haccounts horder hmid hheld hvalue

end

end Session

namespace Bench

/-- A session that streams three bytes, one in a fragment, to a device that answers the
    first of them with XOFF and takes the next after 80 ms. -/
def pausing : Session Bench Bytes :=
  { Session.idle [7, 8, 9] { SessionConfig.default with fragmentSize := 1, pausePoll := 10 }
      (.initial 60000 { quiet with
        subscribed := true
        script := [⟨.fragment 0, 0, 1, [(0, StatusReport.toBytes ⟨.xoff, some 1⟩),
          (80, StatusReport.toBytes ⟨.xon, some 1⟩)], 0⟩] }) with
    phase := .streaming }

/-- The stream pauses once, and goes on no later than 10 ms behind XON. -/
theorem pausing_kept :
    (∃ report s', Session.transfer link 16 pausing = .ok report s' ∧ report.pauses = 1 ∧
      s'.flow.held = false) ∧
    ∃ w x y, Session.transferRounds link 3 pausing = [w, x, y] ∧
      Session.transferEvents 3 pausing =
        [.polled w, .arrived 0 [2, 1], .polled x, .arrived 80 [3, 1], .polled y] ∧
      y.before.world.now ≤ 80 + 10 ∧ y.attempt? = some ⟨1, [8]⟩ := by
  constructor
  · have hkept := Session.pausesKept_transfer link 16 pausing rfl
    have hsome : (result? (Session.transfer link 16 pausing)).isSome = true := by decide +kernel
    obtain ⟨report, hreport⟩ := Option.isSome_iff_exists.1 hsome
    have htransfer := eq_ok_of_result? hreport
    refine ⟨report, _, htransfer, ?_, hkept.released htransfer⟩
    rw [hkept.counted htransfer]
    decide +kernel
  · have hkept := Session.pausesKept_transfer link 3 pausing rfl
    have hrounds : (Session.transferRounds link 3 pausing).map
        (fun x => (x.before.heeded.flow, x.before.world.device.arrivals x.before.duringRound)) =
        [(⟨⟨0, 0⟩, false⟩, [(0, [2, 1])]), (⟨⟨1, 0⟩, true⟩, [(80, [3, 1])]),
          (⟨⟨1, 0⟩, false⟩, [])] := by decide +kernel
    have haccounts := Session.accounts_transfer 3 pausing
    have horder := Session.inOrder_transfer 3 (s := pausing) ⟨.nil, nofun⟩
    obtain ⟨w, rest, hws, hw, hrest⟩ := List.map_eq_cons_iff.1 hrounds
    obtain ⟨x, rest, rfl, hx, hrest⟩ := List.map_eq_cons_iff.1 hrest
    obtain ⟨y, rest, rfl, hy, hrest⟩ := List.map_eq_cons_iff.1 hrest
    obtain rfl := List.map_eq_nil_iff.1 hrest
    simp only [Prod.mk.injEq] at hw hx hy
    obtain ⟨-, hwarrivals⟩ := hw
    obtain ⟨hxflow, hxarrivals⟩ := hx
    obtain ⟨hyflow, hyarrivals⟩ := hy
    have hevents : Session.transferEvents 3 pausing = [.polled w, .arrived 0 [2, 1]] ++
        .polled x :: [] ++ .arrived 80 [3, 1] :: .polled y :: [] := by
      rw [Session.transferEvents, hws]
      simp [Round.mailEvents, posts, hwarrivals, hxarrivals, hyarrivals]
    obtain ⟨-, hnow, -, hattempt⟩ :=
      hkept.resumes (hevents ▸ haccounts) (hevents ▸ horder) (by simp) (by rw [hxflow]) rfl
    have hindex : y.index = 1 := by
      rw [Round.index, hyflow]
      rfl
    refine ⟨w, x, y, hws, hevents, hnow, ?_⟩
    rw [hattempt (by decide), hindex]
    decide +kernel

end Bench

end AirUpdate
