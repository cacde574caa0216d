/-
  Air updates — where a held stream resumes.

  A stream that hears XOFF and then, without another steering report between,
  XON, writes nothing in between, and the first write after it is of the
  fragment that XON names or of the one a lap before (`resumeIndex`): XOFF has
  taken the sequencer back already, so that the id of XON looks like that of a
  fragment before the wrap if it has moved on since.
-/
import AirUpdate.Bench
import AirUpdate.Proofs.Rounds

namespace AirUpdate

/-- Where a stream resumes that was taken to fragment `xoff` by XOFF and then hears
    XON for fragment `xon`: after the first lap, an id that has moved on since
    XOFF is taken for one of the lap before. -/
def resumeIndex (xoff xon : Nat) : Nat :=
  if xoff = xon ∨ xon < 256 then xon else xon - 256

namespace Session
variable {D A : Type} {s : Session D A} {id : UInt8}

theorem heeded_of_xoff (h : s.steering? = some ⟨.xoff, some id⟩) :
    s.heeded.flow = ⟨s.flow.sequencer.resync id, true⟩ := heeded_flow_of_some h

theorem heeded_of_xon (h : s.steering? = some ⟨.xon, some id⟩) :
    s.heeded.flow = ⟨s.flow.sequencer.resync id, false⟩ := heeded_flow_of_some h

/-- With XON heard, the next fragment is written if there is one. -/
theorem attempt?_of_xon (hd : s.image.length < wordSpan)
    (h : s.steering? = some ⟨.xon, some id⟩) :
    s.attempt? =
      if s.heeded.flow.sequencer.index < chunkCount s.image s.config.payloadSize then
        some (fragmentAt s.image s.config.payloadSize s.heeded.flow.sequencer.index)
      else none := by
  have hheld : s.heeded.flow.held = false := by rw [heeded_of_xon h]
  have hempty : s.heeded.next.payload = [] ↔
      ¬ s.heeded.flow.sequencer.index < chunkCount s.image s.config.payloadSize := by
    rw [Nat.not_lt, ← chunk_eq_nil_iff hd (payloadSize_pos s.config), payload_heeded]
  unfold attempt?
  simp only [refusal?_of_steering h, hheld, hempty, Option.isSome_none, Bool.false_eq_true,
    false_or, ite_not]
  rw [next_eq]
  rfl

variable [Peer D A] {link : Link D A} {turns : Nat} {report : TransferReport}
  {xs pre mid post : List (Round D A)} {x y : Round D A}

namespace Runs

/-- Rounds without a steering report or a completed write leave the flow alone. -/
theorem flow_eq_of_quiet (h : Runs link report s (xs ++ y :: post))
    (hquiet : ∀ z ∈ xs, z.steering? = none)
    (hunsent : ∀ z ∈ xs, z.before.flow = s.flow → z.completed? = none) :
    ∀ z ∈ xs ++ [y], z.before.flow = s.flow := by
  induction xs generalizing report s with
  | nil =>
    intro z hz
    rw [List.nil_append, List.mem_singleton] at hz
    rw [hz, h.before_eq]
  | cons z xs ih =>
    obtain ⟨rfl, _, _, -, -, hrest⟩ := h.of_cons_append
    have hunmoved : z.after.flow = z.before.flow := by
      rw [h.flow_eq_of_unsent (hunsent z (by simp) rfl), heeded_flow_of_none (hquiet z (by simp))]
    rw [← hunmoved] at hunsent ⊢
    have htail := ih hrest (fun v hv => hquiet v (by simp [hv]))
      (fun v hv => hunsent v (by simp [hv]))
    intro v hv
    rcases List.mem_cons.1 hv with rfl | hv
    · exact hunmoved.symm
    · exact htail v hv

end Runs

/-- From XOFF to XON nothing is written. -/
theorem between_xoff_xon (h : Runs link report s (pre ++ x :: mid ++ y :: post))
    (hx : x.steering? = some ⟨.xoff, some id⟩) (hmid : ∀ z ∈ mid, z.steering? = none) :
    (∀ z ∈ x :: mid, z.attempt? = none) ∧
      y.before.flow = ⟨x.before.flow.sequencer.resync id, true⟩ := by
  rw [List.append_assoc] at h
  obtain ⟨_, hruns⟩ := h.of_append
  obtain ⟨-, _, _, -, -, hrest⟩ := hruns.of_cons_append
  have hxnone : x.attempt? = none := attempt?_of_held (by rw [heeded_of_xoff hx])
  have hafter : x.after.flow = ⟨x.before.flow.sequencer.resync id, true⟩ :=
    (hruns.flow_eq_of_unsent (Round.completed?_of_attempt? hxnone)).trans (heeded_of_xoff hx)
  have hnone : ∀ z ∈ mid, z.before.flow = x.after.flow → z.attempt? = none := by
    intro z hz hflow
    refine attempt?_of_held ?_
    rw [heeded_flow_of_none (hmid z hz), hflow, hafter]
  have hflow := hrest.flow_eq_of_quiet hmid fun z hz hflow =>
    Round.completed?_of_attempt? (hnone z hz hflow)
  refine ⟨fun z hz => ?_, (hflow y (by simp)).trans hafter⟩
  rcases List.mem_cons.1 hz with rfl | hz
  · exact hxnone
  · exact hnone z hz (hflow z (by simp [hz]))

/-- After XOFF and XON the next fragment is that of `resumeIndex`. -/
theorem index_of_xoff_xon {xoff xon : Nat} (h : Runs link report s (pre ++ x :: mid ++ y :: post))
    (hx : x.steering? = some ⟨.xoff, some (UInt8.ofNat xoff)⟩)
    (hmid : ∀ z ∈ mid, z.steering? = none)
    (hy : y.steering? = some ⟨.xon, some (UInt8.ofNat xon)⟩)
    (hlow : x.before.flow.sequencer.index ≤ xoff + 255) (hle : xoff ≤ xon)
    (hhigh : xon ≤ x.before.flow.sequencer.index) : y.index = resumeIndex xoff xon := by
  obtain ⟨-, hflow⟩ := between_xoff_xon h hx hmid
  have hxoff : y.before.flow.sequencer.index = xoff := by
    rw [hflow]
    exact Sequencer.index_resync_of_le (Nat.le_trans hle hhigh) (Nat.lt_succ_of_le hlow)
  unfold Round.index resumeIndex
  rw [heeded_of_xon hy]
  -- XOFF has taken the sequencer back to `xoff`, so a later `xon` lies ahead of it
  by_cases heq : xoff = xon
  · rw [if_pos (Or.inl heq)]
    exact Sequencer.index_resync_of_le (by omega) (by omega)
  · rw [Sequencer.index_resync_of_lt (by omega) (by omega)]
    simp only [heq, false_or]

/-- **Resuming.**  Suppose that the stream hears XOFF for a fragment at most 255
    before the next one and then, without another steering report between, XON
    for that fragment or one from there to the next.  From XOFF to XON it writes
    nothing; on XON it writes the fragment of `resumeIndex`, if there is one; and
    it writes no other until that has gone out or another report steers it. -/
theorem resumes_after_xoff_xon {xoff xon : Nat} (hd : s.image.length < wordSpan)
    (h : rounds link turns report s = pre ++ x :: mid ++ y :: post)
    (hx : x.steering? = some ⟨.xoff, some (UInt8.ofNat xoff)⟩)
    (hmid : ∀ z ∈ mid, z.steering? = none)
    (hy : y.steering? = some ⟨.xon, some (UInt8.ofNat xon)⟩)
    (hlow : x.before.flow.sequencer.index ≤ xoff + 255) (hle : xoff ≤ xon)
    (hhigh : xon ≤ x.before.flow.sequencer.index) :
    (∀ z ∈ x :: mid, z.attempt? = none) ∧
    y.attempt? = (if resumeIndex xoff xon < chunkCount s.image s.config.payloadSize then
      some (fragmentAt s.image s.config.payloadSize (resumeIndex xoff xon)) else none) ∧
    ∀ tail z post', post = tail ++ z :: post' → (∀ v ∈ y :: tail, v.completed? = none) →
      (∀ v ∈ tail, v.steering? = none) → z.steering? = none → ∀ f, z.attempt? = some f →
      f = fragmentAt s.image s.config.payloadSize (resumeIndex xoff xon) := by
  have hruns : Runs link report s _ := runs_rounds turns report s
  rw [h] at hruns
  have hindex := index_of_xoff_xon hruns hx hmid hy hlow hle hhigh
  refine ⟨(between_xoff_xon hruns hx hmid).1, ?_, ?_⟩
  · obtain ⟨himage, hconfig⟩ := hruns.image_eq (x := y) (by simp)
    rw [← himage, ← hconfig, ← hindex]
    exact attempt?_of_xon (himage ▸ hd) hy
  · rintro tail z post' rfl hunsent hquiet hz f hf
    obtain ⟨himage, hconfig⟩ := hruns.image_eq (x := z) (by simp)
    obtain ⟨_, hruns⟩ := hruns.of_append
    rw [← List.cons_append] at hruns
    obtain ⟨-, _, _, -, -, hrest⟩ := hruns.of_cons_append
    have hstays :=
      hrest.flow_eq_of_quiet hquiet (fun v hv _ => hunsent v (by simp [hv])) z (by simp)
    have hsame : z.index = y.index := by
      unfold Round.index
      rw [heeded_flow_of_none hz, hstays, hruns.flow_eq_of_unsent (hunsent y (by simp))]
    rw [Round.eq_of_attempt? hf, himage, hconfig, hsame, hindex]

end Session

namespace Bench

/-- A stream of bytes, one in a fragment, that has heard XOFF and is going to hear XON. -/
def heldStream (image : Bytes) (sequencer : Sequencer) (xoff xon : UInt8) :
    Session Bench Bytes where
  image := image
  config := { SessionConfig.default with fragmentSize := 1 }
  flow := ⟨sequencer, false⟩
  phase := .streaming
  world :=
    { now := 0
      limit := 60000
      credit := World.fullCredit
      agenda := [⟨0, StatusReport.toBytes ⟨.xon, some xon⟩⟩]
      mailbox := ⟨some (StatusReport.toBytes ⟨.xoff, some xoff⟩)⟩
      device := { quiet with subscribed := true } }

/-- In the first lap the stream resumes where XON says. -/
theorem resumes_in_first_lap :
    ∃ x y, Session.rounds link 2 .empty (heldStream [4, 5, 6, 7] ⟨3, 0⟩ 1 2) = [x, y] ∧
      y.attempt? = some ⟨2, [6]⟩ := by
  have hrounds : (Session.rounds link 2 .empty (heldStream [4, 5, 6, 7] ⟨3, 0⟩ 1 2)).map
      (fun z => (z.steering?, z.before.flow.sequencer.index)) =
      [(some ⟨.xoff, some 1⟩, 3), (some ⟨.xon, some 2⟩, 1)] := by decide +kernel
  obtain ⟨x, rest, hxs, hx, hrest⟩ := List.map_eq_cons_iff.1 hrounds
  obtain ⟨y, more, rfl, hy, hmore⟩ := List.map_eq_cons_iff.1 hrest
  obtain rfl := List.map_eq_nil_iff.1 hmore
  obtain ⟨hxoff, hindex⟩ := Prod.mk.inj hx
  have hsplit : Session.rounds link 2 .empty (heldStream [4, 5, 6, 7] ⟨3, 0⟩ 1 2) =
      [] ++ x :: [] ++ y :: [] := hxs
  have hxoff : x.steering? = some ⟨.xoff, some (UInt8.ofNat 1)⟩ := hxoff
  have hxon : y.steering? = some ⟨.xon, some (UInt8.ofNat 2)⟩ := (Prod.mk.inj hy).1
  have hresumes := Session.resumes_after_xoff_xon (by decide) hsplit hxoff (by simp) hxon (by omega)
    (by omega) (by omega)
  exact ⟨x, y, hxs, hresumes.2.1⟩

/-- Past the first lap XON may take the stream a lap too far back: with fragment 257
    next, XOFF for 256 and then XON for 257, it goes on with fragment 1. -/
theorem not_resumes_at_xon :
    ¬ ∀ (turns xoff xon : Nat) (report : TransferReport) (s : Session Bench Bytes)
      (pre mid post : List (Round Bench Bytes)) (x y : Round Bench Bytes),
      s.image.length < wordSpan →
      Session.rounds link turns report s = pre ++ x :: mid ++ y :: post →
      x.steering? = some ⟨.xoff, some (UInt8.ofNat xoff)⟩ → (∀ z ∈ mid, z.steering? = none) →
      y.steering? = some ⟨.xon, some (UInt8.ofNat xon)⟩ →
      x.before.flow.sequencer.index ≤ xoff + 255 → xoff ≤ xon →
      xon ≤ x.before.flow.sequencer.index →
      xon < chunkCount s.image s.config.payloadSize →
      y.attempt? = some (fragmentAt s.image s.config.payloadSize xon) := by
  intro h
  have hrounds : (Session.rounds link 2 .empty
      (heldStream (List.replicate 256 7 ++ [8, 9]) ⟨1, 1⟩ 0 1)).map
      (fun z => (z.steering?, z.before.flow.sequencer.index, z.attempt?)) =
      [(some ⟨.xoff, some 0⟩, 257, none), (some ⟨.xon, some 1⟩, 256, some ⟨1, [7]⟩)] := by
    decide +kernel
  obtain ⟨x, rest, hxs, hx, hrest⟩ := List.map_eq_cons_iff.1 hrounds
  obtain ⟨y, more, rfl, hy, hmore⟩ := List.map_eq_cons_iff.1 hrest
  obtain rfl := List.map_eq_nil_iff.1 hmore
  simp only [Prod.mk.injEq] at hx hy
  obtain ⟨hxoff, hindex, -⟩ := hx
  obtain ⟨hxon, -, hattempt⟩ := hy
  have hclaim := h 2 256 257 .empty _ [] [] [] x y (by decide +kernel) hxs hxoff (by simp) hxon
    (by omega) (by omega) (by omega) (by decide +kernel)
  rw [hattempt] at hclaim
  exact absurd hclaim (by decide +kernel)

end Bench

end AirUpdate
