/-
  Air updates — delivery to a receiver that falls back.

  The receiver holds the first chunks of the image, and the next fragment of
  the session is the one that comes next for the receiver, or lies less than a
  lap ahead and the report that says so is in the mailbox (`Tracks`).  Nothing
  that the receiver does breaks that (`keeps_tracks`), and every turn carries
  it on; so each write is of the fragment that comes next for the receiver,
  and at COMMIT the receiver holds the image (`delivers_image`).
-/
import AirUpdate.Proofs.Receiver
import AirUpdate.Proofs.Stages

namespace AirUpdate

namespace Receiver

/-- The receiver holds the first chunks of the image, and when the session goes
    on with fragment number `n`, it knows that or will hear how far back it is. -/
structure Tracks (image : Bytes) (size n : Nat) (d : Receiver) (m : Mailbox) : Prop where
  size_eq : d.size = size
  not_ended : d.ended = false
  held_eq : d.held = (List.range d.held.length).map (chunk image size)
  le_count : d.held.length ≤ chunkCount image size
  heard : m.latest = none → d.held.length = n
  report : ∀ value, m.latest = some value → d.held.length ≤ n ∧ n < d.held.length + 256 ∧
    ∃ status, status.carriesId = true ∧ value = (d.report status).toBytes

/-- The receiver holds the image and has seen its last fragment. -/
structure Full (image : Bytes) (size : Nat) (d : Receiver) : Prop where
  ended : d.ended = true
  held_eq : d.held = (List.range (chunkCount image size)).map (chunk image size)

section
variable {image : Bytes} {size n : Nat} {d : Receiver} {m : Mailbox}

theorem tracks_fresh (image : Bytes) (size : Nat) (loses : Nat → Bool)
    (answers : Nat → List (Nat × Setback)) :
    Tracks image size 0 (fresh size loses answers) .empty where
  size_eq := rfl
  not_ended := rfl
  held_eq := rfl
  le_count := Nat.zero_le _
  heard _ := rfl
  report value h := by cases h

/-- Before the first fragment a report says nothing new. -/
theorem Tracks.empty (h : Tracks image size 0 d m) : Tracks image size 0 d .empty := by
  refine { h with heard := fun _ => ?_, report := fun value hv => by cases hv }
  cases hm : m.latest with
  | none => exact h.heard hm
  | some value => exact Nat.le_zero.1 (h.report value hm).1

/-- With nothing left in the mailbox both agree on the next fragment, and falling
    back from there is reported. -/
theorem Tracks.setback (h : Tracks image size n d .empty) (a : Setback) :
    Tracks image size n (d.drop a.dropped.toNat)
      ⟨some ((d.drop a.dropped.toNat).report a.status).toBytes⟩ := by
  have hnext : d.held.length = n := h.heard rfl
  have hcount := h.le_count
  have hdropped := a.dropped.toNat_lt
  have hlen : (d.drop a.dropped.toNat).held.length = n - a.dropped.toNat := by
    simp only [drop, List.length_take, hnext]
    omega
  refine ⟨h.size_eq, h.not_ended, ?_, ?_, (fun hm => by cases hm), fun value hm => ?_⟩
  · rw [hlen]
    show d.held.take (d.held.length - a.dropped.toNat) = _
    rw [h.held_eq, ← List.map_take, List.length_map, List.length_range, List.take_range, hnext,
      Nat.min_eq_left (Nat.sub_le _ _)]
  · rw [hlen]
    omega
  · cases hm
    rw [hlen]
    exact ⟨by omega, by omega, a.status, a.steers, rfl⟩

theorem keeps_tracks (image : Bytes) (size n : Nat) :
    Peer.Keeps (A := Setback) (Tracks image size n) where
  settle _ _ h := h
  perform a d m h := by
    simp only [Peer.perform]
    split
    · exact h
    · next hfree =>
      obtain ⟨latest⟩ := m
      cases latest with
      | none => exact h.setback a
      | some value => exact absurd (Or.inr rfl) hfree

theorem keeps_full (image : Bytes) (size : Nat) :
    Peer.Keeps (A := Setback) (fun d _ => Full image size d) where
  settle _ _ h := h
  perform a d m h := by
    simp only [Peer.perform, if_pos (Or.inl h.ended)]
    exact h

theorem keeps_installed (bytes : Bytes) :
    Peer.Keeps (A := Setback) (fun (d : Receiver) _ => d.installed = some bytes) where
  settle _ _ h := h
  perform a d m h := by
    simp only [Peer.perform]
    split
    · exact h
    · exact h

theorem Tracks.counted (h : Tracks image size n d m) : Tracks image size n d.counted m :=
  ⟨h.size_eq, h.not_ended, h.held_eq, h.le_count, h.heard, h.report⟩

/-- The fragment that comes next for both is taken in. -/
theorem Tracks.held_takeIn (h : Tracks image size n d .empty) :
    (d.counted.takeIn (fragmentAt image size n)).held =
      (List.range (n + 1)).map (chunk image size) := by
  have hlen : d.held.length = n := h.heard rfl
  have hid : (fragmentAt image size n).id = UInt8.ofNat d.counted.held.length := by
    rw [held_counted, hlen]; rfl
  rw [Receiver.held_takeIn hid, held_counted, h.held_eq, hlen, List.range_succ, List.map_append]
  rfl

/-- A full fragment takes both on by one. -/
theorem Tracks.succ (h : Tracks image size n d .empty) (hn : n < chunkCount image size)
    (hfull : ¬ (chunk image size n).length < size) :
    Tracks image size (n + 1) (d.counted.takeIn (fragmentAt image size n)) .empty := by
  have hheld := h.held_takeIn
  have hlen : (d.counted.takeIn (fragmentAt image size n)).held.length = n + 1 := by
    rw [hheld, List.length_map, List.length_range]
  refine ⟨h.size_eq, ?_, ?_, ?_, fun _ => hlen, fun value hm => by cases hm⟩
  · have hsize : d.counted.size = size := h.size_eq
    have hended : d.counted.ended = false := h.not_ended
    rw [ended_takeIn, hsize, hended, Bool.false_or]
    exact decide_eq_false hfull
  · rw [hlen]; exact hheld
  · rw [hlen]; exact hn

/-- A fragment shorter than the full size, which is the last, completes the image. -/
theorem Tracks.full (h : Tracks image size n d .empty) (hn : n + 1 = chunkCount image size)
    (hshort : (chunk image size n).length < size) :
    Full image size (d.counted.takeIn (fragmentAt image size n)) := by
  have hsize : d.counted.size = size := h.size_eq
  refine ⟨?_, hn ▸ h.held_takeIn⟩
  rw [ended_takeIn, hsize, Bool.or_eq_true]
  exact Or.inr (decide_eq_true hshort)

end

end Receiver

namespace Session
variable {image : Bytes} {config : SessionConfig} {s s' : Session Receiver Setback}
  {report report' : TransferReport} {t : Turn}

/-- The session streams this image with these settings, and its receiver is
    where it takes it to be. -/
structure OnTrack (image : Bytes) (config : SessionConfig) (s : Session Receiver Setback) :
    Prop where
  image_eq : s.image = image
  config_eq : s.config = config
  tracks : s.world.Has (Receiver.Tracks image config.payloadSize s.flow.sequencer.index)

/-- Once the notification is heeded, both go on with the same fragment. -/
theorem OnTrack.heeded (h : OnTrack image config s) :
    Receiver.Tracks image config.payloadSize s.heeded.flow.sequencer.index s.world.device
      .empty := by
  have hindex : s.world.device.held.length = s.heeded.flow.sequencer.index := by
    cases hm : s.world.mailbox.latest with
    | none =>
      have hsteering : s.steering? = none := by unfold steering?; rw [hm]; rfl
      rw [heeded_flow_of_none hsteering]
      exact h.tracks.heard hm
    | some value =>
      obtain ⟨hle, hlap, status, hcarries, rfl⟩ := h.tracks.report value hm
      have hread : StatusReport.ofBytes (s.world.device.report status).toBytes =
          .ok (s.world.device.report status) := StatusReport.ofBytes_toBytes hcarries.symm
      have hsteering : s.steering? = some (s.world.device.report status) := by
        unfold steering?
        rw [hm, Option.map_some, hread]
        exact if_pos hcarries
      rw [heeded_flow_of_some hsteering, Receiver.report, Flow.sequencer_absorb hcarries,
        Sequencer.index_resync_of_le hle hlap]
  exact { h.tracks with heard := fun _ => hindex, report := fun value hm => by cases hm }

theorem OnTrack.next_eq (h : OnTrack image config s) :
    s.heeded.next = fragmentAt image config.payloadSize s.heeded.flow.sequencer.index := by
  rw [Session.next_eq, heeded_image, heeded_config, h.image_eq, h.config_eq]

/-- Every turn but the last keeps the receiver where the session takes it to be. -/
theorem OnTrack.turned (hd : image.length < wordSpan) (h : OnTrack image config s)
    (hturned : Turned Receiver.link s report t report' s') (hlast : t.isLast = false) :
    OnTrack image config s' := by
  refine ⟨hturned.image_eq.trans h.image_eq, hturned.config_eq.trans h.config_eq, ?_⟩
  have hheeded := h.heeded
  have hkeeps := Receiver.keeps_tracks image config.payloadSize s.heeded.flow.sequencer.index
  cases hturned with
  | held _ _ hslept =>
    have hhas : s.heeded.world.Has (Receiver.Tracks image config.payloadSize _) := hheeded
    exact (World.keeps_sleep hkeeps _).ok hhas hslept
  | drained => cases hlast
  | stalled _ _ _ hwritten hslept =>
    have hlost := Receiver.has_of_lost hkeeps hwritten hheeded.counted
    exact (World.keeps_sleep hkeeps _).ok hlost hslept
  | sent _ _ hne hwritten hslept ht =>
    rw [ht, Turn.isLast_sent, decide_eq_false_iff_not, h.next_eq, h.config_eq] at hlast
    rw [h.next_eq] at hne
    have hn : s.heeded.flow.sequencer.index < chunkCount image config.payloadSize := by
      rw [← Nat.not_le, ← chunk_eq_nil_iff hd (payloadSize_pos config)]
      exact hne
    have hkeeps' :=
      Receiver.keeps_tracks image config.payloadSize (s.heeded.flow.sequencer.index + 1)
    have hsucc := hheeded.succ hn hlast
    rw [← h.next_eq] at hsucc
    have hsent := Receiver.has_of_sent hkeeps' hwritten hsucc
    have hslept' := (World.keeps_sleep hkeeps' _).ok hsent hslept
    simpa [Flow.advance] using hslept'

/-- After the last turn the receiver holds the image. -/
theorem OnTrack.complete (hd : image.length < wordSpan) (h : OnTrack image config s)
    (hturned : Turned Receiver.link s report t report' s') (hlast : t.isLast = true) :
    s'.world.device.held.flatten = image := by
  have hsize := payloadSize_pos config
  have hheeded := h.heeded
  suffices hall : s'.world.device.held =
      (List.range (chunkCount image config.payloadSize)).map (chunk image config.payloadSize) by
    rw [hall, flatten_chunks hd hsize]
  cases hturned with
  | held | stalled => cases hlast
  | drained _ _ hempty =>
    rw [h.next_eq] at hempty
    have hlen : s.world.device.held.length = s.heeded.flow.sequencer.index := hheeded.heard rfl
    have hge := (chunk_eq_nil_iff hd hsize).1 hempty
    have hall : s.world.device.held.length = chunkCount image config.payloadSize :=
      Nat.le_antisymm hheeded.le_count (hlen ▸ hge)
    show s.world.device.held = _
    rw [hheeded.held_eq, hall]
  | sent _ _ hne hwritten hslept ht =>
    rw [ht, Turn.isLast_sent, decide_eq_true_iff, h.next_eq, h.config_eq] at hlast
    rw [h.next_eq] at hne
    have hkeeps := Receiver.keeps_full image config.payloadSize
    have hfull := hheeded.full (succ_eq_chunkCount hd hsize hne hlast) hlast
    rw [← h.next_eq] at hfull
    have hsent := Receiver.has_of_sent hkeeps hwritten hfull
    have hslept' := (World.keeps_sleep hkeeps _).ok hsent hslept
    exact hslept'.held_eq

end Session

namespace Receiver

/-- A session of this image before its first step, with a receiver that holds
    nothing yet, at any moment and with any agenda. -/
def session (image : Bytes) (config : SessionConfig) (loses : Nat → Bool)
    (answers : Nat → List (Nat × Setback)) (w : World Receiver Setback) :
    Session Receiver Setback :=
  .idle image config
    { w with mailbox := .empty, device := fresh config.payloadSize loses answers }

variable {image : Bytes} {config : SessionConfig} {loses : Nat → Bool}
  {answers : Nat → List (Nat × Setback)} {w : World Receiver Setback} {turns : Nat}
  {s : Session Receiver Setback}

theorem onTrack_of_start
    (h : Session.start link turns (session image config loses answers w) = .ok () s) :
    Session.OnTrack image config s := by
  have hkeeps := keeps_tracks image config.payloadSize 0
  obtain ⟨-, w₁, rfl, hw₁⟩ := Session.start_eq_ok
    (P := World.Has (Tracks image config.payloadSize 0))
    (fun w w' hw hsubscribed => by cases hsubscribed; exact hw)
    (fun w w' hw hwritten => by
      rw [write_control] at hwritten
      cases hwritten
      exact World.has_react hkeeps _ hw.counted)
    (fun ms w v w' hw hwaited =>
      (World.keeps_receiveWithin hkeeps (fun _ _ => Tracks.empty) ms).ok hw hwaited)
    h (tracks_fresh image config.payloadSize loses answers)
  exact ⟨rfl, rfl, hw₁⟩

theorem onTrack_of_mem (hd : image.length < wordSpan) {x : Round Receiver Setback}
    (hx : x ∈ Session.runRounds link turns (session image config loses answers w)) :
    Session.OnTrack image config x.before := by
  cases hstart : Session.start link turns (session image config loses answers w) with
  | error e s => simp [Session.runRounds, hstart] at hx
  | ok u s =>
    exact (Session.runs_runRounds turns hstart).before_mem
      (fun _ _ _ _ _ h hlast hturned => h.turned hd hturned hlast) (onTrack_of_start hstart) hx

/-- **Delivery.**  Whatever the receiver does, every write of a fragment is of
    the one that comes next for it, and when the session ends well, it was
    asked to install the image. -/
theorem delivers_image (hd : image.length < wordSpan) :
    (∀ x ∈ Session.runRounds link turns (session image config loses answers w), ∀ f,
      x.attempt? = some f → x.index = x.before.world.device.held.length ∧
        f = fragmentAt image config.payloadSize x.index) ∧
    ∀ report s', Session.run link turns (session image config loses answers w) = .ok report s' →
      s'.world.device.installed = some image := by
  constructor
  · intro x hx f hf
    have honTrack := onTrack_of_mem hd hx
    have hf := Round.eq_of_attempt? hf
    rw [honTrack.image_eq, honTrack.config_eq] at hf
    exact ⟨(honTrack.heeded.heard rfl).symm, hf⟩
  · intro report s' hrun
    obtain ⟨s₂, hcommit, hwritten⟩ := Session.run_of_commitPoint hrun
    obtain ⟨s₁, pre, x, t, hstart, hrounds, ht, hlast, rfl⟩ := Session.commitPoint_eq_some hcommit
    have hx : x ∈ Session.runRounds link turns (session image config loses answers w) := by
      rw [hrounds]; simp
    obtain ⟨_, _, hturned⟩ := (Session.runs_runRounds turns hstart).turned_mem hx ht
    have hcomplete := (onTrack_of_mem hd hx).complete hd hturned hlast
    obtain ⟨-, w', hinstalled, rfl⟩ := Session.commit_eq_ok hwritten
    rw [write_control] at hinstalled
    cases hinstalled
    refine World.has_react (keeps_installed image) _ ?_
    show some x.after.world.device.held.flatten = some image
    rw [hcomplete]

/-- A session of three bytes with a receiver that loses the fourth write and falls
    back by one fragment after the third. -/
def faltering : Session Receiver Setback :=
  session [7, 8, 9] { SessionConfig.default with fragmentSize := 1 } (· == 4)
    (fun n =>
      if n = 1 then [(0, ⟨.xon, rfl, 0⟩)] else if n = 3 then [(20, ⟨.syncLost, rfl, 1⟩)] else [])
    (.initial 60000 (fresh 1 (fun _ => false) fun _ => []))

/-- The faltering receiver gets the image all the same. -/
theorem faltering_delivers_image :
    ∃ report s', Session.run link 8 faltering = .ok report s' ∧ report.fragmentsSent = 4 ∧
      report.writeTimeouts = 1 ∧ s'.world.device.installed = some [7, 8, 9] := by
  have hrun : Session.run link 8 faltering = .ok ⟨4, 4, 1, 0, 425⟩ _ :=
    eq_ok_of_result? (by decide +kernel)
  exact ⟨_, _, hrun, rfl, rfl, (delivers_image (by decide)).2 _ _ hrun⟩

end Receiver

end AirUpdate
