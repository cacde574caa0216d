/-
  Air updates — the course of an update.

  An update that comes to its end has gone through a fixed course of legs, each
  with its calls into the radio and no others (`Course`): it connects to the
  device, reads its revision, follows the events, subscribes, writes START, the
  fragments and COMMIT, waits until the link is lost, and then lets the device go,
  or rests and connects once more to read its revision again.  What fails on the
  first connection ends the update with one disconnect and nothing behind it, and
  a probe disconnects once, whatever it has read (`orderly`).
-/
import AirUpdate.Proofs.Chunks
import AirUpdate.Proofs.Connections
import AirUpdate.Proofs.Watching
import Mathlib.Data.List.Forall2

namespace AirUpdate

/-! ## The calls of a session -/

/-- The call writes the fragment, and the radio takes it. -/
def Writes (f : Fragment) (c : Call × Bool) : Prop :=
  ∃ service, c = (Call.write service .binaryStream f.toBytes .command).done

/-- The call writes one of the fragments of the image. -/
def WritesFragment (image : Bytes) (size : Nat) (c : Call × Bool) : Prop :=
  ∃ service j, j < chunkCount image size ∧
    c = (Call.write service .binaryStream (fragmentAt image size j).toBytes .command).done

/-- What writes fragments of the image one after the other writes nothing else. -/
theorem writesFragment_of_writes {image : Bytes} {size : Nat} {fs : List Fragment}
    {new : List (Call × Bool)} (h : List.Forall₂ Writes fs new)
    (hfs : ∀ f ∈ fs, ∃ j, j < chunkCount image size ∧ f = fragmentAt image size j) :
    ∀ c ∈ new, WritesFragment image size c := by
  induction h with
  | nil => exact nofun
  | @cons f c fs new hwrites _ ih =>
    intro c' hc
    rcases List.mem_cons.1 hc with rfl | hc
    · obtain ⟨service, rfl⟩ := hwrites
      obtain ⟨j, hj, rfl⟩ := hfs f List.mem_cons_self
      exact ⟨service, j, hj, rfl⟩
    · exact ih (fun f hf => hfs f (List.mem_cons_of_mem _ hf)) c' hc

namespace Session
variable {s s' : Session Radio RadioAction} {report report' : TransferReport} {t : Turn} {i : Nat}
  {w : World Radio RadioAction}

/-- A write of the next fragment makes one call, whether it comes to its end or is given up. -/
theorem tells_of_writeNext {a : Option Unit}
    (h : s.writeNext (Radio.link i) s.world = .ok a w) : ∃ service,
      s.world.Tells [(Call.write service .binaryStream s.next.toBytes .command).done] w := by
  cases a with
  | some a =>
    obtain ⟨l, w₁, -, hwrite, hw⟩ := World.within_eq_some h
    obtain ⟨service, htells⟩ := Radio.tells_of_write hwrite
    rw [hw]
    exact ⟨service, htells⟩
  | none =>
    obtain ⟨w₁, hcut, hw⟩ := World.within_eq_none h
    obtain ⟨service, htells⟩ := Radio.tells_of_write_cut hcut
    rcases hw with rfl | ⟨-, hblink⟩
    · exact ⟨service, htells⟩
    · have hblinked := World.tells_of_blink hblink
      exact ⟨service, htells.trans hblinked⟩

/-- A turn makes a call for the fragment whose write it begins, and no other. -/
theorem Turned.tells (h : Turned (Radio.link i) s report t report' s') :
    ∃ new, List.Forall₂ Writes s.attempt?.toList new ∧ s.world.Tells new s'.world := by
  have hattempt := h.attempt?_eq
  cases h with
  | held _ _ hslept =>
    have htells := World.tells_of_sleep hslept
    exact ⟨[], by simp [hattempt], htells⟩
  | drained => exact ⟨[], by simp [hattempt], .refl _⟩
  | sent _ _ _ hwritten hslept ht =>
    obtain ⟨service, htells⟩ := tells_of_writeNext (s := s.heeded) hwritten
    have hbegun : s.attempt? = some s.heeded.next := by
      rw [hattempt, if_neg]
      rw [ht]
      split <;> simp
    rw [hbegun]
    exact ⟨_, .cons ⟨service, rfl⟩ .nil, htells.trans (World.tells_of_sleep hslept)⟩
  | stalled _ _ _ hwritten hslept =>
    obtain ⟨service, htells⟩ := tells_of_writeNext (s := s.heeded) hwritten
    have hbegun : s.attempt? = some s.heeded.next := hattempt
    rw [hbegun]
    exact ⟨_, .cons ⟨service, rfl⟩ .nil, htells.trans (World.tells_of_sleep hslept)⟩

/-- **A stream makes a call for each fragment whose write its rounds begin**, in order, and no
    others. -/
theorem tells_of_stream {turns : Nat} (h : stream (Radio.link i) turns report s = .ok report' s') :
    ∃ new, List.Forall₂ Writes
        ((rounds (Radio.link i) turns report s).filterMap Round.attempt?) new ∧
      s.world.Tells new s'.world := by
  induction turns generalizing report s with
  | zero => cases h
  | succ turns ih =>
    obtain ⟨⟨t, report₁⟩, s₁, hturn, h⟩ := bind_eq_ok.1 h
    obtain ⟨new, hnew, htells⟩ := (turned_of_turn hturn).tells
    unfold rounds
    rw [hturn]
    simp only [List.filterMap_eq_flatMap_toList, List.flatMap_cons] at ih h ⊢
    split at h
    · next hlast =>
      cases h
      rw [if_pos hlast, List.flatMap_nil, List.append_nil]
      exact ⟨new, hnew, htells⟩
    · next hlast =>
      obtain ⟨rest, hrest, htold⟩ := ih h
      rw [if_neg hlast]
      exact ⟨new ++ rest, List.rel_append hnew hrest, htells.trans htold⟩

/-- The rounds of a stream begin writes of fragments of the image only. -/
theorem Runs.writesFragment {xs : List (Round Radio RadioAction)}
    {new : List (AirUpdate.Call × Bool)} (h : Runs (Radio.link i) report s xs)
    (hnew : List.Forall₂ Writes (xs.filterMap Round.attempt?) new) :
    ∀ c ∈ new, WritesFragment s.image s.config.payloadSize c := by
  have hfragments : ∀ f ∈ xs.filterMap Round.attempt?, ∃ j,
      j < chunkCount s.image s.config.payloadSize ∧
        f = fragmentAt s.image s.config.payloadSize j := by
    intro f hf
    obtain ⟨x, hx, hattempt⟩ := List.mem_filterMap.1 hf
    obtain ⟨himage, hconfig⟩ := h.image_eq hx
    have hne : f.payload ≠ [] := payload_ne_of_attempt? hattempt
    have hfragment := Round.eq_of_attempt? hattempt
    rw [himage, hconfig] at hfragment
    rw [hfragment] at hne
    exact ⟨x.index, lt_chunkCount_of_chunk (payloadSize_pos s.config) hne, hfragment⟩
  exact writesFragment_of_writes hnew hfragments

end Session

namespace Update
variable {w w' w₁ w₂ : World Radio RadioAction} {i turns : Nat} {image : Image}
  {config : UpdateConfig} {verify : Bool} {m : Mailbox}

/-! ## Legs -/

/-- A leg of an update, by the world before and the world behind it. -/
abbrev Leg := World Radio RadioAction → World Radio RadioAction → Prop

/-- The legs, one after the other. -/
inductive Course : List Leg → Leg
  | nil {v} : Course [] v v
  | cons {l : Leg} {ls v v₁ v'} : l v v₁ → Course ls v₁ v' → Course (l :: ls) v v'

/-- A device is found and connected. -/
def Connects (config : UpdateConfig) (i : Nat) : Leg := fun w w' =>
  connectDevice config w = .ok i w' ∧ ∃ addresses refusals,
    w.Tells (Discovery.connecting addresses (w.device.peripheral i).address refusals) w'

/-- The revision of the device is read. -/
def Reads (i : Nat) (revision : Revision) : Leg := fun w w' =>
  Revision.read (Radio.link i) w = .ok revision w' ∧ ∃ new, Radio.Reading new ∧ w.Tells new w'

/-- The program follows the events from now on, until the link of the device is lost. -/
def Follows (i : Nat) : Leg := fun w w' =>
  w.Tells [Call.events.done] w' ∧
    w'.device.watch = some ⟨(w.device.peripheral i).address, false⟩

/-- The device is asked to notify its status. -/
def Subscribes (i : Nat) : Leg := fun w w' =>
  ∃ service, w.Tells [(Call.notifications (w.device.peripheral i).address).done,
    (Call.subscribe service .status).done] w'

/-- An operation is asked for. -/
def Asks (operation : Control) : Leg := fun w w' =>
  ∃ service, w.Tells [(Call.write service .control [operation.toByte] .request).done] w'

/-- The fragments whose writes these rounds begin are written, one after the other: fragments of
    the image, and nothing else. -/
def Streams (rounds : List (Round Radio RadioAction)) (image : Bytes) (size : Nat) : Leg :=
  fun w w' => ∃ new, List.Forall₂ Writes (rounds.filterMap Round.attempt?) new ∧
    (∀ c ∈ new, WritesFragment image size c) ∧ w.Tells new w'

/-- The rounds of a session that is made in this world and run. -/
def sessionRounds (i turns : Nat) (image : Bytes) (config : SessionConfig)
    (w : World Radio RadioAction) : List (Round Radio RadioAction) :=
  Session.runRounds (Radio.link i) turns (.idle image config { w with mailbox := .empty })

/-- The program has waited for the loss of the link that it followed from `opened` on: it was
    severed, or there are no more events. -/
def Loses (i : Nat) (opened : World Radio RadioAction) : Leg := fun w w' =>
  Radio.awaitLoss w = .ok () w' ∧ w.Tells [] w' ∧
    w'.device.watch = some ⟨(w.device.peripheral i).address, true⟩ ∧
    opened.device.Severed opened.mailbox (w.device.peripheral i).address w'.device w'.mailbox

/-- So many milliseconds go by. -/
def Rests (milliseconds : Nat) : Leg := fun w w' =>
  w.Tells [] w' ∧ w'.now = w.now + milliseconds

/-- The link of the device is taken down, or at least asked to be. -/
def LetsGo (i : Nat) : Leg := fun w w' =>
  ∃ refused, w.Tells [(.disconnect (w.device.peripheral i).address, refused)] w'

/-- How an update goes on when its session is over, and what it finds. -/
inductive Closes (config : UpdateConfig) (i : Nat) (opened : World Radio RadioAction) :
    Bool → Option Revision → Leg
  | verified {j after v v'} : Course [Loses i opened, Rests config.rebootWait, Connects config j,
      Reads j after, LetsGo j] v v' → Closes config i opened true (some after) v v'
  | unverified {v v'} : Course [Loses i opened, LetsGo i] v v' →
      Closes config i opened false none v v'

theorem Course.two {l l' : Leg} (h : l w w₁) (h' : l' w₁ w') : Course [l, l'] w w' :=
  .cons h (.cons h' .nil)

theorem connects_of_connectDevice (h : connectDevice config w = .ok i w') :
    Connects config i w w' :=
  ⟨h, tells_of_connectDevice h⟩

theorem reads_of_read {revision : Revision} (h : Revision.read (Radio.link i) w = .ok revision w') :
    Reads i revision w w' :=
  ⟨h, Radio.tells_of_revision h⟩

theorem rests_of_sleep {milliseconds : Nat} (h : World.sleep milliseconds w = .ok () w') :
    Rests milliseconds w w' :=
  ⟨World.tells_of_sleep h, World.now_of_sleep h⟩

/-- **A session** subscribes, writes START, then what its rounds are to write, and COMMIT. -/
theorem course_of_session {config : SessionConfig} {report : TransferReport} {image : Bytes}
    (h : Session.asAct (Session.run (Radio.link i) turns) image config w = .ok report w') :
    Course [Subscribes i, Asks .start,
      Streams (sessionRounds i turns image config w) image config.payloadSize,
      Asks .commit] w w' := by
  obtain ⟨s, hrun, rfl⟩ := Session.asAct_eq_ok h
  obtain ⟨s₁, s₂, hstart, htransfer, hcommit⟩ := Session.run_eq_ok hrun
  have hrounds : sessionRounds i turns image config w = _ := Session.runRounds_of_start hstart
  obtain ⟨-, w₁, w₂, s₃, hsubscribed, hstarted, hawaited, rfl⟩ := Session.handshake_of_start hstart
  obtain ⟨⟨w₃, rfl⟩, hwaited⟩ := Session.awaitXon_eq_ok (P := fun w => w₂.Tells [] w)
    (fun _ _ _ _ hw hreceived => hw.trans (World.tells_of_receiveWithin hreceived)) hawaited
    (.refl _)
  obtain ⟨-, _, s₄, hstream, -, rfl⟩ := Session.transfer_eq_ok htransfer
  obtain ⟨-, w₄, hcommitted, rfl⟩ := Session.commit_eq_ok hcommit
  obtain ⟨new, hnew, hstreamed⟩ := Session.tells_of_stream hstream
  have hwrites := (Session.runs_rounds turns .empty _).writesFragment hnew
  have hsubscribes : Subscribes i _ w₁ := Radio.tells_of_subscribe hsubscribed
  have hstarts : Asks .start w₁ w₂ := Radio.tells_of_write hstarted
  rw [← hrounds] at hnew
  have hstreams : Streams (sessionRounds i turns image config w) image config.payloadSize w₂
      s₄.world :=
    ⟨new, hnew, hwrites, hwaited.trans hstreamed⟩
  have hcommits : Asks .commit s₄.world w₄ := Radio.tells_of_write hcommitted
  exact .cons hsubscribes (.cons hstarts (.two hstreams hcommits))

/-- A session makes no calls but its own, however it ends. -/
theorem only_of_session {kinds : List CallKind} {config : SessionConfig} {image : Bytes} {r : Radio}
    (hkinds : Radio.sessionKinds ⊆ kinds) : World.ActKeeps (Radio.Only kinds r)
      (Session.asAct (Session.run (Radio.link i) turns) image config) :=
  Session.keeps_asAct_run (((Radio.survives_only kinds r).mono hkinds).keeping fun _ _ h => h) turns
    image config

/-! ## What ends well -/

/-- **A transfer** reads the revision, follows the events, runs the session, and waits until
    the link is lost. -/
theorem course_of_transfer {before : Revision} {report : TransferReport}
    (h : transfer i image config turns w = .ok (before, report) w') : ∃ w₁ w₂,
      Course [Reads i before, Follows i] w w₁ ∧
      Session.asAct (Session.run (Radio.link i) turns) image.bytes config.session w₁ =
        .ok report w₂ ∧
      Loses i w₁ w₂ w' := by
  obtain ⟨before', w₀, hread, h⟩ := bind_eq_ok.1 h
  obtain ⟨_, w₁, hfollow, h⟩ := bind_eq_ok.1 h
  obtain ⟨report', w₂, hsession, h⟩ := bind_eq_ok.1 h
  obtain ⟨_, w₃, hloss, h⟩ := bind_eq_ok.1 h
  cases h
  have hfollows : Follows i w₀ w₁ := Radio.follow_eq_ok hfollow
  obtain ⟨_, -, hsame⟩ := (only_of_session (List.Subset.refl _)).ok (Radio.only_refl _ w₁) hsession
  have hopen : w₁.device.watch = some ⟨(w₂.device.peripheral i).address, false⟩ := by
    rw [hfollows.2, hsame.address_eq i, hfollows.1.address_eq i]
  -- the watch is over, and so was severed on the way from when it was opened
  have hover := Radio.watch_of_awaitLoss hloss
  obtain ⟨os, hoccurs, hos⟩ := Radio.witnessed_of_awaitLoss hsession hloss
  refine ⟨w₁, w₂, .two (reads_of_read hread) hfollows, hsession, hloss,
    World.tells_of_awaitUntil hloss, ?_⟩
  rcases hoccurs.watch_eq hos hopen with hstill | hsevered
  · unfold Radio.watchIsOver at hover
    rw [hstill] at hover
    cases hover
  · exact hsevered

/-- A probe that comes to its end connects, reads the revision and disconnects. -/
theorem course_of_probe {revision : Revision} (h : probe config w = .ok revision w') :
    ∃ i w₁ w₂, Connects config i w w₁ ∧ Reads i revision w₁ w₂ ∧ LetsGo i w₂ w' := by
  obtain ⟨i, w₁, hconnected, h⟩ := bind_eq_ok.1 h
  obtain ⟨tried, w₂, htried, h⟩ := bind_eq_ok.1 h
  obtain ⟨_, w₃, hgone, h⟩ := bind_eq_ok.1 h
  obtain ⟨refused, w₄, hletGo, htells⟩ := Radio.letGo_eq i w₂
  rw [hletGo] at hgone
  cases hgone
  rcases World.caught_eq_ok htried with ⟨revision', rfl, hread⟩ | ⟨error, rfl, -⟩
  · cases h
    exact ⟨i, w₁, w₂, connects_of_connectDevice hconnected, reads_of_read hread, refused, htells⟩
  · cases h

/-- **An update that comes to its end** has gone through its course. -/
theorem course_of_run {outcome : Outcome} (h : run image config verify turns w = .ok outcome w') :
    ∃ i w₁ w₂,
      Course [Connects config i, Reads i outcome.before, Follows i] w w₁ ∧
      Session.asAct (Session.run (Radio.link i) turns) image.bytes config.session w₁ =
        .ok outcome.report w₂ ∧
      Course [Subscribes i, Asks .start,
        Streams (sessionRounds i turns image.bytes config.session w₁) image.bytes
          config.session.payloadSize, Asks .commit] w₁ w₂ ∧
      Closes config i w₁ verify outcome.after w₂ w' := by
  obtain ⟨i, w₀, hconnected, h⟩ := bind_eq_ok.1 h
  obtain ⟨tried, w₃, htried, h⟩ := bind_eq_ok.1 h
  rcases World.caught_eq_ok htried with ⟨⟨before, report⟩, rfl, htransfer⟩ | ⟨error, rfl, -⟩
  swap
  · obtain ⟨_, _, -, h⟩ := bind_eq_ok.1 h
    cases h
  obtain ⟨w₁, w₂, hread, hsession, hloses⟩ := course_of_transfer htransfer
  have hopening := Course.cons (connects_of_connectDevice hconnected) hread
  cases verify with
  | true =>
    obtain ⟨_, w₄, hstopped, h⟩ := bind_eq_ok.1 h
    cases hstopped
    obtain ⟨_, w₅, hslept, h⟩ := bind_eq_ok.1 h
    obtain ⟨after, w₆, hprobe, h⟩ := bind_eq_ok.1 h
    cases h
    obtain ⟨j, w₇, w₈, hconnects, hreads, hparts⟩ := course_of_probe hprobe
    obtain ⟨hquiet, hnow⟩ := rests_of_sleep hslept
    have hstopped : w₃.Tells [] { w₃ with device := w₃.device.stopForwarding } :=
      World.tells_nil w₃.sameRecord
    have hrests : Rests config.rebootWait w₃ w₅ := ⟨hstopped.trans hquiet, hnow⟩
    exact ⟨i, w₁, w₂, hopening, hsession, course_of_session hsession,
      .verified (.cons hloses (.cons hrests (.cons hconnects (.two hreads hparts))))⟩
  | false =>
    obtain ⟨_, w₄, hgone, h⟩ := bind_eq_ok.1 h
    cases h
    obtain ⟨refused, w₅, hletGo, htells⟩ := Radio.letGo_eq i w₃
    rw [hletGo] at hgone
    cases hgone
    have hparts : LetsGo i w₃ _ := ⟨refused, htells⟩
    exact ⟨i, w₁, w₂, hopening, hsession, course_of_session hsession,
      .unverified (.two hloses hparts)⟩

/-! ## What fails -/

/-- The baseline read, following the events, or the session fails on a connection. -/
inductive Breaks (i : Nat) (image : Image) (config : UpdateConfig) (turns : Nat)
    (error : UpdateError) : Leg
  | reading {v v'} : Revision.read (Radio.link i) v = .error (.failed error) v' →
      Breaks i image config turns error v v'
  | following {v v₁ v' before} : Revision.read (Radio.link i) v = .ok before v₁ →
      Radio.follow i v₁ = .error (.failed error) v' → Breaks i image config turns error v v'
  | session {v v₁ v₂ v' before} : Revision.read (Radio.link i) v = .ok before v₁ →
      Radio.follow i v₁ = .ok () v₂ →
      Session.asAct (Session.run (Radio.link i) turns) image.bytes config.session v₂ =
        .error (.failed error) v' →
      Breaks i image config turns error v v'

/-- A transfer fails exactly where its reading, its following or its session does. -/
theorem transfer_eq_failed_iff {error : UpdateError} :
    transfer i image config turns w = .error (.failed error) w' ↔
      Breaks i image config turns error w w' := by
  constructor
  · intro h
    rcases bind_eq_error.1 h with hread | ⟨before, w₁, hread, h⟩
    · exact .reading hread
    rcases bind_eq_error.1 h with hfollow | ⟨_, w₂, hfollow, h⟩
    · exact .following hread hfollow
    rcases bind_eq_error.1 h with hsession | ⟨report, w₃, hsession, h⟩
    · exact .session hread hfollow hsession
    rcases bind_eq_error.1 h with hloss | ⟨_, w₄, hloss, h⟩
    · cases World.awaitUntil_eq_error hloss
    · cases h
  · intro h
    cases h with
    | reading hread => exact bind_eq_error.2 (Or.inl hread)
    | following hread hfollow =>
      exact bind_eq_error.2 (Or.inr ⟨_, _, hread, bind_eq_error.2 (Or.inl hfollow)⟩)
    | session hread hfollow hsession =>
      exact bind_eq_error.2 (Or.inr ⟨_, _, hread, bind_eq_error.2 (Or.inr ⟨_, _, hfollow,
        bind_eq_error.2 (Or.inl hsession)⟩)⟩)

/-- The kinds of calls that reading, following and a session make. -/
def transferKinds : List CallKind := [.read, .readDescriptor, .events] ++ Radio.sessionKinds

/-- **A transfer makes no calls but its own**, however it ends. -/
theorem only_of_transfer (r : Radio) :
    World.ActKeeps (Radio.Only transferKinds r) (transfer i image config turns) := by
  have hall := Radio.survives_only transferKinds r
  refine World.keeps_bind (hall.keeps_revision (by decide) (by decide)) fun before => ?_
  refine World.keeps_bind (Radio.keeps_follow (by decide)) fun _ => ?_
  refine World.keeps_bind (only_of_session (by decide)) fun report => ?_
  exact World.keeps_bind (World.keeps_awaitUntil hall.alone _) fun _ => World.keeps_pure _

theorem no_disconnect_connecting (addresses : List String) (address : String) (refusals : Nat) :
    ∀ c ∈ Discovery.connecting addresses address refusals, c.1.kind ≠ .disconnect := by
  intro c hc
  simp only [Discovery.connecting, attempts, Discovery.scanned, Discovery.looked, List.mem_append,
    List.mem_cons, List.mem_map, List.mem_replicate, List.not_mem_nil, or_false] at hc
  rcases hc with (((rfl | rfl | ⟨a, -, rfl⟩) | rfl | ⟨-, rfl⟩ | rfl) | rfl) <;> simp [Call.kind]

theorem mem_connecting {addresses : List String} {a b : String} {refusals : Nat} :
    (Call.connect a).done ∈ Discovery.connecting addresses b refusals ↔ a = b := by
  simp [Discovery.connecting, attempts, Discovery.scanned, Discovery.looked, List.mem_replicate]

/-- There is exactly one disconnect on the way, of this device: it is the last call, and the only
    one behind the world in the middle. -/
def PartsOnce (i : Nat) (w w₂ w' : World Radio RadioAction) : Prop :=
  ∃ before refused, w.Tells before w₂ ∧ (∀ c ∈ before, c.1.kind ≠ .disconnect) ∧
    w₂.Tells [(.disconnect (w.device.peripheral i).address, refused)] w'

/-- On a connection with other calls since, one peripheral was connected and none let go. -/
theorem tells_of_connected {kinds : List CallKind} (hconnected : connectDevice config w = .ok i w₁)
    (honly : Radio.Only kinds w₁.device w₂.device m)
    (hkinds : .connect ∉ kinds ∧ .disconnect ∉ kinds) :
    ∃ new, w.Tells new w₂ ∧ (∀ c ∈ new, c.1.kind ≠ .disconnect) ∧
      ∀ a, (Call.connect a).done ∈ new ↔ a = (w.device.peripheral i).address := by
  obtain ⟨addresses, refusals, htells⟩ := tells_of_connectDevice hconnected
  obtain ⟨new, hnew, hsince⟩ := honly
  refine ⟨_, htells.trans hsince, fun c hc => ?_, fun a => ?_⟩
  · rcases List.mem_append.1 hc with hc | hc
    · exact no_disconnect_connecting _ _ _ c hc
    · exact fun hkind => hkinds.2 (hkind ▸ hnew c hc)
  · have hother : (Call.connect a).done ∉ new := fun ha => hkinds.1 (hnew _ ha)
    rw [List.mem_append, or_iff_left hother]
    exact mem_connecting

/-- Letting go of a device on which no call was a disconnect since it was connected. -/
theorem partsOnce_of_only {kinds : List CallKind} (hconnected : connectDevice config w = .ok i w₁)
    (honly : Radio.Only kinds w₁.device w₂.device m)
    (hkinds : .connect ∉ kinds ∧ .disconnect ∉ kinds) (hgone : LetsGo i w₂ w') :
    PartsOnce i w w₂ w' := by
  obtain ⟨new, htells, hnone, -⟩ := tells_of_connected hconnected honly hkinds
  obtain ⟨refused, hgone⟩ := hgone
  rw [htells.address_eq i] at hgone
  exact ⟨new, refused, htells, hnone, hgone⟩

/-- What fails on the first connection has made no calls but those of a transfer, and the update
    lets the device go and fails with that. -/
theorem run_eq_of_breaks {error : UpdateError} (hconnected : connectDevice config w = .ok i w₁)
    (h : Breaks i image config turns error w₁ w₂) :
    Radio.Only transferKinds w₁.device w₂.device w₂.mailbox ∧ ∃ w',
      LetsGo i w₂ w' ∧ run image config verify turns w = .error (.failed error) w' := by
  have htransfer := transfer_eq_failed_iff.2 h
  obtain ⟨refused, w', hletGo, htells⟩ := Radio.letGo_eq i w₂
  refine ⟨(only_of_transfer w₁.device).error (Radio.only_refl _ w₁) htransfer, w',
    ⟨refused, htells⟩, ?_⟩
  refine bind_eq_error.2 (Or.inr ⟨i, w₁, hconnected, bind_eq_error.2 (Or.inr ⟨.error error, w₂,
    World.caught_of_failed htransfer, ?_⟩)⟩)
  exact bind_eq_error.2 (Or.inr ⟨(), w', hletGo, rfl⟩)

/-- **What fails on the first connection ends the update** with that failure, and with one
    disconnect. -/
theorem run_of_breaks {error : UpdateError} (hconnected : connectDevice config w = .ok i w₁)
    (h : Breaks i image config turns error w₁ w₂) : ∃ w',
      run image config verify turns w = .error (.failed error) w' ∧ PartsOnce i w w₂ w' := by
  obtain ⟨honly, w', hgone, hrun⟩ := run_eq_of_breaks hconnected h
  exact ⟨w', hrun, partsOnce_of_only hconnected honly (by decide) hgone⟩

/-- A probe of a connected device only reads, and lets it go. -/
theorem probe_eq_of_connected (hconnected : connectDevice config w = .ok i w₁) :
    ∃ revision w₂ w', World.caught (Revision.read (Radio.link i)) w₁ = .ok revision w₂ ∧
      Radio.Only [.read, .readDescriptor] w₁.device w₂.device w₂.mailbox ∧ LetsGo i w₂ w' ∧
      probe config w = World.ofExcept revision w' := by
  have hread : ∃ revision w₂, World.caught (Revision.read (Radio.link i)) w₁ = .ok revision w₂ := by
    cases hread : Revision.read (Radio.link i) w₁ with
    | ok revision w₂ => exact ⟨_, w₂, World.caught_of_ok hread⟩
    | error e w₂ =>
      obtain ⟨error, rfl⟩ := Radio.failed_of_revision hread
      exact ⟨_, w₂, World.caught_of_failed hread⟩
  obtain ⟨revision, w₂, hread⟩ := hread
  obtain ⟨refused, w', hletGo, htells⟩ := Radio.letGo_eq i w₂
  have hkeeps : World.ActKeeps (Radio.Only [.read, .readDescriptor] w₁.device)
      (World.caught (Revision.read (Radio.link i))) :=
    World.keeps_caught ((Radio.survives_only _ _).keeps_revision (by decide) (by decide))
  refine ⟨revision, w₂, w', hread, hkeeps.ok (Radio.only_refl _ w₁) hread, ⟨refused, htells⟩, ?_⟩
  unfold probe
  rw [bind_of_ok hconnected, bind_of_ok hread, bind_of_ok hletGo]

/-- **A probe disconnects once**, and gives what it has read, or the failure of that. -/
theorem probe_of_connected (hconnected : connectDevice config w = .ok i w₁) :
    ∃ revision w₂ w', World.caught (Revision.read (Radio.link i)) w₁ = .ok revision w₂ ∧
      probe config w = World.ofExcept revision w' ∧ PartsOnce i w w₂ w' := by
  obtain ⟨revision, w₂, w', hread, honly, hgone, hprobe⟩ := probe_eq_of_connected hconnected
  exact ⟨revision, w₂, w', hread, hprobe, partsOnce_of_only hconnected honly (by decide) hgone⟩

/-! ## The order of an update -/

/-- How updates and probes go that are begun in this world. -/
structure Orderly (image : Image) (config : UpdateConfig) (verify : Bool) (turns : Nat)
    (w : World Radio RadioAction) : Prop where
  /-- an update that comes to its end has gone through its course -/
  completed : ∀ {outcome w'}, run image config verify turns w = .ok outcome w' → ∃ i w₁ w₂,
    Course [Connects config i, Reads i outcome.before, Follows i] w w₁ ∧
    Session.asAct (Session.run (Radio.link i) turns) image.bytes config.session w₁ =
      .ok outcome.report w₂ ∧
    Course [Subscribes i, Asks .start,
      Streams (sessionRounds i turns image.bytes config.session w₁) image.bytes
        config.session.payloadSize, Asks .commit] w₁ w₂ ∧
    Closes config i w₁ verify outcome.after w₂ w'
  /-- one that breaks on its first connection fails with that and lets the device go -/
  broken : ∀ {i w₁ w₂ error}, connectDevice config w = .ok i w₁ →
    Breaks i image config turns error w₁ w₂ → ∃ w',
      run image config verify turns w = .error (.failed error) w' ∧ PartsOnce i w w₂ w'
  /-- a probe lets the device go, whatever it has read, and gives that -/
  probed : ∀ {i w₁}, connectDevice config w = .ok i w₁ → ∃ revision w₂ w',
    World.caught (Revision.read (Radio.link i)) w₁ = .ok revision w₂ ∧
    probe config w = World.ofExcept revision w' ∧ PartsOnce i w w₂ w'

/-- **Updates and probes are orderly.** -/
theorem orderly (image : Image) (config : UpdateConfig) (verify : Bool) (turns : Nat)
    (w : World Radio RadioAction) : Orderly image config verify turns w :=
  ⟨course_of_run, run_of_breaks, probe_of_connected⟩

/-- A device that starts a session at once, and drops the link half a second after COMMIT to
    come back with another revision. -/
def gadget : Peripheral where
  address := "C0:01"
  advertisement := some ⟨some "FOTA", none, [.fotaService]⟩
  sightings := []
  gatt := [⟨.fotaService, [⟨.binaryStream, [], []⟩, ⟨.control, [], []⟩, ⟨.status, [], []⟩,
    ⟨.firmwareRevision, [[49], [50]], []⟩]⟩]
  script := [⟨.control Control.start.toByte, 0, 1,
      [(0, .notify .status (StatusReport.toBytes ⟨.xon, some 0⟩))], 0⟩,
    ⟨.control Control.commit.toByte, 0, 1, [(500, .drop)], 0⟩]
  stalls := []
  linked := false
  discovered := false

/-- A radio with the gadget in its range, and with these faults. -/
def nearby (faults : List Fault) : World Radio RadioAction :=
  .initial 600000 (.unused 1 [gadget] faults)

/-- Reads and disconnects are refused. -/
def deaf : List Fault := [⟨.read, none, .notConnected⟩, ⟨.disconnect, none, .notConnected⟩]

/-- An update of the gadget that is verified, one in which the baseline read and then the
    disconnect are refused, and a probe. -/
theorem gadget_orderly :
    (∃ outcome w', run ⟨[7, 8, 9]⟩ .default true 16 (nearby []) = .ok outcome w' ∧
      outcome.after = some ⟨"2", none⟩ ∧ ∃ (i : Nat) (w₁ w₂ : World Radio RadioAction),
      Closes .default i w₁ true outcome.after w₂ w') ∧
    (∃ w₂ w', run ⟨[7, 8, 9]⟩ .default true 16 (nearby deaf) =
      .error (.failed (.link (.radio .notConnected))) w' ∧ PartsOnce 0 (nearby deaf) w₂ w') ∧
    ∃ revision w₂ w', probe .default (nearby []) = World.ofExcept revision w' ∧
      PartsOnce 0 (nearby []) w₂ w' := by
  have hconnected : ∀ faults, result? (connectDevice .default (nearby faults)) = some 0 →
      connectDevice .default (nearby faults) =
        .ok 0 (endState (connectDevice .default (nearby faults))) :=
    fun _ h => eq_ok_of_result? h
  refine ⟨?_, ?_, ?_⟩
  · have hafter : (result? (run ⟨[7, 8, 9]⟩ .default true 16 (nearby []))).map Outcome.after =
        some (some ⟨"2", none⟩) := by decide +kernel
    obtain ⟨outcome, houtcome, hafter⟩ := Option.map_eq_some_iff.1 hafter
    have hrun := eq_ok_of_result? houtcome
    obtain ⟨i, w₁, w₂, -, -, -, hcloses⟩ := (orderly _ _ _ _ _).completed hrun
    exact ⟨outcome, _, hrun, hafter, i, w₁, w₂, hcloses⟩
  · have hread : halt? (Revision.read (Radio.link 0)
        (endState (connectDevice .default (nearby deaf)))) =
        some (.failed (.link (.radio .notConnected))) := by decide +kernel
    obtain ⟨w', hrun, hparts⟩ := (orderly ⟨[7, 8, 9]⟩ .default true 16 (nearby deaf)).broken
      (hconnected _ (by decide +kernel)) (.reading (eq_error_of_halt? hread))
    exact ⟨_, w', hrun, hparts⟩
  · obtain ⟨revision, w₂, w', -, hprobe, hparts⟩ :=
      (orderly ⟨[7, 8, 9]⟩ .default true 16 (nearby [])).probed (hconnected _ (by decide +kernel))
    exact ⟨revision, w₂, w', hprobe, hparts⟩

end Update

end AirUpdate
