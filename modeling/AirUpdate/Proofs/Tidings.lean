/-
  Air updates — waiting for the loss of a link.

  From the call that follows the events on, every event and the end of the stream
  comes to who follows them, in order.  The wait reads them one by one until one
  says that the link of its peripheral is down, or that there are no more
  (`readThrough`).  It passes over all others, and it does not matter whether one
  came before the wait has begun: then it ends at once (`awaits_of_occurs`).

  An update follows the events before its session begins, so it sees also what the
  device does within the write of COMMIT (`loss_awaited`).
-/
import AirUpdate.Proofs.Course
import AirUpdate.Proofs.Meanwhile
import AirUpdate.Proofs.Moments

namespace AirUpdate

namespace Radio

/-! ## Reading the events -/

/-- What comes to who follows the events. -/
inductive Tiding where
  | event (e : RadioEvent)
  | ended
  deriving DecidableEq, Repr

/-- The tiding says that the link of the peripheral is down, or that nothing more comes. -/
def Tiding.Severs (address : String) (t : Tiding) : Prop :=
  t = .event (.disconnected address) ∨ t = .ended

instance (address : String) (t : Tiding) : Decidable (t.Severs address) :=
  inferInstanceAs (Decidable (_ ∨ _))

/-- Reads until the link of a peripheral is lost, and gives what is left unread; goes on waiting, if
    all is read. -/
def readThrough (address : String) : List Tiding → Option (List Tiding)
  | [] => none
  | .ended :: rest => some rest
  | .event e :: rest => if e = .disconnected address then some rest else readThrough address rest

theorem readThrough_cons (address : String) (t : Tiding) (ts : List Tiding) :
    readThrough address (t :: ts) = if t.Severs address then some ts else readThrough address ts := by
  cases t with
  | ended => simp [readThrough, Tiding.Severs]
  | event e => simp [readThrough, Tiding.Severs]

/-- **The wait ends** with the first tiding that severs the link, and with no other. -/
theorem readThrough_eq_some_iff {address : String} {ts rest : List Tiding} :
    readThrough address ts = some rest ↔
      ∃ first t, ts = first ++ t :: rest ∧ t.Severs address ∧ ∀ x ∈ first, ¬ x.Severs address := by
  induction ts with
  | nil => simp [readThrough]
  | cons t ts ih =>
    rw [readThrough_cons]
    by_cases ht : t.Severs address
    · rw [if_pos ht]
      constructor
      · rintro ⟨⟩
        exact ⟨[], t, rfl, ht, by simp⟩
      · rintro ⟨first, t', hsplit, -, hfirst⟩
        cases first with
        | nil => exact congrArg some (List.cons.inj hsplit).2
        | cons x first =>
          obtain ⟨rfl, -⟩ := List.cons.inj hsplit
          exact absurd ht (hfirst t (by simp))
    · rw [if_neg ht, ih]
      constructor
      · rintro ⟨first, t', rfl, ht', hfirst⟩
        exact ⟨t :: first, t', rfl, ht', by simpa [ht] using hfirst⟩
      · rintro ⟨first, t', hsplit, ht', hfirst⟩
        cases first with
        | nil =>
          obtain ⟨rfl, -⟩ := List.cons.inj hsplit
          exact absurd ht' ht
        | cons x first =>
          obtain ⟨rfl, hrest⟩ := List.cons.inj hsplit
          exact ⟨first, t', hrest, ht', fun y hy => hfirst y (by simp [hy])⟩

theorem isSome_readThrough (address : String) (ts : List Tiding) :
    (readThrough address ts).isSome = ts.any (fun t => decide (t.Severs address)) := by
  induction ts with
  | nil => rfl
  | cons t ts ih =>
    rw [readThrough_cons, List.any_cons]
    by_cases ht : t.Severs address
    · simp [ht]
    · simp [ht, ih]

/-- What an occurrence tells those who follow the events. -/
def tidings (r : Radio) : Occurrence → List Tiding
  | .acts a =>
    match a.action with
    | .notify _ _ => []
    | .drop => [.event (.disconnected (r.peripheral a.peripheral).address)]
    | .announce e => [.event e]
    | .endEvents => [.ended]
  | .handsOn | .opens _ _ | .stops | .takes | .follows _ => []

/-- The occurrence severs the link of the peripheral for those who follow the events. -/
def severs (r : Radio) (address : String) (o : Occurrence) : Bool :=
  (r.tidings o).any fun t => decide (t.Severs address)

section
variable {r r' q : Radio} {m n : Mailbox} {address : String} {os : List Occurrence} {ended : Bool}

theorem tidings_congr (h : ∀ i, (r'.peripheral i).address = (r.peripheral i).address)
    (o : Occurrence) : r'.tidings o = r.tidings o := by
  cases o with
  | acts a => simp only [tidings, h]
  | handsOn | opens _ _ | stops | takes | follows _ => rfl

theorem severs_congr (h : ∀ i, (r'.peripheral i).address = (r.peripheral i).address)
    (o : Occurrence) : r'.severs address o = r.severs address o := by
  unfold severs
  rw [tidings_congr h]

/-- What severs the link for those who follow the events is what ends a watch. -/
theorem severs_acts_iff {a : RadioAction} :
    r.severs address (.acts a) = true ↔ r.Severs address a := by
  obtain ⟨i, action⟩ := a
  constructor
  · intro h
    cases action with
    | notify c value => cases h
    | drop =>
      have haddress : (r.peripheral i).address = address := by
        simpa [severs, tidings, Tiding.Severs] using h
      exact .dropped haddress
    | announce e =>
      obtain rfl : e = .disconnected address := by simpa [severs, tidings, Tiding.Severs] using h
      exact .announced
    | endEvents => exact .ended
  · intro h
    cases h with
    | announced | ended => simp [severs, tidings, Tiding.Severs]
    | dropped haddress => simp [severs, tidings, Tiding.Severs, haddress]

/-- One occurrence, seen by the watch. -/
theorem watch_after {o : Occurrence} (h : r.watch = some ⟨address, ended⟩)
    (ho : ∀ a, o ≠ .follows a) :
    (r.after m o).1.watch = some ⟨address, ended || r.severs address o⟩ := by
  cases o with
  | acts a =>
    cases ended with
    | true => exact watch_perform_of_over a h
    | false =>
      rcases watch_perform a h with ⟨hsevers, hwatch⟩ | ⟨hsevers, hwatch⟩
      · rw [severs_acts_iff.2 hsevers]
        exact hwatch
      · rw [Bool.eq_false_iff.2 fun h => hsevers (severs_acts_iff.1 h)]
        exact hwatch
  | handsOn | opens _ _ | stops | takes =>
    simpa [after, settle, stopForwarding, severs, tidings] using h
  | follows a => exact absurd rfl (ho a)

/-- **The watch is over** exactly if the wait has something to end with, of all that was told. -/
theorem watch_of_occurs (hoccurs : Occurs r m os q n) (h : r.watch = some ⟨address, false⟩)
    (hno : ∀ a, .follows a ∉ os) :
    q.watch = some ⟨address, (readThrough address (os.flatMap r.tidings)).isSome⟩ := by
  rw [isSome_readThrough]
  induction hoccurs with
  | start => simpa using h
  | aside _ halike ih => exact halike.watch.trans (ih hno)
  | @next os q n o hoccurs ih =>
    have hbefore := ih fun a ha => hno a (List.mem_append_left _ ha)
    have ho : ∀ a, o ≠ .follows a := fun a ha => hno a (by simp [ha])
    rw [watch_after hbefore ho, severs_congr hoccurs.address_eq]
    simp [severs]

end

/-! ## The wait in time -/

section
variable {r : Radio} {address : String} {ended : Bool} {w w' : World Radio RadioAction}
  {agenda : Agenda RadioAction} {moment : Nat}

theorem watch_of_perform (h : w.device.watch = some ⟨address, ended⟩)
    (haddress : ∀ i, (w.device.peripheral i).address = (r.peripheral i).address) (a : RadioAction) :
    (w.perform a).device.watch = some ⟨address, ended || r.severs address (.acts a)⟩ := by
  rw [← severs_congr haddress]
  exact watch_after (m := w.mailbox) (o := .acts a) h nofun

theorem address_of_perform
    (haddress : ∀ i, (w.device.peripheral i).address = (r.peripheral i).address)
    (a : RadioAction) (i : Nat) :
    ((w.perform a).device.peripheral i).address = (r.peripheral i).address :=
  ((Occurs.start (r := w.device) (m := w.mailbox)).next (.acts a)).address_eq i |>.trans (haddress i)

theorem watchIsOver_eq (h : w.device.watch = some ⟨address, ended⟩) :
    w.device.watchIsOver = ended := by
  simp [watchIsOver, h]

theorem playAgenda_cons_of_due (ready : World Radio RadioAction → Bool) {first : Due RadioAction}
    {rest : Agenda RadioAction} (hdue : first.due < moment) :
    World.playAgenda ready moment (first :: rest) w =
      if Agenda.dueAt first.due rest then
        World.playAgenda ready moment rest (w.perform first.action)
      else if ready (w.perform first.action).settle then
        (true, { (w.perform first.action).settle with now := first.due, agenda := rest })
      else World.playAgenda ready moment rest (w.perform first.action).settle := by
  simp only [World.playAgenda, if_pos hdue]

/-- A watch that is over ends the wait at the moment at which it is found so. -/
theorem playAgenda_of_over {first : Due RadioAction} {rest : Agenda RadioAction}
    (h : (w.perform first.action).device.watch = some ⟨address, true⟩) (hdue : first.due < moment) :
    (World.playAgenda (fun w => w.device.watchIsOver) moment (first :: rest) w).1 = true ∧
      (World.playAgenda (fun w => w.device.watchIsOver) moment (first :: rest) w).2.now =
        first.due := by
  have hover : (w.perform first.action).settle.device.watchIsOver = true := watchIsOver_eq h
  induction rest generalizing first w with
  | nil =>
    rw [playAgenda_cons_of_due _ hdue, if_pos hover]
    exact ⟨rfl, rfl⟩
  | cons second rest ih =>
    rw [playAgenda_cons_of_due _ hdue, if_pos hover]
    cases hsame : Agenda.dueAt first.due (second :: rest) with
    | true =>
      have hsecond : second.due = first.due := of_decide_eq_true hsame
      have hstill := watch_perform_of_over second.action h
      rw [← hsecond] at hdue ⊢
      exact ih hstill hdue (watchIsOver_eq hstill)
    | false => exact ⟨rfl, rfl⟩

/-- The first action to come before a moment that severs the link of a peripheral. -/
def loss? (r : Radio) (address : String) (moment : Nat) (agenda : Agenda RadioAction) :
    Option (Due RadioAction) :=
  (agenda.takeWhile (·.due < moment)).find? fun x => r.severs address (.acts x.action)

/-- **Time passes up to the first action that severs the link.** -/
theorem playAgenda_loss (agenda : Agenda RadioAction) (moment : Nat)
    (h : w.device.watch = some ⟨address, false⟩)
    (haddress : ∀ i, (w.device.peripheral i).address = (r.peripheral i).address) :
    (World.playAgenda (fun w => w.device.watchIsOver) moment agenda w).1 =
        (r.loss? address moment agenda).isSome ∧
      (World.playAgenda (fun w => w.device.watchIsOver) moment agenda w).2.now =
        ((r.loss? address moment agenda).map (·.due)).getD moment := by
  unfold loss?
  induction agenda generalizing w with
  | nil => exact ⟨rfl, rfl⟩
  | cons first rest ih =>
    by_cases hdue : first.due < moment
    · rw [List.takeWhile_cons_of_pos (by simpa using hdue), List.find?_cons]
      have hwatch := watch_of_perform h haddress first.action
      cases hsevers : r.severs address (.acts first.action) with
      | true =>
        rw [hsevers] at hwatch
        exact playAgenda_of_over hwatch hdue
      | false =>
        rw [hsevers] at hwatch
        have haddress' := address_of_perform haddress first.action
        have hquiet : (w.perform first.action).settle.device.watchIsOver = false :=
          watchIsOver_eq hwatch
        rw [playAgenda_cons_of_due _ hdue, hquiet]
        cases hsame : Agenda.dueAt first.due rest with
        | true => exact ih hwatch haddress'
        | false => exact ih (w := (w.perform first.action).settle) hwatch haddress'
    · rw [List.takeWhile_cons_of_neg (by simpa using hdue)]
      have hlate : World.playAgenda (fun w => w.device.watchIsOver) moment (first :: rest) w =
          (false, { w with now := moment, agenda := first :: rest }) := by
        simp only [World.playAgenda, if_neg hdue]
      rw [hlate]
      exact ⟨rfl, rfl⟩

/-! ## The loss of a link -/

/-- How the wait for the loss of a link ends, if `heard` has come before it and `r` knows the
    peripherals: at once, or at the moment of the first action to come that severs the link, or
    not before the limit. -/
def Awaits (r : Radio) (address : String) (heard : List Tiding) (w : World Radio RadioAction) : Prop :=
  match readThrough address heard with
  | some _ => awaitLoss w = .ok () w
  | none =>
    if w.limit ≤ w.now then awaitLoss w = .error .cut w
    else
      match r.loss? address w.limit w.agenda with
      | some x => ∃ w', awaitLoss w = .ok () w' ∧ w'.now = x.due
      | none => ∃ w', awaitLoss w = .error .cut w' ∧ w'.now = w.limit

/-- **The wait for the loss of a link** ends with the first tiding that severs it, whenever that has
    come or comes, and with no other. -/
theorem awaits_of_occurs {os : List Occurrence} {m : Mailbox}
    (hoccurs : Occurs r m os w.device w.mailbox) (h : r.watch = some ⟨address, false⟩)
    (hno : ∀ a, .follows a ∉ os) : Awaits r address (os.flatMap r.tidings) w := by
  have hwatch := watch_of_occurs hoccurs h hno
  unfold Awaits
  cases hread : readThrough address (os.flatMap r.tidings) with
  | some rest =>
    rw [hread] at hwatch
    exact if_pos (watchIsOver_eq hwatch)
  | none =>
    rw [hread] at hwatch
    have hquiet : w.device.watchIsOver = false := watchIsOver_eq hwatch
    simp only
    by_cases hlimit : w.limit ≤ w.now
    · rw [if_pos hlimit]
      exact World.awaitUntil_of_limit (fun w : World Radio RadioAction => w.device.watchIsOver) hquiet
        hlimit
    · rw [if_neg hlimit]
      have hawait : awaitLoss w = _ :=
        World.awaitUntil_eq_play (w := w) _ hquiet hquiet (Nat.not_le.1 hlimit)
      obtain ⟨hstopped, hnow⟩ := playAgenda_loss w.agenda w.limit (w := w.settle.refreshed) hwatch
        hoccurs.address_eq
      generalize World.playAgenda (fun w : World Radio RadioAction => w.device.watchIsOver) w.limit
        w.agenda w.settle.refreshed = played at hawait hstopped hnow
      obtain ⟨stopped, w'⟩ := played
      obtain rfl : stopped = _ := hstopped
      cases hloss : r.loss? address w.limit w.agenda with
      | some x =>
        rw [hloss] at hawait hnow
        exact ⟨w', hawait, hnow⟩
      | none =>
        rw [hloss] at hawait hnow
        exact ⟨w', hawait, hnow⟩

end

/-! ## The update -/

section
variable {i turns : Nat} {image : Bytes} {config : SessionConfig} {report : TransferReport}
  {w w' : World Radio RadioAction}

/-- A session ends within its write of COMMIT: what the peripheral does at once in answer to that is
    the last that happens in it. -/
theorem occurs_of_session
    (h : Session.asAct (Session.run (link i) turns) image config w = .ok report w') :
    ∃ os w₁, Occurs w.device w.mailbox os w₁.device w₁.mailbox ∧
      (∀ o ∈ os, o.isOfSession = true) ∧
      complete i .control [Control.commit.toByte] w₁ = .ok () w' ∧
      Occurs w.device w.mailbox
        (os ++ immediate i ((w₁.device.peripheral i).script.react .control
          [Control.commit.toByte]).1) w'.device w'.mailbox := by
  obtain ⟨s, hrun, rfl⟩ := Session.asAct_eq_ok h
  obtain ⟨s₁, s₂, hstart, htransfer, hcommit⟩ := Session.run_eq_ok hrun
  obtain ⟨-, w₃, hwritten, rfl⟩ := Session.commit_eq_ok hcommit
  have hkeeping := keeping_occurs i w.device w.mailbox
  have hidle : World.Has (Witnessed w.device w.mailbox (·.isOfSession = true))
      { w with mailbox := .empty } := Witnessed.start.next (o := .takes) rfl
  have hs₁ := (hkeeping.maintains.start turns (Session.idle image config { w with mailbox := .empty })
    hidle).1 _ _ hstart
  have hs₂ :=
    (hkeeping.maintains.transfer (Session.upholds_turn hkeeping) turns s₁ hs₁).1 _ _ htransfer
  obtain ⟨os, hoccurs, hos⟩ := hs₂
  obtain ⟨w₁, ⟨os', hoccurs', hos'⟩, hcomplete⟩ := complete_of_write hwritten
  refine ⟨os ++ os', w₁, hoccurs.trans hoccurs', fun o ho => ?_, hcomplete,
    occurs_of_complete (hoccurs.trans hoccurs') hcomplete⟩
  rcases List.mem_append.1 ho with ho | ho
  · exact hos o ho
  · exact Occurrence.isOfSession_of_isOutside (hos' o ho)

/-- **The wait for the loss of a link neither misses nor mistakes an event.**  Whatever has happened
    since the program began to follow the events, the wait ends as `Awaits` says of all that was told
    since then.  In an update that is all that was told in the session, up to what the device does
    at once when it takes COMMIT. -/
theorem loss_awaited {w₁ w₂ : World Radio RadioAction} (hfollow : follow i w₁ = .ok () w₂) :
    (∀ os w, Occurs w₂.device w₂.mailbox os w.device w.mailbox → (∀ a, .follows a ∉ os) →
      Awaits w₂.device (w₁.device.peripheral i).address (os.flatMap w₂.device.tidings) w) ∧
    ∀ (image : Image) (config : UpdateConfig) (turns : Nat) (report : TransferReport)
      (w₃ : World Radio RadioAction),
      Session.asAct (Session.run (link i) turns) image.bytes config.session w₂ = .ok report w₃ →
      ∃ os c, Occurs w₂.device w₂.mailbox os c.device c.mailbox ∧
        complete i .control [Control.commit.toByte] c = .ok () w₃ ∧
        Awaits w₂.device (w₁.device.peripheral i).address
          ((os ++ immediate i ((c.device.peripheral i).script.react .control
            [Control.commit.toByte]).1).flatMap w₂.device.tidings) w₃ ∧
        ∀ before w, Revision.read (link i) w = .ok before w₁ →
          Update.transfer i image config turns w = (do awaitLoss; pure (before, report)) w₃ := by
  have hwatch : w₂.device.watch = some ⟨(w₁.device.peripheral i).address, false⟩ := by
    obtain ⟨_, w, hseen, hfollowed⟩ := bind_eq_ok.1 hfollow
    cases hseen
    obtain ⟨_, w, -, hdone⟩ := bind_eq_ok.1 hfollowed
    cases hdone
    rfl
  refine ⟨fun os w hoccurs hno => awaits_of_occurs hoccurs hwatch hno, ?_⟩
  intro image config turns report w₃ hsession
  obtain ⟨os, c, hoccurs, hos, hcomplete, hall⟩ := occurs_of_session hsession
  refine ⟨os, c, hoccurs, hcomplete, awaits_of_occurs hall hwatch fun a ha => ?_, ?_⟩
  · rcases List.mem_append.1 ha with ha | ha
    · cases hos _ ha
    · obtain ⟨x, -, hx⟩ := List.mem_map.1 ha
      cases hx
  · intro before w hread
    unfold Update.transfer
    rw [bind_of_ok hread, bind_of_ok hfollow, bind_of_ok hsession]

/-- A peripheral whose link goes down after that of another one, and an update of the gadget. -/
theorem loss_awaited_of_drop :
    (∃ w₂, follow 0 (World.initial 9 (unused 1 [{ Peripheral.absent with address := "AA" }] [])) =
        .ok () w₂ ∧
      Awaits w₂.device "AA" [.event (.disconnected "BB"), .event (.disconnected "AA")]
        ((w₂.perform ⟨0, .announce (.disconnected "BB")⟩).perform ⟨0, .drop⟩)) ∧
    ∃ w before w₁ w₂ report w₃ heard, Revision.read (link 0) w = .ok before w₁ ∧
      follow 0 w₁ = .ok () w₂ ∧
      Session.asAct (Session.run (link 0) 16) [7, 8, 9] .default w₂ = .ok report w₃ ∧
      Awaits w₂.device (w₁.device.peripheral 0).address heard w₃ ∧
      Update.transfer 0 ⟨[7, 8, 9]⟩ .default 16 w = (do awaitLoss; pure (before, report)) w₃ := by
  constructor
  · let w : World Radio RadioAction :=
      .initial 9 (unused 1 [{ Peripheral.absent with address := "AA" }] [])
    have hfollow : follow 0 w = .ok () (endState (follow 0 w)) := rfl
    exact ⟨_, hfollow, (loss_awaited hfollow).1
      [.acts ⟨0, .announce (.disconnected "BB")⟩, .acts ⟨0, .drop⟩] _
      ((Occurs.start.next (.acts ⟨0, .announce (.disconnected "BB")⟩)).next (.acts ⟨0, .drop⟩))
      (by simp)⟩
  · let w := endState (Update.connectDevice .default (Update.nearby []))
    let w₁ := endState (Revision.read (link 0) w)
    let w₂ := endState (follow 0 w₁)
    have hread : result? (Revision.read (link 0) w) = some ⟨"1", none⟩ := by decide +kernel
    have hfollow : result? (follow 0 w₁) = some () := by decide +kernel
    have hsession : (result? (Session.asAct (Session.run (link 0) 16) [7, 8, 9] .default w₂)).isSome =
        true := by decide +kernel
    obtain ⟨report, hreport⟩ := Option.isSome_iff_exists.1 hsession
    have hended := eq_ok_of_result? hreport
    obtain ⟨os, c, -, -, hawaits, htransfer⟩ :=
      (loss_awaited (eq_ok_of_result? hfollow)).2 ⟨[7, 8, 9]⟩ .default 16 report _ hended
    exact ⟨w, _, w₁, w₂, report, _, _, eq_ok_of_result? hread, eq_ok_of_result? hfollow, hended,
      hawaits, htransfer _ w (eq_ok_of_result? hread)⟩

end

end Radio

end AirUpdate
