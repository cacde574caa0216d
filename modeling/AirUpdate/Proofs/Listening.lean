/-
  Air updates — what a wait for a notification finds.

  A wait of the consumer takes what is in the mailbox, or the last of what arrives
  first, or comes to nothing at its end, and it does no more (`Wakes`).  That
  holds whether or not a ring of the bell was kept when it began: a ring whose
  notification was taken before makes it look once more, and that is all
  (`receive_or`).  A wait that is given up leaves nobody waiting behind.

  So the bell does not show: the wait is the one that looks into the mailbox at
  every moment (`receiveWithin_agree`).
-/
import AirUpdate.Feed
import AirUpdate.Proofs.Moments

namespace AirUpdate

open World

namespace Feed
variable {w w' u u' : World Feed Bytes} {e : Due Bytes} {later same : Agenda Bytes} {value : Bytes}
  {looks ms : Nat} {found : Option Bytes}

@[simp] theorem sent_perform (d : Feed) (m : Mailbox) (value : Bytes) :
    (Peer.perform value d m).1.sent = d.sent ++ [value] := by
  simp [Peer.perform, sent]

@[simp] theorem sent_onBell (f : Bell → Bell) (d : Feed) : (d.onBell f).sent = d.sent := rfl

theorem settle_eq (w : World Feed Bytes) : w.settle = w := rfl

/-- At a moment the mailbox is left with the last notification, and the bell was rung for who
    waits. -/
theorem performAll_concat (same : Agenda Bytes) (e : Due Bytes) (w : World Feed Bytes) :
    ∃ d : Feed, w.performAll (same ++ [e]) = { w with mailbox := ⟨some e.action⟩, device := d } ∧
      d.sent = w.device.sent ++ (same.map (·.action) ++ [e.action]) ∧
      d.bell.isFree = w.device.bell.isFree ∧ d.bell.isHeard = !w.device.bell.isFree := by
  induction same generalizing w with
  | nil => exact ⟨_, rfl, by simp, by simp [Peer.perform], by simp [Peer.perform]⟩
  | cons x same ih =>
    obtain ⟨d, hperformed, hsent, hfree, hheard⟩ := ih (w.perform x.action)
    refine ⟨d, hperformed, ?_, ?_, ?_⟩
    · rw [hsent]
      simp [World.perform]
    · rw [hfree]
      simp [World.perform, Peer.perform]
    · rw [hheard]
      simp [World.perform, Peer.perform]

/-! ## Waiting for what happens next -/

/-- Who waits for what the next notification brings about goes on at its moment, or the limit comes
    first. -/
theorem arrives_or (ready : World Feed Bytes → Bool) (h : w.OnTime) (hquiet : ready w = false)
    (hrefreshed : ready w.refreshed = false)
    (hmet : ∀ same e, ready (w.refreshed.performAll (same ++ [e])) = true) :
    (∃ e later same d, w.agenda = same ++ e :: later ∧ w.agenda.Next e later ∧ e.due < w.limit ∧
      d.sent = w.device.sent ++ (same.map (·.action) ++ [e.action]) ∧
      d.bell.isFree = w.device.bell.isFree ∧ d.bell.isHeard = !w.device.bell.isFree ∧
      awaitUntil ready w = .ok () ⟨e.due, w.limit, fullCredit, later, ⟨some e.action⟩, d⟩) ∨
    (∀ x ∈ w.agenda, w.limit ≤ x.due) ∧
      awaitUntil ready w = .error .cut { w with
        now := max w.now w.limit
        credit := if w.now < w.limit then fullCredit else w.credit } := by
  by_cases hlimit : w.limit ≤ w.now
  · refine Or.inr ⟨fun x hx => Nat.le_trans hlimit (h.due x hx), ?_⟩
    rw [awaitUntil_of_limit _ hquiet hlimit, Nat.max_eq_left hlimit, if_neg (Nat.not_lt.2 hlimit)]
  have hplay := awaitUntil_eq_play (w := w) ready hquiet hrefreshed (Nat.not_le.1 hlimit)
  by_cases hlate : ∀ x ∈ w.agenda, w.limit ≤ x.due
  · refine Or.inr ⟨hlate, ?_⟩
    rw [hplay, playAgenda_of_late _ hlate, Nat.max_eq_right (Nat.le_of_not_le hlimit),
      if_pos (Nat.not_le.1 hlimit)]
    rfl
  have hne : w.agenda ≠ [] := by
    intro hnil
    exact hlate (by simp [hnil])
  obtain ⟨e, later, hnext⟩ := Agenda.exists_next h.sorted hne
  obtain ⟨same, hsplit, hsame⟩ := hnext.exists_same
  have hdue : e.due < w.limit := by
    by_contra hdue
    refine hlate fun x hx => ?_
    rw [hsplit] at hx
    rcases List.mem_append.1 hx with hx | hx
    · have := hsame x hx
      omega
    · rcases List.mem_cons.1 hx with rfl | hx
      · omega
      · have := hnext.lt_later x hx
        omega
  obtain ⟨d, hperformed, hsent, hfree, hheard⟩ := performAll_concat same e w.settle.refreshed
  refine Or.inl ⟨e, later, same, d, hsplit, hnext, hdue, hsent, hfree, hheard, ?_⟩
  have hready : ready (w.settle.refreshed.performAll (same ++ [e])).settle = true := hmet same e
  rw [hplay, hsplit, playAgenda_next _ hsame hnext.lt_later hdue, if_pos hready, hperformed]
  rfl

/-! ## Waiting for the bell -/

/-- Waiting for the bell while nobody waits: a kept ring is answered at once, and otherwise the next
    notification is waited for. -/
theorem listen_of_kept (hbell : w.device.bell = .kept) :
    listen w = .ok () { w with device := w.device.onBell fun _ => .silent } := by
  obtain ⟨now, limit, credit, agenda, mailbox, bell, log⟩ := w
  subst hbell
  rfl

theorem listen_of_silent (hbell : w.device.bell = .silent) :
    listen w =
      match awaitUntil (fun w => w.device.bell.isHeard)
        { w with device := w.device.onBell fun _ => .awaited } with
      | .ok _ w' => .ok () { w' with device := w'.device.onBell .answer }
      | .error e w' => .error e w' := by
  have hbegun : (World.onDevice (onBell .await) : Act Feed Bytes Unit) w =
      .ok () { w with device := w.device.onBell fun _ => .awaited } := by
    simp only [World.onDevice, onBell, hbell, Bell.await]
  unfold listen
  rw [bind_of_ok hbegun]
  cases hawait : awaitUntil (fun w => w.device.bell.isHeard)
      { w with device := w.device.onBell fun _ => .awaited } with
  | ok u w' => exact bind_of_ok hawait
  | error e w' => exact bind_eq_error.2 (Or.inl hawait)

/-- Who begins to wait while the bell is silent hears it with the next notification. -/
theorem heard_or (h : w.OnTime) (hbell : w.device.bell = .awaited) :
    (∃ e later same d, w.agenda = same ++ e :: later ∧ w.agenda.Next e later ∧ e.due < w.limit ∧
      d.sent = w.device.sent ++ (same.map (·.action) ++ [e.action]) ∧ d.bell.isHeard = true ∧
      awaitUntil (fun w => w.device.bell.isHeard) w =
        .ok () ⟨e.due, w.limit, fullCredit, later, ⟨some e.action⟩, d⟩) ∨
    (∀ x ∈ w.agenda, w.limit ≤ x.due) ∧
      awaitUntil (fun w => w.device.bell.isHeard) w = .error .cut { w with
        now := max w.now w.limit
        credit := if w.now < w.limit then fullCredit else w.credit } := by
  have hquiet : w.device.bell.isHeard = false := by rw [hbell]; rfl
  have hfree : w.device.bell.isFree = false := by rw [hbell]; rfl
  have hmet : ∀ same e, (w.refreshed.performAll (same ++ [e])).device.bell.isHeard = true := by
    intro same e
    obtain ⟨d, hperformed, -, -, hheard⟩ := performAll_concat same e w.refreshed
    rw [hperformed]
    simpa [refreshed, hfree] using hheard
  rcases arrives_or (fun w => w.device.bell.isHeard) h hquiet hquiet hmet with
    ⟨e, later, same, d, hsplit, hnext, hdue, hsent, -, hheard, hawait⟩ | hlate
  · exact Or.inl ⟨e, later, same, d, hsplit, hnext, hdue, hsent, by simpa [hfree] using hheard, hawait⟩
  · exact Or.inr hlate

/-! ## Waiting for a notification -/

theorem poll_of_value (h : w.mailbox.latest = some value) :
    World.poll w = .ok (some value) { w with mailbox := .empty } := by
  simp [World.poll, Mailbox.take, h]

theorem receive_of_value (looks : Nat) (h : w.mailbox.latest = some value) :
    receive (looks + 1) w = .ok value { w with mailbox := .empty } := by
  rw [receive, bind_of_ok (poll_of_value h)]
  rfl

theorem receive_of_empty (looks : Nat) (h : w.mailbox = .empty) :
    receive (looks + 1) w = (listen >>= fun _ => receive looks) w := by
  have hpoll : World.poll w = .ok none w := by
    obtain ⟨now, limit, credit, agenda, mailbox, device⟩ := w
    subst h
    rfl
  rw [receive, bind_of_ok hpoll]

/-- How a wait under a limit ends that has found nothing at first: with the next notification, or
    cut.  Then it leaves the bell as `f` says; after all else the device is as `P` says. -/
def ReceiveOr (P : Feed → Prop) (f : Bell → Bell) (act : Act Feed Bytes Bytes)
    (w : World Feed Bytes) : Prop :=
  (∃ e later same d, w.agenda = same ++ e :: later ∧ w.agenda.Next e later ∧ e.due < w.limit ∧
    P d ∧ d.sent = w.device.sent ++ (same.map (·.action) ++ [e.action]) ∧
    act w = .ok e.action ⟨e.due, w.limit, fullCredit, later, .empty, d⟩) ∨
  (∀ x ∈ w.agenda, w.limit ≤ x.due) ∧
    act w = .error .cut { w with
      now := max w.now w.limit
      credit := if w.now < w.limit then fullCredit else w.credit
      device := w.device.onBell f }

/-- The consumer does not wait. -/
def Idle (d : Feed) : Prop := d.bell.isFree = true

theorem receive_or_of_silent (h : w.OnTime) (hempty : w.mailbox = .empty)
    (hbell : w.device.bell = .silent) (looks : Nat) :
    ReceiveOr Idle (fun _ => .awaited) (receive (looks + 2)) w := by
  have hbegun : World.OnTime { w with device := w.device.onBell fun _ => .awaited } :=
    ⟨h.sorted, h.due⟩
  rcases heard_or hbegun rfl with
    ⟨e, later, same, d, hsplit, hnext, hdue, hsent, hheard, hawait⟩ | ⟨hlate, hawait⟩
  · refine Or.inl ⟨e, later, same, d.onBell .answer, hsplit, hnext, hdue, ?_, hsent, ?_⟩
    · exact Bell.isFree_answer hheard
    · have hlistened : listen w =
          .ok () ⟨e.due, w.limit, fullCredit, later, ⟨some e.action⟩, d.onBell .answer⟩ := by
        rw [listen_of_silent hbell, hawait]
      rw [receive_of_empty _ hempty, bind_of_ok hlistened]
      exact receive_of_value looks rfl
  · refine Or.inr ⟨hlate, ?_⟩
    rw [receive_of_empty _ hempty]
    refine bind_eq_error.2 (Or.inl ?_)
    rw [listen_of_silent hbell, hawait]

/-- **A wait under a limit that finds nothing at first**, whether or not a ring was kept. -/
theorem receive_or (h : w.OnTime) (hempty : w.mailbox = .empty) (hidle : Idle w.device)
    (hlooks : 3 ≤ looks) : ReceiveOr Idle (fun _ => .awaited) (receive looks) w := by
  obtain ⟨n, rfl⟩ := Nat.exists_eq_add_of_le' hlooks
  cases hb : w.device.bell with
  | silent => exact receive_or_of_silent h hempty hb (n + 1)
  | kept =>
    -- the first look behind the kept ring finds nothing either
    have hquiet : World.OnTime { w with device := w.device.onBell fun _ => .silent } :=
      ⟨h.sorted, h.due⟩
    have hagain : receive (n + 3) w =
        receive (n + 2) { w with device := w.device.onBell fun _ => .silent } := by
      rw [receive_of_empty _ hempty, bind_of_ok (listen_of_kept hb)]
    have hor := receive_or_of_silent hquiet hempty rfl n
    unfold ReceiveOr at hor ⊢
    rw [hagain]
    exact hor
  | awaited | heard again => simp [Idle, hb, Bell.isFree] at hidle

/-- The same of a wait that looks into the mailbox itself at every moment. -/
theorem receive_or_of_mailbox (h : w.OnTime) (hempty : w.mailbox = .empty) :
    ReceiveOr (fun _ => True) id World.receive w := by
  have hquiet : w.mailbox.hasPending = false := by rw [hempty]; rfl
  have hmet : ∀ same e, (w.refreshed.performAll (same ++ [e])).mailbox.hasPending = true := by
    intro same e
    obtain ⟨d, hperformed, -⟩ := performAll_concat same e w.refreshed
    rw [hperformed]
    rfl
  rcases arrives_or (fun w => w.mailbox.hasPending) h hquiet hquiet hmet with
    ⟨e, later, same, d, hsplit, hnext, hdue, hsent, -, -, hawait⟩ | ⟨hlate, hawait⟩
  · refine Or.inl ⟨e, later, same, d, hsplit, hnext, hdue, trivial, hsent, ?_⟩
    unfold World.receive
    rw [bind_of_ok hawait]
    rfl
  · exact Or.inr ⟨hlate, bind_eq_error.2 (Or.inl hawait)⟩

theorem giveUp_of_awaited (hbell : w.device.bell = .awaited) :
    giveUp w = .ok none { w with device := w.device.onBell .leave } := by
  obtain ⟨now, limit, credit, agenda, mailbox, bell, log⟩ := w
  subst hbell
  rfl

theorem giveUp_of_heard (hbell : w.device.bell.isHeard = true) :
    giveUp w = .ok w.mailbox.latest
      { w with mailbox := .empty, device := w.device.onBell .answer } := by
  have hseen : (World.seen fun d : Feed => d.bell.isHeard : Act Feed Bytes Bool) w = .ok true w :=
    congrArg (EStateM.Result.ok · w) hbell
  unfold giveUp
  rw [bind_of_ok hseen]
  rfl

/-! ## What a wait finds -/

/-- How a wait has left the world: what time it is, what is still to come, and what was sent
    meanwhile.  The mailbox is empty. -/
structure Left (w : World Feed Bytes) (moment credit : Nat) (agenda : Agenda Bytes)
    (news : List Bytes) (u : World Feed Bytes) : Prop where
  now_eq : u.now = moment
  limit_eq : u.limit = w.limit
  credit_eq : u.credit = credit
  agenda_eq : u.agenda = agenda
  mailbox_eq : u.mailbox = .empty
  sent_eq : u.device.sent = w.device.sent ++ news

/-- What a wait finds that takes in what is due before `horizon` and ends at `deadline`. -/
inductive Wakes (horizon deadline : Nat) (w : World Feed Bytes) :
    Option Bytes → World Feed Bytes → Prop
  /-- a notification was there, and no time passes -/
  | pending {v : Bytes} {u : World Feed Bytes} : w.mailbox.latest = some v →
      Left w w.now w.credit w.agenda [] u → Wakes horizon deadline w (some v) u
  /-- some arrive: the wait ends at the first moment of an arrival, with the last one of it -/
  | arrived {first rest : Agenda Bytes} {x : Due Bytes} {u : World Feed Bytes} :
      w.mailbox = .empty → w.agenda = first ++ x :: rest → w.agenda.Next x rest →
      x.due < horizon →
      Left w x.due (if x.due < deadline then fullCredit else fullCredit - 1) rest
        (first.map (·.action) ++ [x.action]) u →
      Wakes horizon deadline w (some x.action) u
  /-- none arrives in time, and none is lost -/
  | passed {u : World Feed Bytes} : w.mailbox = .empty → (∀ x ∈ w.agenda, horizon ≤ x.due) →
      Left w deadline ((if w.now < horizon then fullCredit else w.credit) - 1) w.agenda [] u →
      Wakes horizon deadline w none u

/-- A wait takes in what is due before its end.  One of no length takes in nothing, unless the
    others have their turn: then it takes in its own moment. -/
def horizon (w : World Feed Bytes) (ms : Nat) : Nat :=
  if ms = 0 ∧ w.credit = 0 then w.now + 1 else w.now + ms

/-- A turn for the others at the end of a wait of no length that found nothing: what is due just now
    arrives, or nothing is. -/
theorem giveWay_or (h : w.OnTime) :
    (∃ e later same d, w.agenda = same ++ e :: later ∧ w.agenda.Next e later ∧ e.due = w.now ∧
      d.sent = w.device.sent ++ (same.map (·.action) ++ [e.action]) ∧
      d.bell.isFree = w.device.bell.isFree ∧ d.bell.isHeard = !w.device.bell.isFree ∧
      w.giveWay = ⟨w.now, w.limit, fullCredit, later, ⟨some e.action⟩, d⟩) ∨
    (∀ x ∈ w.agenda, w.now < x.due) ∧ w.giveWay = w.refreshed := by
  rw [giveWay_eq]
  rcases h.due_or with ⟨same, e, later, htake, hdrop, hsplit, hnext, hdue⟩ | ⟨htake, hdrop, hlate⟩
  · obtain ⟨d, hperformed, hsent, hfree, hheard⟩ :=
      performAll_concat same e { w with agenda := later }
    refine Or.inl ⟨e, later, same, d, hsplit, hnext, hdue, hsent, hfree, hheard, ?_⟩
    rw [htake, hdrop, hperformed]
    rfl
  · refine Or.inr ⟨hlate, ?_⟩
    rw [htake, hdrop]
    rfl

/-- A wait with a time limit: an activity that waits, and at its end a last look. -/
def limited (ms : Nat) (act : Act Feed Bytes Bytes) (look : Act Feed Bytes (Option Bytes)) :
    Act Feed Bytes (Option Bytes) := do
  match ← World.within ms act with
  | some value => pure (some value)
  | none => look

theorem limited_of_some {act : Act Feed Bytes Bytes} {look : Act Feed Bytes (Option Bytes)}
    (h : within ms act w = .ok (some value) w') :
    limited ms act look w = .ok (some value) w' := by
  unfold limited
  rw [bind_of_ok h]
  rfl

theorem limited_of_none {act : Act Feed Bytes Bytes} {look : Act Feed Bytes (Option Bytes)}
    (h : within ms act w = .ok none w') : limited ms act look w = look w' := by
  unfold limited
  rw [bind_of_ok h]

theorem limited_of_blink {act : Act Feed Bytes Bytes} {look : Act Feed Bytes (Option Bytes)}
    (h : within ms act w = (do blink; pure none) w') :
    limited ms act look w = (do blink; look) w' := by
  cases hblink : blink w' with
  | ok u w₁ =>
    rw [bind_of_ok hblink] at h ⊢
    exact limited_of_none h
  | error e w₁ =>
    have hended : ∀ act : Act Feed Bytes (Option Bytes),
        (blink >>= fun _ => act) w' = .error e w₁ := fun act => bind_eq_error.2 (Or.inl hblink)
    rw [hended] at h ⊢
    exact bind_eq_error.2 (Or.inl h)

/-- An activity that waits for a notification, and its last look behind a bell that is left as `f`
    says. -/
structure Attends (P : Feed → Prop) (f : Bell → Bell) (act : Act Feed Bytes Bytes)
    (look : Act Feed Bytes (Option Bytes)) (w : World Feed Bytes) : Prop where
  here : P w.device
  pending : ∀ {value}, w.mailbox.latest = some value → ∀ limit,
    act { w with limit := limit } = .ok value { w with limit := limit, mailbox := .empty }
  receive : w.mailbox = .empty → ∀ limit, ReceiveOr P f act { w with limit := limit }
  /-- behind a last notification who waits has heard the bell -/
  look : ∀ u : World Feed Bytes,
    u.mailbox = .empty ∧ u.device.bell = f w.device.bell ∨
      u.device.bell.isHeard = !(f w.device.bell).isFree →
    ∃ d, P d ∧ d.sent = u.device.sent ∧
      look u = .ok u.mailbox.latest { u with mailbox := .empty, device := d }

section
variable {P : Feed → Prop} {f : Bell → Bell} {act : Act Feed Bytes Bytes}
  {look : Act Feed Bytes (Option Bytes)}

theorem Attends.look_nothing (ha : Attends P f act look w) (hempty : u.mailbox = .empty)
    (hbell : u.device.bell = f w.device.bell) :
    ∃ d, P d ∧ d.sent = u.device.sent ∧
      look u = .ok none { u with mailbox := .empty, device := d } := by
  obtain ⟨d, hP, hsent, hlook⟩ := ha.look u (Or.inl ⟨hempty, hbell⟩)
  have hnone : u.mailbox.latest = none := congrArg Mailbox.latest hempty
  exact ⟨d, hP, hsent, hnone ▸ hlook⟩

/-- A wait of no length that has found nothing looks once more, behind a turn for the others if
    they get one. -/
theorem Attends.wakes_of_blink (ha : Attends P f act look w) (h : w.OnTime)
    (hempty : w.mailbox = .empty) (hlimit : w.now < w.limit) :
    ∃ found u, (do blink; look) { w with device := w.device.onBell f } = .ok found u ∧
      Wakes (horizon w 0) w.now w found u ∧ P u.device := by
  have hleft : World.OnTime { w with device := w.device.onBell f } := ⟨h.sorted, h.due⟩
  by_cases hcredit : w.credit = 0
  · have hhorizon : horizon w 0 = w.now + 1 := if_pos ⟨rfl, hcredit⟩
    have hblink : blink { w with device := w.device.onBell f } =
        .ok () (giveWay { w with device := w.device.onBell f }).charged := by
      unfold blink
      rw [if_neg (by simp [hcredit]), if_neg (Nat.not_le.2 hlimit)]
    rw [bind_of_ok hblink, hhorizon]
    rcases giveWay_or hleft with
      ⟨e, later, same, d, hsplit, hnext, hdue, hsent, -, hheard, hgive⟩ | ⟨hlate, hgive⟩
    · obtain ⟨d', hP, hsent', hlook⟩ := ha.look (charged
        ⟨w.now, w.limit, fullCredit, later, ⟨some e.action⟩, d⟩) (Or.inr hheard)
      rw [hgive, hlook]
      have hnow : e.due = w.now := hdue
      refine ⟨some e.action, _, rfl, .arrived hempty hsplit hnext (by omega) ?_, hP⟩
      exact ⟨hnow.symm, rfl, by rw [if_neg (by omega)]; rfl, rfl, rfl, hsent'.trans hsent⟩
    · obtain ⟨d', hP, hsent', hlook⟩ := ha.look_nothing
        (u := charged (refreshed { w with device := w.device.onBell f })) hempty rfl
      rw [hgive, hlook]
      refine ⟨none, _, rfl, .passed hempty hlate ?_, hP⟩
      exact ⟨rfl, rfl, by rw [if_pos (Nat.lt_succ_self _)]; rfl, rfl, rfl,
        by simp [hsent', charged, refreshed]⟩
  · have hhorizon : horizon w 0 = w.now := if_neg fun hzero => hcredit hzero.2
    have hblink : blink { w with device := w.device.onBell f } =
        .ok () (charged { w with device := w.device.onBell f }) := if_pos (Nat.pos_of_ne_zero hcredit)
    obtain ⟨d', hP, hsent', hlook⟩ := ha.look_nothing
      (u := charged { w with device := w.device.onBell f }) hempty rfl
    rw [bind_of_ok hblink, hlook, hhorizon]
    refine ⟨none, _, rfl, .passed hempty h.due ?_, hP⟩
    exact ⟨rfl, rfl, by rw [if_neg (Nat.lt_irrefl _)]; rfl, rfl, rfl, by simp [hsent', charged]⟩

/-- **A wait with a time limit** finds what is there, what arrives first, or nothing. -/
theorem Attends.wakes (ha : Attends P f act look w) (h : w.OnTime) (hlimit : w.now + ms < w.limit) :
    ∃ found u, limited ms act look w = .ok found u ∧
      Wakes (horizon w ms) (w.now + ms) w found u ∧ P u.device := by
  have hlimited : World.OnTime { w with limit := w.now + ms } := ⟨h.sorted, h.due⟩
  have hle : w.now + ms ≤ w.limit := Nat.le_of_lt hlimit
  cases hm : w.mailbox.latest with
  | some value =>
    refine ⟨some value, _, limited_of_some (within_of_ok hle (ha.pending hm _)), ?_, ha.here⟩
    exact .pending hm ⟨rfl, rfl, rfl, rfl, rfl, by simp⟩
  | none =>
    have hempty : w.mailbox = .empty := congrArg Mailbox.mk hm
    rcases ha.receive hempty (w.now + ms) with
      ⟨e, later, same, d, hsplit, hnext, hdue, hP, hsent, hreceive⟩ | ⟨hlate, hreceive⟩
    · have hdue : e.due < w.now + ms := hdue
      have hhorizon : e.due < horizon w ms := by
        unfold horizon
        split <;> omega
      refine ⟨some e.action, _, limited_of_some (within_of_ok hle hreceive),
        .arrived hempty hsplit hnext hhorizon ?_, hP⟩
      exact ⟨rfl, rfl, (if_pos hdue).symm, rfl, rfl, hsent⟩
    · have hwithin := within_of_cut hle hreceive
      cases ms with
      | zero =>
        obtain ⟨found, u, hended, hwakes⟩ := ha.wakes_of_blink h hempty hlimit
        refine ⟨found, u, ?_, hwakes⟩
        rw [limited_of_blink (by simpa using hwithin)]
        exact hended
      | succ n =>
        rw [if_neg (Nat.succ_ne_zero n)] at hwithin
        obtain ⟨d', hP, hsent', hlook⟩ := ha.look_nothing (u := charged { w with
          now := max w.now (w.now + (n + 1))
          credit := if w.now < w.now + (n + 1) then fullCredit else w.credit
          device := w.device.onBell f }) hempty rfl
        have hended := (limited_of_none hwithin).trans hlook
        have hhorizon : horizon w (n + 1) = w.now + (n + 1) := if_neg (by simp)
        refine ⟨none, _, hended, .passed hempty (hhorizon ▸ hlate) ?_, hP⟩
        refine ⟨Nat.max_eq_right (Nat.le_add_right _ _), rfl, ?_, rfl, rfl, ?_⟩
        · rw [hhorizon]
          rfl
        · simp [hsent', charged]

end

section
variable (h : w.OnTime) (hidle : Idle w.device) (hlooks : 3 ≤ looks)
include h hidle hlooks

theorem attends_receive : Attends Idle (fun _ => .awaited) (receive looks) giveUp w where
  here := hidle
  pending hvalue limit := by
    obtain ⟨n, rfl⟩ := Nat.exists_eq_add_of_le' hlooks
    exact receive_of_value (n + 2) hvalue
  receive hempty limit := receive_or ⟨h.sorted, h.due⟩ hempty hidle hlooks
  look u hbell := by
    rcases hbell with ⟨hempty, hbell⟩ | hheard
    · refine ⟨u.device.onBell .leave, Bell.isFree_leave _, rfl, ?_⟩
      rw [giveUp_of_awaited hbell, hempty]
      rfl
    · exact ⟨u.device.onBell .answer, Bell.isFree_answer hheard, rfl, giveUp_of_heard hheard⟩

/-- **A wait of the consumer**, for so many milliseconds at most. -/
theorem wakes_of_receiveWithin (hlimit : w.now + ms < w.limit) :
    ∃ found u, receiveWithin looks ms w = .ok found u ∧
      Wakes (horizon w ms) (w.now + ms) w found u ∧ Idle u.device :=
  (attends_receive h hidle hlooks).wakes h hlimit

end

/-! ## The wait that looks into the mailbox at every moment -/

theorem attends_mailbox (h : w.OnTime) :
    Attends (fun _ => True) id World.receive World.poll w where
  here := trivial
  pending := by
    intro value hvalue limit
    have hready : awaitUntil (fun w => w.mailbox.hasPending) { w with limit := limit } =
        .ok () { w with limit := limit } := if_pos (by simp [Mailbox.hasPending, hvalue])
    unfold World.receive
    rw [bind_of_ok hready]
    exact bind_of_ok (poll_of_value (w := { w with limit := limit }) hvalue)
  receive hempty limit := receive_or_of_mailbox ⟨h.sorted, h.due⟩ hempty
  look u _ := ⟨u.device, trivial, rfl, rfl⟩

/-- How a wait leaves the world, up to the bell. -/
theorem Left.unique {moment credit : Nat} {news : List Bytes}
    (h : Left w moment credit later news u) (h' : Left w moment credit later news u') :
    u' = { u with device := u.device.onBell fun _ => u'.device.bell } := by
  obtain ⟨hnow, hlimit, hcredit, hagenda, hmailbox, hsent⟩ := h
  obtain ⟨hnow', hlimit', hcredit', hagenda', hmailbox', hsent'⟩ := h'
  obtain ⟨now, limit, credit, agenda, mailbox, bell, log⟩ := u
  obtain ⟨now', limit', credit', agenda', mailbox', bell', log'⟩ := u'
  have hlog : log' = log := List.reverse_injective (hsent'.trans hsent.symm)
  simp_all [onBell]

/-- Two waits that find what there is to find come to the same. -/
theorem Wakes.unique {horizon deadline : Nat} {found' : Option Bytes}
    (h : Wakes horizon deadline w found u) (h' : Wakes horizon deadline w found' u') :
    found = found' ∧ u' = { u with device := u.device.onBell fun _ => u'.device.bell } := by
  cases h with
  | pending hvalue left =>
    cases h' with
    | pending hvalue' left' => exact ⟨hvalue.symm.trans hvalue', left.unique left'⟩
    | arrived hempty' | passed hempty' => simp [hempty', Mailbox.empty] at hvalue
  | arrived hempty hsplit hnext hdue left =>
    cases h' with
    | pending hvalue' => simp [hempty, Mailbox.empty] at hvalue'
    | arrived hempty' hsplit' hnext' hdue' left' =>
      obtain ⟨rfl, rfl, rfl⟩ := hnext.unique hnext' hsplit hsplit'
      exact ⟨rfl, left.unique left'⟩
    | passed hempty' hlate' => exact absurd (hlate' _ hnext.mem) (Nat.not_le.2 hdue)
  | passed hempty hlate left =>
    cases h' with
    | pending hvalue' => simp [hempty, Mailbox.empty] at hvalue'
    | arrived hempty' hsplit' hnext' hdue' => exact absurd (hlate _ hnext'.mem) (Nat.not_le.2 hdue')
    | passed hempty' hlate' left' => exact ⟨rfl, left.unique left'⟩

/-- **The bell does not show**: the wait for it and the wait that looks into the mailbox at every
    moment find the same, and the worlds behind them differ in the bell only. -/
theorem receiveWithin_agree (h : w.OnTime) (hidle : Idle w.device) (hlooks : 3 ≤ looks)
    (hlimit : w.now + ms < w.limit) :
    ∃ found u b, receiveWithin looks ms w = .ok found u ∧
      World.receiveWithin ms w = .ok found { u with device := u.device.onBell fun _ => b } := by
  obtain ⟨found, u, hwait, hwakes, -⟩ := wakes_of_receiveWithin h hidle hlooks hlimit
  obtain ⟨found', u', hwait', hwakes', -⟩ := (attends_mailbox h).wakes h hlimit
  obtain ⟨rfl, heq⟩ := hwakes.unique hwakes'
  exact ⟨found, u, u'.device.bell, hwait, heq ▸ hwait'⟩

/-! ## What the consumer finds -/

theorem Wakes.of_limit {horizon deadline limit : Nat}
    (h : Wakes horizon deadline { w with limit := limit } found u) :
    Wakes horizon deadline w found { u with limit := w.limit } := by
  cases h with
  | pending hvalue left => exact .pending hvalue { left with limit_eq := rfl }
  | arrived hempty hsplit hnext hdue left =>
    exact .arrived hempty hsplit hnext hdue { left with limit_eq := rfl }
  | passed hempty hlate left => exact .passed hempty hlate { left with limit_eq := rfl }

/-- How a wait is left that is given up at a moment, but behind what happens at it: what arrives
    there has rung the bell in vain, and is found by whoever looks next. -/
structure Forsaken (moment : Nat) (w u : World Feed Bytes) : Prop where
  nothing : w.mailbox = .empty
  late : ∀ x ∈ w.agenda, moment ≤ x.due
  now_eq : u.now = moment
  exists_due : ∃ due, w.agenda = due ++ u.agenda ∧ (∀ x ∈ due, x.due = moment) ∧
    u.device.sent = w.device.sent ++ due.map (·.action) ∧
    u.mailbox.latest = (due.map (·.action)).getLast?
  later : ∀ x ∈ u.agenda, moment < x.due

/-- The world at a moment before which a wait has come to nothing and goes on. -/
def outwaited (moment : Nat) (w : World Feed Bytes) : World Feed Bytes := { w with
  now := moment
  limit := moment
  credit := if w.now < moment then fullCredit else w.credit
  device := w.device.onBell fun _ => .awaited }

theorem idle_forsake (w : World Feed Bytes) : Idle (forsake w).device := Bell.isFree_leave _

section
variable (h : w.OnTime) (hidle : Idle w.device) (hlooks : 3 ≤ looks)
include h hidle hlooks

/-- **A wait with a time limit** finds what `Wakes` says. -/
theorem wakes_of_wait (ms : Nat) : ∃ found,
    (perform looks w (.wait ms)).1 = (found.map Finding.received).getD .timedOut ∧
      Wakes (horizon w ms) (w.now + ms) w found (perform looks w (.wait ms)).2 ∧
      Idle (perform looks w (.wait ms)).2.device := by
  obtain ⟨found, u, hwait, hwakes, hidle'⟩ := wakes_of_receiveWithin
    (w := { w with limit := w.now + ms + 1 }) ⟨h.sorted, h.due⟩ hidle hlooks (Nat.lt_succ_self _)
  have hspent : perform looks w (.wait ms) =
      ((found.map Finding.received).getD .timedOut, { u with limit := w.limit }) := by
    simp only [perform, spend, bind_of_ok hwait]
    rfl
  rw [hspent]
  exact ⟨found, rfl, hwakes.of_limit, hidle'⟩

/-- A wait that is given up at a moment has found something before, or the moment comes. -/
theorem waitUntil_or (ms : Nat) (late : Bool) :
    (∃ value, (waitUntil (w.now + ms) late looks w).1 = .received value ∧
      Wakes (w.now + ms) (w.now + ms) w (some value) (waitUntil (w.now + ms) late looks w).2 ∧
      Idle (waitUntil (w.now + ms) late looks w).2.device) ∨
    w.mailbox = .empty ∧ (∀ x ∈ w.agenda, w.now + ms ≤ x.due) ∧
      waitUntil (w.now + ms) late looks w = (.abandoned, forsake {
        (if late then (outwaited (w.now + ms) w).giveWay else outwaited (w.now + ms) w) with
        limit := w.limit }) := by
  unfold waitUntil
  cases hm : w.mailbox.latest with
  | some value =>
    obtain ⟨n, rfl⟩ := Nat.exists_eq_add_of_le' hlooks
    have hreceive := receive_of_value (w := { w with limit := w.now + ms }) (n + 2) hm
    rw [hreceive]
    exact Or.inl ⟨value, rfl, .pending hm ⟨rfl, rfl, rfl, rfl, rfl, by simp⟩, hidle⟩
  | none =>
    have hempty : w.mailbox = .empty := congrArg Mailbox.mk hm
    rcases receive_or (w := { w with limit := w.now + ms }) ⟨h.sorted, h.due⟩ hempty hidle hlooks with
      ⟨e, later, same, d, hsplit, hnext, hdue, hidle', hsent, hreceive⟩ | ⟨hlate, hreceive⟩
    · rw [hreceive]
      refine Or.inl ⟨e.action, rfl, .arrived hempty hsplit hnext hdue ?_, hidle'⟩
      exact ⟨rfl, rfl, (if_pos hdue).symm, rfl, rfl, hsent⟩
    · simp only [Nat.max_eq_right (Nat.le_add_right w.now ms)] at hreceive
      rw [hreceive]
      exact Or.inr ⟨hempty, hlate, rfl⟩

/-- **A wait that is given up for the consumer** in time finds what `Wakes` says. -/
theorem wakes_of_abandon (ms : Nat) : ∃ found,
    (perform looks w (.abandon ms false)).1 = (found.map Finding.received).getD .abandoned ∧
      Wakes (w.now + ms) (w.now + ms) w found (perform looks w (.abandon ms false)).2 ∧
      Idle (perform looks w (.abandon ms false)).2.device := by
  simp only [perform]
  rcases waitUntil_or h hidle hlooks ms false with ⟨value, hfound, hwakes⟩ | ⟨hempty, hlate, hwait⟩
  · exact ⟨some value, hfound, hwakes⟩
  · rw [hwait]
    refine ⟨none, rfl, .passed hempty hlate ?_, idle_forsake _⟩
    exact ⟨rfl, rfl, rfl, rfl, hempty, by simp [forsake, charged, outwaited]⟩

/-- The same of one that is given up late, or it leaves what arrives at the end for the next one. -/
theorem forsaken_of_abandon (ms : Nat) : ∃ found,
    (perform looks w (.abandon ms true)).1 = (found.map Finding.received).getD .abandoned ∧
      (found ≠ none ∧ Wakes (w.now + ms) (w.now + ms) w found (perform looks w (.abandon ms true)).2 ∨
        found = none ∧ Forsaken (w.now + ms) w (perform looks w (.abandon ms true)).2) ∧
      Idle (perform looks w (.abandon ms true)).2.device := by
  simp only [perform]
  rcases waitUntil_or h hidle hlooks ms true with
    ⟨value, hfound, hwakes, hidle'⟩ | ⟨hempty, hlate, hwait⟩
  · exact ⟨some value, hfound, Or.inl ⟨by simp, hwakes⟩, hidle'⟩
  · rw [hwait, if_pos rfl]
    refine ⟨none, rfl, Or.inr ⟨rfl, ?_⟩, idle_forsake _⟩
    rcases giveWay_or (w := outwaited (w.now + ms) w) ⟨h.sorted, hlate⟩ with
      ⟨e, later, same, d, hsplit, hnext, hdue, hsent, -, -, hgive⟩ | ⟨hlater, hgive⟩
    · obtain ⟨same', hsplit', hsame⟩ := hnext.exists_same
      obtain rfl : same = same' := List.append_cancel_right (hsplit.symm.trans hsplit')
      have hdue : e.due = w.now + ms := hdue
      rw [hgive]
      refine ⟨hempty, hlate, rfl, ⟨same ++ [e], ?_, ?_, ?_, ?_⟩, ?_⟩
      · rw [List.append_assoc]
        exact hsplit
      · intro x hx
        rcases List.mem_append.1 hx with hx | hx
        · exact (hsame x hx).trans hdue
        · exact List.mem_singleton.1 hx ▸ hdue
      · rw [List.map_append]
        exact hsent
      · rw [List.map_append, List.map_singleton, List.getLast?_concat]
        rfl
      · exact hdue ▸ hnext.lt_later
    · rw [hgive]
      exact ⟨hempty, hlate, rfl, ⟨[], rfl, by simp, by simp [forsake, charged, refreshed, outwaited],
        congrArg Mailbox.latest hempty⟩, hlater⟩

end

end Feed

end AirUpdate
