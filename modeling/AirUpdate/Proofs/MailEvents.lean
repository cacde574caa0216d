/-
  Air updates — what happens to the mailbox of a session.

  While a session streams, notifications arrive in its mailbox and rounds look
  at it, in some order (`MailEvent`); the order accounts for rounds if each of
  them found what arrived last since the look before (`Accounts`).

  What a bench device notifies while the program waits is what is due before the
  end of the wait, and within a write also what the script answers at once
  (`Bench.duringWrite`).  It happens in order, and it is all that reaches the
  mailbox (`Bench.Gathers`).
-/
import AirUpdate.Proofs.BenchWrites
import AirUpdate.Proofs.Happenings
import AirUpdate.Proofs.Moments

namespace AirUpdate

variable {D A α : Type}

/-- What happens to the mailbox of a session that streams. -/
inductive MailEvent (D A : Type) where
  /-- a notification arrives at this moment -/
  | arrived (moment : Nat) (value : Bytes)
  /-- a round begins: it takes what is there -/
  | polled (x : Round D A)

namespace MailEvent

def moment : MailEvent D A → Nat
  | arrived moment _ => moment
  | polled x => x.before.world.now

/-- The mailbox after the event. -/
def deliver (m : Mailbox) : MailEvent D A → Mailbox
  | arrived _ value => m.deliver value
  | polled _ => .empty

/-- The event is an arrival. -/
def IsArrival (e : MailEvent D A) : Prop := ∃ moment value, e = arrived moment value

/-- The events happen one after the other. -/
def InOrder (es : List (MailEvent D A)) : Prop := es.Pairwise fun e e' => e.moment ≤ e'.moment

end MailEvent

/-- The mailbox after the events. -/
def Mailbox.deliverAll (m : Mailbox) (es : List (MailEvent D A)) : Mailbox :=
  es.foldl MailEvent.deliver m

/-- The events account for the rounds: each of them takes what the events before it
    have left in the mailbox. -/
inductive Accounts : Mailbox → List (MailEvent D A) → List (Round D A) → Prop
  | nil {m} : Accounts m [] []
  | arrived {m moment value es xs} : Accounts (m.deliver value) es xs →
      Accounts m (.arrived moment value :: es) xs
  | polled {m x es xs} : x.before.world.mailbox = m → Accounts .empty es xs →
      Accounts m (.polled x :: es) (x :: xs)

namespace Accounts
variable {m : Mailbox} {es fs : List (MailEvent D A)} {xs ys : List (Round D A)}

theorem append (h : Accounts m es xs) (h' : Accounts (m.deliverAll es) fs ys) :
    Accounts m (es ++ fs) (xs ++ ys) := by
  induction h with
  | nil => exact h'
  | arrived _ ih => exact .arrived (ih h')
  | polled hmailbox _ ih => exact .polled hmailbox (ih h')

theorem of_arrivals (h : ∀ e ∈ es, e.IsArrival) (m : Mailbox) : Accounts m es [] := by
  induction es generalizing m with
  | nil => exact .nil
  | cons e es ih =>
    obtain ⟨moment, value, rfl⟩ := h e List.mem_cons_self
    exact .arrived (ih (fun e he => h e (List.mem_cons_of_mem _ he)) _)

end Accounts

namespace World

section
variable [Peer D A] {w w' : World D A} {hs : List (Happening A)}

/-- **What happens in a wait** lies in it, in order. -/
theorem Rested.between (h : Rested w hs w') (hw : w.OnTime) :
    w'.OnTime ∧ Happening.Between w.now hs w'.now := by
  cases h with
  | still => exact ⟨⟨hw.sorted, hw.due⟩, .nothing (Nat.le_refl _)⟩
  | yielded =>
    refine ⟨⟨hw.giveWay.sorted, hw.giveWay.due⟩, ?_⟩
    show Happening.Between w.now w.duringTurn w.giveWay.now
    rw [now_giveWay]
    refine .at_once fun x hx => ?_
    obtain ⟨y, hy, hx⟩ := List.mem_filterMap.1 hx
    rcases List.mem_append.1 hy with hy | hy
    · obtain ⟨z, -, rfl⟩ := List.mem_map.1 hy
      cases hx
      rfl
    · cases List.mem_singleton.1 hy
      cases hx
  | @passed moment _ hlater =>
    have hagenda : (w.pass moment).agenda = w.agenda.dropWhile (·.due < moment) :=
      agenda_playAgenda_never moment w.agenda w.settle
    have hnow : (w.pass moment).now = moment := now_playAgenda moment w.agenda w.settle
    have hpassed : (w.pass moment).OnTime := hw.dropWhile (by rw [hagenda, hnow])
    have hentries : (w.duringPass moment).filterMap Happening.entry? =
        (w.agenda.takeWhile (·.due < moment)).map fun x => (x.due, x.action) :=
      Agenda.entries_happenings _
    refine ⟨⟨hpassed.sorted, hpassed.due⟩, ?_⟩
    show Happening.Between w.now (w.duringPass moment) (w.pass moment).now
    rw [hnow]
    refine ⟨Nat.le_of_lt hlater, ?_, fun x hx => ?_⟩
    · rw [hentries]
      exact List.pairwise_map.2 (hw.sorted.sublist (List.takeWhile_sublist _))
    · rw [hentries] at hx
      obtain ⟨y, hy, rfl⟩ := List.mem_map.1 hx
      have hdue : y.due < moment := by simpa using List.mem_takeWhile_imp hy
      exact ⟨hw.due y ((List.takeWhile_sublist _).subset hy), Nat.le_of_lt hdue⟩

end

end World

namespace Bench
variable {hs hs' : List (Happening Bytes)} {u w w' : World Bench Bytes} {characteristic : Uuid}
  {data : Bytes} {mode : WriteMode}

/-! ## A bench device and its mailbox -/

/-- What reaches the mailbox of what happens at the device, with the moments. -/
def arrivals (d : Bench) (hs : List (Happening Bytes)) : List (Nat × Bytes) :=
  if d.subscribed then hs.filterMap Happening.entry? else []

/-- The same, as events at the mailbox. -/
def posts (d : Bench) (hs : List (Happening Bytes)) : List (MailEvent Bench Bytes) :=
  (d.arrivals hs).map fun a => .arrived a.1 a.2

theorem isArrival_of_mem_posts {d : Bench} {e : MailEvent Bench Bytes} (h : e ∈ d.posts hs) :
    e.IsArrival := by
  obtain ⟨a, -, rfl⟩ := List.mem_map.1 h
  exact ⟨a.1, a.2, rfl⟩

theorem posts_append (d : Bench) (hs hs' : List (Happening Bytes)) :
    d.posts (hs ++ hs') = d.posts hs ++ d.posts hs' := by
  unfold posts arrivals
  split <;> simp

theorem posts_congr {d d' : Bench} (h : d'.subscribed = d.subscribed)
    (hs : List (Happening Bytes)) :
    d'.posts hs = d.posts hs := by
  unfold posts arrivals
  rw [h]

theorem foldl_after (hs : List (Happening Bytes)) (d : Bench) (m : Mailbox) :
    hs.foldl Happening.after (d, m) = (d, m.deliverAll (d.posts hs)) := by
  induction hs generalizing m with
  | nil => unfold posts arrivals; split <;> rfl
  | cons x hs ih =>
    have hone : x.after (d, m) = (d, m.deliverAll (d.posts [x])) := by
      cases x with
      | settles => unfold posts arrivals; split <;> rfl
      | acts moment value =>
        show (if d.subscribed then (d, m.deliver value) else (d, m)) = _
        unfold posts arrivals
        split <;> rfl
    have hposts := posts_append d [x] hs
    rw [List.singleton_append] at hposts
    rw [List.foldl_cons, hone, ih, hposts]
    simp only [Mailbox.deliverAll, List.foldl_append]

/-- What happens on the way from one world to another, in order, is all that reaches the mailbox. -/
structure Gathers (w : World Bench Bytes) (hs : List (Happening Bytes)) (w' : World Bench Bytes) :
    Prop where
  mailbox_eq : w'.mailbox = w.mailbox.deliverAll (w.device.posts hs)
  subscribed_eq : w'.device.subscribed = w.device.subscribed
  between : w.OnTime → w'.OnTime ∧ Happening.Between w.now hs w'.now

namespace Gathers

/-- What neither the mailbox nor the agenda takes part in. -/
theorem aside (hmailbox : w'.mailbox = w.mailbox)
    (hsubscribed : w'.device.subscribed = w.device.subscribed) (hagenda : w'.agenda = w.agenda)
    (hnow : w'.now = w.now) : Gathers w [] w' where
  mailbox_eq := by
    rw [hmailbox]
    unfold posts arrivals
    split <;> rfl
  subscribed_eq := hsubscribed
  between h := ⟨⟨hagenda ▸ h.sorted, hagenda ▸ hnow ▸ h.due⟩, .nothing hnow.ge⟩

theorem trans (h : Gathers w hs u) (h' : Gathers u hs' w') : Gathers w (hs ++ hs') w' where
  mailbox_eq := by
    rw [h'.mailbox_eq, h.mailbox_eq, posts_congr h.subscribed_eq, posts_append]
    simp only [Mailbox.deliverAll, List.foldl_append]
  subscribed_eq := h'.subscribed_eq.trans h.subscribed_eq
  between hw := by
    obtain ⟨hu, hbetween⟩ := h.between hw
    obtain ⟨hw', hbetween'⟩ := h'.between hu
    exact ⟨hw', hbetween.append hbetween'⟩

end Gathers

theorem gathers_rested (h : World.Rested w hs w') : Gathers w hs w' := by
  have hside := h.side_eq
  rw [World.side, foldl_after] at hside
  exact ⟨congrArg Prod.snd hside, congrArg (fun side : Bench × Mailbox => side.1.subscribed) hside,
    h.between⟩

theorem gathers_sleep (milliseconds : Nat) (w : World Bench Bytes) :
    Gathers w (w.duringSleep milliseconds) (endState (World.sleep milliseconds w)) :=
  gathers_rested (World.rested_sleep milliseconds w)

theorem gathers_react (reactions : List (Nat × Bytes)) (w : World Bench Bytes) :
    Gathers w (w.atOnce reactions) (w.react reactions) := by
  have hside := World.side_react reactions w
  rw [World.side, World.side, foldl_after] at hside
  refine ⟨congrArg Prod.snd hside, congrArg (fun side : Bench × Mailbox => side.1.subscribed) hside,
    fun h => ⟨h.react reactions, ?_⟩⟩
  rw [World.now_react]
  exact World.between_atOnce reactions w

/-! ## Writes -/

/-- What the device answers to a write. -/
def answers (d : Bench) (characteristic : Uuid) (data : Bytes) : List (Nat × Bytes) :=
  (if d.answersStart ∧ characteristic = Uuid.control ∧ data = [Control.start.toByte] then
    [(0, StatusReport.toBytes ⟨.xon, some 0⟩)] else []) ++ (d.script.react characteristic data).1

/-- What happens while a write hangs, if it does. -/
def hung (characteristic : Uuid) (data : Bytes) (w : World Bench Bytes) : List (Happening Bytes) :=
  if w.device.hangs characteristic data then w.duringSleep stallTime else []

/-- What happens within a write: what is due while it hangs, and, if it comes to its end, what the
    device answers at once. -/
def duringWrite (characteristic : Uuid) (data : Bytes) (mode : WriteMode) (w : World Bench Bytes) :
    List (Happening Bytes) :=
  match permit characteristic data w with
  | .error _ _ => []
  | .ok _ _ =>
    hung characteristic data w ++
      match write characteristic data mode w with
      | .ok _ w' => w'.atOnce (w.device.answers characteristic data)
      | .error _ _ => []

theorem gathers_hang (characteristic : Uuid) (data : Bytes) (w : World Bench Bytes) :
    Gathers w (hung characteristic data w) (endState (hang characteristic data w)) := by
  have hnoted : Gathers w [] { w with device := w.device.onWrite characteristic data } :=
    .aside rfl rfl rfl rfl
  rw [hang_of_device]
  unfold hung
  split
  · have hslept := gathers_sleep stallTime { w with device := w.device.onWrite characteristic data }
    rw [World.duringSleep_device] at hslept
    exact hnoted.trans hslept
  · exact hnoted

theorem device_of_hang (h : hang characteristic data w = .ok () w') :
    w'.device = w.device.onWrite characteristic data := by
  rw [hang_of_device] at h
  split at h
  · exact device_of_sleep h
  · cases h
    rfl

theorem finish_eq (w : World Bench Bytes) : finish characteristic data mode w =
    if characteristic = Uuid.binaryStream ∧ data.head? = w.device.brokenFragment then
      World.fail (.link .notConnected) w
    else complete characteristic data mode w := by
  unfold finish
  show (if _ then _ else _ : Act Bench Bytes Unit) w = _
  split <;> rfl

/-- A write that is let pass, and does not fail, is answered at its end. -/
theorem gathers_finish (characteristic : Uuid) (data : Bytes) (mode : WriteMode)
    (w : World Bench Bytes) :
    Gathers w
      (match finish characteristic data mode w with
        | .ok _ w' => w'.atOnce (w.device.answers characteristic data)
        | .error _ _ => [])
      (endState (finish characteristic data mode w)) := by
  rw [finish_eq]
  by_cases hbroken : characteristic = Uuid.binaryStream ∧ data.head? = w.device.brokenFragment
  · rw [if_pos hbroken]
    exact .aside rfl rfl rfl rfl
  · rw [if_neg hbroken]
    let answered : World Bench Bytes :=
      { w with device :=
        { w.device with
          script := (w.device.script.react characteristic data).2
          log := ⟨w.now, characteristic, data, mode⟩ :: w.device.log } }
    have hdone : complete characteristic data mode w =
        .ok () (answered.react (w.device.answers characteristic data)) := rfl
    have hwritten : Gathers w [] answered := .aside rfl rfl rfl rfl
    have hanswered := gathers_react (w.device.answers characteristic data) answered
    rw [hdone]
    rw [← World.atOnce_congr (World.now_react (w.device.answers characteristic data) answered)]
      at hanswered
    exact hwritten.trans hanswered

/-- **A write** gathers what happens within it. -/
theorem gathers_write (characteristic : Uuid) (data : Bytes) (mode : WriteMode)
    (w : World Bench Bytes) :
    Gathers w (duringWrite characteristic data mode w)
      (endState (write characteristic data mode w)) := by
  unfold duringWrite
  rw [write_eq]
  cases hpermit : permit characteristic data w with
  | error e w₁ =>
    have hsame := endState_permit characteristic data w
    rw [hpermit] at hsame
    obtain rfl : w₁ = w := hsame
    rw [bind_eq_error.2 (Or.inl hpermit)]
    exact .aside rfl rfl rfl rfl
  | ok u w₁ =>
    obtain rfl := permit_eq_ok hpermit
    rw [bind_of_ok hpermit]
    have hhung := gathers_hang characteristic data w
    cases hhang : hang characteristic data w with
    | error e w₁ =>
      rw [hhang] at hhung
      rw [bind_eq_error.2 (Or.inl hhang)]
      exact hhung.trans (.aside rfl rfl rfl rfl)
    | ok u w₁ =>
      rw [hhang] at hhung
      have hfinished := gathers_finish characteristic data mode w₁
      rw [device_of_hang hhang] at hfinished
      rw [bind_of_ok hhang]
      exact hhung.trans hfinished

/-- An activity under a time limit gathers what happens within it. -/
theorem gathers_within {act : Act Bench Bytes α}
    {during : World Bench Bytes → List (Happening Bytes)}
    (hact : ∀ w, Gathers w (during w) (endState (act w))) (milliseconds : Nat)
    (w : World Bench Bytes) :
    Gathers w (World.duringWithin milliseconds act during w)
      (endState (World.within milliseconds act w)) := by
  have hlimited : Gathers w [] { w with limit := w.now + milliseconds } := .aside rfl rfl rfl rfl
  unfold World.duringWithin World.within
  split
  · have hdone := hact w
    cases hw : act w with
    | ok a w' | error e w' =>
      rw [hw] at hdone
      exact hdone
  · have hdone := hlimited.trans (hact { w with limit := w.now + milliseconds })
    cases hw : act { w with limit := w.now + milliseconds } with
    | ok a w' =>
      rw [hw] at hdone
      exact hdone.trans (.aside rfl rfl rfl rfl)
    | error e w' =>
      rw [hw] at hdone
      refine hdone.trans ?_
      cases e with
      | failed _ | exhausted => exact .aside rfl rfl rfl rfl
      | cut =>
        simp only
        split
        · have hback : Gathers w' [] { w' with limit := w.limit } := .aside rfl rfl rfl rfl
          have hblinked := gathers_rested (World.rested_blink { w' with limit := w.limit })
          cases hblink : World.blink { w' with limit := w.limit } with
          | ok u w'' =>
            rw [hblink] at hblinked
            rw [bind_of_ok hblink]
            exact hback.trans hblinked
          | error e w'' =>
            rw [hblink] at hblinked
            rw [bind_eq_error.2 (Or.inl hblink)]
            exact hback.trans hblinked
        · exact .aside rfl rfl rfl rfl

theorem posts_between {d : Bench} {first last : Nat} (h : Happening.Between first hs last) :
    MailEvent.InOrder (d.posts hs) ∧
      ∀ e ∈ d.posts hs, first ≤ e.moment ∧ e.moment ≤ last := by
  unfold posts arrivals
  split
  · refine ⟨List.pairwise_map.2 h.inOrder, fun e he => ?_⟩
    obtain ⟨a, ha, rfl⟩ := List.mem_map.1 he
    exact h.bounds a ha
  · exact ⟨.nil, by simp⟩

end Bench

end AirUpdate
