/-
  Air updates — waits for a notification.

  A device posts if all that it does by itself is to put notifications into the
  mailbox (`Peer.Posts`).  In a world with such a device a wait for a
  notification takes what is in the mailbox, or what arrives first, or lets its
  time pass without anything arriving (`Waited`, `waited_of_receiveWithin`).
  `World.waits` lists waits that follow each other; each notification that they
  find, they find when it is due (`arrives_of_mem_waits`), and their times add up
  (`now_of_waits`).
-/
import AirUpdate.Proofs.Calm
import AirUpdate.Proofs.Ends
import Mathlib.Algebra.GroupWithZero.Nat
import Mathlib.Data.List.TakeDrop
import Mathlib.Data.List.TakeWhile

namespace AirUpdate

/-! ## Agendas -/

/-- Of the actions that are due next, which may be many at one moment, `e` is the last, and
    `later` are those that are due after that. -/
structure Agenda.Next {A : Type} (agenda : Agenda A) (e : Due A) (later : Agenda A) : Prop where
  exists_same : ∃ same, agenda = same ++ e :: later ∧ ∀ x ∈ same, x.due = e.due
  lt_later : ∀ x ∈ later, e.due < x.due

namespace Agenda
variable {A : Type} {agenda later : Agenda A} {e first : Due A}

theorem Next.cons (h : Next agenda e later) (hfirst : first.due = e.due) :
    Next (first :: agenda) e later := by
  obtain ⟨same, hsplit, hsame⟩ := h.exists_same
  refine ⟨⟨first :: same, by rw [hsplit]; rfl, fun x hx => ?_⟩, h.lt_later⟩
  rcases List.mem_cons.1 hx with rfl | hx
  · exact hfirst
  · exact hsame x hx

theorem Next.due_head (h : Next (first :: agenda) e later) : first.due = e.due := by
  obtain ⟨same, hsplit, hsame⟩ := h.exists_same
  rcases List.cons_eq_append_iff.1 hsplit with ⟨-, he⟩ | ⟨same', rfl, -⟩
  · cases he
    rfl
  · exact hsame first List.mem_cons_self

theorem Next.mem (h : Next agenda e later) : e ∈ agenda := by
  obtain ⟨same, hsplit, -⟩ := h.exists_same
  rw [hsplit]
  simp

theorem Next.later_subset (h : Next agenda e later) : ∀ x ∈ later, x ∈ agenda := by
  obtain ⟨same, hsplit, -⟩ := h.exists_same
  rw [hsplit]
  exact fun x hx => by simp [hx]

theorem Next.sorted (h : Next agenda e later) (hsorted : agenda.Sorted) : later.Sorted := by
  obtain ⟨same, hsplit, -⟩ := h.exists_same
  rw [hsplit] at hsorted
  exact (List.pairwise_cons.1 (List.pairwise_append.1 hsorted).2.1).2

theorem Next.length_lt (h : Next agenda e later) : later.length < agenda.length := by
  obtain ⟨same, hsplit, -⟩ := h.exists_same
  rw [hsplit, List.length_append, List.length_cons]
  omega

/-- The first action is the next if no other is due at the same moment. -/
theorem next_of_not_dueAt (hsorted : Sorted (first :: later))
    (h : dueAt first.due later = false) : Next (first :: later) first later := by
  refine ⟨⟨[], rfl, by simp⟩, fun x hx => ?_⟩
  obtain ⟨hle, hrest⟩ := List.pairwise_cons.1 hsorted
  cases later with
  | nil => cases hx
  | cons second later =>
    have hne : second.due ≠ first.due := of_decide_eq_false h
    have hsecond := hle second List.mem_cons_self
    rcases List.mem_cons.1 hx with rfl | hx
    · omega
    · have hx' := (List.pairwise_cons.1 hrest).1 x hx
      omega

/-- Behind what is due by a moment comes what is due after it. -/
theorem lt_of_mem_dropWhile {moment : Nat} {x : Due A} (hsorted : agenda.Sorted)
    (hx : x ∈ agenda.dropWhile (·.due ≤ moment)) : moment < x.due := by
  induction agenda with
  | nil => cases hx
  | cons first agenda ih =>
    obtain ⟨hle, hrest⟩ := List.pairwise_cons.1 hsorted
    rw [List.dropWhile_cons] at hx
    split at hx
    · exact ih hrest hx
    · next hlate =>
      have hlate : moment < first.due := by simpa using hlate
      rcases List.mem_cons.1 hx with rfl | hx
      · exact hlate
      · exact Nat.lt_of_lt_of_le hlate (hle x hx)

end Agenda

/-! ## Devices that post -/

/-- All that the device does by itself is to put notifications into the mailbox. -/
structure Peer.Posts {D : Type} [Peer D Bytes] (d : D) : Prop where
  perform : ∀ (value : Bytes) (m : Mailbox), Peer.perform value d m = (d, m.deliver value)
  settle : ∀ m : Mailbox, Peer.settle d m = (d, m)

namespace World
variable {D : Type} [Peer D Bytes] {w w' : World D Bytes} {milliseconds moment : Nat}
  {first e : Due Bytes} {rest later : Agenda Bytes} {P : Bytes → Prop}

theorem perform_of_posts (h : Peer.Posts w.device) (value : Bytes) :
    w.perform value = { w with mailbox := ⟨some value⟩ } := by
  unfold perform
  rw [h.perform]
  rfl

theorem settle_of_posts (h : Peer.Posts w.device) : w.settle = w := by
  unfold settle
  rw [h.settle]

/-- Playing up to a notification: the first action that is due is one, and only others at the same
    moment come before the look at the mailbox. -/
theorem playAgenda_cons (h : Peer.Posts w.device) (hdue : first.due < moment) :
    playAgenda (fun w => w.mailbox.hasPending) moment (first :: rest) w =
      if Agenda.dueAt first.due rest then
        playAgenda (fun w => w.mailbox.hasPending) moment rest
          { w with mailbox := ⟨some first.action⟩ }
      else (true, { w with now := first.due, agenda := rest, mailbox := ⟨some first.action⟩ }) := by
  have hsettle : settle { w with mailbox := ⟨some first.action⟩ } =
      { w with mailbox := ⟨some first.action⟩ } := settle_of_posts h
  rw [playAgenda, if_pos hdue, perform_of_posts h]
  simp only [hsettle]
  rfl

/-- Time passes up to the next notifications, of which the last stays in the mailbox. -/
theorem playAgenda_of_due (h : Peer.Posts w.device) (hsorted : Agenda.Sorted (first :: rest))
    (hdue : first.due < moment) :
    ∃ e later, Agenda.Next (first :: rest) e later ∧
      playAgenda (fun w => w.mailbox.hasPending) moment (first :: rest) w =
        (true, { w with now := e.due, agenda := later, mailbox := ⟨some e.action⟩ }) := by
  rw [playAgenda_cons h hdue]
  induction rest generalizing first w with
  | nil => exact ⟨first, [], Agenda.next_of_not_dueAt hsorted rfl, rfl⟩
  | cons second rest ih =>
    cases hsame : Agenda.dueAt first.due (second :: rest) with
    | true =>
      have hsecond : second.due = first.due := of_decide_eq_true hsame
      have hposts :
          Peer.Posts ({ w with mailbox := ⟨some first.action⟩ } : World D Bytes).device := h
      obtain ⟨e, later, hnext, hplay⟩ :=
        ih hposts (List.pairwise_cons.1 hsorted).2 (hsecond ▸ hdue)
      refine ⟨e, later, hnext.cons (hsecond.symm.trans hnext.due_head), ?_⟩
      rw [if_pos rfl, playAgenda_cons hposts (hsecond ▸ hdue), hplay]
    | false => exact ⟨first, second :: rest, Agenda.next_of_not_dueAt hsorted hsame, rfl⟩

/-! ## Schedules -/

/-- What is to come: notifications like this, in order, and none of them overdue. -/
structure Scheduled (P : Bytes → Prop) (w : World D Bytes) : Prop where
  sorted : w.agenda.Sorted
  due : ∀ x ∈ w.agenda, w.now ≤ x.due
  agenda : ∀ x ∈ w.agenda, P x.action
  mailbox : ∀ value, w.mailbox.latest = some value → P value

theorem Scheduled.after {delay : Nat} {value : Bytes} (h : w.Scheduled P)
    (hposts : Peer.Posts w.device) (hvalue : P value) :
    (w.after delay value).Scheduled P ∧ (w.after delay value).device = w.device := by
  unfold World.after
  split
  · rw [perform_of_posts hposts]
    refine ⟨⟨h.sorted, h.due, h.agenda, fun value' hvalue' => ?_⟩, rfl⟩
    cases hvalue'
    exact hvalue
  · refine ⟨⟨Agenda.sorted_insert h.sorted, fun x hx => ?_, fun x hx => ?_, h.mailbox⟩, rfl⟩
    · rcases Agenda.mem_insert.1 hx with rfl | hx
      · exact Nat.le_add_right _ _
      · exact h.due x hx
    · rcases Agenda.mem_insert.1 hx with rfl | hx
      · exact hvalue
      · exact h.agenda x hx

/-- Reactions of a device that posts become a part of the schedule. -/
theorem Scheduled.react {reactions : List (Nat × Bytes)} (h : w.Scheduled P)
    (hposts : Peer.Posts w.device) (hreactions : ∀ r ∈ reactions, P r.2) :
    (w.react reactions).Scheduled P ∧ (w.react reactions).device = w.device := by
  unfold World.react
  induction reactions generalizing w with
  | nil => exact ⟨h, rfl⟩
  | cons r rest ih =>
    obtain ⟨hafter, hdevice⟩ : (w.after r.1 r.2).Scheduled P ∧ _ :=
      h.after hposts (hreactions r List.mem_cons_self)
    obtain ⟨hrest, hsame⟩ :=
      ih hafter (hdevice ▸ hposts) fun r hr => hreactions r (List.mem_cons_of_mem _ hr)
    exact ⟨hrest, hsame.trans hdevice⟩

/-- What happens next is due before `moment`, or nothing is. -/
theorem Scheduled.next_or (h : w.Scheduled P) (hposts : Peer.Posts w.device) (moment : Nat) :
    (∃ e later, w.agenda.Next e later ∧ e.due < moment ∧
      w.play (fun w => w.mailbox.hasPending) moment =
        (true, { w with now := e.due, agenda := later, mailbox := ⟨some e.action⟩ })) ∨
    (∀ x ∈ w.agenda, moment ≤ x.due) ∧
      w.play (fun w => w.mailbox.hasPending) moment = (false, { w with now := moment }) := by
  have hsorted := h.sorted
  unfold play
  cases hagenda : w.agenda with
  | nil => exact Or.inr ⟨by simp, by rw [playAgenda, ← hagenda]⟩
  | cons first rest =>
    rw [hagenda] at hsorted
    by_cases hdue : first.due < moment
    · obtain ⟨e, later, hnext, hplay⟩ := playAgenda_of_due hposts hsorted hdue
      exact Or.inl ⟨e, later, hnext, hnext.due_head ▸ hdue, hplay⟩
    · refine Or.inr ⟨fun x hx => ?_, by rw [playAgenda, if_neg hdue, ← hagenda]⟩
      have hle : first.due ≤ x.due := by
        rcases List.mem_cons.1 hx with rfl | hx
        · exact Nat.le_refl _
        · exact (List.pairwise_cons.1 hsorted).1 x hx
      omega

/-! ## One wait -/

omit [Peer D Bytes] in
/-- At the limit nothing is waited for. -/
theorem awaitUntil_of_limit {A : Type} [Peer D A] (ready : World D A → Bool) {w : World D A}
    (h : ready w = false) (hlimit : w.limit ≤ w.now) : awaitUntil ready w = .error .cut w := by
  unfold awaitUntil
  rw [h, if_neg nofun, if_pos hlimit]

section
variable (ready : World D Bytes → Bool)

/-- Before the limit time passes up to what is waited for. -/
theorem awaitUntil_of_play {stopped : Bool} (h : ready w = false)
    (hrefreshed : ready w.refreshed = false) (hposts : Peer.Posts w.device)
    (hlimit : w.now < w.limit) (hplay : w.refreshed.play ready w.limit = (stopped, w')) :
    awaitUntil ready w = if stopped then .ok () w' else .error .cut w' := by
  have hplay : w.refreshed.play ready w.refreshed.limit = (stopped, w') := hplay
  unfold awaitUntil
  rw [h, if_neg nofun, if_neg (Nat.not_le.2 hlimit), settle_of_posts hposts]
  simp only [hrefreshed, hplay, Bool.false_eq_true, if_false]
  cases stopped <;> rfl

end

/-- Receiving under a limit, with nothing in the mailbox: what is due next arrives before the
    limit, or nothing does. -/
theorem Scheduled.receive_or (h : w.Scheduled P) (hposts : Peer.Posts w.device)
    (hempty : w.mailbox = .empty) (l : Nat) :
    (∃ e later, w.agenda.Next e later ∧ e.due < l ∧
      receive { w with limit := l } =
        .ok e.action ⟨e.due, l, fullCredit, later, .empty, w.device⟩) ∨
    (∀ x ∈ w.agenda, l ≤ x.due) ∧ ∃ credit, receive { w with limit := l } =
      .error .cut ⟨max w.now l, l, credit, w.agenda, .empty, w.device⟩ := by
  have hpending : w.mailbox.hasPending = false := by rw [hempty]; rfl
  by_cases hlimit : l ≤ w.now
  · have hawait := awaitUntil_of_limit (w := { w with limit := l })
      (fun w => w.mailbox.hasPending) hpending hlimit
    refine Or.inr ⟨fun x hx => Nat.le_trans hlimit (h.due x hx), w.credit, ?_⟩
    rw [Nat.max_eq_left hlimit, ← hempty]
    exact bind_eq_error.2 (Or.inl hawait)
  · have hscheduled : Scheduled P (refreshed { w with limit := l }) := { h with }
    have hawait : ∀ {stopped w'}, _ = (stopped, w') → _ := fun hplay =>
      awaitUntil_of_play (w := { w with limit := l }) (fun w => w.mailbox.hasPending)
        hpending hpending hposts (Nat.not_le.1 hlimit) hplay
    rcases hscheduled.next_or hposts l with ⟨e, later, hnext, hdue, hplay⟩ | ⟨hlate, hplay⟩
    · exact Or.inl ⟨e, later, hnext, hdue, bind_eq_ok.2 ⟨(), _, hawait hplay, rfl⟩⟩
    · rw [Nat.max_eq_right (Nat.le_of_not_le hlimit), ← hempty]
      exact Or.inr ⟨hlate, fullCredit, bind_eq_error.2 (Or.inl (hawait hplay))⟩

/-- Of many notifications the last stays in the mailbox. -/
theorem foldl_perform_of_posts (h : Peer.Posts w.device) (same : Agenda Bytes) (e : Due Bytes) :
    (same ++ [e]).foldl (fun w x => w.perform x.action) w =
      { w with mailbox := ⟨some e.action⟩ } := by
  induction same generalizing w with
  | nil => exact perform_of_posts h e.action
  | cons x same ih =>
    rw [List.cons_append, List.foldl_cons, perform_of_posts h]
    exact ih h

/-- Of a schedule, only what is due at this very moment happens when the others have their turn. -/
theorem Scheduled.giveWay_or (h : w.Scheduled P) (hposts : Peer.Posts w.device) :
    (∃ e later, w.agenda.Next e later ∧ e.due = w.now ∧
      w.giveWay = { w with credit := fullCredit, agenda := later, mailbox := ⟨some e.action⟩ }) ∨
    w.giveWay = { w with credit := fullCredit } := by
  have hsettle : ∀ m later, settle { w with agenda := later, mailbox := m } =
      { w with agenda := later, mailbox := m } := fun _ _ => settle_of_posts hposts
  have hsplit : w.agenda.takeWhile (·.due ≤ w.now) ++ w.agenda.dropWhile (·.due ≤ w.now) =
      w.agenda := List.takeWhile_append_dropWhile
  have hdue : ∀ x ∈ w.agenda.takeWhile (·.due ≤ w.now), x.due = w.now := by
    intro x hx
    have hle : x.due ≤ w.now := by simpa using List.mem_takeWhile_imp hx
    exact Nat.le_antisymm hle (h.due x (by rw [← hsplit]; exact List.mem_append_left _ hx))
  unfold giveWay
  rw [List.span_eq_takeWhile_dropWhile]
  simp only
  rcases List.eq_nil_or_concat (w.agenda.takeWhile (·.due ≤ w.now)) with hnone | ⟨same, e, hsome⟩
  · rw [hnone, List.nil_append] at hsplit
    rw [hnone, hsplit]
    exact Or.inr (congrArg refreshed (settle_of_posts hposts))
  · rw [hsome, List.concat_eq_append] at hsplit hdue ⊢
    have he := hdue e (by simp)
    have hnext : w.agenda.Next e (w.agenda.dropWhile (·.due ≤ w.now)) := by
      refine ⟨⟨same, ?_, fun x hx => ?_⟩, fun x hx => ?_⟩
      · rw [← List.append_cons] at hsplit
        exact hsplit.symm
      · rw [he]
        exact hdue x (by simp [hx])
      · rw [he]
        exact Agenda.lt_of_mem_dropWhile h.sorted hx
    have hfold : ∀ later, (same ++ [e]).foldl (fun w x => w.perform x.action)
        { w with agenda := later } = { w with agenda := later, mailbox := ⟨some e.action⟩ } :=
      fun later => foldl_perform_of_posts (w := { w with agenda := later }) hposts same e
    refine Or.inl ⟨e, _, hnext, he, ?_⟩
    rw [hfold, hsettle]
    rfl

/-- A wait for a notification from a device that posts: what it finds, and how it leaves the
    world.  A wait of no length still takes in its own moment. -/
inductive Waited (milliseconds : Nat) (w : World D Bytes) : Option Bytes → World D Bytes → Prop
  /-- one was there -/
  | pending {value} : w.mailbox.latest = some value →
      Waited milliseconds w (some value) { w with mailbox := .empty }
  /-- one arrived, as the last at its moment -/
  | arrived {e later credit} : w.mailbox = .empty → w.agenda.Next e later →
      e.due < w.now + max milliseconds 1 → Waited milliseconds w (some e.action)
        { w with now := e.due, credit := credit, agenda := later, mailbox := .empty }
  /-- none arrived in time -/
  | passed {credit} : w.mailbox = .empty → (∀ x ∈ w.agenda, w.now + milliseconds ≤ x.due) →
      Waited milliseconds w none
        { w with now := w.now + milliseconds, credit := credit, mailbox := .empty }

omit [Peer D Bytes] in
/-- A wait that comes to nothing by a moment before which nothing is due. -/
theorem waited_of_late {credit : Nat} (hempty : w.mailbox = .empty)
    (hlate : ∀ x ∈ w.agenda, w.now + milliseconds ≤ x.due) :
    Waited milliseconds w w.mailbox.latest
      { w with now := w.now + milliseconds, credit := credit, mailbox := .empty } := by
  have hnone : w.mailbox.latest = none := by rw [hempty]; rfl
  rw [hnone]
  exact .passed hempty hlate

/-- A wait of no length is a look at the mailbox behind a turn for the others, if they get one. -/
theorem Scheduled.waited_of_blink {credit : Nat} (h : w.Scheduled P)
    (hposts : Peer.Posts w.device) (hempty : w.mailbox = .empty)
    (hblink : blink { w with credit := credit } = .ok () w') :
    Waited 0 w w'.mailbox.latest { w' with mailbox := .empty } := by
  have hscheduled : Scheduled P { w with credit := credit } := { h with }
  unfold blink at hblink
  split at hblink
  · cases hblink
    exact waited_of_late hempty h.due
  split at hblink
  · cases hblink
  rcases hscheduled.giveWay_or hposts with ⟨e, later, hnext, he, hgive⟩ | hgive
  · rw [hgive] at hblink
    cases hblink
    have harrived : Waited 0 w (some e.action) { w with
        now := e.due, credit := fullCredit - 1, agenda := later, mailbox := .empty } :=
      .arrived hempty hnext (by rw [he]; simp)
    rwa [he] at harrived
  · rw [hgive] at hblink
    cases hblink
    exact waited_of_late hempty h.due

/-- **A wait for a notification** from a device that posts is one of `Waited`. -/
theorem waited_of_receiveWithin {found : Option Bytes} (h : w.Scheduled P)
    (hposts : Peer.Posts w.device) (hwait : receiveWithin milliseconds w = .ok found w') :
    Waited milliseconds w found w' := by
  cases hm : w.mailbox.latest with
  | some value =>
    rw [receiveWithin_of_pending milliseconds hm] at hwait
    cases hwait
    exact .pending hm
  | none =>
    have hempty : w.mailbox = .empty := congrArg Mailbox.mk hm
    have hreceive := h.receive_or hposts hempty
    obtain ⟨found₁, w₁, hwithin, hwait⟩ := bind_eq_ok.1 hwait
    cases found₁ with
    | some value =>
      cases hwait
      have hlimit : w'.limit = w.limit := by
        refine limit_of_within hwithin fun l w₂ hgot => ?_
        rcases hreceive l with ⟨e, later, -, -, hgot'⟩ | ⟨-, credit, hgot'⟩
        · rw [hgot'] at hgot
          cases hgot
          rfl
        · rw [hgot'] at hgot
          cases hgot
      obtain ⟨l, w₂, hl, hgot, hback⟩ := within_eq_some hwithin
      rw [hback, hlimit]
      rcases hreceive l with ⟨e, later, hnext, hdue, hgot'⟩ | ⟨-, credit, hgot'⟩
      · rw [hgot'] at hgot
        cases hgot
        exact .arrived hempty hnext (by omega)
      · rw [hgot'] at hgot
        cases hgot
    | none =>
      obtain ⟨w₂, hcut, hend⟩ := within_eq_none hwithin
      rcases hreceive (w.now + milliseconds) with ⟨e, later, -, -, hgot⟩ | ⟨hlate, credit, hgot⟩
      · rw [hgot] at hcut
        cases hcut
      · rw [hgot] at hcut
        cases hcut
        cases hwait
        rw [Nat.max_eq_right (Nat.le_add_right w.now milliseconds), ← hempty] at hend
        rcases hend with rfl | ⟨rfl, hblink⟩
        · exact waited_of_late hempty hlate
        · exact h.waited_of_blink hposts hempty hblink

/-- A wait is cut only at the limit. -/
theorem cut_of_receiveWithin {e : Halt} (h : w.Scheduled P) (hposts : Peer.Posts w.device)
    (hwait : receiveWithin milliseconds w = .error e w') :
    e = .cut ∧ w'.limit = w.limit ∧ w.limit ≤ w'.now := by
  cases hm : w.mailbox.latest with
  | some value =>
    rw [receiveWithin_of_pending milliseconds hm] at hwait
    cases hwait
  | none =>
    have hreceive := h.receive_or hposts (congrArg Mailbox.mk hm)
    rcases bind_eq_error.1 hwait with hwithin | ⟨found, w₁, -, hlook⟩
    swap
    · cases found <;> cases hlook
    unfold within at hwithin
    split at hwithin
    · rcases hreceive w.limit with ⟨e', later, -, -, hgot⟩ | ⟨-, credit, hgot⟩
      · rw [show receive w = _ from hgot] at hwithin
        cases hwithin
      · rw [show receive w = _ from hgot] at hwithin
        cases hwithin
        exact ⟨rfl, rfl, Nat.le_max_right w.now w.limit⟩
    · rcases hreceive (w.now + milliseconds) with ⟨e', later, -, -, hgot⟩ | ⟨-, credit, hgot⟩
      · rw [hgot] at hwithin
        cases hwithin
      · simp only [hgot] at hwithin
        split at hwithin
        · rcases bind_eq_error.1 hwithin with hblink | ⟨_, _, -, hnone⟩
          · obtain rfl := blink_eq_error hblink
            unfold blink at hblink
            split at hblink
            · cases hblink
            split at hblink
            · next hlimit => cases hblink; exact ⟨rfl, rfl, hlimit⟩
            · cases hblink
          · cases hnone
        · cases hwithin

/-- How many notifications there may still be: one in the mailbox, and those to come. -/
def outstanding (w : World D Bytes) : Nat := w.mailbox.latest.toList.length + w.agenda.length

namespace Waited
variable {found : Option Bytes} {value : Bytes}

omit [Peer D Bytes]

theorem mailbox_eq (h : Waited milliseconds w found w') : w'.mailbox = .empty := by
  cases h <;> rfl

theorem device_eq (h : Waited milliseconds w found w') : w'.device = w.device := by
  cases h <;> rfl

theorem limit_eq (h : Waited milliseconds w found w') : w'.limit = w.limit := by
  cases h <;> rfl

/-- A wait that finds nothing takes all of its time. -/
theorem now_of_none (h : Waited milliseconds w none w') : w'.now = w.now + milliseconds := by
  cases h
  rfl

theorem now_le (h : Waited milliseconds w found w') (hw : w.Scheduled P) : w.now ≤ w'.now := by
  cases h with
  | pending => exact Nat.le_refl _
  | arrived _ hnext _ => exact hw.due _ hnext.mem
  | passed => exact Nat.le_add_right _ _

theorem agenda_subset (h : Waited milliseconds w found w') : ∀ x ∈ w'.agenda, x ∈ w.agenda := by
  cases h with
  | pending | passed => exact fun _ hx => hx
  | arrived _ hnext _ => exact hnext.later_subset

/-- What a wait leaves over of a schedule is one. -/
theorem scheduled (h : Waited milliseconds w found w') (hw : w.Scheduled P) : w'.Scheduled P := by
  have hsubset := h.agenda_subset
  refine ⟨?_, ?_, fun x hx => hw.agenda x (hsubset x hx), fun value hvalue => ?_⟩
  · cases h with
    | pending | passed => exact hw.sorted
    | arrived _ hnext _ => exact hnext.sorted hw.sorted
  · cases h with
    | pending => exact hw.due
    | arrived _ hnext _ => exact fun x hx => Nat.le_of_lt (hnext.lt_later x hx)
    | passed _ hlate => exact hlate
  · rw [h.mailbox_eq] at hvalue
    cases hvalue

/-- What a wait finds was in the mailbox, or is due at the moment at which the wait ends. -/
theorem arrives (h : Waited milliseconds w (some value) w') :
    w.mailbox.latest = some value ∧ w'.now = w.now ∨ ⟨w'.now, value⟩ ∈ w.agenda := by
  cases h with
  | pending hvalue => exact Or.inl ⟨hvalue, rfl⟩
  | arrived _ hnext _ => exact Or.inr hnext.mem

theorem holds (h : Waited milliseconds w (some value) w') (hw : w.Scheduled P) : P value := by
  rcases h.arrives with ⟨hvalue, -⟩ | hdue
  · exact hw.mailbox value hvalue
  · exact hw.agenda _ hdue

theorem outstanding_lt (h : Waited milliseconds w (some value) w') :
    w'.outstanding < w.outstanding := by
  cases h with
  | pending hvalue => simp [outstanding, hvalue, Mailbox.empty]
  | arrived hempty hnext _ =>
    have hlength := hnext.length_lt
    simpa [outstanding, hempty, Mailbox.empty] using hlength

theorem outstanding_of_none (h : Waited milliseconds w none w') :
    w'.outstanding = w.outstanding := by
  cases h with
  | passed hempty => rw [outstanding, outstanding, hempty]

end Waited

/-! ## Waits that follow each other -/

end World

/-- A wait for a notification that came to its end. -/
structure Wait (D A : Type) where
  before : World D A
  /-- what it found in time, if anything -/
  found : Option Bytes
  after : World D A

namespace Wait
variable {D A : Type}

def time (x : Wait D A) : Nat := x.after.now - x.before.now

/-- How many of the waits have timed out. -/
def timeouts (xs : List (Wait D A)) : Nat := xs.countP fun x => x.found.isNone

/-- The time in the waits that ended with a notification. -/
def answeredTime (xs : List (Wait D A)) : Nat :=
  ((xs.filter fun x => x.found.isSome).map time).sum

variable {w w' : World D A} {value : Bytes} {xs : List (Wait D A)}

@[simp] theorem timeouts_nil : timeouts ([] : List (Wait D A)) = 0 := rfl

@[simp] theorem timeouts_none : timeouts (⟨w, none, w'⟩ :: xs) = timeouts xs + 1 := by
  simp [timeouts]

@[simp] theorem timeouts_some : timeouts (⟨w, some value, w'⟩ :: xs) = timeouts xs := by
  simp [timeouts]

@[simp] theorem answeredTime_nil : answeredTime ([] : List (Wait D A)) = 0 := rfl

@[simp] theorem answeredTime_none : answeredTime (⟨w, none, w'⟩ :: xs) = answeredTime xs := by
  simp [answeredTime]

@[simp] theorem answeredTime_some :
    answeredTime (⟨w, some value, w'⟩ :: xs) = w'.now - w.now + answeredTime xs := by
  simp [answeredTime, time]

end Wait

namespace World

/-- The waits of so many milliseconds, one after the other, as long as none is cut, and at most so
    many. -/
def waits {D A : Type} [Peer D A] (milliseconds : Nat) : Nat → World D A → List (Wait D A)
  | 0, _ => []
  | n + 1, w =>
    match receiveWithin milliseconds w with
    | .ok found w' => ⟨w, found, w'⟩ :: waits milliseconds n w'
    | .error _ _ => []

variable {D : Type} [Peer D Bytes] {w : World D Bytes} {milliseconds n : Nat} {P : Bytes → Prop}
  {pre post : List (Wait D Bytes)} {x : Wait D Bytes}

/-- Each of the waits begins with what the waits before it have left of the schedule. -/
theorem waited_of_mem_waits (h : w.Scheduled P) (hposts : Peer.Posts w.device)
    (hx : x ∈ waits milliseconds n w) :
    Waited milliseconds x.before x.found x.after ∧ x.before.Scheduled P ∧
      (∀ e ∈ x.before.agenda, e ∈ w.agenda) ∧ (x.before = w ∨ x.before.mailbox = .empty) := by
  induction n generalizing w with
  | zero => cases hx
  | succ n ih =>
    unfold waits at hx
    split at hx
    · next found w' hwait =>
      have hwaited := waited_of_receiveWithin h hposts hwait
      rcases List.mem_cons.1 hx with rfl | hx
      · exact ⟨hwaited, h, fun _ he => he, Or.inl rfl⟩
      · obtain ⟨hx', hscheduled, hsubset, hfirst⟩ :=
          ih (hwaited.scheduled h) (hwaited.device_eq ▸ hposts) hx
        refine ⟨hx', hscheduled, fun e he => hwaited.agenda_subset e (hsubset e he), Or.inr ?_⟩
        rcases hfirst with hfirst | hempty
        · rw [hfirst]
          exact hwaited.mailbox_eq
        · exact hempty
    · cases hx

/-- **What the waits find**, they find when it is due, but for what was there at the beginning. -/
theorem arrives_of_mem_waits {value : Bytes} (h : w.Scheduled P) (hposts : Peer.Posts w.device)
    (hx : x ∈ waits milliseconds n w) (hfound : x.found = some value) :
    (w.mailbox.latest = some value ∧ x.after.now = w.now ∨ ⟨x.after.now, value⟩ ∈ w.agenda) ∧
      P value := by
  obtain ⟨hwaited, hscheduled, hsubset, hfirst⟩ := waited_of_mem_waits h hposts hx
  rw [hfound] at hwaited
  refine ⟨?_, hwaited.holds hscheduled⟩
  rcases hwaited.arrives with ⟨hvalue, hnow⟩ | hdue
  · rcases hfirst with hfirst | hempty
    · rw [hfirst] at hvalue hnow
      exact Or.inl ⟨hvalue, hnow⟩
    · rw [hempty] at hvalue
      cases hvalue
  · exact Or.inr (hsubset _ hdue)

/-- **The times of the waits add up**: those that timed out have taken all of their time. -/
theorem now_of_waits (h : w.Scheduled P) (hposts : Peer.Posts w.device)
    (hsplit : waits milliseconds n w = pre ++ x :: post) :
    x.after.now = w.now + Wait.timeouts (pre ++ [x]) * milliseconds +
      Wait.answeredTime (pre ++ [x]) := by
  induction n generalizing w pre with
  | zero => simp [waits] at hsplit
  | succ n ih =>
    unfold waits at hsplit
    split at hsplit
    · next found w' hwait =>
      have hwaited := waited_of_receiveWithin h hposts hwait
      have hle := hwaited.now_le h
      have hfirst : ∀ xs, w'.now + Wait.timeouts xs * milliseconds + Wait.answeredTime xs =
          w.now + Wait.timeouts (⟨w, found, w'⟩ :: xs) * milliseconds +
            Wait.answeredTime (⟨w, found, w'⟩ :: xs) := by
        intro xs
        cases found with
        | none =>
          have hnow := hwaited.now_of_none
          rw [Wait.timeouts_none, Wait.answeredTime_none, Nat.add_mul]
          omega
        | some value =>
          rw [Wait.timeouts_some, Wait.answeredTime_some]
          omega
      rcases List.cons_eq_append_iff.1 hsplit with ⟨rfl, hx⟩ | ⟨pre', rfl, hrest⟩
      · cases hx
        simpa using hfirst []
      · rw [ih (hwaited.scheduled h) (hwaited.device_eq ▸ hposts) hrest]
        exact hfirst (pre' ++ [x])
    · simp at hsplit

end World

end AirUpdate
