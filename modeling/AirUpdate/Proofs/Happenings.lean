/-
  Air updates — what happens while the program waits.

  While time passes, the device does what is due on the agenda, each action at its
  moment, and behind the last action of a moment what is on its way reaches the
  mailbox (`Agenda.happenings`).  So the agenda says what happens in a wait: all
  that is due before the end of the wait or the limit, in order, and nothing else
  (`World.duringSleep`).  A wait leaves the world with that done, also if it is cut
  (`rested_sleep`, `side_sleep`).

  What happens has its moments, one behind the other (`Happening.Between`).
-/
import AirUpdate.Proofs.Waiting
import Mathlib.Data.List.TakeDrop

namespace AirUpdate

variable {D A α : Type}

/-- What happens at a device and its mailbox. -/
inductive Happening (A : Type) where
  /-- the device acts, at this moment -/
  | acts (moment : Nat) (action : A)
  /-- what is on its way reaches the mailbox -/
  | settles
  deriving DecidableEq, Repr

namespace Happening

/-- The device and the mailbox after something has happened. -/
def after [Peer D A] (side : D × Mailbox) : Happening A → D × Mailbox
  | acts _ action => Peer.perform action side.1 side.2
  | settles => Peer.settle side.1 side.2

/-- An action, with its moment. -/
def entry? : Happening A → Option (Nat × A)
  | acts moment action => some (moment, action)
  | settles => none

/-- What happens lies between two moments, one thing behind the other. -/
structure Between (first : Nat) (hs : List (Happening A)) (last : Nat) : Prop where
  le : first ≤ last
  inOrder : (hs.filterMap entry?).Pairwise fun x y => x.1 ≤ y.1
  bounds : ∀ x ∈ hs.filterMap entry?, first ≤ x.1 ∧ x.1 ≤ last

namespace Between
variable {first middle last : Nat} {hs hs' : List (Happening A)}

theorem nothing (h : first ≤ last) : Between first ([] : List (Happening A)) last :=
  ⟨h, .nil, by simp⟩

theorem at_once (h : ∀ x ∈ hs.filterMap entry?, x.1 = first) : Between first hs first := by
  refine ⟨Nat.le_refl _, ?_, fun x hx => ⟨Nat.le_of_eq (h x hx).symm, Nat.le_of_eq (h x hx)⟩⟩
  refine (List.pairwise_of_forall (R := fun _ _ => True) fun _ _ => trivial).imp_of_mem ?_
  intro x y hx hy _
  exact Nat.le_of_eq ((h x hx).trans (h y hy).symm)

theorem append (h : Between first hs middle) (h' : Between middle hs' last) :
    Between first (hs ++ hs') last := by
  refine ⟨Nat.le_trans h.le h'.le, ?_, fun x hx => ?_⟩
  · rw [List.filterMap_append]
    refine List.pairwise_append.2 ⟨h.inOrder, h'.inOrder, fun x hx y hy => ?_⟩
    exact Nat.le_trans (h.bounds x hx).2 (h'.bounds y hy).1
  · rw [List.filterMap_append] at hx
    rcases List.mem_append.1 hx with hx | hx
    · exact ⟨(h.bounds x hx).1, Nat.le_trans (h.bounds x hx).2 h'.le⟩
    · exact ⟨Nat.le_trans h.le (h'.bounds x hx).1, (h'.bounds x hx).2⟩

end Between

end Happening

namespace Agenda
variable {first : Due A} {rest : Agenda A} {moment : Nat}

/-- What comes of an agenda. -/
def happenings : Agenda A → List (Happening A)
  | [] => []
  | first :: rest =>
    .acts first.due first.action ::
      if dueAt first.due rest then happenings rest else .settles :: happenings rest

/-- What is due at the moment of the first action is due before any later moment, too. -/
theorem dueAt_takeWhile (hdue : first.due < moment) :
    dueAt first.due (rest.takeWhile (·.due < moment)) = dueAt first.due rest := by
  cases rest with
  | nil => rfl
  | cons second rest =>
    by_cases hsecond : second.due < moment
    · rw [List.takeWhile_cons_of_pos (by simpa using hsecond)]
      rfl
    · rw [List.takeWhile_cons_of_neg (by simpa using hsecond)]
      have hne : second.due ≠ first.due := by omega
      simp [dueAt, hne]

theorem entries_happenings (agenda : Agenda A) :
    agenda.happenings.filterMap Happening.entry? = agenda.map fun x => (x.due, x.action) := by
  induction agenda with
  | nil => rfl
  | cons first rest ih =>
    rw [happenings, List.map_cons, ← ih]
    split <;> rfl

end Agenda

namespace World

/-- The device and the mailbox. -/
def side (w : World D A) : D × Mailbox := (w.device, w.mailbox)

/-! ## What happens in a wait -/

/-- What happens when the others have their turn. -/
def duringTurn (w : World D A) : List (Happening A) :=
  (w.agenda.takeWhile (·.due ≤ w.now)).map (fun x => .acts w.now x.action) ++ [.settles]

/-- What happens up to a moment, whatever it is. -/
def duringPass (moment : Nat) (w : World D A) : List (Happening A) :=
  .settles :: Agenda.happenings (w.agenda.takeWhile (·.due < moment))

/-- What happens in a wait of no length. -/
def duringBlink (w : World D A) : List (Happening A) :=
  if 0 < w.credit ∨ w.limit ≤ w.now then [] else w.duringTurn

/-- What happens in a wait, also in one that is cut. -/
def duringSleep (milliseconds : Nat) (w : World D A) : List (Happening A) :=
  if milliseconds = 0 then w.duringBlink
  else if w.limit ≤ w.now then []
  else w.duringPass (min (w.now + milliseconds) w.limit)

/-- What the device does at once, of what it reacts with. -/
def atOnce (reactions : List (Nat × A)) (w : World D A) : List (Happening A) :=
  (reactions.filter (·.1 = 0)).map fun r => .acts w.now r.2

/-- What happens within an activity under a time limit, from what happens within the activity. -/
def duringWithin (milliseconds : Nat) (act : Act D A α) (during : World D A → List (Happening A))
    (w : World D A) : List (Happening A) :=
  if w.limit < w.now + milliseconds then during w
  else
    during { w with limit := w.now + milliseconds } ++
      match act { w with limit := w.now + milliseconds } with
      | .error .cut w' => if milliseconds = 0 then duringBlink { w' with limit := w.limit } else []
      | _ => []

@[simp] theorem duringSleep_device (milliseconds : Nat) (w : World D A) (d : D) :
    duringSleep milliseconds { w with device := d } = duringSleep milliseconds w :=
  rfl

theorem between_atOnce (reactions : List (Nat × A)) (w : World D A) :
    Happening.Between w.now (w.atOnce reactions) w.now := by
  refine .at_once fun x hx => ?_
  obtain ⟨y, hy, hx⟩ := List.mem_filterMap.1 hx
  obtain ⟨r, -, rfl⟩ := List.mem_map.1 hy
  cases hx
  rfl

theorem atOnce_congr {reactions : List (Nat × A)} {w w' : World D A} (h : w'.now = w.now) :
    w'.atOnce reactions = w.atOnce reactions := by
  unfold atOnce
  rw [h]

variable [Peer D A] {w : World D A} {moment : Nat}

theorem side_playAgenda (moment : Nat) (agenda : Agenda A) (w : World D A) :
    (playAgenda (fun _ => false) moment agenda w).2.side =
      (Agenda.happenings (agenda.takeWhile (·.due < moment))).foldl Happening.after w.side := by
  induction agenda generalizing w with
  | nil => rfl
  | cons first rest ih =>
    by_cases hdue : first.due < moment
    · rw [List.takeWhile_cons_of_pos (by simpa using hdue), playAgenda, if_pos hdue,
        Agenda.happenings, Agenda.dueAt_takeWhile hdue, List.foldl_cons]
      cases Agenda.dueAt first.due rest with
      | true => exact ih (w.perform first.action)
      | false => exact ih (w.perform first.action).settle
    · rw [List.takeWhile_cons_of_neg (by simpa using hdue), playAgenda, if_neg hdue]
      rfl

theorem side_pass (moment : Nat) (w : World D A) :
    (w.pass moment).side = (w.duringPass moment).foldl Happening.after w.side :=
  side_playAgenda moment w.agenda w.settle

theorem side_giveWay (w : World D A) :
    w.giveWay.side = w.duringTurn.foldl Happening.after w.side := by
  have hfold : ∀ (due : List (Due A)) (w : World D A) (moment : Nat),
      (due.foldl (fun w x => w.perform x.action) w).side =
        (due.map fun x => Happening.acts moment x.action).foldl Happening.after w.side := by
    intro due
    induction due with
    | nil => exact fun _ _ => rfl
    | cons x due ih => exact fun w moment => ih (w.perform x.action) moment
  unfold giveWay duringTurn
  rw [List.span_eq_takeWhile_dropWhile, List.foldl_append]
  exact congrArg (fun s : D × Mailbox => Peer.settle s.1 s.2)
    (hfold _ { w with agenda := w.agenda.dropWhile (·.due ≤ w.now) } w.now)

/-- **What the device does at once**, it does before the program goes on. -/
theorem side_react (reactions : List (Nat × A)) (w : World D A) :
    (w.react reactions).side = (w.atOnce reactions).foldl Happening.after w.side := by
  unfold react
  induction reactions generalizing w with
  | nil => rfl
  | cons r reactions ih =>
    obtain ⟨delay, action⟩ := r
    rw [List.foldl_cons, ih]
    by_cases hdelay : delay = 0
    · simp [atOnce, after, hdelay]
      rfl
    · simp [atOnce, after, hdelay]
      rfl

/-- How a wait leaves the world, but for the credit: as it was, or after a turn of the others, or
    after time has passed. -/
inductive Rested (w : World D A) : List (Happening A) → World D A → Prop
  | still {credit} : Rested w [] { w with credit := credit }
  | yielded {credit} : Rested w w.duringTurn { w.giveWay with credit := credit }
  | passed {moment credit} : w.now < moment →
      Rested w (w.duringPass moment) { w.pass moment with credit := credit }

theorem rested_blink (w : World D A) : Rested w w.duringBlink (endState (blink w)) := by
  unfold duringBlink blink
  by_cases hcredit : 0 < w.credit
  · rw [if_pos (Or.inl hcredit), if_pos hcredit]
    exact .still
  · rw [if_neg hcredit]
    by_cases hlimit : w.limit ≤ w.now
    · rw [if_pos (Or.inr hlimit), if_pos hlimit]
      exact (.still : Rested w [] { w with credit := w.credit })
    · rw [if_neg (not_or.2 ⟨hcredit, hlimit⟩), if_neg hlimit]
      exact .yielded

/-- **What happens in a wait** is what is due before its end or the limit. -/
theorem rested_sleep (milliseconds : Nat) (w : World D A) :
    Rested w (w.duringSleep milliseconds) (endState (sleep milliseconds w)) := by
  unfold duringSleep sleep
  by_cases hzero : milliseconds = 0
  · rw [if_pos hzero, if_pos hzero]
    exact rested_blink w
  rw [if_neg hzero, if_neg hzero]
  by_cases hend : w.now + milliseconds ≤ w.limit
  · have hlimit : ¬ w.limit ≤ w.now := by omega
    rw [if_neg hlimit, if_pos hend, Nat.min_eq_left hend]
    exact .passed (by omega)
  · rw [if_neg hend]
    by_cases hlimit : w.limit ≤ w.now
    · rw [if_pos hlimit, if_pos hlimit]
      exact (.still : Rested w [] { w with credit := w.credit })
    · rw [if_neg hlimit, if_neg hlimit, Nat.min_eq_right (by omega)]
      exact .passed (by omega)

theorem Rested.side_eq {hs : List (Happening A)} {w' : World D A} (h : Rested w hs w') :
    w'.side = hs.foldl Happening.after w.side := by
  cases h with
  | still => rfl
  | yielded => exact side_giveWay w
  | passed => exact side_pass _ w

theorem side_sleep (milliseconds : Nat) (w : World D A) :
    (endState (sleep milliseconds w)).side =
      (w.duringSleep milliseconds).foldl Happening.after w.side :=
  (rested_sleep milliseconds w).side_eq

end World

end AirUpdate
