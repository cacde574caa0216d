/-
  Air updates — moments of an agenda.

  Time passes from one moment at which something is due to the next.  All that is
  due at a moment happens before anybody looks again (`playAgenda_moment`), so a
  wait ends at a moment, behind all of its actions.  While time passes an agenda
  stays in order, and nothing on it is overdue (`OnTime`).
-/
import AirUpdate.Proofs.Waits

namespace AirUpdate

namespace Agenda
variable {A : Type} {agenda : Agenda A}

/-- Something is due next, unless nothing is due at all. -/
theorem exists_next (hsorted : agenda.Sorted) (hne : agenda ≠ []) :
    ∃ e later, agenda.Next e later := by
  induction agenda with
  | nil => exact absurd rfl hne
  | cons first rest ih =>
    cases hsame : dueAt first.due rest with
    | false => exact ⟨first, rest, next_of_not_dueAt hsorted hsame⟩
    | true =>
      cases rest with
      | nil => cases hsame
      | cons second rest =>
        obtain ⟨e, later, hnext⟩ := ih (List.pairwise_cons.1 hsorted).2 (by simp)
        have hdue : second.due = first.due := of_decide_eq_true hsame
        exact ⟨e, later, hnext.cons (hdue.symm.trans hnext.due_head)⟩

/-- Behind what is due before a moment comes what is not. -/
theorem le_of_mem_dropWhile {moment : Nat} {x : Due A} (hsorted : agenda.Sorted)
    (hx : x ∈ agenda.dropWhile (·.due < moment)) : moment ≤ x.due := by
  cases moment with
  | zero => exact Nat.zero_le _
  | succ m => exact lt_of_mem_dropWhile hsorted (by simpa only [Nat.lt_succ_iff] using hx)

/-- What is due next is what is due up to its moment. -/
theorem Next.split {same later : Agenda A} {e : Due A} (h : agenda.Next e later)
    (hsplit : agenda = same ++ e :: later) :
    agenda.takeWhile (·.due ≤ e.due) = same ++ [e] ∧
      agenda.dropWhile (·.due ≤ e.due) = later := by
  obtain ⟨same', hsplit', hsame⟩ := h.exists_same
  have heq : same = same' := List.append_cancel_right (hsplit.symm.trans hsplit')
  have hby : ∀ x ∈ same ++ [e], (x.due ≤ e.due : Bool) = true := by
    intro x hx
    rcases List.mem_append.1 hx with hx | hx
    · simp [hsame x (heq ▸ hx)]
    · simp [List.mem_singleton.1 hx]
  rw [hsplit, List.append_cons, List.takeWhile_append_of_pos hby, List.dropWhile_append_of_pos hby]
  cases later with
  | nil => simp
  | cons x later =>
    have hx := h.lt_later x (by simp)
    simp [hx]

/-- There is one way only to be due next. -/
theorem Next.unique {same later same' later' : Agenda A} {e e' : Due A} (h : agenda.Next e later)
    (h' : agenda.Next e' later') (hsplit : agenda = same ++ e :: later)
    (hsplit' : agenda = same' ++ e' :: later') : same = same' ∧ e = e' ∧ later = later' := by
  have hdue : e.due = e'.due := by
    cases agenda with
    | nil => simp at hsplit
    | cons first rest => exact h.due_head.symm.trans h'.due_head
  obtain ⟨htake, hdrop⟩ := h.split hsplit
  obtain ⟨htake', hdrop'⟩ := h'.split hsplit'
  rw [hdue] at htake hdrop
  have hlast := htake.symm.trans htake'
  exact ⟨List.append_inj_left' hlast rfl, by simpa using List.append_inj_right' hlast rfl,
    hdrop.symm.trans hdrop'⟩

end Agenda

namespace World
variable {D A : Type} [Peer D A] {w : World D A} {moment : Nat} {e : Due A}
  {same later agenda : Agenda A}

/-- The actions happen, one after the other, without anybody looking in between. -/
def performAll (agenda : Agenda A) (w : World D A) : World D A :=
  agenda.foldl (fun w x => w.perform x.action) w

/-- **A moment passes**: whoever waits looks when all that is due at it has happened. -/
theorem playAgenda_moment (ready : World D A → Bool) (hsame : ∀ x ∈ same, x.due = e.due)
    (hlater : Agenda.dueAt e.due later = false) (hdue : e.due < moment) :
    playAgenda ready moment (same ++ e :: later) w =
      if ready (w.performAll (same ++ [e])).settle then
        (true, { (w.performAll (same ++ [e])).settle with now := e.due, agenda := later })
      else playAgenda ready moment later (w.performAll (same ++ [e])).settle := by
  induction same generalizing w with
  | nil =>
    simp only [List.nil_append, playAgenda, hdue, hlater, if_true, Bool.false_eq_true, if_false]
    rfl
  | cons first same ih =>
    have hfirst : first.due = e.due := hsame first (by simp)
    have hnext : Agenda.dueAt first.due (same ++ e :: later) = true := by
      cases same with
      | nil => simp [Agenda.dueAt, hfirst]
      | cons second same => simp [Agenda.dueAt, hfirst, hsame second (by simp)]
    rw [List.cons_append, playAgenda, if_pos (hfirst ▸ hdue), if_pos hnext]
    exact ih fun x hx => hsame x (by simp [hx])

/-- The same, of what is due next. -/
theorem playAgenda_next (ready : World D A → Bool) (hsame : ∀ x ∈ same, x.due = e.due)
    (hlater : ∀ x ∈ later, e.due < x.due) (hdue : e.due < moment) :
    playAgenda ready moment (same ++ e :: later) w =
      if ready (w.performAll (same ++ [e])).settle then
        (true, { (w.performAll (same ++ [e])).settle with now := e.due, agenda := later })
      else playAgenda ready moment later (w.performAll (same ++ [e])).settle := by
  refine playAgenda_moment ready hsame ?_ hdue
  cases later with
  | nil => rfl
  | cons x later =>
    have hx := hlater x (by simp)
    simp [Agenda.dueAt]
    omega

/-- What is not due yet is not played. -/
theorem playAgenda_of_late (ready : World D A → Bool) (h : ∀ x ∈ agenda, moment ≤ x.due) :
    playAgenda ready moment agenda w = (false, { w with now := moment, agenda := agenda }) := by
  cases agenda with
  | nil => rfl
  | cons first rest =>
    have hfirst := h first (by simp)
    rw [playAgenda, if_neg (by omega)]

/-- A wait that has begun lasts until it is over or the limit comes. -/
theorem awaitUntil_eq_play (ready : World D A → Bool) (h : ready w = false)
    (hsettled : ready w.settle.refreshed = false) (hlimit : w.now < w.limit) :
    awaitUntil ready w =
      match playAgenda ready w.limit w.agenda w.settle.refreshed with
      | (true, w') => .ok () w'
      | (false, w') => .error .cut w' := by
  unfold awaitUntil
  rw [if_neg (by simp [h]), if_neg (Nat.not_le.2 hlimit)]
  exact if_neg (by simp [hsettled])

section
variable {α : Type} {act : Act D A α} {milliseconds : Nat} {w' : World D A}

/-- An activity with a time limit of its own, which is not behind the limit of the program. -/
theorem within_of_ok {a : α} (hlimit : w.now + milliseconds ≤ w.limit)
    (hact : act { w with limit := w.now + milliseconds } = .ok a w') :
    within milliseconds act w = .ok (some a) { w' with limit := w.limit } := by
  unfold within
  rw [if_neg (Nat.not_lt.2 hlimit), hact]

theorem within_of_cut (hlimit : w.now + milliseconds ≤ w.limit)
    (hact : act { w with limit := w.now + milliseconds } = .error .cut w') :
    within milliseconds act w =
      if milliseconds = 0 then (do blink; pure none) { w' with limit := w.limit }
      else .ok none (charged { w' with limit := w.limit }) := by
  unfold within
  rw [if_neg (Nat.not_lt.2 hlimit), hact]

end

/-- Time that passes whatever happens leaves what is not due before its end. -/
theorem agenda_playAgenda_never (moment : Nat) (agenda : Agenda A) (w : World D A) :
    (playAgenda (fun _ => false) moment agenda w).2.agenda =
      agenda.dropWhile (·.due < moment) := by
  induction agenda generalizing w with
  | nil => rfl
  | cons first rest ih =>
    by_cases hdue : first.due < moment
    · simp only [playAgenda, hdue, if_true, Bool.false_eq_true, if_false,
        List.dropWhile_cons_of_pos, decide_true]
      split <;> exact ih _
    · simp [playAgenda, hdue]

/-- What happens at a moment enters nothing on the agenda. -/
@[simp] theorem agenda_performAll (due : Agenda A) (w : World D A) :
    (w.performAll due).agenda = w.agenda := by
  induction due generalizing w with
  | nil => rfl
  | cons x due ih => exact ih (w.perform x.action)

@[simp] theorem now_performAll (due : Agenda A) (w : World D A) :
    (w.performAll due).now = w.now := by
  induction due generalizing w with
  | nil => rfl
  | cons x due ih => exact ih (w.perform x.action)

/-- Giving way lets happen what is due by now. -/
theorem giveWay_eq (w : World D A) : w.giveWay =
    (performAll (w.agenda.takeWhile (·.due ≤ w.now))
      { w with agenda := w.agenda.dropWhile (·.due ≤ w.now) }).settle.refreshed := by
  unfold giveWay
  rw [List.span_eq_takeWhile_dropWhile]
  rfl

theorem agenda_giveWay (w : World D A) : w.giveWay.agenda = w.agenda.dropWhile (·.due ≤ w.now) := by
  rw [giveWay_eq]
  exact agenda_performAll _ _

end World

/-- The agenda is in order, and nothing on it is overdue. -/
structure World.OnTime {D A : Type} (w : World D A) : Prop where
  sorted : w.agenda.Sorted
  due : ∀ x ∈ w.agenda, w.now ≤ x.due

namespace World.OnTime
variable {D A : Type} {w w' : World D A}

/-- What is due by now is due just now, and comes first. -/
theorem due_or (h : w.OnTime) :
    (∃ same e later, w.agenda.takeWhile (·.due ≤ w.now) = same ++ [e] ∧
      w.agenda.dropWhile (·.due ≤ w.now) = later ∧ w.agenda = same ++ e :: later ∧
      w.agenda.Next e later ∧ e.due = w.now) ∨
    w.agenda.takeWhile (·.due ≤ w.now) = [] ∧ w.agenda.dropWhile (·.due ≤ w.now) = w.agenda ∧
      ∀ x ∈ w.agenda, w.now < x.due := by
  have hsplit : w.agenda.takeWhile (·.due ≤ w.now) ++ w.agenda.dropWhile (·.due ≤ w.now) =
      w.agenda := List.takeWhile_append_dropWhile
  have hlater : ∀ x ∈ w.agenda.dropWhile (·.due ≤ w.now), w.now < x.due := fun x hx =>
    Agenda.lt_of_mem_dropWhile h.sorted hx
  rcases List.eq_nil_or_concat' (w.agenda.takeWhile (·.due ≤ w.now)) with hnone | ⟨same, e, hsome⟩
  · rw [hnone, List.nil_append] at hsplit
    exact Or.inr ⟨hnone, hsplit, hsplit ▸ hlater⟩
  · rw [hsome] at hsplit
    have hdue : ∀ x ∈ same ++ [e], x.due = w.now := by
      intro x hx
      rw [← hsome] at hx
      have hle : x.due ≤ w.now := by simpa using List.mem_takeWhile_imp hx
      refine Nat.le_antisymm hle (h.due x ?_)
      rw [← hsplit, ← hsome]
      exact List.mem_append_left _ hx
    have he : e.due = w.now := hdue e (by simp)
    rw [← List.append_cons] at hsplit
    refine Or.inl
      ⟨same, e, _, hsome, rfl, hsplit.symm, ⟨⟨same, hsplit.symm, fun x hx => ?_⟩, ?_⟩, he⟩
    · rw [he]
      exact hdue x (by simp [hx])
    · rw [he]
      exact hlater

/-- What is left when everything before a moment is over. -/
theorem dropWhile (h : w.OnTime) (hagenda : w'.agenda = w.agenda.dropWhile (·.due < w'.now)) :
    w'.OnTime := by
  refine ⟨hagenda ▸ h.sorted.sublist (List.dropWhile_sublist _), fun x hx => ?_⟩
  rw [hagenda] at hx
  exact Agenda.le_of_mem_dropWhile h.sorted hx

theorem next {e : Due A} {later : Agenda A} (h : w.OnTime) (hnext : w.agenda.Next e later)
    (hagenda : w'.agenda = later) (hnow : w'.now = e.due) : w'.OnTime := by
  subst hagenda
  exact ⟨hnext.sorted h.sorted, fun x hx => hnow ▸ Nat.le_of_lt (hnext.lt_later x hx)⟩

variable [Peer D A]

theorem after {delay : Nat} {action : A} (h : w.OnTime) : (w.after delay action).OnTime := by
  unfold World.after
  split
  · exact ⟨h.sorted, h.due⟩
  · refine ⟨Agenda.sorted_insert h.sorted, fun x hx => ?_⟩
    rcases Agenda.mem_insert.1 hx with rfl | hx
    · exact Nat.le_add_right _ _
    · exact h.due x hx

theorem react (reactions : List (Nat × A)) (h : w.OnTime) : (w.react reactions).OnTime := by
  unfold World.react
  induction reactions generalizing w with
  | nil => exact h
  | cons r reactions ih => exact ih h.after

theorem giveWay (h : w.OnTime) : w.giveWay.OnTime := by
  have hnow := now_giveWay w
  refine ⟨agenda_giveWay w ▸ h.sorted.sublist (List.dropWhile_sublist _), fun x hx => ?_⟩
  rw [agenda_giveWay] at hx
  exact hnow ▸ Nat.le_of_lt (Agenda.lt_of_mem_dropWhile h.sorted hx)

theorem sleep {milliseconds : Nat} (h : w.OnTime)
    (hslept : World.sleep milliseconds w = .ok () w') : w'.OnTime := by
  unfold World.sleep at hslept
  split at hslept
  · unfold blink at hslept
    split at hslept
    · cases hslept
      exact ⟨h.sorted, h.due⟩
    · split at hslept
      · cases hslept
      · cases hslept
        exact ⟨h.giveWay.sorted, h.giveWay.due⟩
  · split at hslept
    · cases hslept
      refine h.dropWhile ?_
      have hpass := agenda_playAgenda_never (w.now + milliseconds) w.agenda w.settle
      have hnow : (w.pass (w.now + milliseconds)).now = w.now + milliseconds := now_playAgenda _ _ _
      show (w.pass (w.now + milliseconds)).agenda = _
      simp only [refreshed, charged, hnow]
      exact hpass
    · split at hslept <;> cases hslept

end World.OnTime

end AirUpdate
