/-
  Air updates — what a watch waits for.

  A watch of a peripheral is over once the radio has announced that the link of
  this peripheral is down, or has ended the event stream (`Severs`); nothing else
  that a peripheral does ends it (`watch_perform`), and what the program does
  leaves it alone.  So if the program finds a watch over that was not when it was
  opened, one of these is among what has happened meanwhile (`Occurs.watch_eq`);
  and a wait for the loss of a link ends only then (`watch_of_awaitLoss`).
-/
import AirUpdate.Proofs.Occurrences

namespace AirUpdate

namespace World
variable {D A : Type} [Peer D A] {f : D → Bool} {w w' : World D A}

/-- Playing an agenda until the device is in some state stops with the device in it. -/
theorem ready_of_playAgenda {moment : Nat} {agenda : Agenda A}
    (h : playAgenda (fun w => f w.device) moment agenda w = (true, w')) : f w'.device = true := by
  induction agenda generalizing w with
  | nil => cases h
  | cons first rest ih =>
    simp only [playAgenda] at h
    split at h
    · split at h
      · exact ih h
      · split at h
        · next hready => cases h; exact hready
        · exact ih h
    · cases h

/-- Waiting until the device is in some state ends with the device in it. -/
theorem ready_of_awaitUntil (h : awaitUntil (fun w => f w.device) w = .ok () w') :
    f w'.device = true := by
  unfold awaitUntil at h
  split at h
  · next hready => cases h; exact hready
  split at h
  · cases h
  simp only at h
  split at h
  · next hready => cases h; exact hready
  split at h
  · next hplayed => cases h; exact ready_of_playAgenda hplayed
  · cases h

end World

namespace Radio
variable {r r' : Radio} {m m' : Mailbox} {address : String}

/-- The action ends a watch of the peripherals with this address: the radio announces that
    the link is down, or that there are no more events, or the link goes down. -/
inductive Severs (r : Radio) (address : String) : RadioAction → Prop
  | announced {i} : Severs r address ⟨i, .announce (.disconnected address)⟩
  | ended {i} : Severs r address ⟨i, .endEvents⟩
  | dropped {i} : (r.peripheral i).address = address → Severs r address ⟨i, .drop⟩

/-- **An action of a peripheral ends a watch exactly if it severs** what is watched. -/
theorem watch_perform (a : RadioAction) (h : r.watch = some ⟨address, false⟩) :
    r.Severs address a ∧ (r.perform a).watch = some ⟨address, true⟩ ∨
      ¬ r.Severs address a ∧ (r.perform a).watch = some ⟨address, false⟩ := by
  have hsee : ∀ event, (some (Watch.mk address false)).map (·.see event) =
      some ⟨address, decide (event = .disconnected address)⟩ := fun event => by
    simp [Watch.see]
  obtain ⟨i, action⟩ := a
  cases action with
  | notify characteristic value => exact Or.inr ⟨nofun, h⟩
  | endEvents => exact Or.inl ⟨.ended, congrArg (Option.map Watch.finish) h⟩
  | announce event =>
    have hwatch : (r.perform ⟨i, .announce event⟩).watch =
        some ⟨address, decide (event = .disconnected address)⟩ := by
      rw [← hsee, ← h]
      rfl
    rw [hwatch]
    by_cases hevent : event = .disconnected address
    · rw [hevent]
      exact Or.inl ⟨.announced, by simp⟩
    · refine Or.inr ⟨fun hsevers => ?_, by simp [hevent]⟩
      cases hsevers
      exact hevent rfl
  | drop =>
    have hwatch : (r.perform ⟨i, .drop⟩).watch =
        some ⟨address, decide (RadioEvent.disconnected (r.peripheral i).address =
          .disconnected address)⟩ := by
      rw [← hsee, ← h]
      rfl
    rw [hwatch]
    by_cases haddress : (r.peripheral i).address = address
    · exact Or.inl ⟨.dropped haddress, by simp [haddress]⟩
    · refine Or.inr ⟨fun hsevers => ?_, by simp [haddress]⟩
      cases hsevers with
      | dropped h => exact haddress h

/-- A watch that is over stays so. -/
theorem watch_perform_of_over (a : RadioAction) (h : r.watch = some ⟨address, true⟩) :
    (r.perform a).watch = some ⟨address, true⟩ := by
  obtain ⟨i, action⟩ := a
  cases action with
  | notify characteristic value => exact h
  | drop => exact congrArg (Option.map _) h
  | announce event => exact congrArg (Option.map _) h
  | endEvents => exact congrArg (Option.map _) h

/-- The watch of the peripherals with this address was ended on the way: one of the occurrences
    severs what is watched, and the program has not begun to follow the events anew. -/
def Severed (r : Radio) (m : Mailbox) (address : String) (r' : Radio) (m' : Mailbox) : Prop :=
  ∃ q n a, Witnessed r m (·.isOfSession = true) q n ∧ q.watch = some ⟨address, false⟩ ∧
    q.Severs address a ∧ Witnessed (q.perform a) n (·.isOfSession = true) r' m'

/-- What the program does in a session leaves its watch alone. -/
theorem watch_after_of_isOfSession {o : Occurrence} (ho : o.isOfSession = true)
    (hacts : ∀ a, o ≠ .acts a) : (r.after m o).1.watch = r.watch := by
  cases o with
  | acts a => exact absurd rfl (hacts a)
  | handsOn | opens _ _ | takes => rfl
  | stops | follows _ => cases ho

/-- **A watch is over only if what it watches was severed** since it was opened. -/
theorem Occurs.watch_eq {os : List Occurrence} (h : Occurs r m os r' m')
    (hos : ∀ o ∈ os, o.isOfSession = true) (hr : r.watch = some ⟨address, false⟩) :
    r'.watch = some ⟨address, false⟩ ∨
      r'.watch = some ⟨address, true⟩ ∧ r.Severed m address r' m' := by
  induction h with
  | start => exact Or.inl hr
  | aside hoccurs halike ih =>
    rw [halike.watch]
    rcases ih hos with hopen | ⟨hover, q, n, a, hfirst, hopen, hsevers, hrest⟩
    · exact Or.inl hopen
    · exact Or.inr ⟨hover, q, n, a, hfirst, hopen, hsevers, hrest.aside halike⟩
  | @next os q n o hoccurs ih =>
    have hbefore : ∀ x ∈ os, x.isOfSession = true := fun x hx => hos x (List.mem_append_left _ hx)
    have ho : o.isOfSession = true := hos o (by simp)
    rcases ih hbefore with hopen | ⟨hover, q', n', a, hfirst, hopen, hsevers, hrest⟩
    · by_cases hacts : ∃ a, o = .acts a
      · obtain ⟨a, rfl⟩ := hacts
        rcases watch_perform a hopen with ⟨hsevers, hwatch⟩ | ⟨-, hwatch⟩
        · exact Or.inr ⟨hwatch, q, n, a, ⟨os, hoccurs, hbefore⟩, hopen, hsevers, .start⟩
        · exact Or.inl hwatch
      · have hwatch := watch_after_of_isOfSession (r := q) (m := n) ho fun a ha => hacts ⟨a, ha⟩
        exact Or.inl (hwatch.trans hopen)
    · refine Or.inr ⟨?_, q', n', a, hfirst, hopen, hsevers, hrest.next ho⟩
      by_cases hacts : ∃ a, o = .acts a
      · obtain ⟨a, rfl⟩ := hacts
        exact watch_perform_of_over a hover
      · have hwatch := watch_after_of_isOfSession (r := q) (m := n) ho fun a ha => hacts ⟨a, ha⟩
        exact hwatch.trans hover

/-- What happens from the beginning of a session on until the wait for the loss of the link has
    come to its end is of a session. -/
theorem witnessed_of_awaitLoss {turns : Nat} {image : Bytes} {config : SessionConfig} {i : Nat}
    {report : TransferReport} {w w₁ w' : World Radio RadioAction}
    (hsession : Session.asAct (Session.run (link i) turns) image config w = .ok report w₁)
    (hloss : awaitLoss w₁ = .ok () w') :
    Witnessed w.device w.mailbox (·.isOfSession = true) w'.device w'.mailbox := by
  have hkeeping := keeping_occurs i w.device w.mailbox
  have hended := (Session.keeps_asAct_run hkeeping turns image config).ok Witnessed.start hsession
  exact (World.keeps_awaitUntil hkeeping.alone _).ok hended hloss

/-- **The wait for the loss of a link ends with the watch over.** -/
theorem watch_of_awaitLoss {w w' : World Radio RadioAction} (h : awaitLoss w = .ok () w') :
    w'.device.watchIsOver = true :=
  World.ready_of_awaitUntil h

end Radio

end AirUpdate
