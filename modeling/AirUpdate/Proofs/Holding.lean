/-
  Air updates — what holds a stream.

  XOFF holds a stream, XON lets it go on, and no other notification does either
  (`holding?`, `heeded_held`).  A round leaves the stream held exactly if it was so
  once the notification was heeded, and a round that fails on its notification
  is the last; `Linked` says so of rounds that follow each other, in one
  transfer (`linked_runs`) or in all calls on a session (`linked_history`).
  Along such rounds the stream is held exactly if the last XOFF or XON that
  they took was XOFF (`Linked.held_eq`).
-/
import AirUpdate.Proofs.Calls
import AirUpdate.Proofs.Upkeep

namespace AirUpdate

/-- Whether a notification holds the stream or lets it go on, if it does either. -/
def holding? (value : Bytes) : Option Bool :=
  match StatusReport.ofBytes value with
  | .ok ⟨.xoff, _⟩ => some true
  | .ok ⟨.xon, _⟩ => some false
  | _ => none

theorem held_onNotification (f : Flow) (value : Bytes) :
    (f.onNotification value).held = (holding? value).getD f.held := by
  unfold Flow.onNotification holding?
  cases hv : StatusReport.ofBytes value with
  | error e => rfl
  | ok r =>
    have hid := StatusReport.isSome_of_ofBytes hv
    obtain ⟨status, id⟩ := r
    cases id with
    | none => cases status <;> first | rfl | cases hid
    | some id => cases status <;> rfl

/-- What holds a stream is XOFF with its id, and what lets it go on is XON with its id. -/
theorem holding?_eq_some_iff {value : Bytes} {b : Bool} : holding? value = some b ↔
    ∃ id, StatusReport.ofBytes value = .ok ⟨if b then .xoff else .xon, some id⟩ := by
  unfold holding?
  cases hv : StatusReport.ofBytes value with
  | error e => simp
  | ok r =>
    have hid := StatusReport.isSome_of_ofBytes hv
    obtain ⟨status, id⟩ := r
    cases b <;> cases status <;> simp_all [Status.carriesId, Option.isSome_iff_exists]

namespace Session
variable {D A : Type} {s : Session D A}

/-- Whether the notification in the mailbox holds the stream or lets it go on. -/
def hold? (s : Session D A) : Option Bool := s.world.mailbox.latest.bind holding?

theorem heeded_held (s : Session D A) : s.heeded.flow.held = s.hold?.getD s.flow.held := by
  unfold heeded hold?
  cases s.world.mailbox.latest with
  | none => rfl
  | some value => exact held_onNotification s.flow value

/-- Only XON lets a held stream go on. -/
theorem heeded_held_of_held (hheld : s.flow.held = true) (h : s.hold? ≠ some false) :
    s.heeded.flow.held = true := by
  rw [heeded_held, hheld]
  cases hs : s.hold? with
  | none => rfl
  | some b =>
    cases b with
    | true => rfl
    | false => exact absurd hs h

end Session

/-- Whether the notification taken in the round holds the stream or lets it go on. -/
def Round.hold? {D A : Type} (x : Round D A) : Option Bool := x.before.hold?

/-! ## Rounds that follow each other -/

/-- Rounds that follow each other: the stream is held when one begins as it was when
    the notification of the one before was heeded, and none follows one that fails
    on its notification. -/
inductive Linked {D A : Type} : Bool → List (Round D A) → Prop
  | nil {held} : Linked held []
  | cons {x xs} : (x.before.refusal? ≠ none → xs = []) → Linked x.before.heeded.flow.held xs →
      Linked x.before.flow.held (x :: xs)

/-- Whether a stream is held behind these rounds. -/
def heldAfter {D A : Type} (held : Bool) (xs : List (Round D A)) : Bool :=
  xs.getLast?.elim held fun x => x.before.heeded.flow.held

namespace Linked
variable {D A : Type} {held : Bool} {xs ys pre post : List (Round D A)} {x : Round D A}

theorem heldAfter_cons (held : Bool) (x : Round D A) (xs : List (Round D A)) :
    heldAfter held (x :: xs) = heldAfter x.before.heeded.flow.held xs := by
  unfold heldAfter
  rw [List.getLast?_cons]
  cases xs.getLast? <;> rfl

theorem of_cons (h : Linked held (x :: xs)) : x.before.flow.held = held ∧
    (x.before.refusal? ≠ none → xs = []) ∧ Linked x.before.heeded.flow.held xs := by
  cases h with
  | cons hx hrest => exact ⟨rfl, hx, hrest⟩

theorem append (h : Linked held xs) (hend : (∃ x ∈ xs, x.before.refusal? ≠ none) → ys = [])
    (hys : Linked (heldAfter held xs) ys) : Linked held (xs ++ ys) := by
  induction h with
  | nil => exact hys
  | @cons x xs hx _ ih =>
    rw [heldAfter_cons] at hys
    refine .cons (fun hrefusal => ?_) (ih (fun ⟨y, hy, hrefusal⟩ => ?_) hys)
    · rw [hx hrefusal, hend ⟨x, List.mem_cons_self, hrefusal⟩]
      rfl
    · exact hend ⟨y, List.mem_cons_of_mem x hy, hrefusal⟩

theorem of_append (h : Linked held (xs ++ ys)) : ∃ held, Linked held ys := by
  induction xs generalizing held with
  | nil => exact ⟨held, h⟩
  | cons x xs ih =>
    cases h with
    | cons _ hrest => exact ih hrest

/-- **A stream is held exactly if the last XOFF or XON taken was XOFF**, or as it was
    before if there was none. -/
theorem held_eq (h : Linked held (pre ++ x :: post)) :
    x.before.heeded.flow.held = ((pre ++ [x]).filterMap Round.hold?).getLast?.getD held := by
  induction pre generalizing held with
  | nil =>
    cases h with
    | cons _ _ =>
      rw [Session.heeded_held]
      show x.hold?.getD _ = _
      cases hx : x.hold? <;> simp [hx]
  | cons y pre ih =>
    cases h with
    | cons _ hrest =>
      rw [ih hrest, Session.heeded_held, List.cons_append]
      show _ = (List.getLast? (List.filterMap Round.hold? (y :: (pre ++ [x])))).getD _
      rw [List.filterMap_cons]
      show Option.getD _ (y.hold?.getD _) = _
      cases hy : y.hold? with
      | none => rfl
      | some b =>
        simp only [Option.getD_some, List.getLast?_cons]

end Linked

namespace Session

/-! ## Steps that leave the flow alone -/

section
variable {D A α β : Type} {step : Step D A α}

/-- The step leaves the flow alone, however it ends. -/
def KeepsFlow {α : Type} (step : Step D A α) : Prop := ∀ s, (endState (step s)).flow = s.flow

theorem keepsFlow_of_stays (h : ∀ f, Stays (fun s => s.flow = f) step) : KeepsFlow step :=
  fun s => (h s.flow).endState rfl

/-- Outside its turns a session leaves its flow alone. -/
theorem maintains_flow [Peer D A] (link : Link D A) (f : Flow) :
    Maintains link (fun s => s.flow = f) :=
  Inward.maintains fun _ _ _ h => h

/-- What the rounds of a call tell of the session that it leaves behind. -/
structure Carried (s : Session D A) (xs : List (Round D A)) (s' : Session D A) : Prop where
  linked : Linked s.flow.held xs
  held_eq : s'.flow.held = heldAfter s.flow.held xs
  /-- a session that failed on a notification has failed -/
  failed : (∃ x ∈ xs, x.before.refusal? ≠ none) → ∃ f, s'.phase = .failed f

/-- A call without rounds carries on what was there. -/
theorem carried_nil {s s' : Session D A} (h : s'.flow = s.flow) : Carried s [] s' where
  linked := .nil
  held_eq := congrArg Flow.held h
  failed := by simp

theorem KeepsFlow.carried (h : KeepsFlow step) (s : Session D A) :
    Carried s [] (endState (step s)) := carried_nil (h s)

/-- A step has no more to it if nothing is done with its result. -/
theorem endState_map (f : α → β) (step : Step D A α) (s : Session D A) :
    endState ((f <$> step) s) = endState (step s) := by
  show endState (EStateM.map f step s) = _
  unfold EStateM.map
  cases step s <;> rfl

/-- Nor does what it is replaced by. -/
theorem endState_bind_pure (step : Step D A α) (b : β) (s : Session D A) :
    endState ((do let _ ← step; pure b : Step D A β) s) = endState (step s) := by
  show endState (EStateM.bind step _ s) = _
  unfold EStateM.bind
  cases step s <;> rfl

end

variable {D A : Type} [Peer D A] {link : Link D A} {s s' : Session D A} {report : TransferReport}
  {xs : List (Round D A)} {x : Round D A}

/-! ## The rounds of a transfer -/

/-- Only a write that comes to its end moves the flow on, and that does not hold it. -/
theorem Runs.held_after (h : Runs link report s xs) (hx : x ∈ xs) :
    x.after.flow.held = x.before.heeded.flow.held := by
  cases ht : x.turn with
  | none =>
    obtain ⟨e, hhalted⟩ := h.halted_mem hx ht
    rw [hhalted.eq_heeded]
  | some t =>
    obtain ⟨_, _, hturned⟩ := h.turned_mem hx ht
    rw [hturned.flow_eq]
    split <;> rfl

/-- A round that finds the stream held leaves the flow where the notification took it. -/
theorem Runs.flow_of_held (h : Runs link report s xs) (hx : x ∈ xs)
    (hheld : x.before.heeded.flow.held = true) : x.after.flow = x.before.heeded.flow := by
  cases ht : x.turn with
  | none =>
    obtain ⟨e, hhalted⟩ := h.halted_mem hx ht
    rw [hhalted.eq_heeded]
  | some t =>
    obtain ⟨_, _, hturned⟩ := h.turned_mem hx ht
    have hnone : x.before.attempt? = none := attempt?_of_held hheld
    rw [hturned.flow_eq, if_neg]
    intro hsends
    rw [hturned.attempt?_of_sends hsends] at hnone
    cases hnone

theorem linked_runs (h : Runs link report s xs) :
    Linked s.flow.held xs ∧ (xs.getLast?.elim s Round.after).flow.held =
      heldAfter s.flow.held xs := by
  induction h with
  | nil => exact ⟨.nil, rfl⟩
  | @halted report s e s' hturn =>
    refine ⟨.cons (x := ⟨s, none, s'⟩) (fun _ => rfl) .nil, ?_⟩
    exact (Runs.halted hturn).held_after (List.mem_singleton_self _)
  | @ended report s t report' s' xs hturn hlast hruns ih =>
    have hheld := (Runs.ended hturn hlast hruns).held_after List.mem_cons_self
    simp only at hheld
    obtain ⟨hlinked, hend⟩ := ih
    rw [hheld] at hlinked hend
    refine ⟨.cons (x := ⟨s, some t, s'⟩) (fun hrefusal => ?_) hlinked, ?_⟩
    · exact absurd (turned_of_turn hturn).refusal?_eq hrefusal
    · rw [getLast?_elim_cons, Linked.heldAfter_cons]
      exact hend

/-! ## The rounds of all calls -/

theorem keepsFlow_start (turns : Nat) : KeepsFlow (start link turns) :=
  keepsFlow_of_stays fun f => (maintains_flow link f).start turns

theorem carried_transfer (turns : Nat) (s : Session D A) :
    Carried s (transferRounds link turns s) (endState (transfer link turns s)) := by
  have hruns : Runs link .empty s (transferRounds link turns s) := runs_transferRounds turns s
  obtain ⟨hlinked, hheld⟩ := linked_runs hruns
  obtain ⟨phase, hend⟩ : ∃ phase, endState (transfer link turns s) = _ := endState_transfer turns s
  refine ⟨hlinked, by rw [hend]; exact hheld, ?_⟩
  rintro ⟨x, hx, hrefusal⟩
  obtain ⟨status, hstatus⟩ := Option.ne_none_iff_exists'.1 hrefusal
  obtain ⟨pre, post, hsplit⟩ := List.append_of_mem hx
  unfold transferRounds at hsplit
  split at hsplit
  · next hphase =>
    obtain ⟨-, hstream⟩ := stream_of_refusal hsplit hstatus
    rw [transfer_of_stream_error hphase hstream]
    exact ⟨_, rfl⟩
  · simp at hsplit

theorem carried_run (turns : Nat) (s : Session D A) :
    Carried s (runRounds link turns s) (endState (run link turns s)) := by
  have hopened : (endState (start link turns s)).flow = s.flow := keepsFlow_start turns s
  show Carried s _ (endState (EStateM.bind (start link turns) _ s))
  unfold runRounds EStateM.bind
  cases hstart : start link turns s with
  | error e s₁ =>
    rw [hstart] at hopened
    exact carried_nil hopened
  | ok _ s₁ =>
    obtain ⟨w, rfl⟩ := of_start_eq_ok hstart
    have hcarried : Carried _ (transferRounds link turns _) _ :=
      carried_transfer turns { s with phase := .streaming, world := w }
    show Carried s (rounds link turns .empty _) (endState (EStateM.bind (transfer link turns) _ _))
    unfold EStateM.bind
    rw [transferRounds, if_pos rfl] at hcarried
    cases htransfer : transfer link turns { s with phase := .streaming, world := w } with
    | error e s₂ =>
      rw [htransfer] at hcarried
      exact ⟨hcarried.linked, hcarried.held_eq, hcarried.failed⟩
    | ok report s₂ =>
      rw [htransfer] at hcarried
      obtain ⟨hlinked, hheld, hfailed⟩ := hcarried
      have hcommit : KeepsFlow (do commit link; pure report : Step D A TransferReport) :=
        keepsFlow_of_stays fun f => (maintains_flow link f).commit.bind fun _ => stays_pure report
      have hcommitted := hcommit s₂
      refine ⟨hlinked, (congrArg Flow.held hcommitted).trans hheld, fun hrefused => ?_⟩
      -- a transfer that comes to its end has failed on nothing
      obtain ⟨f, hf⟩ := hfailed hrefused
      obtain ⟨-, _, _, -, -, rfl⟩ := transfer_eq_ok htransfer
      cases hf

/-- **The rounds of a call** follow each other. -/
theorem carried_make (turns : Nat) (call : Call) (s : Session D A) :
    Carried s ((make link turns call s).rounds link) (make link turns call s).after := by
  cases call with
  | start =>
    exact (keepsFlow_of_stays fun f =>
      ((maintains_flow link f).start turns).bind fun _ => stays_pure none).carried s
  | commit =>
    exact (keepsFlow_of_stays fun f =>
      (maintains_flow link f).commit.bind fun _ => stays_pure none).carried s
  | transfer =>
    show Carried s (transferRounds link turns s) (endState ((some <$> transfer link turns) s))
    rw [endState_map]
    exact carried_transfer turns s
  | run =>
    show Carried s (runRounds link turns s) (endState ((some <$> run link turns) s))
    rw [endState_map]
    exact carried_run turns s

/-- A call that is not due has no rounds. -/
theorem rounds_make_of_ne {turns : Nat} {call : Call} (h : s.phase ≠ call.due) :
    (make link turns call s).rounds link = [] := by
  cases call with
  | start | commit => rfl
  | transfer => exact if_neg h
  | run =>
    have hstart : start link turns s = .error (.failed (.invalidPhase .idle s.phase)) s :=
      bind_eq_error.2 (Or.inl (expect_of_ne h))
    show runRounds link turns s = []
    unfold runRounds
    rw [hstart]

/-! ## All calls -/

/-- A session that is not opened has ended. -/
theorem ended_of_start_error {turns : Nat} {e : Halt} (hphase : s.phase = .idle)
    (h : start link turns s = .error e s') : s'.Ended := by
  rcases bind_eq_error.1 h with h | ⟨_, s₁, hexpect, h⟩
  · exact absurd hphase (of_expect_eq_error h).1
  rcases bind_eq_error.1 h with h | ⟨_, s₂, henter, h⟩
  · cases h
  cases henter
  rcases bind_eq_error.1 h with h | ⟨_, _, -, h⟩
  · obtain ⟨s₃, hshake, rfl⟩ := settling_eq_error.1 h
    have hstarting : s₃.phase = .starting :=
      ((withstands_phase .starting).handshake turns { s₁ with phase := .starting } rfl).2
        e s₃ hshake
    refine Ended.settled ?_ e
    unfold Ended
    rw [hstarting]
    exact ⟨nofun, nofun⟩
  · cases h

variable (link) in
/-- A session that has ended stays so, whatever is called. -/
theorem ended_make (turns : Nat) (call : Call) (h : s.Ended) :
    (make link turns call s).rounds link = [] ∧ (make link turns call s).after.Ended := by
  cases call with
  | commit =>
    refine ⟨rfl, ?_⟩
    show (endState ((do let _ ← Session.commit link; pure none : Step D A _) s)).Ended
    rw [endState_bind_pure]
    exact h.commit
  | start | run =>
    rw [rounds_make_of_ne h.1, after_make_of_ne h.1]
    exact ⟨rfl, h⟩
  | transfer =>
    rw [rounds_make_of_ne h.2, after_make_of_ne h.2]
    exact ⟨rfl, h⟩

variable (link) in
/-- The rounds of the streams in all calls, one after the other. -/
def historyRounds (attempts : List Attempt) (s : Session D A) : List (Round D A) :=
  (history link attempts s).flatMap (Made.rounds link)

theorem historyRounds_cons (a : Attempt) (attempts : List Attempt) (s : Session D A) :
    historyRounds link (a :: attempts) s =
      (make link a.turns a.call (s.called a.pause a.limit)).rounds link ++
        historyRounds link attempts (make link a.turns a.call (s.called a.pause a.limit)).after :=
  rfl

/-- A session that has ended streams no more. -/
theorem historyRounds_of_ended {attempts : List Attempt} (h : s.Ended) :
    historyRounds link attempts s = [] := by
  induction attempts generalizing s with
  | nil => rfl
  | cons a attempts ih =>
    obtain ⟨hrounds, hended⟩ := ended_make link a.turns a.call
      (show (s.called a.pause a.limit).Ended from h)
    rw [historyRounds_cons, hrounds]
    exact ih hended

/-- **The rounds of all calls** on a session follow each other. -/
theorem linked_history (attempts : List Attempt) (s : Session D A) :
    Linked s.flow.held (historyRounds link attempts s) := by
  induction attempts generalizing s with
  | nil => exact .nil
  | cons a attempts ih =>
    obtain ⟨hlinked, hheld, hfailed⟩ : Carried _ (Made.rounds link _) _ :=
      carried_make a.turns a.call (s.called a.pause a.limit)
    rw [historyRounds_cons]
    refine Linked.append hlinked
      (fun hrefused => historyRounds_of_ended (ended_of_failed (hfailed hrefused))) ?_
    have hrest := ih (make link a.turns a.call (s.called a.pause a.limit)).after
    rw [hheld] at hrest
    exact hrest

end Session

end AirUpdate
