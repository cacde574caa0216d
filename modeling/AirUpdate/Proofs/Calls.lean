/-
  Air updates — calls on a session.

  The caller of a session may start, stream, commit or do all of it, in any
  order, and may cancel each call at any moment (`Attempt`).  `history` lists the
  calls as they were made.  What the caller's waits and the calls carry on
  holds all through it (`history_inv`).  A call that is not due changes nothing
  (`perform_of_ne`).
-/
import AirUpdate.Proofs.Halts

namespace AirUpdate.Session

/-- What may be called on a session. -/
inductive Call where
  | start
  | transfer
  | commit
  | run
  deriving DecidableEq, Repr

/-- The phase in which the call is due. -/
def Call.due : Call → Phase
  | .start | .run => .idle
  | .transfer => .streaming
  | .commit => .committing

/-- A call that the caller is going to make. -/
structure Attempt where
  /-- for how long the caller waits before it -/
  pause : Nat
  call : Call
  /-- the moment at which the call is cancelled, unless it has come to its end -/
  limit : Nat
  /-- a bound on its turns -/
  turns : Nat

/-- A call as it was made. -/
structure Made (D A : Type) where
  call : Call
  turns : Nat
  /-- the session when the call was made -/
  before : Session D A
  result : EStateM.Result Halt (Session D A) (Option TransferReport)

namespace Made
variable {D A : Type}

def after (x : Made D A) : Session D A := endState x.result

/-- Why the call halted, if it did. -/
def halt? (x : Made D A) : Option Halt :=
  match x.result with
  | .ok _ _ => none
  | .error e _ => some e

variable {x : Made D A} {e : Halt}

theorem result_of_halt? (h : x.halt? = some e) : x.result = .error e x.after := by
  obtain ⟨_, _, _, result⟩ := x
  cases result with
  | ok a s' => cases h
  | error e' s' => cases h; rfl

theorem result_of_halt?_eq_none (h : x.halt? = none) : ∃ a, x.result = .ok a x.after := by
  obtain ⟨_, _, _, result⟩ := x
  cases result with
  | ok a s' => exact ⟨a, rfl⟩
  | error e' s' => cases h

theorem halt?_of_result {s' : Session D A} (h : x.result = .error e s') :
    x.halt? = some e ∧ x.after = s' := by
  unfold halt? after
  rw [h]
  exact ⟨rfl, rfl⟩

end Made

variable {D A : Type}

/-- No call is due on a session that has failed. -/
theorem phase_ne_due {s : Session D A} (h : ∃ f, s.phase = .failed f) (c : Call) :
    s.phase ≠ c.due := by
  obtain ⟨f, hf⟩ := h
  rw [hf]
  cases c <;> exact nofun

/-- The session neither streams nor is going to. -/
def Ended (s : Session D A) : Prop := s.phase ≠ .idle ∧ s.phase ≠ .streaming

theorem ended_of_failed {s : Session D A} (h : ∃ f, s.phase = .failed f) : s.Ended := by
  obtain ⟨f, hf⟩ := h
  unfold Ended
  rw [hf]
  exact ⟨nofun, nofun⟩

theorem ended_of_committing {s : Session D A} (h : s.phase = .committing) : s.Ended := by
  unfold Ended
  rw [h]
  exact ⟨nofun, nofun⟩

theorem Ended.settled {s : Session D A} (h : s.Ended) (e : Halt) : (s.settled e).Ended := by
  cases e with
  | failed error => exact ended_of_failed ⟨_, rfl⟩
  | cut | exhausted => exact h

theorem Ended.commit {link : Link D A} {s : Session D A} (h : s.Ended) :
    (endState (commit link s)).Ended := by
  cases hcommit : Session.commit link s with
  | ok u s' =>
    obtain ⟨-, w, -, rfl⟩ := commit_eq_ok hcommit
    exact ⟨nofun, nofun⟩
  | error e s' =>
    rcases bind_eq_error.1 hcommit with hexpect | ⟨_, s₁, hexpect, hcommit⟩
    · obtain ⟨-, -, rfl⟩ := of_expect_eq_error hexpect
      exact h
    obtain ⟨-, rfl⟩ := of_expect_eq_ok hexpect
    rcases bind_eq_error.1 hcommit with hwrite | ⟨_, _, -, hcommit⟩
    · obtain ⟨s₁, hwritten, rfl⟩ := settling_eq_error.1 hwrite
      obtain ⟨w, -, rfl⟩ := onWorld_eq_error.1 hwritten
      exact Ended.settled (s := { s with world := w }) h e
    · cases hcommit

variable [Peer D A]

/-- The session when its caller has waited and calls again, with a limit to the call. -/
def called (s : Session D A) (pause limit : Nat) : Session D A :=
  { s with world :=
    { endState (World.sleep pause { s.world with limit := s.world.now + pause }) with
      limit := limit } }

section
variable (link : Link D A)

def perform (turns : Nat) : Call → Step D A (Option TransferReport)
  | .start => do
    start link turns
    pure none
  | .transfer => some <$> transfer link turns
  | .commit => do
    commit link
    pure none
  | .run => some <$> run link turns

/-- The call ended as the session makes it end. -/
def Made.Genuine (x : Made D A) : Prop := x.result = perform link x.turns x.call x.before

/-- The call on this session. -/
def make (turns : Nat) (call : Call) (s : Session D A) : Made D A :=
  ⟨call, turns, s, perform link turns call s⟩

/-- The rounds of the stream in a call. -/
def Made.rounds (x : Made D A) : List (Round D A) :=
  match x.call with
  | .start | .commit => []
  | .transfer => transferRounds link x.turns x.before
  | .run => runRounds link x.turns x.before

/-- The calls on a session, one after the other. -/
def history : List Attempt → Session D A → List (Made D A)
  | [], _ => []
  | a :: rest, s =>
    let x := make link a.turns a.call (s.called a.pause a.limit)
    x :: history rest x.after

end

variable {link : Link D A}

/-- **A call that is not due** fails and changes nothing. -/
theorem perform_of_ne {turns : Nat} {c : Call} {s : Session D A} (h : s.phase ≠ c.due) :
    perform link turns c s = .error (.failed (.invalidPhase c.due s.phase)) s := by
  have hexpect := expect_of_ne h
  have hfirst : ∀ {α β : Type} {x : Step D A α} {f : α → Step D A β},
      x s = .error (.failed (.invalidPhase c.due s.phase)) s →
      (x >>= f) s = .error (.failed (.invalidPhase c.due s.phase)) s :=
    fun h => bind_eq_error.2 (Or.inl h)
  cases c with
  | start => exact hfirst (hfirst hexpect)
  | transfer => exact hfirst (hfirst hexpect)
  | commit => exact hfirst (hfirst hexpect)
  | run => exact hfirst (hfirst (hfirst hexpect))

theorem after_make_of_ne {turns : Nat} {c : Call} {s : Session D A} (h : s.phase ≠ c.due) :
    (make link turns c s).after = s := by
  unfold make Made.after
  rw [perform_of_ne h]
  rfl

theorem genuine_of_mem {attempts : List Attempt} {s : Session D A} {x : Made D A}
    (hx : x ∈ history link attempts s) : x.Genuine link := by
  induction attempts generalizing s with
  | nil => cases hx
  | cons a attempts ih =>
    rcases List.mem_cons.1 hx with rfl | hx
    · rfl
    · exact ih hx

theorem history_inv_from {G H : List (Made D A) → Session D A → Prop}
    (hwait : ∀ xs s pause limit, H xs s → G xs (s.called pause limit))
    (hcall : ∀ xs (x : Made D A), G xs x.before → x.Genuine link → H (xs ++ [x]) x.after)
    {attempts : List Attempt} {s : Session D A} {pre₀ : List (Made D A)} (h : H pre₀ s)
    {pre post : List (Made D A)} {x : Made D A}
    (hx : history link attempts s = pre ++ x :: post) :
    G (pre₀ ++ pre) x.before ∧ x.Genuine link := by
  -- `pre₀` are the calls before the part of the history that the induction is at
  induction attempts generalizing s pre₀ pre with
  | nil => simp [history] at hx
  | cons a attempts ih =>
    have hbefore := hwait pre₀ s a.pause a.limit h
    rcases List.cons_eq_append_iff.1 hx with ⟨rfl, hx'⟩ | ⟨pre', rfl, hx'⟩
    · cases hx'
      rw [List.append_nil]
      exact ⟨hbefore, rfl⟩
    · have hfirst := hcall pre₀ (make link a.turns a.call (s.called a.pause a.limit)) hbefore rfl
      obtain ⟨hrest, hgenuine⟩ := ih hfirst hx'
      exact ⟨by simpa using hrest, hgenuine⟩

/-- **What waits and calls carry on**: if the waits lead from `H` to `G` and the calls
    from `G` to `H`, then `G` holds before each call, of the calls so far and of the
    session, and `H` behind it. -/
theorem history_inv {G H : List (Made D A) → Session D A → Prop}
    (hwait : ∀ xs s pause limit, H xs s → G xs (s.called pause limit))
    (hcall : ∀ xs (x : Made D A), G xs x.before → x.Genuine link → H (xs ++ [x]) x.after)
    {attempts : List Attempt} {s : Session D A} (h : H [] s) {pre post : List (Made D A)}
    {x : Made D A} (hx : history link attempts s = pre ++ x :: post) :
    G pre x.before ∧ H (pre ++ [x]) x.after ∧ x.Genuine link := by
  obtain ⟨hbefore, hgenuine⟩ := history_inv_from hwait hcall h hx
  rw [List.nil_append] at hbefore
  exact ⟨hbefore, hcall pre x hbefore hgenuine, hgenuine⟩

/-- A transfer that was called ends as `transfer` does. -/
theorem Made.Genuine.transfer_eq {x : Made D A} (hx : x.Genuine link) (hcall : x.call = .transfer) :
    (∃ report, x.result = .ok (some report) x.after ∧
        transfer link x.turns x.before = .ok report x.after) ∨
      ∃ e, x.halt? = some e ∧ transfer link x.turns x.before = .error e x.after := by
  obtain ⟨call, turns, before, result⟩ := x
  cases hcall
  have hresult : result = EStateM.map some (transfer link turns) before := hx
  unfold EStateM.map at hresult
  cases htransfer : transfer link turns before with
  | ok report s' =>
    rw [htransfer] at hresult
    cases hresult
    exact Or.inl ⟨report, rfl, rfl⟩
  | error e s' =>
    rw [htransfer] at hresult
    cases hresult
    exact Or.inr ⟨e, rfl, rfl⟩

theorem Made.Genuine.after_eq {x : Made D A} (hx : x.Genuine link) (hcall : x.call = .transfer) :
    x.after = endState (transfer link x.turns x.before) := by
  rcases hx.transfer_eq hcall with ⟨report, -, htransfer⟩ | ⟨e, -, htransfer⟩
  · rw [htransfer]
    rfl
  · rw [htransfer]
    rfl

/-- The session as the calls leave it. -/
def afterCalls (s : Session D A) (xs : List (Made D A)) : Session D A :=
  xs.getLast?.elim s Made.after

/-- **Between two calls** the caller only waits. -/
theorem called_of_history {attempts : List Attempt} {s : Session D A} {pre post : List (Made D A)}
    {x : Made D A} (hx : history link attempts s = pre ++ x :: post) :
    ∃ pause limit, x.before = (s.afterCalls pre).called pause limit := by
  refine (history_inv (G := fun xs s' => ∃ pause limit, s' = (s.afterCalls xs).called pause limit)
    (H := fun xs s' => s' = s.afterCalls xs) ?_ ?_ rfl hx).1
  · rintro xs _ pause limit rfl
    exact ⟨pause, limit, rfl⟩
  · intro xs x _ _
    simp [afterCalls]

end AirUpdate.Session
