/-
  Air updates — what a bench device delivers to a session.

  What happens in a round is computed from the agenda and the script of the
  device (`Session.duringRound`), and so are the events at the mailbox in a
  transfer and in all calls on a session.  They account for the rounds
  (`accounts_transfer`, `accounts_history`), and those of a transfer happen one
  after the other (`inOrder_transfer`).
-/
import AirUpdate.Proofs.Holding
import AirUpdate.Proofs.MailEvents

namespace AirUpdate

/-! ## Rounds -/

namespace Session
variable {s s' : Session Bench Bytes} {report report' : TransferReport} {t : Turn} {e : Halt}
  {xs : List (Round Bench Bytes)}

/-- What happens while the next fragment is written. -/
def duringWriteNext (s : Session Bench Bytes) : List (Happening Bytes) :=
  World.duringWithin s.config.writeTimeout.toNat
    (Bench.link.write .binaryStream s.next.toBytes .command)
    (Bench.duringWrite .binaryStream s.next.toBytes .command) s.world

theorem gathers_writeNext (s : Session Bench Bytes) :
    Bench.Gathers s.world s.duringWriteNext (endState (s.writeNext Bench.link s.world)) :=
  Bench.gathers_within (Bench.gathers_write .binaryStream s.next.toBytes .command) _ s.world

/-- What happens in a round once the notification is taken: nothing if the session fails on it or
    no fragment is left; and else what is due in the wait of a held stream, or within the write and
    in the pause behind it. -/
def duringRound (s : Session Bench Bytes) : List (Happening Bytes) :=
  if s.refusal?.isSome then []
  else if s.heeded.flow.held then s.heeded.world.duringSleep s.config.pausePoll.toNat
  else if s.heeded.next.payload = [] then []
  else
    s.heeded.duringWriteNext ++
      match s.heeded.writeNext Bench.link s.heeded.world with
      | .ok (some _) w => w.duringSleep s.config.pacing.toNat
      | .ok none w => w.duringSleep s.config.writeBackoff.toNat
      | .error _ _ => []

theorem duringRound_of_held (hrefusal : s.refusal? = none) (hheld : s.heeded.flow.held = true) :
    s.duringRound = s.heeded.world.duringSleep s.config.pausePoll.toNat := by
  unfold duringRound
  rw [if_neg (by simp [hrefusal]), if_pos hheld]

theorem duringRound_of_write (hrefusal : s.refusal? = none) (hheld : s.heeded.flow.held = false)
    (hne : s.heeded.next.payload ≠ []) : s.duringRound = s.heeded.duringWriteNext ++
      match s.heeded.writeNext Bench.link s.heeded.world with
      | .ok (some _) w => w.duringSleep s.config.pacing.toNat
      | .ok none w => w.duringSleep s.config.writeBackoff.toNat
      | .error _ _ => [] := by
  unfold duringRound
  rw [if_neg (by simp [hrefusal]), if_neg (by simp [hheld]), if_neg hne]

/-- A pause behind a write gathers what happens in both. -/
theorem gathers_behind {milliseconds : Nat} {written : Option Unit} {w : World Bench Bytes}
    {slept : EStateM.Result Halt (World Bench Bytes) Unit}
    (hwritten : s.heeded.writeNext Bench.link s.heeded.world = .ok written w)
    (hslept : World.sleep milliseconds w = slept) :
    Bench.Gathers s.heeded.world (s.heeded.duringWriteNext ++ w.duringSleep milliseconds)
      (endState slept) := by
  have hwrite := gathers_writeNext s.heeded
  rw [hwritten] at hwrite
  exact hslept ▸ hwrite.trans (Bench.gathers_sleep milliseconds w)

/-- **A turn that comes to its end** gathers what happens in it. -/
theorem Turned.gathers (h : Turned Bench.link s report t report' s') :
    Bench.Gathers s.heeded.world s.duringRound s'.world := by
  cases h with
  | held hrefusal hheld hslept =>
    have hwait := Bench.gathers_sleep s.config.pausePoll.toNat s.heeded.world
    rw [hslept] at hwait
    rw [duringRound_of_held hrefusal hheld]
    exact hwait
  | drained hrefusal hheld hempty =>
    have hnothing : s.duringRound = [] := by simp [duringRound, hrefusal, hheld, hempty]
    rw [hnothing]
    exact .aside rfl rfl rfl rfl
  | sent hrefusal hheld hne hwritten hslept | stalled hrefusal hheld hne hwritten hslept =>
    rw [duringRound_of_write hrefusal hheld hne, hwritten]
    exact gathers_behind hwritten hslept

/-- **A turn that halts** gathers what happens until then. -/
theorem Halted.gathers (h : Halted Bench.link s e s') :
    Bench.Gathers s.heeded.world s.duringRound s'.world := by
  cases h with
  | refused hrefusal =>
    have hnothing : s.duringRound = [] := by simp [duringRound, hrefusal]
    rw [hnothing]
    exact .aside rfl rfl rfl rfl
  | held hrefusal hheld hslept =>
    have hwait := Bench.gathers_sleep s.config.pausePoll.toNat s.heeded.world
    rw [hslept] at hwait
    rw [duringRound_of_held hrefusal hheld]
    exact hwait
  | unwritten hrefusal hheld hne hwritten =>
    have hwrite := gathers_writeNext s.heeded
    rw [hwritten] at hwrite
    rw [duringRound_of_write hrefusal hheld hne, hwritten, List.append_nil]
    exact hwrite
  | sent hrefusal hheld hne hwritten hslept | stalled hrefusal hheld hne hwritten hslept =>
    rw [duringRound_of_write hrefusal hheld hne, hwritten]
    exact gathers_behind hwritten hslept

end Session

/-- A round looks at the mailbox, and then there arrives what happens in it. -/
def Round.mailEvents (x : Round Bench Bytes) : List (MailEvent Bench Bytes) :=
  .polled x :: x.before.world.device.posts x.before.duringRound

namespace Session
variable {s s' : Session Bench Bytes} {report : TransferReport} {xs : List (Round Bench Bytes)}

theorem accounts_round (s : Session Bench Bytes) (turn : Option Turn) (s' : Session Bench Bytes) :
    Accounts s.world.mailbox (Round.mailEvents ⟨s, turn, s'⟩) [⟨s, turn, s'⟩] :=
  .polled rfl (Accounts.of_arrivals (fun _ => Bench.isArrival_of_mem_posts) _)

theorem mailbox_of_gathers (turn : Option Turn)
    (h : Bench.Gathers s.heeded.world s.duringRound s'.world) :
    s'.world.mailbox = s.world.mailbox.deliverAll (Round.mailEvents ⟨s, turn, s'⟩) :=
  h.mailbox_eq

/-- **The events of rounds account for them**, and leave the mailbox as they do. -/
theorem Runs.accounts (h : Runs Bench.link report s xs) :
    Accounts s.world.mailbox (xs.flatMap Round.mailEvents) xs ∧
      (xs.getLast?.elim s Round.after).world.mailbox =
        s.world.mailbox.deliverAll (xs.flatMap Round.mailEvents) := by
  induction h with
  | nil => exact ⟨.nil, rfl⟩
  | @halted report s e s' hturn =>
    rw [List.flatMap_singleton]
    exact ⟨accounts_round s none s', mailbox_of_gathers none (halted_of_turn hturn).gathers⟩
  | @ended report s t report' s' xs hturn _ _ ih =>
    obtain ⟨hrest, hend⟩ := ih
    have hmailbox := mailbox_of_gathers (some t) (turned_of_turn hturn).gathers
    rw [List.flatMap_cons, getLast?_elim_cons]
    refine ⟨(accounts_round s (some t) s').append (hmailbox ▸ hrest), ?_⟩
    rw [hend, hmailbox]
    simp only [Mailbox.deliverAll, List.foldl_append]

/-- The events of a round happen between its beginning and its end. -/
theorem inOrder_round (turn : Option Turn) (hs : s.world.OnTime)
    (h : Bench.Gathers s.heeded.world s.duringRound s'.world) :
    s'.world.OnTime ∧ MailEvent.InOrder (Round.mailEvents ⟨s, turn, s'⟩) ∧
      s.world.now ≤ s'.world.now ∧ ∀ e ∈ Round.mailEvents ⟨s, turn, s'⟩,
        s.world.now ≤ e.moment ∧ e.moment ≤ s'.world.now := by
  obtain ⟨hs', hbetween⟩ := h.between ⟨hs.sorted, hs.due⟩
  obtain ⟨horder, hbounds⟩ := Bench.posts_between (d := s.world.device) hbetween
  have hle : s.world.now ≤ s'.world.now := hbetween.le
  refine ⟨hs', List.pairwise_cons.2 ⟨fun e he => (hbounds e he).1, horder⟩, hle, fun e he => ?_⟩
  rcases List.mem_cons.1 he with rfl | he
  · exact ⟨Nat.le_refl _, hle⟩
  · exact hbounds e he

/-- **The events of rounds happen one after the other**, from the first look on. -/
theorem Runs.inOrder (h : Runs Bench.link report s xs) (hs : s.world.OnTime) :
    MailEvent.InOrder (xs.flatMap Round.mailEvents) ∧
      ∀ e ∈ xs.flatMap Round.mailEvents, s.world.now ≤ e.moment := by
  induction h with
  | nil => exact ⟨.nil, by simp⟩
  | halted hturn =>
    obtain ⟨-, horder, -, hbounds⟩ := inOrder_round none hs (halted_of_turn hturn).gathers
    rw [List.flatMap_singleton]
    exact ⟨horder, fun e he => (hbounds e he).1⟩
  | ended hturn _ _ ih =>
    obtain ⟨hs', horder, hle, hbounds⟩ := inOrder_round _ hs (turned_of_turn hturn).gathers
    obtain ⟨hrest, hlater⟩ := ih hs'
    rw [List.flatMap_cons]
    refine ⟨List.pairwise_append.2 ⟨horder, hrest, fun e he e' he' => ?_⟩, fun e he => ?_⟩
    · exact (hbounds e he).2.trans (hlater e' he')
    · rcases List.mem_append.1 he with he | he
      · exact (hbounds e he).1
      · exact hle.trans (hlater e he)

/-- The events of a transfer. -/
def transferEvents (turns : Nat) (s : Session Bench Bytes) : List (MailEvent Bench Bytes) :=
  (transferRounds Bench.link turns s).flatMap Round.mailEvents

/-- **What a device delivers in a transfer accounts for its rounds.** -/
theorem accounts_transfer (turns : Nat) (s : Session Bench Bytes) :
    Accounts s.world.mailbox (transferEvents turns s) (transferRounds Bench.link turns s) :=
  (runs_transferRounds turns s).accounts.1

theorem inOrder_transfer (turns : Nat) {s : Session Bench Bytes} (hs : s.world.OnTime) :
    MailEvent.InOrder (transferEvents turns s) :=
  ((runs_transferRounds turns s).inOrder hs).1

/-! ## All calls -/

/-- What is left in the mailbox for the rounds to come; a session that is not opened yet is going to
    begin its stream with the mailbox empty. -/
def leftover (s : Session Bench Bytes) : Mailbox :=
  if s.phase = .idle then .empty else s.world.mailbox

theorem leftover_of_ne (h : s.phase ≠ .idle) : s.leftover = s.world.mailbox := if_neg h

theorem leftover_of_streaming (h : s.phase = .streaming) : s.leftover = s.world.mailbox :=
  leftover_of_ne (by rw [h]; exact nofun)

/-- What arrives while the caller of a session that streams waits. -/
def pauseEvents (pause : Nat) (s : Session Bench Bytes) : List (MailEvent Bench Bytes) :=
  if s.phase = .streaming then
    s.world.device.posts (World.duringSleep pause { s.world with limit := s.world.now + pause })
  else []

theorem isArrival_of_mem_pauseEvents {pause : Nat} {e : MailEvent Bench Bytes}
    (h : e ∈ s.pauseEvents pause) : e.IsArrival := by
  unfold pauseEvents at h
  split at h
  · exact Bench.isArrival_of_mem_posts h
  · cases h

/-- The events of all calls, as far as they concern a stream. -/
def historyEvents : List Attempt → Session Bench Bytes → List (MailEvent Bench Bytes)
  | [], _ => []
  | a :: attempts, s =>
    let x := make Bench.link a.turns a.call (s.called a.pause a.limit)
    s.pauseEvents a.pause ++
      ((x.rounds Bench.link).flatMap Round.mailEvents ++ historyEvents attempts x.after)

theorem historyEvents_cons (a : Attempt) (attempts : List Attempt) (s : Session Bench Bytes) :
    historyEvents (a :: attempts) s = s.pauseEvents a.pause ++
      (((make Bench.link a.turns a.call (s.called a.pause a.limit)).rounds
          Bench.link).flatMap Round.mailEvents ++
        historyEvents attempts
          (make Bench.link a.turns a.call (s.called a.pause a.limit)).after) :=
  rfl

theorem leftover_called (pause limit : Nat) (h : ¬ s.Ended) :
    (s.called pause limit).leftover = s.leftover.deliverAll (s.pauseEvents pause) := by
  by_cases hidle : s.phase = .idle
  · have hnot : s.phase ≠ .streaming := by rw [hidle]; exact nofun
    unfold leftover pauseEvents
    rw [if_pos (show (s.called pause limit).phase = .idle from hidle), if_pos hidle, if_neg hnot]
    rfl
  · have hstreaming : s.phase = .streaming := by
      by_contra hnot
      exact h ⟨hidle, hnot⟩
    have hlimited : Bench.Gathers s.world [] { s.world with limit := s.world.now + pause } :=
      .aside rfl rfl rfl rfl
    have hslept := hlimited.trans
      (Bench.gathers_sleep pause { s.world with limit := s.world.now + pause })
    rw [leftover_of_ne hidle, leftover_of_ne (show (s.called pause limit).phase ≠ .idle from hidle)]
    unfold pauseEvents
    rw [if_pos hstreaming]
    exact hslept.mailbox_eq

theorem leftover_transfer (turns : Nat) (h : s.phase = .streaming) :
    (endState (transfer Bench.link turns s)).leftover =
      s.world.mailbox.deliverAll (transferEvents turns s) := by
  rw [leftover_of_ne (phase_transfer_ne turns h)]
  obtain ⟨phase, hend⟩ := endState_transfer turns s
  rw [hend]
  exact (runs_transferRounds turns s).accounts.2

/-- The events account for the rounds; and unless the session has ended, the mailbox is left for
    those to come as the events have left it. -/
def Balances (s : Session Bench Bytes) (es : List (MailEvent Bench Bytes))
    (xs : List (Round Bench Bytes)) (s' : Session Bench Bytes) : Prop :=
  Accounts s.leftover es xs ∧ (s'.Ended ∨ s'.leftover = s.leftover.deliverAll es)

theorem balances_of_leftover (h : s'.leftover = s.leftover) : Balances s [] [] s' :=
  ⟨.nil, Or.inr h⟩

theorem balances_transfer (turns : Nat) (h : s.phase = .streaming) :
    Balances s (transferEvents turns s) (transferRounds Bench.link turns s)
      (endState (transfer Bench.link turns s)) := by
  unfold Balances
  rw [leftover_of_streaming h]
  exact ⟨accounts_transfer turns s, Or.inr (leftover_transfer turns h)⟩

theorem balances_start (turns : Nat) (h : s.phase = .idle) :
    Balances s [] [] (endState (start Bench.link turns s)) := by
  cases hstart : start Bench.link turns s with
  | error e s' => exact ⟨.nil, Or.inl (ended_of_start_error h hstart)⟩
  | ok u s' =>
    obtain ⟨hphase, hmailbox⟩ := mailbox_of_start hstart
    refine balances_of_leftover ?_
    show s'.leftover = s.leftover
    rw [leftover_of_streaming hphase, hmailbox]
    exact (if_pos h).symm

/-- A whole session balances as its stream does. -/
theorem balances_run (turns : Nat) (h : s.phase = .idle) :
    Balances s ((runRounds Bench.link turns s).flatMap Round.mailEvents)
      (runRounds Bench.link turns s) (endState (run Bench.link turns s)) := by
  have hstarted := balances_start turns h
  cases hstart : start Bench.link turns s with
  | error e s₁ =>
    have hnone : runRounds Bench.link turns s = [] := by
      unfold runRounds
      rw [hstart]
    have hrun : run Bench.link turns s = .error e s₁ := bind_eq_error.2 (Or.inl hstart)
    rw [hstart] at hstarted
    rw [hnone, hrun]
    exact hstarted
  | ok u s₁ =>
    obtain ⟨hphase, hmailbox⟩ := mailbox_of_start hstart
    have hrounds : runRounds Bench.link turns s = transferRounds Bench.link turns s₁ := by
      rw [runRounds_of_start hstart, transferRounds, if_pos hphase]
    have hleft : s.leftover = s₁.leftover := by
      rw [leftover_of_streaming hphase, hmailbox]
      exact if_pos h
    obtain ⟨haccounts, hend⟩ := balances_transfer turns hphase
    unfold Balances run
    rw [hrounds, hleft, bind_of_ok hstart]
    refine ⟨haccounts, ?_⟩
    cases htransfer : transfer Bench.link turns s₁ with
    | error e s₂ =>
      rw [htransfer] at hend
      rw [bind_eq_error.2 (Or.inl htransfer)]
      exact hend
    | ok report s₂ =>
      obtain ⟨-, _, s₃, -, -, rfl⟩ := transfer_eq_ok htransfer
      have hended : Ended { s₃ with phase := .committing } := ended_of_committing rfl
      rw [bind_of_ok htransfer, endState_bind_pure]
      exact Or.inl hended.commit

/-- The events of a call account for its rounds. -/
theorem balances_make (turns : Nat) (call : Call) (s : Session Bench Bytes) :
    Balances s (((make Bench.link turns call s).rounds Bench.link).flatMap Round.mailEvents)
      ((make Bench.link turns call s).rounds Bench.link) (make Bench.link turns call s).after := by
  by_cases hdue : s.phase = call.due
  case neg =>
    rw [rounds_make_of_ne hdue, after_make_of_ne hdue]
    exact balances_of_leftover rfl
  cases call with
  | start =>
    show Balances s [] []
      (endState ((do let _ ← start Bench.link turns; pure none : Step Bench Bytes _) s))
    rw [endState_bind_pure]
    exact balances_start turns hdue
  | transfer =>
    show Balances s _ _ (endState ((some <$> transfer Bench.link turns) s))
    rw [endState_map]
    exact balances_transfer turns hdue
  | commit =>
    exact ⟨.nil, Or.inl (ended_make Bench.link turns .commit (ended_of_committing hdue)).2⟩
  | run =>
    show Balances s _ _ (endState ((some <$> run Bench.link turns) s))
    rw [endState_map]
    exact balances_run turns hdue

theorem historyEvents_of_ended {attempts : List Attempt} (h : s.Ended) :
    historyEvents attempts s = [] := by
  induction attempts generalizing s with
  | nil => rfl
  | cons a attempts ih =>
    obtain ⟨hrounds, hended⟩ := ended_make Bench.link a.turns a.call
      (show (s.called a.pause a.limit).Ended from h)
    have hpause : s.pauseEvents a.pause = [] := if_neg h.2
    rw [historyEvents_cons, hpause, hrounds, ih hended]
    rfl

theorem accounts_leftover (attempts : List Attempt) (s : Session Bench Bytes) :
    Accounts s.leftover (historyEvents attempts s) (historyRounds Bench.link attempts s) := by
  induction attempts generalizing s with
  | nil => exact .nil
  | cons a attempts ih =>
    by_cases hended : s.Ended
    · rw [historyEvents_of_ended hended, historyRounds_of_ended hended]
      exact .nil
    have hpause : Accounts s.leftover (s.pauseEvents a.pause) [] :=
      Accounts.of_arrivals (fun _ => isArrival_of_mem_pauseEvents) _
    obtain ⟨hcall, hlater⟩ := balances_make a.turns a.call (s.called a.pause a.limit)
    rw [leftover_called a.pause a.limit hended] at hcall hlater
    rw [historyEvents_cons, historyRounds_cons]
    refine hpause.append (hcall.append ?_)
    rcases hlater with hended | hleft
    · rw [historyEvents_of_ended hended, historyRounds_of_ended hended]
      exact .nil
    · rw [← hleft]
      exact ih _

/-- **What a device delivers accounts for the rounds of all calls** on a session that is not opened
    yet or streams. -/
theorem accounts_history (attempts : List Attempt) {s : Session Bench Bytes}
    (h : s.phase = .idle → s.world.mailbox = .empty) :
    Accounts s.world.mailbox (historyEvents attempts s) (historyRounds Bench.link attempts s) := by
  have hleft : s.leftover = s.world.mailbox := by
    unfold leftover
    split
    · next hidle => exact (h hidle).symm
    · rfl
  exact hleft ▸ accounts_leftover attempts s

end Session

end AirUpdate
