/-
  Air updates — what a bench device writes down.

  A write to a bench device is let pass, may hang, and then fails or comes to
  its end (`Bench.write_eq`); it is written down exactly if it comes to its end
  (`Bench.ends_write`).  So in a round of a stream the device writes down the
  next fragment or nothing (`Session.Runs.written?_mem`), and what it has
  written down at the end is what the rounds have added, in order
  (`Session.writes_transfer`).
-/
import AirUpdate.Bench
import AirUpdate.Proofs.Calls
import AirUpdate.Proofs.Ends
import Mathlib.Data.List.Basic

namespace AirUpdate

/-- A write was cut, or the link failed it. -/
def Halt.OfLink (e : Halt) : Prop := e = .cut ∨ ∃ error, e = .failed (.link error)

namespace Bench
variable {log : List BenchWrite} {characteristic : Uuid} {data : Bytes} {mode : WriteMode}

/-! ## The stages of a write -/

/-- The device lets a write pass or refuses it. -/
def permit (characteristic : Uuid) (data : Bytes) : Act Bench Bytes Unit :=
  match operation? characteristic data with
  | some operation => allow operation
  | none => pure ()

/-- A write hangs for a while, if it is one of those that do. -/
def hang (characteristic : Uuid) (data : Bytes) : Act Bench Bytes Unit := do
  let found ← World.seen fun d : Bench => d.stalls.onWrite characteristic data
  World.onDevice fun d => { d with stalls := found.2 }
  if found.1 then World.sleep stallTime else pure ()

/-- A write fails or comes to its end. -/
def finish (characteristic : Uuid) (data : Bytes) (mode : WriteMode) : Act Bench Bytes Unit := do
  let broken ← World.seen fun d : Bench => d.brokenFragment
  if characteristic = Uuid.binaryStream ∧ data.head? = broken then
    World.fail (.link .notConnected)
  else complete characteristic data mode

theorem write_eq : write characteristic data mode = (do
    permit characteristic data
    hang characteristic data
    finish characteristic data mode) := by
  unfold write permit hang finish
  cases operation? characteristic data with
  | none =>
    simp only [bind_assoc, pure_bind]
    refine congrArg _ (funext fun found => congrArg _ (funext fun _ => ?_))
    split <;> simp only [pure_bind]
  | some operation =>
    simp only [bind_assoc]
    refine congrArg _ (funext fun _ => congrArg _ (funext fun found => congrArg _ ?_))
    funext _
    split <;> simp only [pure_bind]

/-! ## What is written down -/

/-- The writes that came to their end, the latest first, are these. -/
def Logged (log : List BenchWrite) (d : Bench) (_ : Mailbox) : Prop := d.log = log

theorem keeps_logged (log : List BenchWrite) : Peer.Keeps (A := Bytes) (Logged log) where
  settle _ _ h := h
  perform a d m h := by
    simp only [Peer.perform]
    split
    · exact h
    · exact h

theorem ends_allow (operation : BenchOperation) :
    Ends (World.Has (Logged log)) (allow operation) (fun _ => World.Has (Logged log))
      (fun e w => e.OfLink ∧ w.Has (Logged log)) := by
  intro w hw
  unfold allow
  cases w.device.refusal? operation with
  | none =>
    constructor
    · intro _ w' h
      cases h; exact hw
    · intro e w' h
      cases h
  | some error =>
    constructor
    · intro _ w' h
      cases h
    · intro e w' h
      cases h; exact ⟨Or.inr ⟨.radio error, rfl⟩, hw⟩

theorem ends_permit :
    Ends (World.Has (Logged log)) (permit characteristic data) (fun _ => World.Has (Logged log))
      (fun e w => e.OfLink ∧ w.Has (Logged log)) := by
  unfold permit
  split
  · exact ends_allow _
  · exact ends_pure fun _ h => h

theorem ends_hang :
    Ends (World.Has (Logged log)) (hang characteristic data) (fun _ => World.Has (Logged log))
      (fun e w => e.OfLink ∧ w.Has (Logged log)) := by
  unfold hang
  refine World.ends_seen.bind fun found => ?_
  refine Ends.bind (Q := fun _ => World.Has (Logged log)) ?_ fun _ => ?_
  · refine Ends.pre (P := World.Has (Logged log)) (World.ends_onDevice ?_) fun _ h => h.2
    exact fun _ _ h => h
  split
  · exact (World.ends_sleep (keeps_logged log)).imp (fun _ _ h => h) fun _ _ h => ⟨Or.inl h.1, h.2⟩
  · exact ends_pure fun _ h => h

theorem ends_complete :
    Ends (World.Has (Logged log)) (complete characteristic data mode)
      (fun _ => World.Has fun d _ => ∃ m, d.log = ⟨m, characteristic, data, mode⟩ :: log)
      (fun e w => e.OfLink ∧ w.Has (Logged log)) := by
  intro w hw
  constructor
  · intro _ w' h
    cases h
    have hlog : w.device.log = log := hw
    refine ⟨w.now, World.has_react (keeps_logged _) _ ?_⟩
    show _ :: w.device.log = _
    rw [hlog]
  · intro e w' h
    cases h

theorem ends_finish :
    Ends (World.Has (Logged log)) (finish characteristic data mode)
      (fun _ => World.Has fun d _ => ∃ m, d.log = ⟨m, characteristic, data, mode⟩ :: log)
      (fun e w => e.OfLink ∧ w.Has (Logged log)) := by
  unfold finish
  refine World.ends_seen.bind fun broken => ?_
  split
  · exact ends_throw fun _ h => ⟨Or.inr ⟨.notConnected, rfl⟩, h.2⟩
  · exact ends_complete.pre fun _ h => h.2

/-- **A write is written down exactly if it comes to its end.** -/
theorem ends_write (characteristic : Uuid) (data : Bytes) (mode : WriteMode) :
    Ends (World.Has (Logged log)) (write characteristic data mode)
      (fun _ => World.Has fun d _ => ∃ m, d.log = ⟨m, characteristic, data, mode⟩ :: log)
      (fun e w => e.OfLink ∧ w.Has (Logged log)) := by
  rw [write_eq]
  exact ends_permit.bind fun _ => ends_hang.bind fun _ => ends_finish

end Bench

/-! ## Rounds -/

namespace Session
variable {s s' : Session Bench Bytes} {report report' : TransferReport} {t : Turn} {e : Halt}
  {log : List BenchWrite}

/-- The write of the next fragment, as the device writes it down. -/
def entry (s : Session Bench Bytes) (moment : Nat) : BenchWrite :=
  ⟨moment, .binaryStream, s.next.toBytes, .command⟩

theorem ends_writeNext : Ends (World.Has (Bench.Logged log)) (s.writeNext Bench.link)
    (fun a w => (a.isSome = true → w.Has fun d _ => ∃ m, d.log = s.entry m :: log) ∧
      (a = none → w.Has (Bench.Logged log)))
    (fun e w => e.OfLink ∧ w.Has (Bench.Logged log)) := by
  have hwrite : Ends (World.Has (Bench.Logged log))
      (Bench.link.write .binaryStream s.next.toBytes .command)
      (fun _ => World.Has fun d _ => ∃ m, d.log = s.entry m :: log)
      (fun e w => e.OfLink ∧ w.Has (Bench.Logged log)) :=
    Bench.ends_write .binaryStream s.next.toBytes .command
  refine (World.ends_within (Bench.keeps_logged log) hwrite).imp (fun _ _ h => h) ?_
  rintro e w ⟨he | he, hw⟩
  · exact ⟨he, hw⟩
  · exact ⟨Or.inl he, hw⟩

section
variable {w w' : World Bench Bytes}

theorem log_of_sleep {milliseconds : Nat} (h : World.sleep milliseconds w = .ok () w') :
    w'.device.log = w.device.log :=
  (World.ends_sleep (Bench.keeps_logged w.device.log) w rfl).1 () w' h

theorem log_of_sleep_error {milliseconds : Nat} (h : World.sleep milliseconds w = .error e w') :
    w'.device.log = w.device.log :=
  ((World.ends_sleep (Bench.keeps_logged w.device.log) w rfl).2 e w' h).2

end

/-- A turn that comes to its end writes down the fragment that it sends. -/
theorem Turned.log_eq (h : Turned Bench.link s report t report' s') :
    t.sends = true ∧ (∃ m, s'.world.device.log = s.heeded.entry m :: s.world.device.log) ∨
      t.sends = false ∧ s'.world.device.log = s.world.device.log := by
  cases h with
  | held _ _ hslept =>
    have hlog := log_of_sleep hslept
    exact Or.inr ⟨rfl, hlog⟩
  | drained => exact Or.inr ⟨rfl, rfl⟩
  | sent _ _ _ hwritten hslept ht =>
    have hsends : t.sends = true := by rw [ht]; split <;> rfl
    obtain ⟨m, hlog⟩ := ((ends_writeNext s.heeded.world rfl).1 _ _ hwritten).1 rfl
    exact Or.inl ⟨hsends, m, (log_of_sleep hslept).trans hlog⟩
  | stalled _ _ _ hwritten hslept =>
    have hlog := ((ends_writeNext s.heeded.world rfl).1 _ _ hwritten).2 rfl
    exact Or.inr ⟨rfl, (log_of_sleep hslept).trans hlog⟩

/-- A turn that halts has written down the next fragment, if it halts in the pause
    behind the write, and nothing otherwise. -/
theorem Halted.log_eq (h : Halted Bench.link s e s') :
    (s.CutBehindWrite Bench.link s' ∧ s.heeded.next.payload ≠ [] ∧
        ∃ m, s'.world.device.log = s.heeded.entry m :: s.world.device.log) ∨
      s'.world.device.log = s.world.device.log := by
  cases h with
  | refused => exact Or.inr rfl
  | held _ _ hslept =>
    have hlog := log_of_sleep_error hslept
    exact Or.inr hlog
  | unwritten _ _ _ hwritten =>
    exact Or.inr ((ends_writeNext s.heeded.world rfl).2 _ _ hwritten).2
  | sent _ _ hne hwritten hslept =>
    obtain ⟨m, hlog⟩ := ((ends_writeNext s.heeded.world rfl).1 _ _ hwritten).1 rfl
    have hcut := World.sleep_eq_error hslept
    exact Or.inl ⟨⟨_, _, hwritten, hcut ▸ hslept, rfl⟩, hne, m,
      (log_of_sleep_error hslept).trans hlog⟩
  | stalled _ _ _ hwritten hslept =>
    have hlog := ((ends_writeNext s.heeded.world rfl).1 _ _ hwritten).2 rfl
    exact Or.inr ((log_of_sleep_error hslept).trans hlog)

end Session

/-- The write that came to its end in the round, as the device wrote it down. -/
def Round.written? (x : Round Bench Bytes) : Option BenchWrite :=
  if x.before.world.device.log.length < x.after.world.device.log.length then
    x.after.world.device.log.head?
  else none

namespace Round
variable {x : Round Bench Bytes} {w : BenchWrite}

theorem written?_of_log_eq (h : x.after.world.device.log = x.before.world.device.log) :
    x.written? = none := by
  unfold written?
  rw [h, if_neg (Nat.lt_irrefl _)]

theorem written?_of_log_cons (h : x.after.world.device.log = w :: x.before.world.device.log) :
    x.written? = some w := by
  unfold written?
  rw [h, List.length_cons, if_pos (Nat.lt_succ_self _)]
  rfl

end Round

namespace Session
variable {s s' : Session Bench Bytes} {report report' : TransferReport}
  {xs : List (Round Bench Bytes)} {x : Round Bench Bytes}

/-- **In a round the device writes down the next fragment**, if the turn sends it or
    halts behind the write, and nothing otherwise. -/
theorem Runs.written?_mem (h : Runs Bench.link report s xs) (hx : x ∈ xs) :
    (∃ m, x.written? = some (x.before.heeded.entry m) ∧
        x.after.world.device.log = x.before.heeded.entry m :: x.before.world.device.log) ∧
      x.before.heeded.next.payload ≠ [] ∧ x.turn.all Turn.sends = true ∨
    (x.written? = none ∧ x.after.world.device.log = x.before.world.device.log) ∧
      x.turn.any Turn.sends = false := by
  cases ht : x.turn with
  | none =>
    obtain ⟨e, hhalted⟩ := h.halted_mem hx ht
    rcases hhalted.log_eq with ⟨-, hne, m, hlog⟩ | hlog
    · exact Or.inl ⟨⟨m, Round.written?_of_log_cons hlog, hlog⟩, hne, rfl⟩
    · exact Or.inr ⟨⟨Round.written?_of_log_eq hlog, hlog⟩, rfl⟩
  | some t =>
    obtain ⟨_, _, hturned⟩ := h.turned_mem hx ht
    rcases hturned.log_eq with ⟨hsends, m, hlog⟩ | ⟨hsends, hlog⟩
    · have hne := payload_ne_of_attempt? (hturned.attempt?_of_sends hsends)
      exact Or.inl ⟨⟨m, Round.written?_of_log_cons hlog, hlog⟩, hne, hsends⟩
    · exact Or.inr ⟨⟨Round.written?_of_log_eq hlog, hlog⟩, hsends⟩

/-- A round that halts with the fragment written down halts in the pause behind that. -/
theorem Runs.cutBehindWrite (h : Runs Bench.link report s xs) (hx : x ∈ xs) (ht : x.turn = none)
    (hwritten : x.written?.isSome = true) : x.before.CutBehindWrite Bench.link x.after := by
  obtain ⟨e, hhalted⟩ := h.halted_mem hx ht
  rcases hhalted.log_eq with ⟨hcut, -⟩ | hlog
  · exact hcut
  · rw [Round.written?_of_log_eq hlog] at hwritten
    cases hwritten

/-- What the device has written down after a round. -/
theorem Runs.writes_after (h : Runs Bench.link report s xs) (hx : x ∈ xs) :
    x.after.world.device.writes = x.before.world.device.writes ++ x.written?.toList := by
  unfold Bench.writes
  rcases h.written?_mem hx with ⟨⟨m, hwritten, hlog⟩, -⟩ | ⟨⟨hwritten, hlog⟩, -⟩
  · rw [hwritten, hlog, List.reverse_cons]; rfl
  · rw [hwritten, hlog]; simp

theorem Runs.writes_end (h : Runs Bench.link report s xs) :
    (xs.getLast?.elim s Round.after).world.device.writes =
      s.world.device.writes ++ xs.filterMap Round.written? := by
  rw [List.filterMap_eq_flatMap_toList]
  induction h with
  | nil => simp
  | @halted report s e s' hturn =>
    have hafter := (Runs.halted hturn).writes_after (List.mem_singleton_self _)
    simpa using hafter
  | @ended report s t report' s' xs hturn hlast hruns ih =>
    have hafter := (Runs.ended hturn hlast hruns).writes_after (List.mem_cons_self)
    simp only at hafter
    rw [List.flatMap_cons, ← List.append_assoc, ← hafter, ← ih, getLast?_elim_cons]

/-- Nothing is written while the caller waits. -/
theorem log_called (s : Session Bench Bytes) (pause limit : Nat) :
    (s.called pause limit).world.device.log = s.world.device.log :=
  World.keeps_sleep (Bench.keeps_logged s.world.device.log) pause
    { s.world with limit := s.world.now + pause } rfl

/-- **A transfer adds to the log what its rounds add**, in order, however it ends. -/
theorem writes_transfer (turns : Nat) (s : Session Bench Bytes) :
    (endState (transfer Bench.link turns s)).world.device.writes =
      s.world.device.writes ++ (transferRounds Bench.link turns s).filterMap Round.written? := by
  have hruns : Runs Bench.link .empty s _ := runs_transferRounds turns s
  obtain ⟨phase, hend⟩ := endState_transfer turns s
  rw [hend]
  exact hruns.writes_end

end Session

end AirUpdate
