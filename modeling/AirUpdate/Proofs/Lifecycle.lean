/-
  Air updates — the life of a session.

  A call that is due takes the session along
  idle → starting → streaming → committing → closed, or to failed if the call
  fails (`Reached`), and the device has then written down what a session in that
  phase may have written (`Written`).
  `Ends` says so of each call in turn (`ends_start`, `ends_transfer`,
  `ends_commit`, `ends_run`), and `ends_perform` of them all.
-/
import AirUpdate.Proofs.BenchLog
import AirUpdate.Proofs.Calls
import Mathlib.Logic.Relation

namespace AirUpdate

/-! ## Errors -/

/-- An error that may fail a session. -/
inductive UpdateError.EndsSession : UpdateError → Prop
  | link (error : LinkError) : EndsSession (.link error)
  | handshakeTimeout (attempts : Nat) : EndsSession (.handshakeTimeout attempts)
  | deviceStatus (status : Status) : EndsSession (.deviceStatus status)

/-- A call may halt so when it is due. -/
def Halt.Regular (e : Halt) : Prop := ∀ error, e = .failed error → error.EndsSession

theorem Halt.regular_cut : Halt.cut.Regular := by
  intro error h
  cases h

theorem Halt.regular_failed {error : UpdateError} (h : error.EndsSession) :
    (Halt.failed error).Regular := by
  intro error' he
  cases he; exact h

theorem Halt.OfLink.regular {e : Halt} (h : e.OfLink) : e.Regular := by
  rcases h with rfl | ⟨error, rfl⟩
  · exact Halt.regular_cut
  · exact Halt.regular_failed (.link error)

/-! ## Phases -/

/-- What may be the next phase of a session. -/
inductive Phase.Next : Phase → Phase → Prop
  | starts : Next .idle .starting
  | streams : Next .starting .streaming
  | commits : Next .streaming .committing
  | closes : Next .committing .closed
  | fails {p : Phase} (hp : p = .starting ∨ p = .streaming ∨ p = .committing) (f : Failure) :
      Next p (.failed f)

/-- A session may get from one phase to the other. -/
def Phase.Leads : Phase → Phase → Prop := Relation.ReflTransGen Phase.Next

/-! ## Writes -/

/-- The write asks the device for this, and for an answer. -/
structure BenchWrite.Asks (op : Control) (w : BenchWrite) : Prop where
  characteristic_eq : w.characteristic = .control
  data_eq : w.data = [op.toByte]
  mode_eq : w.mode = .request

/-- The write is that of a fragment. -/
def BenchWrite.OnStream (w : BenchWrite) : Prop := w.characteristic = .binaryStream

/-- What a session that got to this phase may have written: START, then fragments,
    and COMMIT in the end. -/
inductive Written : Phase → List BenchWrite → Prop
  | nothing {p : Phase} : p = .idle ∨ p = .starting ∨ (∃ f, p = .failed f) → Written p []
  | opened {p : Phase} {start : BenchWrite} {fragments : List BenchWrite} :
      p ≠ .idle → p ≠ .closed → start.Asks .start → (∀ w ∈ fragments, w.OnStream) →
      Written p (start :: fragments)
  | closed {start commit : BenchWrite} {fragments : List BenchWrite} :
      start.Asks .start → (∀ w ∈ fragments, w.OnStream) → commit.Asks .commit →
      Written .closed (start :: fragments ++ [commit])

namespace Written
variable {p : Phase} {ws fragments : List BenchWrite} {w : BenchWrite}

theorem eq_nil (h : Written .idle ws) : ws = [] := by
  cases h with
  | nothing => rfl
  | opened hidle => exact absurd rfl hidle

theorem failed (h : Written p ws) (hp : p ≠ .closed) (f : Failure) : Written (.failed f) ws := by
  cases h with
  | nothing => exact .nothing (Or.inr (Or.inr ⟨f, rfl⟩))
  | opened _ _ hstart hfragments => exact .opened nofun nofun hstart hfragments
  | closed => exact absurd rfl hp

/-- A session that streams or commits has written START and fragments only. -/
theorem exists_opened (h : Written p ws) (hp : p = .streaming ∨ p = .committing) :
    ∃ start fragments, ws = start :: fragments ∧ start.Asks .start ∧
      ∀ w ∈ fragments, w.OnStream := by
  cases h with
  | nothing hp' => rcases hp with rfl | rfl <;> simp at hp'
  | opened _ _ hstart hfragments => exact ⟨_, _, rfl, hstart, hfragments⟩
  | closed => simp at hp

end Written

namespace Session

/-! ## Calls -/

namespace Call

/-- The phase in which the call leaves the session when it comes to its end. -/
def done : Call → Phase
  | start => .streaming
  | transfer => .committing
  | commit | run => .closed

/-- The phases in which the call may halt. -/
def during : Call → List Phase
  | start => [.starting]
  | transfer => [.streaming]
  | commit => [.committing]
  | run => [.starting, .streaming, .committing]

theorem leads_during {c : Call} {p : Phase} (hp : p ∈ c.during) :
    c.due.Leads p := by
  have hstarting : Phase.Leads .idle .starting := Relation.ReflTransGen.single .starts
  have hstreaming : Phase.Leads .idle .streaming := Relation.ReflTransGen.tail hstarting .streams
  have hcommitting : Phase.Leads .idle .committing := Relation.ReflTransGen.tail hstreaming .commits
  cases c with
  | start =>
    rw [List.mem_singleton.1 hp]
    exact hstarting
  | transfer =>
    rw [List.mem_singleton.1 hp]
    exact Relation.ReflTransGen.refl
  | commit =>
    rw [List.mem_singleton.1 hp]
    exact Relation.ReflTransGen.refl
  | run =>
    simp only [during, List.mem_cons, List.not_mem_nil, or_false] at hp
    rcases hp with rfl | rfl | rfl
    · exact hstarting
    · exact hstreaming
    · exact hcommitting

/-- The call is at its end one phase after the last in which it may halt. -/
theorem next_done (c : Call) : ∃ p ∈ c.during, p.Next c.done := by
  cases c with
  | start => exact ⟨.starting, by simp [during], .streams⟩
  | transfer => exact ⟨.streaming, by simp [during], .commits⟩
  | commit => exact ⟨.committing, by simp [during], .closes⟩
  | run => exact ⟨.committing, by simp [during], .closes⟩

theorem mem_during {c : Call} {p : Phase} (hp : p ∈ c.during) :
    p = .starting ∨ p = .streaming ∨ p = .committing := by
  cases c <;> simp [during] at hp <;> simp [hp]

end Call

/-- The phase in which a call that was due leaves the session, from how it ended: a
    session that an error ended is failed for that, and one whose call was given
    up stays where it was. -/
inductive Reached (c : Call) : Option Halt → Phase → Prop
  | done : Reached c none c.done
  | failed (error : UpdateError) : Reached c (some (.failed error)) (.failed error.failure)
  | left {e : Halt} {p : Phase} : (∀ error, e ≠ .failed error) → p ∈ c.during →
      Reached c (some e) p

namespace Reached
variable {c d : Call} {halt : Option Halt} {e : Halt} {p : Phase}

theorem failed_iff (h : Reached c halt p) (f : Failure) :
    p = .failed f ↔ ∃ error, halt = some (.failed error) ∧ error.failure = f := by
  cases h with
  | done =>
    constructor
    · intro h
      cases c <;> cases h
    · rintro ⟨_, h, -⟩
      cases h
  | failed error =>
    constructor
    · intro h
      cases h; exact ⟨error, rfl, rfl⟩
    · rintro ⟨_, h, rfl⟩
      cases h; rfl
  | left hleft hp =>
    constructor
    · rintro rfl
      rcases Call.mem_during hp with h | h | h <;> cases h
    · rintro ⟨error, h, -⟩
      cases h; exact absurd rfl (hleft error)

theorem leads (h : Reached c halt p) : c.due.Leads p := by
  obtain ⟨q, hq, hdone⟩ := c.next_done
  cases h with
  | done => exact Relation.ReflTransGen.tail (Call.leads_during hq) hdone
  | failed error =>
    exact Relation.ReflTransGen.tail (Call.leads_during hq) (.fails (Call.mem_during hq) _)
  | left _ hp => exact Call.leads_during hp

theorem of_during (h : Reached c (some e) p) (hsub : ∀ q ∈ c.during, q ∈ d.during) :
    Reached d (some e) p := by
  cases h with
  | failed error => exact .failed error
  | left hleft hp => exact .left hleft (hsub _ hp)

/-- A session gets to COMMIT by a stream that comes to its end. -/
theorem closing (h : Reached c halt p) (hp : p = .committing ∨ p = .closed) :
    c = .transfer ∧ halt = none ∨ c = .commit ∨ c = .run := by
  cases h with
  | done => cases c <;> simp [Call.done] at hp ⊢
  | failed => simp at hp
  | left _ hduring => cases c <;> simp_all [Call.during]

/-- A step that halts a call leaves the session so, once it is settled. -/
theorem of_settled {s : Session Bench Bytes} (e : Halt) (hp : s.phase ∈ c.during) :
    Reached c (some e) (s.settled e).phase := by
  cases e with
  | failed error => exact .failed error
  | cut | exhausted => exact .left nofun hp

end Reached

/-! ## The stages -/

/-- A turn of a stream halts as a call may. -/
theorem Halted.regular {s s' : Session Bench Bytes} {e : Halt} (h : Halted Bench.link s e s') :
    e.Regular := by
  cases h with
  | refused => exact Halt.regular_failed (.deviceStatus _)
  | unwritten _ _ _ hwritten =>
    have hlogged : s.heeded.world.Has (Bench.Logged s.heeded.world.device.log) := rfl
    exact ((ends_writeNext s.heeded.world hlogged).2 _ _ hwritten).1.regular
  | held _ _ hslept | sent _ _ _ _ hslept | stalled _ _ _ _ hslept =>
    rw [World.sleep_eq_error hslept]
    exact Halt.regular_cut

/-- A session in this phase, whose device has written this down, the latest first. -/
abbrev Logs (phase : Phase) (log : List BenchWrite) : Session Bench Bytes → Prop :=
  Stands phase (World.Has (Bench.Logged log))

section
variable {phase : Phase} {log : List BenchWrite}

theorem ends_awaitXon (waits timeouts : Nat) :
    Ends (Logs phase log) (awaitXon waits timeouts) (fun _ => Logs phase log)
      (fun e s => e.Regular ∧ s.Logs phase log) := by
  induction waits generalizing timeouts with
  | zero => exact ends_throw fun _ h => ⟨nofun, h⟩
  | succ waits ih =>
    refine ends_get.bind fun s => Ends.pre ?_ fun _ h => h.2
    refine Ends.bind ((ends_onWorld (World.ends_receiveWithin (Bench.keeps_logged log)
      fun _ _ h => h)).imp (fun _ _ h => h) ?_) fun value => ?_
    · rintro e s' ⟨hphase, rfl, hlog⟩
      exact ⟨Halt.regular_cut, hphase, hlog⟩
    cases value with
    | some value =>
      simp only
      split
      · exact ends_pure fun _ h => h
      · exact ih timeouts
    | none =>
      simp only
      split
      · exact ends_throw fun _ h => ⟨Halt.regular_failed (.handshakeTimeout _), h⟩
      · exact ih (timeouts + 1)

theorem ends_ask (op : Control) :
    Ends (Logs phase log) (onWorld (Bench.link.write .control [op.toByte] .request))
      (fun _ s => ∃ w, w.Asks op ∧ s.Logs phase (w :: log))
      (fun e s => e.Regular ∧ s.Logs phase log) := by
  refine (ends_onWorld (Bench.ends_write .control [op.toByte] .request)).imp ?_ ?_
  · rintro _ s ⟨hphase, m, hlog⟩
    exact ⟨⟨m, .control, [op.toByte], .request⟩, ⟨rfl, rfl, rfl⟩, hphase, hlog⟩
  · rintro e s ⟨hphase, he, hlog⟩
    exact ⟨he.regular, hphase, hlog⟩

theorem ends_handshake (waits : Nat) :
    Ends (Logs phase log) (handshake Bench.link waits)
      (fun _ s => ∃ w, w.Asks .start ∧ s.Logs phase (w :: log))
      (fun e s => e.Regular ∧
        (s.Logs phase log ∨ ∃ w, w.Asks .start ∧ s.Logs phase (w :: log))) := by
  have hsubscribe : Ends (World.Has (Bench.Logged log)) (Bench.link.subscribe .status)
      (fun _ => World.Has (Bench.Logged log))
      (fun e w => e.OfLink ∧ w.Has (Bench.Logged log)) :=
    (Bench.ends_allow .subscribe).bind fun _ => World.ends_onDevice fun _ _ h => h
  refine Ends.bind ((ends_onWorld hsubscribe).imp (fun _ _ h => h) ?_) fun _ => ?_
  · rintro e s ⟨hphase, he, hlog⟩
    exact ⟨he.regular, Or.inl ⟨hphase, hlog⟩⟩
  refine Ends.bind ((ends_ask .start).imp (fun _ _ h => h) ?_) fun _ => ?_
  · rintro e s ⟨he, hlog⟩
    exact ⟨he, Or.inl hlog⟩
  refine Ends.exists_pre fun w s hs => ?_
  obtain ⟨hw, hs⟩ := hs
  obtain ⟨hok, herror⟩ := ends_awaitXon waits 0 s hs
  constructor
  · intro a s' h
    exact ⟨w, hw, hok a s' h⟩
  · intro e s' h
    obtain ⟨he, hlog⟩ := herror e s' h
    exact ⟨he, Or.inr ⟨w, hw, hlog⟩⟩

end

/-- The device has written down since `base` what a session in this phase may write. -/
def Wrote (base : List BenchWrite) (s : Session Bench Bytes) : Prop :=
  ∃ new, s.world.device.writes = base ++ new ∧ Written s.phase new

/-- How a call that was due halts. -/
def Halts (c : Call) (base : List BenchWrite) (e : Halt) (s : Session Bench Bytes) : Prop :=
  e.Regular ∧ Reached c (some e) s.phase ∧ s.Wrote base

section
variable {base new : List BenchWrite} {s : Session Bench Bytes} {c : Call}

theorem Logs.wrote {phase : Phase} {log : List BenchWrite} (h : s.Logs phase log)
    (hlog : log.reverse = base ++ new) (hnew : Written phase new) : s.Wrote base := by
  obtain ⟨rfl, hdevice⟩ := h
  refine ⟨new, ?_, hnew⟩
  rw [← hlog, ← show s.world.device.log = log from hdevice]
  rfl

theorem halts_settled {e : Halt} (he : e.Regular) (hphase : s.phase ∈ c.during)
    (h : s.Wrote base) : Halts c base e (s.settled e) := by
  obtain ⟨new, hwrites, hnew⟩ := h
  refine ⟨he, .of_settled e hphase, new, by rw [world_settled]; exact hwrites, ?_⟩
  cases e with
  | failed error =>
    refine hnew.failed (fun hclosed => ?_) _
    rw [hclosed] at hphase
    rcases Call.mem_during hphase with h | h | h <;> cases h
  | cut | exhausted => exact hnew

theorem Halts.of_during {e : Halt} {d : Call} (h : Halts c base e s)
    (hsub : ∀ q ∈ c.during, q ∈ d.during) : Halts d base e s :=
  ⟨h.1, h.2.1.of_during hsub, h.2.2⟩

theorem ends_start (turns : Nat) (base : List BenchWrite) :
    Ends (fun s => s.phase = .idle ∧ s.Wrote base) (start Bench.link turns)
      (fun _ s => s.phase = .streaming ∧ s.Wrote base) (Halts .start base) := by
  rintro s ⟨hphase, new, hwrites, hnew⟩
  rw [hphase] at hnew
  rw [hnew.eq_nil, List.append_nil] at hwrites
  have hopened : ∀ {p : Phase} {w : BenchWrite} {s' : Session Bench Bytes},
      w.Asks .start → s'.Logs p (w :: s.world.device.log) → p ≠ .idle → p ≠ .closed →
      s'.Wrote base := by
    intro p w s' hw hlogs hidle hclosed
    refine hlogs.wrote ?_ (.opened hidle hclosed hw (List.forall_mem_nil _))
    rw [List.reverse_cons, ← hwrites]
    rfl
  refine Ends.pre (P := Logs .idle s.world.device.log) ?_
    (fun _ h => h) s ⟨hphase, rfl⟩
  refine ends_expect.bind fun _ => (ends_enter .starting).bind fun _ => ?_
  refine Ends.bind (ends_settling ((ends_handshake turns).imp (fun _ _ h => h) ?_)) fun _ => ?_
  · rintro e s' ⟨he, hlogs | ⟨w, hw, hlogs⟩⟩
    · refine halts_settled he (by rw [hlogs.1]; exact List.mem_singleton_self _) ?_
      refine hlogs.wrote ?_ (.nothing (Or.inr (Or.inl rfl)))
      rw [List.append_nil, ← hwrites]
      rfl
    · exact halts_settled he (by rw [hlogs.1]; exact List.mem_singleton_self _)
        (hopened hw hlogs nofun nofun)
  · refine Ends.exists_pre fun w s' hs' => ?_
    obtain ⟨hw, hlogs⟩ := hs'
    obtain ⟨hok, herror⟩ := ends_enter (R := Halts .start base) .streaming s' hlogs
    refine ⟨fun a s'' h => ?_, herror⟩
    exact ⟨(hok a s'' h).1, hopened hw (hok a s'' h) nofun nofun⟩

theorem onStream_of_mem {turns : Nat} {w : BenchWrite}
    (hw : w ∈ (transferRounds Bench.link turns s).filterMap Round.written?) : w.OnStream := by
  obtain ⟨x, hx, hwritten⟩ := List.mem_filterMap.1 hw
  rcases (runs_transferRounds turns s).written?_mem hx with ⟨⟨m, hentry, -⟩, -⟩ | ⟨⟨hnone, -⟩, -⟩
  · rw [hwritten] at hentry
    cases hentry; rfl
  · rw [hwritten] at hnone
    cases hnone

theorem ends_transfer (turns : Nat) (base : List BenchWrite) :
    Ends (fun s => s.phase = .streaming ∧ s.Wrote base) (transfer Bench.link turns)
      (fun _ s => s.phase = .committing ∧ s.Wrote base) (Halts .transfer base) := by
  rintro s ⟨hphase, new, hwrites, hnew⟩
  obtain ⟨start, fragments, rfl, hstart, hfragments⟩ := hnew.exists_opened (Or.inl hphase)
  -- what the device has written down when the transfer ends
  have hwrites' := writes_transfer turns s
  rw [hwrites, List.append_assoc] at hwrites'
  have hmore : ∀ w ∈ fragments ++ (transferRounds Bench.link turns s).filterMap Round.written?,
      w.OnStream := by
    intro w hw
    rcases List.mem_append.1 hw with hw | hw
    · exact hfragments w hw
    · exact onStream_of_mem hw
  constructor
  · intro report s' h
    rw [h] at hwrites'
    obtain ⟨-, _, _, -, -, rfl⟩ := transfer_eq_ok h
    exact ⟨rfl, _, hwrites', .opened nofun nofun hstart hmore⟩
  · intro e s' h
    rw [h] at hwrites'
    rcases transfer_eq_error h with ⟨hnot, -⟩ | ⟨-, s₁, hstream, rfl⟩
    · exact absurd hphase hnot
    have hphase₁ : s₁.phase = .streaming := by
      have hkept : (endState (stream Bench.link turns .empty s)).phase = s.phase :=
        phase_stream turns .empty s
      rw [hstream] at hkept
      exact hkept.trans hphase
    refine halts_settled ?_ (by rw [hphase₁]; exact List.mem_singleton_self _) ?_
    · rcases stream_eq_error hstream with rfl | ⟨s₂, hhalted⟩
      · exact nofun
      · exact hhalted.regular
    · have hworld : (endState (EStateM.Result.error (α := TransferReport) e (s₁.settled e))).world =
          s₁.world := world_settled s₁ e
      rw [hworld] at hwrites'
      refine ⟨_, hwrites', ?_⟩
      rw [hphase₁]
      exact .opened nofun nofun hstart hmore

theorem ends_commit (base : List BenchWrite) :
    Ends (fun s => s.phase = .committing ∧ s.Wrote base) (commit Bench.link)
      (fun _ s => s.phase = .closed ∧ s.Wrote base) (Halts .commit base) := by
  rintro s ⟨hphase, new, hwrites, hnew⟩
  rw [hphase] at hnew
  refine Ends.pre (P := Logs .committing s.world.device.log) ?_
    (fun _ h => h) s ⟨hphase, rfl⟩
  refine ends_expect.bind fun _ => ?_
  refine Ends.bind (ends_settling ((ends_ask .commit).imp (fun _ _ h => h) ?_)) fun _ => ?_
  · rintro e s' ⟨he, hlogs⟩
    exact halts_settled he (by rw [hlogs.1]; exact List.mem_singleton_self _)
      (hlogs.wrote hwrites hnew)
  · refine Ends.exists_pre fun w s' hs' => ?_
    obtain ⟨hw, hlogs⟩ := hs'
    obtain ⟨start, fragments, rfl, hstart, hfragments⟩ := hnew.exists_opened (Or.inr rfl)
    obtain ⟨hok, herror⟩ := ends_enter (R := Halts .commit base) .closed s' hlogs
    refine ⟨fun a s'' h => ⟨(hok a s'' h).1, ?_⟩, herror⟩
    refine Logs.wrote (hok a s'' h) ?_ (.closed hstart hfragments hw)
    rw [List.reverse_cons, ← List.append_assoc, ← hwrites]
    rfl

theorem ends_run (turns : Nat) (base : List BenchWrite) :
    Ends (fun s => s.phase = .idle ∧ s.Wrote base) (run Bench.link turns)
      (fun _ s => s.phase = .closed ∧ s.Wrote base) (Halts .run base) := by
  refine Ends.bind ((ends_start turns base).imp (fun _ _ h => h) fun _ _ h =>
    h.of_during (by simp [Call.during])) fun _ => ?_
  refine Ends.bind ((ends_transfer turns base).imp (fun _ _ h => h) fun _ _ h =>
    h.of_during (by simp [Call.during])) fun _ => ?_
  refine Ends.bind ((ends_commit base).imp (fun _ _ h => h) fun _ _ h =>
    h.of_during (by simp [Call.during])) fun _ => ?_
  exact ends_pure fun _ h => h

/-- **A call that is due** takes the session on as `Reached` says, and the device has
    then written down what `Written` says. -/
theorem ends_perform (turns : Nat) (c : Call) (base : List BenchWrite) :
    Ends (fun s => s.phase = c.due ∧ s.Wrote base) (perform Bench.link turns c)
      (fun _ s => s.phase = c.done ∧ s.Wrote base) (Halts c base) := by
  cases c with
  | start => exact (ends_start turns base).bind fun _ => ends_pure fun _ h => h
  | transfer => exact (ends_transfer turns base).bind fun _ => ends_pure fun _ h => h
  | commit => exact (ends_commit base).bind fun _ => ends_pure fun _ h => h
  | run => exact (ends_run turns base).bind fun _ => ends_pure fun _ h => h

end

end Session

end AirUpdate
