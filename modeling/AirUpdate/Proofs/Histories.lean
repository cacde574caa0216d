/-
  Air updates — histories of a session.

  Whatever is called on a session, in whatever order and with whatever
  cancelled, every call is `Lawful`: it takes the session along its phases or
  is refused, and what the device has written down is START, then fragments,
  and then COMMIT, if the stream came to its end (`lawful_of_history`).
-/
import AirUpdate.Proofs.Lifecycle

namespace AirUpdate

namespace Session

/-- The stream came to its end in this call. -/
def Made.Transferred (x : Made Bench Bytes) : Prop :=
  x.call = .transfer ∧ x.halt? = none ∨
    x.call = .run ∧ (commitPoint Bench.link x.turns x.before).isSome = true

section
variable {x : Made Bench Bytes} {s : Session Bench Bytes} {base : List BenchWrite}

theorem wrote_called (h : s.Wrote base) (pause limit : Nat) :
    (s.called pause limit).Wrote base := by
  obtain ⟨new, hwrites, hnew⟩ := h
  refine ⟨new, ?_, hnew⟩
  unfold Bench.writes at hwrites ⊢
  rw [log_called, hwrites]

/-- A whole session gets to COMMIT only behind a stream that came to its end. -/
theorem isSome_commitPoint {turns : Nat} (hdue : s.phase = .idle) (hwrote : s.Wrote base)
    (hphase : (endState (perform Bench.link turns .run s)).phase = .committing ∨
      (endState (perform Bench.link turns .run s)).phase = .closed) :
    (commitPoint Bench.link turns s).isSome = true := by
  obtain ⟨hstart_ok, hstart_error⟩ := ends_start turns base s ⟨hdue, hwrote⟩
  unfold commitPoint
  cases hstart : start Bench.link turns s with
  | error e s₁ =>
    have hrun : perform Bench.link turns .run s = .error e s₁ :=
      bind_eq_error.2 (Or.inl (bind_eq_error.2 (Or.inl hstart)))
    rw [hrun] at hphase
    have hclosing := Reached.closing (hstart_error e s₁ hstart).2.1 hphase
    simp at hclosing
  | ok _ s₁ =>
    obtain ⟨-, htransfer_error⟩ := ends_transfer turns base s₁ (hstart_ok _ s₁ hstart)
    simp only
    cases htransfer : transfer Bench.link turns s₁ with
    | error e s₂ =>
      have hrun : perform Bench.link turns .run s = .error e s₂ :=
        bind_eq_error.2 (Or.inl (bind_eq_error.2 (Or.inr
          ⟨_, s₁, hstart, bind_eq_error.2 (Or.inl htransfer)⟩)))
      rw [hrun] at hphase
      have hclosing := Reached.closing (htransfer_error e s₂ htransfer).2.1 hphase
      simp at hclosing
    | ok report s₂ => rfl

theorem Made.Genuine.due (hx : x.Genuine Bench.link) (hdue : x.before.phase = x.call.due)
    (hwrote : x.before.Wrote base) :
    Reached x.call x.halt? x.after.phase ∧ (∀ e, x.halt? = some e → e.Regular) ∧
      x.after.Wrote base := by
  obtain ⟨hok, herror⟩ := ends_perform x.turns x.call base x.before ⟨hdue, hwrote⟩
  rw [← show x.result = perform Bench.link x.turns x.call x.before from hx] at hok herror
  cases hhalt : x.halt? with
  | none =>
    obtain ⟨a, hresult⟩ := Made.result_of_halt?_eq_none hhalt
    obtain ⟨hphase, hwrote'⟩ := hok a x.after hresult
    rw [hphase]
    exact ⟨.done, nofun, hwrote'⟩
  | some e =>
    obtain ⟨he, hreached, hwrote'⟩ := herror e x.after (Made.result_of_halt? hhalt)
    refine ⟨hreached, ?_, hwrote'⟩
    rintro _ ⟨⟩
    exact he

theorem Made.Genuine.refused (hx : x.Genuine Bench.link) (hdue : x.before.phase ≠ x.call.due) :
    x.result = .error (.failed (.invalidPhase x.call.due x.before.phase)) x.before :=
  Eq.trans hx (perform_of_ne hdue)

theorem Made.Genuine.transferred (hx : x.Genuine Bench.link) (hdue : x.before.phase = x.call.due)
    (hwrote : x.before.Wrote base)
    (hphase : x.after.phase = .committing ∨ x.after.phase = .closed) :
    x.call = .commit ∨ x.Transferred := by
  obtain ⟨hreached, -, -⟩ := hx.due hdue hwrote
  rcases hreached.closing hphase with htransfer | hcommit | hrun
  · exact Or.inr (Or.inl htransfer)
  · exact Or.inl hcommit
  · rw [hrun] at hdue
    have hresult : x.result = perform Bench.link x.turns .run x.before := hrun ▸ hx
    unfold Made.after at hphase
    rw [hresult] at hphase
    exact Or.inr (Or.inr ⟨hrun, isSome_commitPoint hdue hwrote hphase⟩)

/-- What holds of a session between the calls: the calls so far, the session. -/
structure Orderly (base : List BenchWrite) (xs : List (Made Bench Bytes))
    (s : Session Bench Bytes) : Prop where
  wrote : s.Wrote base
  transferred : s.phase = .committing ∨ s.phase = .closed → ∃ y ∈ xs, y.Transferred

theorem Orderly.called {xs : List (Made Bench Bytes)} (h : Orderly base xs s)
    (pause limit : Nat) : Orderly base xs (s.called pause limit) :=
  ⟨wrote_called h.wrote pause limit, h.transferred⟩

theorem Orderly.made {xs : List (Made Bench Bytes)} (h : Orderly base xs x.before)
    (hx : x.Genuine Bench.link) : Orderly base (xs ++ [x]) x.after := by
  have hearlier : (∃ y ∈ xs, y.Transferred) → ∃ y ∈ xs ++ [x], y.Transferred := by
    rintro ⟨y, hy, htransferred⟩
    exact ⟨y, List.mem_append_left [x] hy, htransferred⟩
  by_cases hdue : x.before.phase = x.call.due
  · obtain ⟨-, -, hwrote⟩ := hx.due hdue h.wrote
    refine ⟨hwrote, fun hphase => ?_⟩
    rcases hx.transferred hdue h.wrote hphase with hcommit | htransferred
    · rw [hcommit] at hdue
      exact hearlier (h.transferred (Or.inl hdue))
    · exact ⟨x, List.mem_append_right xs (List.mem_singleton_self x), htransferred⟩
  · obtain ⟨-, hafter⟩ := Made.halt?_of_result (hx.refused hdue)
    rw [hafter]
    exact ⟨h.wrote, fun hphase => hearlier (h.transferred hphase)⟩

end

/-- What holds of a call that was made on the session `s` behind the calls `pre`. -/
structure Made.Lawful (s : Session Bench Bytes) (pre : List (Made Bench Bytes))
    (x : Made Bench Bytes) : Prop where
  /-- the caller has only waited since the call before -/
  waited : ∃ pause limit, x.before = (s.afterCalls pre).called pause limit
  /-- a call that is not due is refused and changes nothing -/
  refused : x.before.phase ≠ x.call.due →
    x.result = .error (.failed (.invalidPhase x.call.due x.before.phase)) x.before
  reached : x.before.phase = x.call.due → Reached x.call x.halt? x.after.phase
  leads : x.before.phase.Leads x.after.phase
  /-- a session that has ended stays as it ended -/
  final : x.before.phase = .closed ∨ (∃ f, x.before.phase = .failed f) →
    x.after.phase = x.before.phase
  /-- a session fails with the error that a call returns, unless that refused the call -/
  failed_iff : ∀ f, x.before.phase ≠ .failed f ∧ x.after.phase = .failed f ↔
    ∃ error, x.halt? = some (.failed error) ∧ (∀ p q, error ≠ .invalidPhase p q) ∧
      error.failure = f
  not_writeTimeout : x.halt? ≠ some (.failed .writeTimeout)
  wrote : x.after.Wrote s.world.device.writes
  /-- COMMIT is written, and so the session closed, only behind a stream that came to its end -/
  transferred : x.after.phase = .closed → (∃ y ∈ pre, y.Transferred) ∨ x.call = .run ∧ x.Transferred

variable {x : Made Bench Bytes} {s : Session Bench Bytes} {pre : List (Made Bench Bytes)}

theorem Made.Genuine.lawful_of_ne (hx : x.Genuine Bench.link) (hdue : x.before.phase ≠ x.call.due)
    (hwaited : ∃ pause limit, x.before = (s.afterCalls pre).called pause limit)
    (h : Orderly s.world.device.writes pre x.before) : x.Lawful s pre := by
  have hrefused := hx.refused hdue
  obtain ⟨hhalt, hafter⟩ := Made.halt?_of_result hrefused
  constructor
  case waited => exact hwaited
  case refused => exact fun _ => hrefused
  case reached => exact fun hdue' => absurd hdue' hdue
  case leads => rw [hafter]; exact Relation.ReflTransGen.refl
  case final => rw [hafter]; exact fun _ => rfl
  case failed_iff =>
    intro f
    rw [hafter, hhalt]
    constructor
    · rintro ⟨hnot, hfailed⟩
      exact absurd hfailed hnot
    · rintro ⟨error, herror, hphase, -⟩
      cases herror
      exact absurd rfl (hphase _ _)
  case not_writeTimeout => rw [hhalt]; exact nofun
  case wrote => rw [hafter]; exact h.wrote
  case transferred => rw [hafter]; exact fun hclosed => Or.inl (h.transferred (Or.inr hclosed))

theorem Made.Genuine.lawful_of_due (hx : x.Genuine Bench.link) (hdue : x.before.phase = x.call.due)
    (hwaited : ∃ pause limit, x.before = (s.afterCalls pre).called pause limit)
    (h : Orderly s.world.device.writes pre x.before) : x.Lawful s pre := by
  obtain ⟨hreached, hregular, hwrote⟩ := hx.due hdue h.wrote
  have hlive : x.before.phase ≠ .closed ∧ ∀ f, x.before.phase ≠ .failed f := by
    rw [hdue]
    cases x.call <;> exact ⟨nofun, nofun⟩
  constructor
  case waited => exact hwaited
  case refused => exact fun hdue' => absurd hdue hdue'
  case reached => exact fun _ => hreached
  case leads => rw [hdue]; exact hreached.leads
  case final =>
    rintro (hclosed | ⟨f, hfailed⟩)
    · exact absurd hclosed hlive.1
    · exact absurd hfailed (hlive.2 f)
  case failed_iff =>
    intro f
    rw [hreached.failed_iff]
    constructor
    · rintro ⟨-, error, hhalt, hf⟩
      refine ⟨error, hhalt, ?_, hf⟩
      rintro p q rfl
      cases hregular _ hhalt _ rfl
    · rintro ⟨error, hhalt, -, hf⟩
      exact ⟨hlive.2 f, error, hhalt, hf⟩
  case not_writeTimeout =>
    intro hhalt
    cases hregular _ hhalt _ rfl
  case wrote => exact hwrote
  case transferred =>
    intro hclosed
    rcases hx.transferred hdue h.wrote (Or.inr hclosed) with hcommit | htransferred
    · rw [hcommit] at hdue
      exact Or.inl (h.transferred (Or.inl hdue))
    · refine Or.inr ⟨?_, htransferred⟩
      rcases htransferred with ⟨htransfer, hnone⟩ | ⟨hrun, -⟩
      · rw [htransfer, hnone, hclosed] at hreached
        cases hreached
      · exact hrun

/-- **Every call of every history is lawful**, whatever the device does. -/
theorem lawful_of_history {image : Bytes} {config : SessionConfig} {w : World Bench Bytes}
    {attempts : List Attempt} {pre post : List (Made Bench Bytes)}
    (hx : history Bench.link attempts (idle image config w) = pre ++ x :: post) :
    x.Lawful (idle image config w) pre := by
  have hidle : Orderly w.device.writes [] (idle image config w) :=
    ⟨⟨[], (List.append_nil _).symm, .nothing (Or.inl rfl)⟩, by simp [idle]⟩
  obtain ⟨horderly, -, hresult⟩ := history_inv (fun _ _ pause limit h => h.called pause limit)
    (fun _ _ h hx => h.made hx) hidle hx
  have hwaited := called_of_history hx
  by_cases hdue : x.before.phase = x.call.due
  · exact Made.Genuine.lawful_of_due hresult hdue hwaited horderly
  · exact Made.Genuine.lawful_of_ne hresult hdue hwaited horderly

end Session

namespace Bench

open Session

/-- A session of three bytes, one in a fragment, with a device that lets the second
    write hang. -/
def halting : Session Bench Bytes :=
  idle [7, 8, 9] { SessionConfig.default with fragmentSize := 1 }
    (.initial 0 { quiet with stalls := [(1, 1)] })

/-- COMMIT too early, the stream given up in the write that hangs, and taken up again. -/
def haltingAttempts : List Attempt :=
  [⟨0, .commit, 60000, 16⟩, ⟨0, .start, 60000, 16⟩, ⟨0, .transfer, 90, 16⟩,
    ⟨10, .transfer, 60000, 16⟩, ⟨0, .commit, 60000, 16⟩]

/-- The last call closes the session, and so a call before has come to the end of the
    stream. -/
theorem halting_lawful :
    ∃ pre x, history link haltingAttempts halting = pre ++ [x] ∧
      pre.map Made.halt? = [some (.failed (.invalidPhase .committing .idle)), none, some .cut, none] ∧
      x.after.phase = .closed ∧ ∃ y ∈ pre, y.Transferred := by
  have hlast : (history link haltingAttempts halting).getLast?.map
      (fun x => (x.call, x.after.phase)) = some (.commit, .closed) := by decide +kernel
  have hbefore : (history link haltingAttempts halting).dropLast.map Made.halt? =
      [some (.failed (.invalidPhase .committing .idle)), none, some .cut, none] := by
    decide +kernel
  obtain ⟨x, hx, hend⟩ := Option.map_eq_some_iff.1 hlast
  obtain ⟨pre, hsplit⟩ := List.getLast?_eq_some_iff.1 hx
  obtain ⟨hcall, hclosed⟩ := Prod.mk.inj hend
  rw [hsplit, List.dropLast_concat] at hbefore
  refine ⟨pre, x, hsplit, hbefore, hclosed, ?_⟩
  rcases (lawful_of_history hsplit).transferred hclosed with htransferred | ⟨hrun, -⟩
  · exact htransferred
  · rw [hcall] at hrun
    cases hrun

end Bench

end AirUpdate
