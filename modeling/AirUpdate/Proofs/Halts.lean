/-
  Air updates — what a halted turn leaves behind.

  A turn of the stream may halt on a failure that the device reports, in the
  wait of a held stream, in a write, or in the pause behind a write, whether
  that came to its end or was given up (`Halted`, `halted_of_turn`).  Wherever
  it is, the session has heeded its notification and moved no further
  (`Halted.eq_heeded`): a fragment that went out just before is still the next.
-/
import AirUpdate.Proofs.Stages

namespace AirUpdate

theorem bind_eq_error {σ α β : Type} {x : EStateM Halt σ α} {f : α → EStateM Halt σ β} {s s' : σ}
    {e : Halt} :
    (x >>= f) s = .error e s' ↔
      x s = .error e s' ∨ ∃ a s₁, x s = .ok a s₁ ∧ f a s₁ = .error e s' := by
  show EStateM.bind x f s = _ ↔ _
  unfold EStateM.bind
  cases x s with
  | ok a s₁ =>
    refine ⟨fun h => Or.inr ⟨a, s₁, rfl, h⟩, ?_⟩
    rintro (h | ⟨a', s₂, h, hf⟩)
    · cases h
    · cases h; exact hf
  | error e' s₁ => simp

namespace World
variable {D A : Type} [Peer D A] {w w' : World D A} {e : Halt} {milliseconds : Nat}

theorem blink_eq_error (h : (blink : Act D A Unit) w = .error e w') : e = .cut := by
  unfold blink at h
  split at h
  · cases h
  · split at h
    · cases h; rfl
    · cases h

/-- A wait halts only where it is cut. -/
theorem sleep_eq_error (h : sleep milliseconds w = .error e w') : e = .cut := by
  unfold sleep at h
  split at h
  · exact blink_eq_error h
  · split at h
    · cases h
    · split at h
      · cases h; rfl
      · cases h; rfl

theorem awaitUntil_eq_error {ready : World D A → Bool}
    (h : awaitUntil ready w = .error e w') : e = .cut := by
  unfold awaitUntil at h
  split at h
  · cases h
  · split at h
    · cases h; rfl
    · simp only at h
      split at h
      · cases h
      · split at h
        · cases h
        · cases h; rfl

end World

namespace Session
variable {D A α : Type} {s s' : Session D A} {e : Halt}

theorem onWorld_eq_error {act : Act D A α} :
    onWorld act s = .error e s' ↔ ∃ w, act s.world = .error e w ∧ s' = { s with world := w } := by
  unfold onWorld
  cases act s.world with
  | ok a w => simp
  | error e' w =>
    refine ⟨fun h => ?_, ?_⟩
    · cases h; exact ⟨w, rfl, rfl⟩
    · rintro ⟨w', h, rfl⟩
      cases h; rfl

/-- A session that a step has halted, once it knows of that. -/
def settled (s : Session D A) : Halt → Session D A
  | .failed error => { s with phase := .failed error.failure }
  | .cut | .exhausted => s

theorem world_settled (s : Session D A) (e : Halt) : (s.settled e).world = s.world := by
  cases e <;> rfl

theorem settling_eq_error {step : Step D A α} :
    settling step s = .error e s' ↔ ∃ s₁, step s = .error e s₁ ∧ s' = s₁.settled e := by
  unfold settling
  split
  · next error s₁ hstep =>
    constructor
    · intro h
      cases h; exact ⟨s₁, hstep, rfl⟩
    · rintro ⟨s₂, h, rfl⟩
      rw [hstep] at h
      cases h; rfl
  · next hstep =>
    constructor
    · intro h
      refine ⟨s', h, ?_⟩
      cases e with
      | failed error => exact absurd h (hstep error s')
      | cut | exhausted => rfl
    · rintro ⟨s₂, h, rfl⟩
      cases e with
      | failed error => exact absurd h (hstep error s₂)
      | cut | exhausted => exact h

theorem expect_of_ne {phase : Phase} (h : s.phase ≠ phase) :
    expect phase s = .error (.failed (.invalidPhase phase s.phase)) s := if_neg h

theorem of_expect_eq_error {phase : Phase} (h : expect phase s = .error e s') :
    s.phase ≠ phase ∧ e = .failed (.invalidPhase phase s.phase) ∧ s' = s := by
  unfold expect at h
  split at h
  · cases h
  · next hphase => cases h; exact ⟨hphase, rfl, rfl⟩

/-- Failing on the notification taken from the mailbox. -/
theorem heed_eq_error {report : TransferReport}
    (h : heed report s.world.mailbox.latest { s with world := { s.world with mailbox := .empty } } =
      .error e s') :
    ∃ status, s.refusal? = some status ∧ e = .failed (.deviceStatus status) ∧ s' = s.heeded := by
  cases hm : s.world.mailbox.latest with
  | none => rw [hm] at h; cases h
  | some value =>
    rw [hm] at h
    simp only [heed] at h
    cases hv : StatusReport.ofBytes value with
    | error e => rw [hv] at h; cases h
    | ok r =>
      rw [hv] at h
      rcases bind_eq_error.1 h with h | ⟨_, _, hget, h⟩
      · cases h
      cases hget
      simp only at h
      split at h
      · next hfail =>
        cases h
        have hrefusal : s.refusal? = some r.status := by
          unfold refusal?
          rw [hm, Option.map_some, hv]
          exact if_pos hfail
        -- a failure does not steer, so the flow is where it was
        have hsteering : s.steering? = none := by
          cases hsteering : s.steering? with
          | none => rfl
          | some r' => rw [refusal?_of_steering hsteering] at hrefusal; cases hrefusal
        refine ⟨r.status, hrefusal, rfl, ?_⟩
        rw [← heeded_flow_of_none hsteering]
        rfl
      · cases h

theorem getLast?_elim_cons (x : Round D A) (xs : List (Round D A)) (s : Session D A) :
    (x :: xs).getLast?.elim s Round.after = xs.getLast?.elim x.after Round.after := by
  rw [List.getLast?_cons]
  cases xs.getLast? <;> rfl

/-- A turn of the stream that halts: how the session is before it, why it halts,
    and how the session is after it. -/
inductive Halted [Peer D A] (link : Link D A) (s : Session D A) : Halt → Session D A → Prop
  | refused {status} : s.refusal? = some status →
      Halted link s (.failed (.deviceStatus status)) s.heeded
  | held {e w} : s.refusal? = none → s.heeded.flow.held = true →
      World.sleep s.config.pausePoll.toNat s.heeded.world = .error e w →
      Halted link s e { s.heeded with world := w }
  | unwritten {e w} : s.refusal? = none → s.heeded.flow.held = false →
      s.heeded.next.payload ≠ [] → s.heeded.writeNext link s.heeded.world = .error e w →
      Halted link s e { s.heeded with world := w }
  | sent {e w₁ w₂} : s.refusal? = none → s.heeded.flow.held = false →
      s.heeded.next.payload ≠ [] → s.heeded.writeNext link s.heeded.world = .ok (some ()) w₁ →
      World.sleep s.config.pacing.toNat w₁ = .error e w₂ →
      Halted link s e { s.heeded with world := w₂ }
  | stalled {e w₁ w₂} : s.refusal? = none → s.heeded.flow.held = false →
      s.heeded.next.payload ≠ [] → s.heeded.writeNext link s.heeded.world = .ok none w₁ →
      World.sleep s.config.writeBackoff.toNat w₁ = .error e w₂ →
      Halted link s e { s.heeded with world := w₂ }

/-- A turn that halts in the pause behind a write that came to its end. -/
def CutBehindWrite [Peer D A] (link : Link D A) (s s' : Session D A) : Prop :=
  ∃ w₁ w₂, s.heeded.writeNext link s.heeded.world = .ok (some ()) w₁ ∧
    World.sleep s.config.pacing.toNat w₁ = .error .cut w₂ ∧ s' = { s.heeded with world := w₂ }

theorem error_of_send_next [Peer D A] {link : Link D A}
    (h : send link s.next s = .error e s') :
    ∃ w, s.writeNext link s.world = .error e w ∧ s' = { s with world := w } := by
  rcases bind_eq_error.1 h with h | ⟨_, _, hget, h⟩
  · cases h
  cases hget
  rcases bind_eq_error.1 h with h | ⟨_, _, -, h⟩
  · exact onWorld_eq_error.1 h
  · cases h

/-- **A turn that halts is one of `Halted`.** -/
theorem halted_of_turn [Peer D A] {link : Link D A} {report : TransferReport}
    (h : turn link report s = .error e s') : Halted link s e s' := by
  unfold turn at h
  rcases bind_eq_error.1 h with h | ⟨value, s₁, hpoll, h⟩
  · obtain ⟨w, hpoll, -⟩ := onWorld_eq_error.1 h
    cases hpoll
  obtain ⟨w, hpoll, rfl⟩ := onWorld_eq_ok.1 hpoll
  cases hpoll
  rcases bind_eq_error.1 h with h | ⟨report₁, s₁, hheed, h⟩
  · obtain ⟨status, hrefusal, rfl, rfl⟩ := heed_eq_error h
    exact .refused hrefusal
  obtain ⟨rfl, rfl, hrefusal⟩ := heed_eq_ok hheed
  rcases bind_eq_error.1 h with h | ⟨_, _, hget, h⟩
  · cases h
  cases hget
  split at h
  · next hheld =>
    rcases bind_eq_error.1 h with h | ⟨_, _, -, h⟩
    · obtain ⟨w, hslept, rfl⟩ := onWorld_eq_error.1 h
      exact .held hrefusal hheld hslept
    · cases h
  · next hheld =>
    have hheld : s.heeded.flow.held = false := by simpa using hheld
    simp only at h
    split at h
    · cases h
    · next hempty =>
      have hne : s.heeded.next.payload ≠ [] := fun he => hempty (List.isEmpty_iff.2 he)
      rcases bind_eq_error.1 h with hsend | ⟨done, s₁, hsend, h⟩
      · obtain ⟨w, hwritten, rfl⟩ := error_of_send_next hsend
        exact .unwritten hrefusal hheld hne hwritten
      obtain ⟨written, w₁, hwritten, rfl, rfl⟩ := send_next_eq_ok.1 hsend
      cases written with
      | none =>
        rcases bind_eq_error.1 h with h | ⟨_, _, -, h⟩
        · obtain ⟨w₂, hslept, rfl⟩ := onWorld_eq_error.1 h
          exact .stalled hrefusal hheld hne hwritten hslept
        · cases h
      | some _ =>
        rcases bind_eq_error.1 h with h | ⟨_, s₁, -, h⟩
        · obtain ⟨w₂, hslept, rfl⟩ := onWorld_eq_error.1 h
          exact .sent hrefusal hheld hne hwritten hslept
        · rcases bind_eq_error.1 h with h | ⟨_, _, -, h⟩
          · cases h
          · cases h

variable [Peer D A] {link : Link D A} {report : TransferReport}

/-- **A halted turn only heeds its notification**, and lets time pass. -/
theorem Halted.eq_heeded (h : Halted link s e s') : s' = { s.heeded with world := s'.world } := by
  cases h <;> rfl

theorem Halted.eq_of_refusal {status : Status} (h : Halted link s e s')
    (hs : s.refusal? = some status) : e = .failed (.deviceStatus status) := by
  cases h with
  | refused hrefusal =>
    rw [hs] at hrefusal
    cases hrefusal
    rfl
  | held hrefusal | unwritten hrefusal | sent hrefusal | stalled hrefusal =>
    rw [hs] at hrefusal
    cases hrefusal

/-- A turn that finds the stream held only halts where its wait is cut. -/
theorem Halted.eq_cut_of_held (h : Halted link s e s') (hs : s.refusal? = none)
    (hheld : s.heeded.flow.held = true) : e = .cut := by
  cases h with
  | refused hrefusal =>
    rw [hs] at hrefusal
    cases hrefusal
  | held _ _ hslept => exact World.sleep_eq_error hslept
  | unwritten _ hnot | sent _ hnot | stalled _ hnot =>
    rw [hheld] at hnot
    cases hnot

/-- A round that halted did so as `Halted` says. -/
theorem Runs.halted_mem {xs : List (Round D A)} {x : Round D A} (h : Runs link report s xs)
    (hx : x ∈ xs) (ht : x.turn = none) : ∃ e, Halted link x.before e x.after := by
  induction h with
  | nil => cases hx
  | halted hturn =>
    rw [List.mem_singleton] at hx
    subst hx
    exact ⟨_, halted_of_turn hturn⟩
  | ended _ _ _ ih =>
    rcases List.mem_cons.1 hx with rfl | hx
    · cases ht
    · exact ih hx

/-- No round that fails on its notification comes to its end. -/
theorem Runs.turn_of_refusal {xs : List (Round D A)} {x : Round D A} {status : Status}
    (h : Runs link report s xs) (hx : x ∈ xs) (hrefusal : x.before.refusal? = some status) :
    x.turn = none := by
  cases ht : x.turn with
  | none => rfl
  | some t =>
    obtain ⟨_, _, hturned⟩ := h.turned_mem hx ht
    rw [hturned.refusal?_eq] at hrefusal
    cases hrefusal

theorem Runs.image_end {xs : List (Round D A)} (h : Runs link report s xs) :
    (xs.getLast?.elim s Round.after).image = s.image ∧
      (xs.getLast?.elim s Round.after).config = s.config := by
  induction h with
  | nil => exact ⟨rfl, rfl⟩
  | @halted report s e s' hturn =>
    rw [getLast?_elim_cons]
    show s'.image = _ ∧ s'.config = _
    rw [(halted_of_turn hturn).eq_heeded]
    exact ⟨rfl, rfl⟩
  | ended hturn _ _ ih =>
    rw [getLast?_elim_cons, ih.1, ih.2]
    exact ⟨(turned_of_turn hturn).image_eq, (turned_of_turn hturn).config_eq⟩

/-- A stream ends where its last round does, however it ends. -/
theorem endState_stream (turns : Nat) (report : TransferReport) (s : Session D A) :
    endState (stream link turns report s) =
      (rounds link turns report s).getLast?.elim s Round.after := by
  induction turns generalizing report s with
  | zero => rfl
  | succ turns ih =>
    show endState (EStateM.bind _ _ s) = _
    unfold EStateM.bind rounds
    cases hturn : turn link report s with
    | error e s' => rfl
    | ok a s' =>
      obtain ⟨t, report'⟩ := a
      simp only
      split
      · rfl
      · rw [ih, List.getLast?_cons]
        cases (rounds link turns report' s').getLast? <;> rfl

/-! ## Stages that halt -/

/-- A stream stays in its phase. -/
theorem phase_stream (turns : Nat) (report : TransferReport) (s : Session D A) :
    (endState (stream link turns report s)).phase = s.phase := by
  induction turns generalizing report s with
  | zero => rfl
  | succ turns ih =>
    show (endState (EStateM.bind _ _ s)).phase = _
    unfold EStateM.bind
    cases hturn : turn link report s with
    | error e s' =>
      show s'.phase = _
      rw [(halted_of_turn hturn).eq_heeded]
      rfl
    | ok a s' =>
      obtain ⟨t, report'⟩ := a
      have hphase := (turned_of_turn hturn).phase_eq
      simp only
      split
      · exact hphase
      · rw [ih, hphase]

theorem stream_eq_error {turns : Nat} (h : stream link turns report s = .error e s') :
    e = .exhausted ∨ ∃ s₁, Halted link s₁ e s' := by
  induction turns generalizing report s with
  | zero =>
    cases h
    exact Or.inl rfl
  | succ turns ih =>
    rcases bind_eq_error.1 h with hturn | ⟨⟨t, report'⟩, s₁, -, h⟩
    · exact Or.inr ⟨s, halted_of_turn hturn⟩
    · simp only at h
      split at h
      · cases h
      · exact ih h

/-- A round that halts is the last, and the stream halts with it. -/
theorem stream_of_halted {turns : Nat} {pre post : List (Round D A)} {x : Round D A}
    (h : rounds link turns report s = pre ++ x :: post) (hx : x.turn = none) :
    post = [] ∧ ∃ e, Halted link x.before e x.after ∧
      stream link turns report s = .error e x.after := by
  induction turns generalizing report s pre with
  | zero => simp [rounds] at h
  | succ turns ih =>
    unfold rounds at h
    cases hturn : turn link report s with
    | error e s' =>
      rw [hturn] at h
      obtain ⟨rfl, rfl, rfl⟩ : pre = [] ∧ x = ⟨s, none, s'⟩ ∧ post = [] := by
        cases pre <;> simp_all
      exact ⟨rfl, e, halted_of_turn hturn, bind_eq_error.2 (Or.inl hturn)⟩
    | ok a s' =>
      obtain ⟨t, report'⟩ := a
      rw [hturn] at h
      simp only at h
      rcases List.cons_eq_append_iff.1 h with ⟨rfl, hx'⟩ | ⟨pre', rfl, hrest⟩
      · cases hx'
        cases hx
      · cases ht : t.isLast with
        | true => simp [ht] at hrest
        | false =>
          simp only [ht, Bool.false_eq_true, if_false] at hrest
          rw [stream_of_not_last hturn ht]
          exact ih hrest

/-- **A failure on which the session fails ends the stream.** -/
theorem stream_of_refusal {turns : Nat} {pre post : List (Round D A)} {x : Round D A}
    {status : Status} (h : rounds link turns report s = pre ++ x :: post)
    (hx : x.before.refusal? = some status) :
    post = [] ∧ stream link turns report s = .error (.failed (.deviceStatus status)) x.after := by
  have hruns : Runs link report s (rounds link turns report s) := runs_rounds turns report s
  have hturn := hruns.turn_of_refusal (by simp [h]) hx
  obtain ⟨hlast, e, hhalted, hstream⟩ := stream_of_halted h hturn
  exact ⟨hlast, by rw [hstream, hhalted.eq_of_refusal hx]⟩

theorem transfer_of_ne {turns : Nat} (h : s.phase ≠ .streaming) :
    transfer link turns s = .error (.failed (.invalidPhase .streaming s.phase)) s :=
  bind_eq_error.2 (Or.inl (expect_of_ne h))

variable (link) in
/-- The rounds of the stream in a transfer. -/
def transferRounds (turns : Nat) (s : Session D A) : List (Round D A) :=
  if s.phase = .streaming then rounds link turns .empty s else []

theorem transfer_eq_error {turns : Nat} (h : transfer link turns s = .error e s') :
    (s.phase ≠ .streaming ∧ e = .failed (.invalidPhase .streaming s.phase) ∧ s' = s) ∨
      s.phase = .streaming ∧ ∃ s₁, stream link turns .empty s = .error e s₁ ∧
        s' = s₁.settled e := by
  rcases bind_eq_error.1 h with h | ⟨_, s₁, hexpect, h⟩
  · exact Or.inl (of_expect_eq_error h)
  obtain ⟨hphase, rfl⟩ := of_expect_eq_ok hexpect
  refine Or.inr ⟨hphase, ?_⟩
  rcases bind_eq_error.1 h with h | ⟨_, _, -, h⟩
  · obtain ⟨s₁, htimed, rfl⟩ := settling_eq_error.1 h
    rcases bind_eq_error.1 htimed with htimed | ⟨_, _, hnow, htimed⟩
    · cases htimed
    cases hnow
    rcases bind_eq_error.1 htimed with hstream | ⟨_, _, -, htimed⟩
    · exact ⟨s₁, hstream, rfl⟩
    rcases bind_eq_error.1 htimed with htimed | ⟨_, _, -, htimed⟩
    · cases htimed
    · cases htimed
  · rcases bind_eq_error.1 h with h | ⟨_, _, -, h⟩
    · cases h
    · cases h

/-- A session that has streamed is not idle. -/
theorem phase_transfer_ne (turns : Nat) (h : s.phase = .streaming) :
    (endState (transfer link turns s)).phase ≠ .idle := by
  cases htransfer : transfer link turns s with
  | ok report s' =>
    obtain ⟨-, _, s₁, -, -, rfl⟩ := transfer_eq_ok htransfer
    exact nofun
  | error e s' =>
    rcases transfer_eq_error htransfer with ⟨hnot, -⟩ | ⟨-, s₁, hstream, rfl⟩
    · exact absurd h hnot
    have hphase : (endState (stream link turns .empty s)).phase = s.phase :=
      phase_stream turns .empty s
    rw [hstream, h] at hphase
    have hstreaming : s₁.phase = .streaming := hphase
    cases e with
    | failed error => exact nofun
    | cut | exhausted =>
      show s₁.phase ≠ .idle
      rw [hstreaming]
      exact nofun

/-- A transfer halts where its stream does. -/
theorem transfer_of_stream_error {turns : Nat} (hphase : s.phase = .streaming)
    (h : stream link turns .empty s = .error e s') :
    transfer link turns s = .error e (s'.settled e) := by
  have htimed : timedStream link turns s = .error e s' :=
    bind_eq_error.2 (Or.inr ⟨s.world.now, s, rfl, bind_eq_error.2 (Or.inl h)⟩)
  refine bind_eq_error.2 (Or.inr ⟨(), s, if_pos hphase, ?_⟩)
  exact bind_eq_error.2 (Or.inl (settling_eq_error.2 ⟨s', htimed, rfl⟩))

/-- A transfer ends where its last round does, but for the phase. -/
theorem endState_transfer (turns : Nat) (s : Session D A) :
    ∃ phase, endState (transfer link turns s) =
      { (transferRounds link turns s).getLast?.elim s Round.after with phase := phase } := by
  unfold transferRounds
  split
  · next hphase =>
    rw [← endState_stream]
    cases htransfer : transfer link turns s with
    | ok report s' =>
      obtain ⟨-, report₁, s₁, hstream, -, rfl⟩ := transfer_eq_ok htransfer
      rw [hstream]
      exact ⟨_, rfl⟩
    | error e s' =>
      rcases transfer_eq_error htransfer with ⟨hnot, -⟩ | ⟨-, s₁, hstream, rfl⟩
      · exact absurd hphase hnot
      · rw [hstream]
        cases e <;> exact ⟨_, rfl⟩
  · next hphase =>
    rw [transfer_of_ne hphase]
    exact ⟨s.phase, rfl⟩

theorem runs_transferRounds (turns : Nat) (s : Session D A) :
    Runs link .empty s (transferRounds link turns s) := by
  unfold transferRounds
  split
  · exact runs_rounds turns .empty s
  · exact .nil

end Session

end AirUpdate
