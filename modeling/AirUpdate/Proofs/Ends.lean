/-
  Air updates — how an activity ends.

  `Ends P act Q R` says of an activity, begun with `P`, that it has `Q` where it
  comes to its end and `R` where it halts.  Activities that follow each other
  are put together with `Ends.bind`, and `ends_within` puts one under a time
  limit.
-/
import AirUpdate.Proofs.Halts

namespace AirUpdate

variable {σ α β : Type}

/-- Begun with `P`, the activity ends with `Q` or halts with `R`. -/
def Ends (P : σ → Prop) (act : EStateM Halt σ α) (Q : α → σ → Prop) (R : Halt → σ → Prop) : Prop :=
  ∀ s, P s → (∀ a s', act s = .ok a s' → Q a s') ∧ ∀ e s', act s = .error e s' → R e s'

namespace Ends
variable {P P' : σ → Prop} {act : EStateM Halt σ α} {Q Q' : α → σ → Prop} {R R' : Halt → σ → Prop}

theorem imp (h : Ends P act Q R) (hQ : ∀ a s, Q a s → Q' a s) (hR : ∀ e s, R e s → R' e s) :
    Ends P act Q' R' :=
  fun s hs => ⟨fun a s' hact => hQ a s' ((h s hs).1 a s' hact),
    fun e s' hact => hR e s' ((h s hs).2 e s' hact)⟩

theorem pre (h : Ends P act Q R) (hP : ∀ s, P' s → P s) : Ends P' act Q R :=
  fun s hs => h s (hP s hs)

theorem exists_pre {ι : Type} {P : ι → σ → Prop} (h : ∀ i, Ends (P i) act Q R) :
    Ends (fun s => ∃ i, P i s) act Q R := by
  rintro s ⟨i, hs⟩
  exact h i s hs

theorem bind {f : α → EStateM Halt σ β} {T : β → σ → Prop} (h : Ends P act Q R)
    (hf : ∀ a, Ends (Q a) (f a) T R) : Ends P (act >>= f) T R := by
  intro s hs
  obtain ⟨hok, herror⟩ := h s hs
  constructor
  · intro b s' hbind
    obtain ⟨a, s₁, hact, hbind⟩ := bind_eq_ok.1 hbind
    exact (hf a s₁ (hok a s₁ hact)).1 b s' hbind
  · intro e s' hbind
    rcases bind_eq_error.1 hbind with hact | ⟨a, s₁, hact, hbind⟩
    · exact herror e s' hact
    · exact (hf a s₁ (hok a s₁ hact)).2 e s' hbind

end Ends

theorem ends_pure {P : σ → Prop} {Q : α → σ → Prop} {R : Halt → σ → Prop} {a : α}
    (h : ∀ s, P s → Q a s) : Ends P (pure a) Q R := by
  intro s hs
  constructor
  · intro b s' hact
    cases hact; exact h s hs
  · intro e s' hact
    cases hact

theorem ends_throw {P : σ → Prop} {Q : α → σ → Prop} {R : Halt → σ → Prop} {e : Halt}
    (h : ∀ s, P s → R e s) : Ends P (throw e) Q R := by
  intro s hs
  constructor
  · intro b s' hact
    cases hact
  · intro e' s' hact
    cases hact; exact h s hs

/-- Looking at the state. -/
theorem ends_get {P : σ → Prop} {R : Halt → σ → Prop} :
    Ends P get (fun a s => a = s ∧ P s) R := by
  intro s hs
  constructor
  · intro b s' hact
    cases hact; exact ⟨rfl, hs⟩
  · intro e' s' hact
    cases hact

namespace World
variable {D A : Type} {P : D → Mailbox → Prop}

theorem ends_seen {f : D → α} {R : Halt → World D A → Prop} :
    Ends (Has P) (seen f : Act D A α) (fun a w => a = f w.device ∧ w.Has P) R := by
  intro w hw
  constructor
  · intro a w' h
    cases h; exact ⟨rfl, hw⟩
  · intro e w' h
    cases h

theorem ends_onDevice {f : D → D} {Q : D → Mailbox → Prop} {R : Halt → World D A → Prop}
    (h : ∀ d m, P d m → Q (f d) m) :
    Ends (Has P) (onDevice f : Act D A Unit) (fun _ => Has Q) R := by
  intro w hw
  constructor
  · intro a w' hact
    cases hact; exact h w.device w.mailbox hw
  · intro e w' hact
    cases hact

theorem ends_poll {R : Halt → World D A → Prop} (hempty : ∀ d m, P d m → P d .empty) :
    Ends (Has P) (poll : Act D A _) (fun _ => Has P) R := by
  intro w hw
  constructor
  · intro a w' h
    cases h; exact hempty w.device w.mailbox hw
  · intro e w' h
    cases h

variable [Peer D A] {act : Act D A α} {milliseconds : Nat}

theorem ends_sleep (hP : Peer.Keeps (A := A) P) :
    Ends (Has P) (sleep milliseconds : Act D A Unit) (fun _ => Has P)
      (fun e w => e = .cut ∧ w.Has P) :=
  fun _ hw => ⟨fun _ _ h => (keeps_sleep hP milliseconds).ok hw h,
    fun _ _ h => ⟨sleep_eq_error h, (keeps_sleep hP milliseconds).error hw h⟩⟩

theorem ends_awaitUntil (hP : Peer.Keeps (A := A) P) {ready : World D A → Bool} :
    Ends (Has P) (awaitUntil ready) (fun _ => Has P) (fun e w => e = .cut ∧ w.Has P) :=
  fun _ hw => ⟨fun _ _ h => (keeps_awaitUntil hP ready).ok hw h,
    fun _ _ h => ⟨awaitUntil_eq_error h, (keeps_awaitUntil hP ready).error hw h⟩⟩

/-- What is behind an activity under a time limit that halts. -/
theorem within_eq_error {w w' : World D A} {e : Halt}
    (h : within milliseconds act w = .error e w') :
    (∃ l w₁, act { w with limit := l } = .error e w₁ ∧ w' = { w₁ with limit := w'.limit }) ∨
      ∃ l w₁, act { w with limit := l } = .error .cut w₁ ∧
        blink { w₁ with limit := w.limit } = .error e w' := by
  unfold within at h
  split at h
  · split at h
    · cases h
    · next hact => cases h; exact Or.inl ⟨w.limit, w', hact, rfl⟩
  · split at h
    · cases h
    · next w₁ hact =>
      simp only at h
      split at h
      · rcases bind_eq_error.1 h with h | ⟨_, _, -, h⟩
        · exact Or.inr ⟨_, w₁, hact, h⟩
        · cases h
      · cases h
    · next hact => cases h; exact Or.inl ⟨_, _, hact, rfl⟩

/-- **Under a time limit** an activity comes to its end, or halts and leaves no
    result, or halts for good. -/
theorem ends_within {Q R : D → Mailbox → Prop} {E : Halt → Prop} (hR : Peer.Keeps (A := A) R)
    (h : Ends (Has P) act (fun _ => Has Q) (fun e w => E e ∧ w.Has R)) :
    Ends (Has P) (within milliseconds act)
      (fun a w => (a.isSome = true → w.Has Q) ∧ (a = none → w.Has R))
      (fun e w => (E e ∨ e = .cut) ∧ w.Has R) := by
  intro w hw
  have hlimit : ∀ l, Has P { w with limit := l } := fun _ => hw
  refine ⟨fun a w' hwithin => ?_, fun e w' hwithin => ?_⟩
  · cases a with
    | some a =>
      obtain ⟨l, w₁, -, hact, hw'⟩ := within_eq_some hwithin
      refine ⟨fun _ => ?_, nofun⟩
      rw [hw']
      exact (h _ (hlimit l)).1 a w₁ hact
    | none =>
      refine ⟨nofun, fun _ => ?_⟩
      exact has_of_within_eq_none hR hwithin fun l w₁ hact => ((h _ (hlimit l)).2 .cut w₁ hact).2
  · rcases within_eq_error hwithin with ⟨l, w₁, hact, hw'⟩ | ⟨l, w₁, hact, hblink⟩
    · obtain ⟨he, hw₁⟩ := (h _ (hlimit l)).2 e w₁ hact
      rw [hw']
      exact ⟨Or.inl he, hw₁⟩
    · have hw₁ : Has R { w₁ with limit := w.limit } := ((h _ (hlimit l)).2 .cut w₁ hact).2
      exact ⟨Or.inr (blink_eq_error hblink), (keeps_blink hR).error hw₁ hblink⟩

/-- Waiting for a notification is cut or comes to its end. -/
theorem ends_receiveWithin (hP : Peer.Keeps (A := A) P) (hempty : ∀ d m, P d m → P d .empty) :
    Ends (Has P) (receiveWithin milliseconds : Act D A _) (fun _ => Has P)
      (fun e w => e = .cut ∧ w.Has P) := by
  have hreceive : Ends (Has P) (receive : Act D A _) (fun _ => Has P)
      (fun e w => e = .cut ∧ w.Has P) :=
    (ends_awaitUntil hP).bind fun _ => (ends_poll hempty).bind fun _ => ends_pure fun _ h => h
  unfold receiveWithin
  refine Ends.bind ((ends_within hP hreceive).imp (fun _ _ h => h) ?_) fun value => ?_
  · rintro e w ⟨he | he, hw⟩
    · exact ⟨he, hw⟩
    · exact ⟨he, hw⟩
  · cases value with
    | some value => exact ends_pure fun _ h => h.1 rfl
    | none => exact (ends_poll hempty).pre fun _ h => h.2 rfl

end World

namespace Session
variable {D A : Type}

/-- The session is in this phase, and its world is like this. -/
def Stands (phase : Phase) (P : World D A → Prop) (s : Session D A) : Prop :=
  s.phase = phase ∧ P s.world

variable {phase : Phase} {P : World D A → Prop}

theorem ends_onWorld {act : Act D A α} {Q : α → World D A → Prop} {R : Halt → World D A → Prop}
    (h : Ends P act Q R) :
    Ends (Stands phase P) (onWorld act) (fun a => Stands phase (Q a))
      (fun e => Stands phase (R e)) := by
  rintro s ⟨hphase, hs⟩
  obtain ⟨hok, herror⟩ := h s.world hs
  constructor
  · intro a s' hstep
    obtain ⟨w, hact, rfl⟩ := onWorld_eq_ok.1 hstep
    exact ⟨hphase, hok a w hact⟩
  · intro e s' hstep
    obtain ⟨w, hact, rfl⟩ := onWorld_eq_error.1 hstep
    exact ⟨hphase, herror e w hact⟩

/-- A step that is settled fails the session with what halts it. -/
theorem ends_settling {step : Step D A α} {P : Session D A → Prop} {Q : α → Session D A → Prop}
    {R : Halt → Session D A → Prop} (h : Ends P step Q fun e s => R e (s.settled e)) :
    Ends P (settling step) Q R := by
  intro s hs
  obtain ⟨hok, herror⟩ := h s hs
  constructor
  · intro a s' hstep
    exact hok a s' (settling_eq_ok.1 hstep)
  · intro e s' hsettling
    obtain ⟨s₁, hstep, rfl⟩ := settling_eq_error.1 hsettling
    exact herror e s₁ hstep

theorem ends_expect {R : Halt → Session D A → Prop} :
    Ends (Stands phase P) (expect phase) (fun _ => Stands phase P) R := by
  rintro s ⟨hphase, hs⟩
  constructor
  · intro _ s' h
    obtain ⟨-, rfl⟩ := of_expect_eq_ok h
    exact ⟨hphase, hs⟩
  · intro e s' h
    exact absurd hphase (of_expect_eq_error h).1

theorem ends_enter {R : Halt → Session D A → Prop} (phase' : Phase) :
    Ends (Stands phase P) (enter phase') (fun _ => Stands phase' P) R := by
  rintro s ⟨-, hs⟩
  constructor
  · intro _ s' h
    cases h; exact ⟨rfl, hs⟩
  · intro e s' h
    cases h

end Session

end AirUpdate
