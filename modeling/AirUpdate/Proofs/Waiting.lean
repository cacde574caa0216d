/-
  Air updates — what the device keeps while the program waits.

  A property of a device and its mailbox that no action of the device breaks
  (`Peer.Keeps`) survives every wait of the program, whether the wait comes to
  its end or is cut (`keeps_sleep`, `keeps_awaitUntil`, `keeps_within`).  A wait
  that comes to its end has taken its time (`now_of_sleep`).
  `within_eq_some` and `within_eq_none` say what an activity under a time limit
  has done.
-/
import AirUpdate.World

namespace AirUpdate

variable {D A α β : Type}

/-- The state in which an activity ends, also if it halts. -/
def endState {σ : Type} : EStateM.Result Halt σ α → σ
  | .ok _ s | .error _ s => s

/-- The result of an activity that came to its end. -/
def result? {σ : Type} : EStateM.Result Halt σ α → Option α
  | .ok a _ => some a
  | .error _ _ => none

/-- Why an activity halted, if it did. -/
def halt? {σ : Type} : EStateM.Result Halt σ α → Option Halt
  | .ok _ _ => none
  | .error e _ => some e

theorem eq_ok_of_result? {σ : Type} {r : EStateM.Result Halt σ α} {a : α} (h : result? r = some a) :
    r = .ok a (endState r) := by
  cases r with
  | ok b s => cases h; rfl
  | error e s => cases h

theorem eq_error_of_halt? {σ : Type} {r : EStateM.Result Halt σ α} {e : Halt}
    (h : halt? r = some e) : r = .error e (endState r) := by
  cases r with
  | ok a s => cases h
  | error e' s => cases h; rfl

theorem bind_eq_ok {σ : Type} {x : EStateM Halt σ α} {f : α → EStateM Halt σ β} {s s' : σ} {b : β} :
    (x >>= f) s = .ok b s' ↔ ∃ a s₁, x s = .ok a s₁ ∧ f a s₁ = .ok b s' := by
  show EStateM.bind x f s = _ ↔ _
  unfold EStateM.bind
  cases x s with
  | ok a s₁ =>
    refine ⟨fun h => ⟨a, s₁, rfl, h⟩, ?_⟩
    rintro ⟨a', s₂, h, hf⟩
    cases h; exact hf
  | error e s₁ => simp

theorem bind_of_ok {σ : Type} {x : EStateM Halt σ α} {f : α → EStateM Halt σ β} {s s' : σ} {a : α}
    (h : x s = .ok a s') : (x >>= f) s = f a s' := by
  show EStateM.bind x f s = _
  unfold EStateM.bind
  rw [h]

/-- Nothing that the device does breaks the property. -/
structure Peer.Keeps [Peer D A] (P : D → Mailbox → Prop) : Prop where
  perform : ∀ (a : A) d m, P d m → P (Peer.perform a d m).1 (Peer.perform a d m).2
  settle : ∀ d m, P d m → P (Peer.settle d m).1 (Peer.settle d m).2

namespace World

/-- The property holds of the device and its mailbox. -/
def Has (P : D → Mailbox → Prop) (w : World D A) : Prop := P w.device w.mailbox

/-- The activity keeps the property, however it ends. -/
def ActKeeps (P : D → Mailbox → Prop) (act : Act D A α) : Prop :=
  ∀ w, w.Has P → (endState (act w)).Has P

section
variable {P : D → Mailbox → Prop} {act : Act D A α}

theorem ActKeeps.ok (h : ActKeeps P act) {w w' : World D A} {a : α} (hw : w.Has P)
    (hact : act w = .ok a w') : w'.Has P := by
  have := h w hw
  rw [hact] at this
  exact this

theorem ActKeeps.error (h : ActKeeps P act) {w w' : World D A} {e : Halt} (hw : w.Has P)
    (hact : act w = .error e w') : w'.Has P := by
  have := h w hw
  rw [hact] at this
  exact this

theorem keeps_pure (a : α) : ActKeeps P (pure a : Act D A α) := fun _ h => h

theorem keeps_bind {f : α → Act D A β} (hx : ActKeeps P act) (hf : ∀ a, ActKeeps P (f a)) :
    ActKeeps P (act >>= f) := by
  intro w hw
  have h := hx w hw
  show (endState (EStateM.bind act f w)).Has P
  unfold EStateM.bind
  cases hact : act w with
  | ok a w₁ => exact hf a w₁ (hx.ok hw hact)
  | error e w₁ => exact hx.error hw hact

/-- Emptying the mailbox is all that taking a notification does. -/
theorem keeps_poll (hempty : ∀ d m, P d m → P d .empty) : ActKeeps P (poll : Act D A _) :=
  fun w hw => hempty w.device w.mailbox hw

end

variable [Peer D A] {P : D → Mailbox → Prop}

section
variable (hP : Peer.Keeps (A := A) P)
include hP

theorem has_perform {w : World D A} (a : A) (h : w.Has P) : (w.perform a).Has P :=
  hP.perform a w.device w.mailbox h

theorem has_settle {w : World D A} (h : w.Has P) : w.settle.Has P :=
  hP.settle w.device w.mailbox h

theorem has_after {w : World D A} (delay : Nat) (a : A) (h : w.Has P) :
    (w.after delay a).Has P := by
  unfold after
  split
  · exact has_perform hP a h
  · exact h

theorem has_react {w : World D A} (reactions : List (Nat × A)) (h : w.Has P) :
    (w.react reactions).Has P := by
  unfold react
  induction reactions generalizing w with
  | nil => exact h
  | cons r rest ih => exact ih (has_after hP r.1 r.2 h)

theorem has_playAgenda {ready : World D A → Bool} {moment : Nat} (agenda : Agenda A)
    {w : World D A} (h : w.Has P) : (playAgenda ready moment agenda w).2.Has P := by
  induction agenda generalizing w with
  | nil => exact h
  | cons first rest ih =>
    have hfirst := has_perform hP first.action h
    simp only [playAgenda]
    split
    · split
      · exact ih hfirst
      · split
        · exact has_settle hP hfirst
        · exact ih (has_settle hP hfirst)
    · exact h

theorem has_pass {w : World D A} (moment : Nat) (h : w.Has P) : (w.pass moment).Has P :=
  has_playAgenda hP _ (has_settle hP h)

theorem has_giveWay {w : World D A} (h : w.Has P) : w.giveWay.Has P := by
  have hfold : ∀ (due : List (Due A)) {w : World D A}, w.Has P →
      (due.foldl (fun w entry => w.perform entry.action) w).Has P := by
    intro due
    induction due with
    | nil => exact id
    | cons first rest ih => exact fun h => ih (has_perform hP first.action h)
  unfold giveWay
  exact has_settle hP (hfold _ h)

theorem keeps_blink : ActKeeps P (blink : Act D A Unit) := by
  intro w h
  unfold blink
  split
  · exact h
  · split
    · exact h
    · exact has_giveWay hP h

theorem keeps_sleep (ms : Nat) : ActKeeps P (sleep ms : Act D A Unit) := by
  intro w h
  unfold sleep
  split
  · exact keeps_blink hP w h
  · split
    · exact has_pass hP _ h
    · split
      · exact h
      · exact has_pass hP _ h

theorem keeps_awaitUntil (ready : World D A → Bool) : ActKeeps P (awaitUntil ready) := by
  intro w h
  unfold awaitUntil
  split
  · exact h
  · split
    · exact h
    · simp only
      split
      · exact has_settle hP h
      · have hplay : (w.settle.refreshed.play ready w.settle.refreshed.limit).2.Has P :=
          has_playAgenda hP _ (has_settle hP h)
        split
        · next heq => rw [heq] at hplay; exact hplay
        · next heq => rw [heq] at hplay; exact hplay

end

/-- Nothing stops the actions of an agenda on the way. -/
theorem playAgenda_never (moment : Nat) (agenda : Agenda A) (w : World D A) :
    (playAgenda (fun _ => false) moment agenda w).1 = false := by
  induction agenda generalizing w with
  | nil => rfl
  | cons first rest ih =>
    simp only [playAgenda]
    split
    · split
      · exact ih _
      · exact ih _
    · rfl

/-- What never holds is not waited for to the end. -/
theorem awaitUntil_never {w w' : World D A} : awaitUntil (fun _ => false) w ≠ .ok () w' := by
  intro h
  unfold awaitUntil at h
  simp only [Bool.false_eq_true, if_false] at h
  split at h
  · cases h
  · have hplay := playAgenda_never w.settle.refreshed.limit w.settle.refreshed.agenda
      w.settle.refreshed
    unfold play at h
    split at h
    · next heq => rw [heq] at hplay; cases hplay
    · cases h

/-! ## The clock -/

theorem now_playAgenda (moment : Nat) (agenda : Agenda A) (w : World D A) :
    (playAgenda (fun _ => false) moment agenda w).2.now = moment := by
  induction agenda generalizing w with
  | nil => rfl
  | cons first rest ih =>
    simp only [playAgenda]
    split
    · split
      · exact ih _
      · exact ih _
    · rfl

theorem now_giveWay (w : World D A) : w.giveWay.now = w.now := by
  have hfold : ∀ (due : List (Due A)) (w : World D A),
      (due.foldl (fun w entry => w.perform entry.action) w).now = w.now := by
    intro due
    induction due with
    | nil => exact fun _ => rfl
    | cons first rest ih => exact fun w => ih (w.perform first.action)
  unfold giveWay
  exact hfold _ _

theorem now_of_blink {w w' : World D A} (h : blink w = .ok () w') : w'.now = w.now := by
  unfold blink at h
  split at h
  · cases h; rfl
  · split at h
    · cases h
    · cases h; exact now_giveWay w

/-- **A wait takes its time.** -/
theorem now_of_sleep {milliseconds : Nat} {w w' : World D A}
    (h : sleep milliseconds w = .ok () w') : w'.now = w.now + milliseconds := by
  unfold sleep at h
  split at h
  · next hzero => exact (now_of_blink h).trans (congrArg (w.now + ·) hzero).symm
  · split at h
    · cases h
      exact now_playAgenda _ _ _
    · split at h
      · cases h
      · cases h

/-- A wait that comes to its end does so before the limit. -/
theorem le_limit_of_sleep {milliseconds : Nat} {w w' : World D A}
    (h : sleep milliseconds w = .ok () w') (hpos : 0 < milliseconds) :
    w.now + milliseconds ≤ w.limit := by
  unfold sleep at h
  rw [if_neg (Nat.pos_iff_ne_zero.1 hpos)] at h
  split at h
  · next hle => exact hle
  · split at h
    · cases h
    · cases h

/-- A wait that is cut has let the time up to the limit pass. -/
theorem now_of_sleep_cut {milliseconds : Nat} {e : Halt} {w w' : World D A}
    (h : sleep milliseconds w = .error e w') (hpos : 0 < milliseconds) (hnow : w.now ≤ w.limit) :
    w'.now = w.limit := by
  unfold sleep at h
  rw [if_neg (Nat.pos_iff_ne_zero.1 hpos)] at h
  split at h
  · cases h
  · split at h
    · next hle => cases h; exact Nat.le_antisymm hnow hle
    · cases h; exact now_playAgenda _ _ _

/-- Reacting takes no time. -/
theorem now_react (reactions : List (Nat × A)) (w : World D A) :
    (w.react reactions).now = w.now := by
  unfold react
  induction reactions generalizing w with
  | nil => rfl
  | cons r rest ih =>
    refine (ih (w.after r.1 r.2)).trans ?_
    unfold after
    split <;> rfl

/-! ## Time limits -/

section
variable {act : Act D A α} {milliseconds : Nat} {w w' : World D A}

/-- An activity that came to its end in time ran under some limit, which is no later
    than its own. -/
theorem within_eq_some {a : α} (h : within milliseconds act w = .ok (some a) w') :
    ∃ l w₁, l ≤ w.now + milliseconds ∧ act { w with limit := l } = .ok a w₁ ∧
      w' = { w₁ with limit := w'.limit } := by
  unfold within at h
  split at h
  · next hlimit =>
    split at h
    · next hact => cases h; exact ⟨w.limit, w', Nat.le_of_lt hlimit, hact, rfl⟩
    · cases h
  · split at h
    · next a' w₁ hact => cases h; exact ⟨_, w₁, Nat.le_refl _, hact, rfl⟩
    · simp only at h
      split at h
      · obtain ⟨a', w₂, -, h⟩ := bind_eq_ok.1 h
        cases h
      · cases h
    · cases h

/-- An activity that leaves its limit alone is back under the limit that there was before. -/
theorem limit_of_within {a : α} (h : within milliseconds act w = .ok (some a) w')
    (hact : ∀ l w₁, act { w with limit := l } = .ok a w₁ → w₁.limit = l) : w'.limit = w.limit := by
  unfold within at h
  split at h
  · split at h
    · next hok => cases h; exact hact w.limit _ hok
    · cases h
  · split at h
    · cases h; rfl
    · simp only at h
      split at h
      · obtain ⟨a', w₂, -, h⟩ := bind_eq_ok.1 h
        cases h
      · cases h
    · cases h

/-- An activity that did not come to its end in time was cut at its own limit. -/
theorem within_eq_none (h : within milliseconds act w = .ok none w') :
    ∃ w₁, act { w with limit := w.now + milliseconds } = .error .cut w₁ ∧
      (w' = charged { w₁ with limit := w.limit } ∨
        milliseconds = 0 ∧ blink { w₁ with limit := w.limit } = .ok () w') := by
  unfold within at h
  split at h
  · split at h
    · cases h
    · cases h
  · split at h
    · cases h
    · next w₁ hact =>
      refine ⟨w₁, hact, ?_⟩
      simp only at h
      split at h
      · next hzero =>
        obtain ⟨_, w₂, hblink, h⟩ := bind_eq_ok.1 h
        cases h; exact Or.inr ⟨hzero, hblink⟩
      · cases h; exact Or.inl rfl
    · cases h

theorem has_of_within_eq_none (hP : Peer.Keeps (A := A) P)
    (h : within milliseconds act w = .ok none w')
    (hcut : ∀ l w₁, act { w with limit := l } = .error .cut w₁ → w₁.Has P) : w'.Has P := by
  obtain ⟨w₁, hact, rfl | ⟨-, hblink⟩⟩ := within_eq_none h
  · exact hcut _ w₁ hact
  · have h₁ : ({ w₁ with limit := w.limit } : World D A).Has P := hcut _ w₁ hact
    exact (keeps_blink hP).ok h₁ hblink

theorem keeps_within (hP : Peer.Keeps (A := A) P) (hact : ActKeeps P act) (milliseconds : Nat) :
    ActKeeps P (within milliseconds act) := by
  intro w h
  have hl : ∀ l, ({ w with limit := l } : World D A).Has P := fun _ => h
  unfold within
  split
  · cases hw : act w with
    | ok a w₁ => exact hact.ok h hw
    | error e w₁ => exact hact.error h hw
  · cases hw : act { w with limit := w.now + milliseconds } with
    | ok a w₁ =>
      have h₁ : w₁.Has P := hact.ok (hl _) hw
      exact h₁
    | error e w₁ =>
      have h₁ : w₁.Has P := hact.error (hl _) hw
      cases e with
      | cut =>
        simp only
        split
        · exact keeps_bind (keeps_blink hP) (fun _ => keeps_pure none) _ h₁
        · exact h₁
      | failed e => exact h₁
      | exhausted => exact h₁

end

/-- Waiting for a notification keeps what emptying the mailbox keeps. -/
theorem keeps_receiveWithin (hP : Peer.Keeps (A := A) P) (hempty : ∀ d m, P d m → P d .empty)
    (milliseconds : Nat) : ActKeeps P (receiveWithin milliseconds : Act D A _) := by
  have hreceive : ActKeeps P (receive : Act D A _) :=
    keeps_bind (keeps_awaitUntil hP _) fun _ => keeps_bind (keeps_poll hempty) fun _ => keeps_pure _
  refine keeps_bind (keeps_within hP hreceive milliseconds) fun value => ?_
  cases value with
  | some value => exact keeps_pure _
  | none => exact keeps_poll hempty

/-- Whoever waits for a notification leaves none behind. -/
theorem mailbox_of_receiveWithin {milliseconds : Nat} {found : Option Bytes} {w w' : World D A}
    (h : receiveWithin milliseconds w = .ok found w') : w'.mailbox = .empty := by
  obtain ⟨value, w₁, hwithin, h⟩ := bind_eq_ok.1 h
  cases value with
  | none =>
    cases h
    rfl
  | some value =>
    cases h
    obtain ⟨l, w₁, -, hreceive, heq⟩ := within_eq_some hwithin
    obtain ⟨_, w₂, -, hreceive⟩ := bind_eq_ok.1 hreceive
    obtain ⟨_, w₃, hpoll, hreceive⟩ := bind_eq_ok.1 hreceive
    cases hpoll
    cases hreceive
    rw [heq]
    rfl

end World

end AirUpdate
