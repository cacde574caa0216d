/-
  Air updates — two runs beside each other.

  Two activities go likewise if they end likewise whenever they begin in states
  that are alike: both come to their end, or both halt for one reason, and the
  states are alike again (`Likewise`, `Likewise.bind`).  Two worlds are alike if
  they differ in the actions to come and in their devices and mailboxes only,
  and in these as given relations allow (`World.Alike`).  If the device keeps to
  the relations (`Peer.Likens`), every wait goes likewise (`likewise_sleep`,
  `likewise_within`).
-/
import AirUpdate.Proofs.Waiting
import Mathlib.Data.List.Forall2
import Mathlib.Data.List.TakeDrop

namespace AirUpdate

/-- Two activities end likewise: in states that `S` relates, and with results that
    `Q` relates or for one reason. -/
inductive Agree {σ α β : Type} (S : σ → σ → Prop) (Q : α → β → Prop) :
    EStateM.Result Halt σ α → EStateM.Result Halt σ β → Prop
  | ok {a b s t} : Q a b → S s t → Agree S Q (.ok a s) (.ok b t)
  | error {e s t} : S s t → Agree S Q (.error e s) (.error e t)

/-- What an activity returned, or why it halted. -/
def outcome {σ α : Type} : EStateM.Result Halt σ α → Except Halt α
  | .ok a _ => .ok a
  | .error e _ => .error e

/-- Begun in states that `S` relates, the two activities end likewise. -/
def Likewise {σ α β : Type} (S : σ → σ → Prop) (Q : α → β → Prop) (x : EStateM Halt σ α)
    (y : EStateM Halt σ β) : Prop :=
  ∀ s t, S s t → Agree S Q (x s) (y t)

section
variable {σ α β α' β' : Type} {S : σ → σ → Prop} {Q : α → β → Prop} {Q' : α' → β' → Prop}
  {x : EStateM Halt σ α} {y : EStateM Halt σ β}

theorem Likewise.bind {f : α → EStateM Halt σ α'} {g : β → EStateM Halt σ β'}
    (h : Likewise S Q x y) (hf : ∀ a b, Q a b → Likewise S Q' (f a) (g b)) :
    Likewise S Q' (x >>= f) (y >>= g) := by
  intro s t hst
  have hxy := h s t hst
  show Agree S Q' (EStateM.bind x f s) (EStateM.bind y g t)
  unfold EStateM.bind
  generalize x s = r at hxy
  generalize y t = r' at hxy
  cases hxy with
  | ok hab hst => exact hf _ _ hab _ _ hst
  | error hst => exact .error hst

/-- Activities that return the same go on with it. -/
theorem Likewise.bind_eq {x y : EStateM Halt σ α} {f : α → EStateM Halt σ α'}
    {g : α → EStateM Halt σ β'} (h : Likewise S Eq x y) (hf : ∀ a, Likewise S Q' (f a) (g a)) :
    Likewise S Q' (x >>= f) (y >>= g) := by
  refine h.bind fun a b hab => ?_
  subst hab
  exact hf a

theorem likewise_pure {a : α} {b : β} (h : Q a b) : Likewise S Q (pure a) (pure b) :=
  fun _ _ hst => .ok h hst

theorem likewise_throw (e : Halt) : Likewise S Q (throw e) (throw e) :=
  fun _ _ hst => .error hst

theorem likewise_get : Likewise S S (get : EStateM Halt σ σ) get := fun _ _ hst => .ok hst hst

theorem Agree.outcome_eq {r r' : EStateM.Result Halt σ α} (h : Agree S Eq r r') :
    outcome r = outcome r' := by
  cases h with
  | ok hab _ => rw [hab]; rfl
  | error _ => rfl

theorem Agree.endState {r : EStateM.Result Halt σ α} {r' : EStateM.Result Halt σ β}
    (h : Agree S Q r r') : S (endState r) (endState r') := by
  cases h with
  | ok _ hst => exact hst
  | error hst => exact hst

end

/-- The two will happen at the same moment. -/
def Due.Alike {A : Type} (V : A → A → Prop) (e e' : Due A) : Prop :=
  e.due = e'.due ∧ V e.action e'.action

/-- Two devices with their mailboxes that do related things stay related. -/
structure Peer.Likens {D A : Type} [Peer D A] (V : A → A → Prop)
    (R : D → Mailbox → D → Mailbox → Prop) : Prop where
  perform : ∀ {a a' : A} {d m d' m'}, V a a' → R d m d' m' →
    R (Peer.perform a d m).1 (Peer.perform a d m).2 (Peer.perform a' d' m').1
      (Peer.perform a' d' m').2
  settle : ∀ {d m d' m'}, R d m d' m' →
    R (Peer.settle d m).1 (Peer.settle d m).2 (Peer.settle d' m').1 (Peer.settle d' m').2

/-- Lists that are related one by one are split at the same place, if the tests agree. -/
theorem forall₂_span {α β : Type} {P : α → β → Prop} {p : α → Bool} {q : β → Bool} {l : List α}
    {l' : List β} (h : List.Forall₂ P l l') (hpq : ∀ a b, P a b → p a = q b) :
    List.Forall₂ P (l.span p).1 (l'.span q).1 ∧ List.Forall₂ P (l.span p).2 (l'.span q).2 := by
  simp only [List.span_eq_takeWhile_dropWhile]
  induction h with
  | nil => exact ⟨.nil, .nil⟩
  | @cons a b l l' hab hrest ih =>
    have htest := hpq a b hab
    cases hb : q b with
    | true =>
      rw [hb] at htest
      simp only [List.takeWhile_cons, List.dropWhile_cons, htest, hb, if_true]
      exact ⟨.cons hab ih.1, ih.2⟩
    | false =>
      rw [hb] at htest
      simp only [List.takeWhile_cons, List.dropWhile_cons, htest, hb]
      exact ⟨.nil, .cons hab hrest⟩

namespace Agenda
variable {A : Type} {V : A → A → Prop} {e e' : Due A} {agenda agenda' : Agenda A}

theorem alike_insert (he : e.Alike V e') (h : List.Forall₂ (Due.Alike V) agenda agenda') :
    List.Forall₂ (Due.Alike V) (agenda.insert e) (agenda'.insert e') := by
  induction h with
  | nil => exact .cons he .nil
  | @cons first first' rest rest' hfirst hrest ih =>
    simp only [insert, hfirst.1, he.1]
    split
    · exact .cons hfirst ih
    · exact .cons he (.cons hfirst hrest)

theorem dueAt_alike (h : List.Forall₂ (Due.Alike V) agenda agenda') (moment : Nat) :
    Agenda.dueAt moment agenda = Agenda.dueAt moment agenda' := by
  cases h with
  | nil => rfl
  | cons hfirst _ => simp only [dueAt, hfirst.1]

end Agenda

namespace World
variable {D A α β : Type} {V : A → A → Prop} {R : D → Mailbox → D → Mailbox → Prop}
  {w w' : World D A}

/-- The worlds stand at the same moment, and differ in what the relations relate. -/
structure Alike (V : A → A → Prop) (R : D → Mailbox → D → Mailbox → Prop) (w w' : World D A) :
    Prop where
  now_eq : w.now = w'.now
  limit_eq : w.limit = w'.limit
  credit_eq : w.credit = w'.credit
  agenda : List.Forall₂ (Due.Alike V) w.agenda w'.agenda
  sides : R w.device w.mailbox w'.device w'.mailbox

namespace Alike

theorem refreshed (h : w.Alike V R w') : w.refreshed.Alike V R w'.refreshed :=
  ⟨h.now_eq, h.limit_eq, rfl, h.agenda, h.sides⟩

theorem charged (h : w.Alike V R w') : w.charged.Alike V R w'.charged :=
  ⟨h.now_eq, h.limit_eq, congrArg (· - 1) h.credit_eq, h.agenda, h.sides⟩

theorem limited {l l' : Nat} (h : w.Alike V R w') (hl : l = l') :
    ({ w with limit := l } : World D A).Alike V R { w' with limit := l' } :=
  ⟨h.now_eq, hl, h.credit_eq, h.agenda, h.sides⟩

variable [Peer D A]

theorem perform {a a' : A} (hR : Peer.Likens V R) (ha : V a a') (h : w.Alike V R w') :
    (w.perform a).Alike V R (w'.perform a') :=
  ⟨h.now_eq, h.limit_eq, h.credit_eq, h.agenda, hR.perform ha h.sides⟩

theorem settle (hR : Peer.Likens V R) (h : w.Alike V R w') : w.settle.Alike V R w'.settle :=
  ⟨h.now_eq, h.limit_eq, h.credit_eq, h.agenda, hR.settle h.sides⟩

theorem after {delay : Nat} {a a' : A} (hR : Peer.Likens V R) (ha : V a a')
    (h : w.Alike V R w') : (w.after delay a).Alike V R (w'.after delay a') := by
  unfold World.after
  split
  · exact h.perform hR ha
  · have hentry : Due.Alike V ⟨w.now + delay, a⟩ ⟨w'.now + delay, a'⟩ :=
      ⟨congrArg (· + delay) h.now_eq, ha⟩
    exact ⟨h.now_eq, h.limit_eq, h.credit_eq, Agenda.alike_insert hentry h.agenda, h.sides⟩

/-- What a device does in answer it does likewise. -/
theorem react {answers answers' : List (Nat × A)} (hR : Peer.Likens V R)
    (ha : List.Forall₂ (fun r r' => r.1 = r'.1 ∧ V r.2 r'.2) answers answers')
    (h : w.Alike V R w') : (w.react answers).Alike V R (w'.react answers') := by
  unfold World.react
  induction ha generalizing w w' with
  | nil => exact h
  | @cons r r' _ _ hr _ ih =>
    simp only [List.foldl_cons]
    rw [hr.1]
    exact ih (h.after hR hr.2)

theorem playAgenda {moment : Nat} {agenda agenda' : Agenda A} (hR : Peer.Likens V R)
    (ha : List.Forall₂ (Due.Alike V) agenda agenda') (h : w.Alike V R w') :
    (World.playAgenda (fun _ => false) moment agenda w).2.Alike V R
      (World.playAgenda (fun _ => false) moment agenda' w').2 := by
  induction ha generalizing w w' with
  | nil => exact ⟨rfl, h.limit_eq, h.credit_eq, .nil, h.sides⟩
  | @cons first first' rest rest' hfirst hrest ih =>
    have hperformed := h.perform hR hfirst.2
    simp only [World.playAgenda, hfirst.1, Agenda.dueAt_alike hrest]
    split
    · split
      · exact ih hperformed
      · exact ih (hperformed.settle hR)
    · exact ⟨rfl, h.limit_eq, h.credit_eq, .cons hfirst hrest, h.sides⟩

theorem pass (hR : Peer.Likens V R) (h : w.Alike V R w') (moment : Nat) :
    (w.pass moment).Alike V R (w'.pass moment) :=
  playAgenda hR (h.settle hR).agenda (h.settle hR)

theorem giveWay (hR : Peer.Likens V R) (h : w.Alike V R w') : w.giveWay.Alike V R w'.giveWay := by
  have hfold : ∀ {due due' : List (Due A)}, List.Forall₂ (Due.Alike V) due due' →
      ∀ {w w' : World D A}, w.Alike V R w' →
      (due.foldl (fun w entry => w.perform entry.action) w).Alike V R
        (due'.foldl (fun w entry => w.perform entry.action) w') := by
    intro due due' hdue
    induction hdue with
    | nil => exact fun h => h
    | cons hfirst _ ih => exact fun h => ih (h.perform hR hfirst.2)
  have hspan := forall₂_span (p := fun e => decide (e.due ≤ w.now))
    (q := fun e => decide (e.due ≤ w'.now)) h.agenda fun e e' he => by rw [he.1, h.now_eq]
  unfold World.giveWay
  refine Alike.refreshed (Alike.settle hR (hfold hspan.1 ?_))
  exact ⟨h.now_eq, h.limit_eq, h.credit_eq, hspan.2, h.sides⟩

end Alike

/-! ## Activities -/

theorem likewise_seen {f : D → α} (h : ∀ d m d' m', R d m d' m' → f d = f d') :
    Likewise (Alike V R) Eq (seen f : Act D A α) (seen f) :=
  fun _ _ hw => .ok (h _ _ _ _ hw.sides) hw

theorem likewise_onDevice {f g : D → D}
    (h : ∀ d m d' m', R d m d' m' → R (f d) m (g d') m') :
    Likewise (Alike V R) Eq (onDevice f : Act D A Unit) (onDevice g) :=
  fun _ _ hw => .ok rfl ⟨hw.now_eq, hw.limit_eq, hw.credit_eq, hw.agenda, h _ _ _ _ hw.sides⟩

theorem likewise_moment : Likewise (Alike V R) Eq (moment : Act D A Nat) moment :=
  fun _ _ hw => .ok hw.now_eq hw

/-- Taking what is in the mailbox. -/
theorem likewise_poll {Q : Option Bytes → Option Bytes → Prop}
    (h : ∀ d m d' m', R d m d' m' → Q m.latest m'.latest ∧ R d .empty d' .empty) :
    Likewise (Alike V R) Q (poll : Act D A (Option Bytes)) poll := by
  intro w w' hw
  obtain ⟨hlatest, hempty⟩ := h _ _ _ _ hw.sides
  exact .ok hlatest ⟨hw.now_eq, hw.limit_eq, hw.credit_eq, hw.agenda, hempty⟩

variable [Peer D A]

theorem likewise_blink (hR : Peer.Likens V R) :
    Likewise (Alike V R) Eq (blink : Act D A Unit) blink := by
  intro w w' hw
  unfold blink
  rw [hw.credit_eq, hw.limit_eq, hw.now_eq]
  split
  · exact .ok rfl hw.charged
  · split
    · exact .error hw
    · exact .ok rfl (hw.giveWay hR).charged

/-- **Waits go likewise.** -/
theorem likewise_sleep (hR : Peer.Likens V R) (milliseconds : Nat) :
    Likewise (Alike V R) Eq (sleep milliseconds : Act D A Unit) (sleep milliseconds) := by
  intro w w' hw
  unfold sleep
  rw [hw.limit_eq, hw.now_eq]
  split
  · exact likewise_blink hR w w' hw
  · split
    · exact .ok rfl (hw.pass hR _).refreshed.charged
    · split
      · exact .error hw
      · exact .error (hw.pass hR _).refreshed

/-- An activity under a time limit goes likewise if it does so without. -/
theorem likewise_within (hR : Peer.Likens V R) {act act' : Act D A α}
    (h : Likewise (Alike V R) Eq act act') (milliseconds : Nat) :
    Likewise (Alike V R) Eq (within milliseconds act) (within milliseconds act') := by
  intro w w' hw
  have hlate : w.limit < w.now + milliseconds ↔ w'.limit < w'.now + milliseconds := by
    rw [hw.limit_eq, hw.now_eq]
  unfold within
  by_cases hlate' : w'.limit < w'.now + milliseconds
  · rw [if_pos (hlate.2 hlate'), if_pos hlate']
    have hact := h w w' hw
    generalize act w = r at hact
    generalize act' w' = r' at hact
    cases hact with
    | ok hab hw => exact .ok (congrArg some hab) hw
    | error hw => exact .error hw
  · rw [if_neg (mt hlate.1 hlate'), if_neg hlate']
    have hact := h _ _ (hw.limited (congrArg (· + milliseconds) hw.now_eq))
    generalize act { w with limit := w.now + milliseconds } = r at hact
    generalize act' { w' with limit := w'.now + milliseconds } = r' at hact
    cases hact with
    | ok hab hw₁ => exact .ok (congrArg some hab) (hw₁.limited hw.limit_eq)
    | @error e w₁ w₁' hw₁ =>
      have hback := hw₁.limited hw.limit_eq
      cases e with
      | cut =>
        simp only
        split
        · exact ((likewise_blink hR).bind_eq fun _ => likewise_pure rfl) _ _ hback
        · exact .ok rfl hback.charged
      | failed error => exact .error hback
      | exhausted => exact .error hback

end World

end AirUpdate
