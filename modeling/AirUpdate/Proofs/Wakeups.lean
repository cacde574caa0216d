/-
  Air updates — no notification is missed.

  A feed and its consumer do not take turns.  A notification is put into the
  mailbox and the bell is rung behind that; in between, and at any point of a
  wait, the other side may go on (`Moves`).  However the steps of the two fall
  together, a consumer that waits while something is in the mailbox hears the
  bell, or a ring is on its way (`Sound.ringing`).  So it gets the notification by
  its own steps (`Reaches.exists_got`).

  What happens is written down as a story of what was sent and what was got.
-/
import AirUpdate.Feed
import Mathlib.Data.List.Basic
import Mathlib.Logic.Relation

namespace AirUpdate

namespace Feed

/-! ## Stories -/

inductive Event where
  | sent (value : Bytes)
  | got (value : Bytes)
  deriving DecidableEq, Repr

def Event.sent? : Event → Option Bytes
  | .sent value => some value
  | .got _ => none

def Event.got? : Event → Option Bytes
  | .sent _ => none
  | .got value => some value

/-- The notifications that were sent since one was got. -/
def unread (story : List Event) : List Bytes :=
  story.foldl (fun unread event =>
    match event with
    | .sent value => unread ++ [value]
    | .got _ => []) []

@[simp] theorem unread_sent (story : List Event) (value : Bytes) :
    unread (story ++ [.sent value]) = unread story ++ [value] := by
  simp [unread]

@[simp] theorem unread_got (story : List Event) (value : Bytes) :
    unread (story ++ [.got value]) = [] := by
  simp [unread]

theorem unread_sents (story : List Event) (values : List Bytes) :
    unread (story ++ values.map .sent) = unread story ++ values := by
  induction values generalizing story with
  | nil => simp
  | cons value values ih =>
    have hrest := ih (story ++ [.sent value])
    simpa using hrest

/-- A story in which only what was sent last is got, and at once. -/
inductive Orderly : List Event → Prop
  | nil : Orderly []
  | sent {story : List Event} (value : Bytes) : Orderly story → Orderly (story ++ [.sent value])
  | got {story : List Event} (value : Bytes) :
      Orderly story → Orderly (story ++ [.sent value, .got value])

namespace Orderly
variable {story older newer : List Event} {value : Bytes}

theorem sents (h : Orderly story) (values : List Bytes) : Orderly (story ++ values.map .sent) := by
  induction values generalizing story with
  | nil => simpa using h
  | cons value values ih =>
    have hrest := ih (h.sent value)
    simpa using hrest

/-- The last one that was sent since one was got may be got. -/
theorem get (h : Orderly story) (hlast : (unread story).getLast? = some value) :
    Orderly (story ++ [.got value]) := by
  cases h with
  | nil => cases hlast
  | sent last h =>
    obtain rfl : last = value := by simpa using hlast
    rw [List.append_assoc]
    exact h.got last
  | got last h =>
    simp [unread] at hlast

theorem behind_sent {last : Bytes}
    (ih : ∀ {newer}, story = older ++ .got value :: newer → ∃ oldest, older = oldest ++ [.sent value])
    (hsplit : story ++ [.sent last] = older ++ .got value :: newer) :
    ∃ oldest, older = oldest ++ [.sent value] := by
  rcases List.eq_nil_or_concat' newer with rfl | ⟨newer', e, rfl⟩
  · have hlast := List.append_inj_right' hsplit rfl
    cases hlast
  · rw [← List.cons_append, ← List.append_assoc] at hsplit
    exact ih (List.append_inj_left' hsplit rfl)

/-- What is got was sent just before. -/
theorem behind (h : Orderly story) (hsplit : story = older ++ .got value :: newer) :
    ∃ oldest, older = oldest ++ [.sent value] := by
  induction h generalizing newer with
  | nil => simp at hsplit
  | sent last h ih => exact behind_sent ih hsplit
  | got last h ih =>
    rw [List.append_cons _ _ [_]] at hsplit
    rcases List.eq_nil_or_concat' newer with rfl | ⟨newer', e, rfl⟩
    · obtain ⟨holder, hlast⟩ := List.append_inj' hsplit rfl
      obtain rfl : last = value := by simpa using hlast
      exact ⟨_, holder.symm⟩
    · rw [← List.cons_append, ← List.append_assoc] at hsplit
      exact behind_sent ih (List.append_inj_left' hsplit rfl)

/-- What is got is part of what was sent, in order, and nothing is got twice. -/
theorem sublist (h : Orderly story) :
    (story.filterMap Event.got?).Sublist (story.filterMap Event.sent?) := by
  induction h with
  | nil => exact List.Sublist.slnil
  | sent value h ih =>
    simp only [List.filterMap_append, List.filterMap_cons, List.filterMap_nil, Event.got?,
      Event.sent?, List.append_nil]
    exact ih.trans (List.sublist_append_left _ _)
  | got value h ih =>
    simp only [List.filterMap_append, List.filterMap_cons, List.filterMap_nil, Event.got?,
      Event.sent?]
    exact ih.append (List.Sublist.refl _)

end Orderly

/-! ## Steps of the two -/

/-- Where the consumer is. -/
inductive Place where
  /-- it does not wait -/
  | away
  /-- it is going to look into the mailbox -/
  | looking
  /-- it found nothing, and is going to wait for the bell -/
  | turning
  | listening
  deriving DecidableEq, Repr

/-- A consumer and its feed, between two steps. -/
structure Stand where
  place : Place
  /-- notifications that were put into the mailbox and did not ring yet -/
  unrung : Nat
  mailbox : Mailbox
  bell : Bell
  deriving DecidableEq, Repr

/-- A step of the feed or of its consumer, and what it adds to the story. -/
inductive Moves : Stand → List Event → Stand → Prop
  | puts {p n m b} (value : Bytes) : Moves ⟨p, n, m, b⟩ [.sent value] ⟨p, n + 1, m.deliver value, b⟩
  | rings {p n m b} : Moves ⟨p, n + 1, m, b⟩ [] ⟨p, n, m, b.ring⟩
  /-- the consumer begins a wait -/
  | begins {n m b} : Moves ⟨.away, n, m, b⟩ [] ⟨.looking, n, m, b⟩
  /-- it takes what is there, in a wait or without one -/
  | takes {p n m b value} : p = .away ∨ p = .looking → m.take.1 = some value →
      Moves ⟨p, n, m, b⟩ [.got value] ⟨.away, n, m.take.2, b⟩
  | misses {p n m b} : p = .away ∨ p = .looking → m.take.1 = none →
      Moves ⟨p, n, m, b⟩ [] ⟨if p = .looking then .turning else .away, n, m.take.2, b⟩
  | listens {n m b} : Moves ⟨.turning, n, m, b⟩ [] ⟨.listening, n, m, b.await⟩
  | hears {n m b} : b.isHeard = true → Moves ⟨.listening, n, m, b⟩ [] ⟨.looking, n, m, b.answer⟩
  /-- its wait is given up -/
  | leaves {p n m b} :
      Moves ⟨p, n, m, b⟩ [] ⟨.away, n, m, if p = .listening then b.leave else b⟩

/-- What the steps so far have told. -/
inductive Reaches : List Event → Stand → Prop
  | start : Reaches [] ⟨.away, 0, .empty, .silent⟩
  | step {story events : List Event} {s s' : Stand} :
      Reaches story s → Moves s events s' → Reaches (story ++ events) s'

/-- What holds between any two steps. -/
structure Sound (story : List Event) (s : Stand) : Prop where
  orderly : Orderly story
  /-- the mailbox has the last notification that was sent since one was got -/
  latest : s.mailbox.latest = (unread story).getLast?
  free : s.bell.isFree = decide (s.place ≠ .listening)
  /-- no notification is in the mailbox while its consumer waits in vain -/
  ringing : s.mailbox.latest ≠ none → s.place = .turning ∨ s.place = .listening →
    0 < s.unrung ∨ s.bell = .kept ∨ s.bell.isHeard = true

namespace Sound
variable {story events : List Event} {s s' : Stand}

theorem start : Sound [] ⟨.away, 0, .empty, .silent⟩ where
  orderly := .nil
  latest := rfl
  free := rfl
  ringing hsome := absurd rfl hsome

/-- **Each step of either side keeps it.** -/
theorem step (h : Sound story s) (hmoves : Moves s events s') : Sound (story ++ events) s' := by
  obtain ⟨horderly, hlatest, hfree, hringing⟩ := h
  cases hmoves with
  | puts value =>
    exact ⟨horderly.sent value, by simp [Mailbox.deliver], hfree, fun _ _ => Or.inl (Nat.succ_pos _)⟩
  | rings =>
    refine ⟨by simpa using horderly, by simpa using hlatest, by simpa using hfree, fun _ _ => ?_⟩
    exact Or.inr (Bell.kept_or_heard_ring _)
  | begins => exact ⟨by simpa using horderly, by simpa using hlatest, hfree, by simp⟩
  | takes hplace hvalue =>
    refine ⟨horderly.get (hlatest.symm.trans hvalue), by simp [Mailbox.take, Mailbox.empty], ?_,
      by simp⟩
    rcases hplace with rfl | rfl <;> simpa using hfree
  | misses hplace hnone =>
    refine ⟨by simpa using horderly, ?_, ?_, fun hsome => absurd rfl hsome⟩
    · rw [List.append_nil, ← hlatest]
      exact hnone.symm
    · rcases hplace with rfl | rfl <;> simpa using hfree
  | listens =>
    refine ⟨by simpa using horderly, by simpa using hlatest, by simp, fun hsome _ => ?_⟩
    rcases hringing hsome (Or.inl rfl) with hring | hkept | hheard
    · exact Or.inl hring
    · exact Or.inr (Or.inr (by simp_all [Bell.await, Bell.isHeard]))
    · cases Bell.not_isFree_of_isHeard hheard ▸ hfree
  | hears hheard =>
    exact ⟨by simpa using horderly, by simpa using hlatest, Bell.isFree_answer hheard, by simp⟩
  | @leaves p n m b =>
    refine ⟨by simpa using horderly, by simpa using hlatest, ?_, by simp⟩
    by_cases hplace : p = .listening
    · simp [hplace]
    · simpa [hplace] using hfree

end Sound

theorem Reaches.sound {story : List Event} {s : Stand} (h : Reaches story s) : Sound story s := by
  induction h with
  | start => exact .start
  | step _ hmoves ih => exact ih.step hmoves

/-! ## Getting it -/

/-- A step that does not add to the story: of the consumer in its wait, or a ring. -/
def Quiet (s s' : Stand) : Prop := s'.place ≠ .away ∧ Moves s [] s'

theorem exists_got_of_heard {n : Nat} {m : Mailbox} {b : Bell} {value : Bytes}
    (hvalue : m.latest = some value) (hheard : b.isHeard = true) :
    ∃ s₁ s₂, Relation.ReflTransGen Quiet ⟨.listening, n, m, b⟩ s₁ ∧ Moves s₁ [.got value] s₂ :=
  ⟨_, _, .single ⟨by simp, .hears hheard⟩, .takes (Or.inr rfl) hvalue⟩

theorem Sound.exists_got_of_listening {story : List Event} {n : Nat} {m : Mailbox} {b : Bell}
    {value : Bytes} (h : Sound story ⟨.listening, n, m, b⟩) (hvalue : m.latest = some value) :
    ∃ s₁ s₂, Relation.ReflTransGen Quiet ⟨.listening, n, m, b⟩ s₁ ∧ Moves s₁ [.got value] s₂ := by
  have hfree : b.isFree = false := by simpa using h.free
  rcases h.ringing (by simp [hvalue]) (Or.inr rfl) with hring | hkept | hheard
  · obtain ⟨k, rfl⟩ := Nat.exists_eq_add_of_lt hring
    rw [Nat.zero_add] at *
    have hheard : b.ring.isHeard = true := by simp [hfree]
    obtain ⟨s₁, s₂, hquiet, hgot⟩ := exists_got_of_heard (n := k) hvalue hheard
    exact ⟨s₁, s₂, .head ⟨by simp, .rings⟩ hquiet, hgot⟩
  · obtain rfl : b = .kept := hkept
    cases hfree
  · exact exists_got_of_heard hvalue hheard

/-- **A notification is not missed**: a consumer that waits while one is in the mailbox gets it, by
    its own steps and by rings that are on their way. -/
theorem Reaches.exists_got {story : List Event} {s : Stand} {value : Bytes} (h : Reaches story s)
    (hvalue : s.mailbox.latest = some value) (hplace : s.place ≠ .away) :
    ∃ s₁ s₂, Relation.ReflTransGen Quiet s s₁ ∧ Moves s₁ [.got value] s₂ := by
  obtain ⟨place, unrung, mailbox, bell⟩ := s
  cases place with
  | away => exact absurd rfl hplace
  | looking => exact ⟨_, _, .refl, .takes (Or.inr rfl) hvalue⟩
  | listening => exact h.sound.exists_got_of_listening hvalue
  | turning =>
    obtain ⟨s₁, s₂, hquiet, hgot⟩ := (h.step .listens).sound.exists_got_of_listening hvalue
    exact ⟨s₁, s₂, .head ⟨by simp, .listens⟩ hquiet, hgot⟩

end Feed

end AirUpdate
