/-
  Air updates — the rounds of a stream.

  A `Round` is a turn of the stream as it happened, also one that halted.
  `Session.rounds` lists the rounds of a stream in order; `Runs` says how they
  follow each other.  What every turn but the last carries on holds at the
  beginning of each round (`Runs.history`), and a stream that comes to its end
  has a last round (`stream_eq_ok`).
-/
import AirUpdate.Proofs.Steering

namespace AirUpdate

/-- A turn of the stream as it happened. -/
structure Round (D A : Type) where
  /-- the session when the turn began -/
  before : Session D A
  /-- what the turn came to, unless it halted -/
  turn : Option Turn
  /-- the session when the turn ended -/
  after : Session D A

namespace Round
variable {D A : Type}

/-- The notification taken in the round. -/
def heard (x : Round D A) : Option Bytes := x.before.world.mailbox.latest

/-- The report heard in the round, if it is one that steers the stream. -/
def steering? (x : Round D A) : Option StatusReport := x.before.steering?

/-- The number of the fragment that is next once the notification is heeded. -/
def index (x : Round D A) : Nat := x.before.heeded.flow.sequencer.index

/-- The fragment whose write began in the round. -/
def attempt? (x : Round D A) : Option Fragment := x.before.attempt?

/-- The fragment whose write came to its end in the round. -/
def completed? (x : Round D A) : Option Fragment :=
  if x.turn.any Turn.sends then x.attempt? else none

/-- The fragment whose write was given up in the round. -/
def givenUp? (x : Round D A) : Option Fragment :=
  if x.turn = some .stalled then x.attempt? else none

theorem completed?_eq_some {x : Round D A} {f : Fragment} : x.completed? = some f ↔
    ∃ t, x.turn = some t ∧ t.sends = true ∧ x.attempt? = some f := by
  unfold completed?
  cases x.turn with
  | none => simp
  | some t => simp

theorem completed?_of_attempt? {x : Round D A} (h : x.attempt? = none) : x.completed? = none := by
  rw [completed?, h, ite_self]

/-- A round that begins a write begins that of the fragment that is next. -/
theorem eq_of_attempt? {x : Round D A} {f : Fragment} (h : x.attempt? = some f) :
    f = fragmentAt x.before.image x.before.config.payloadSize x.index := by
  unfold attempt? Session.attempt? at h
  split at h
  · cases h
  · cases h; exact x.before.heeded.next_eq

/-- The latest notification that arrived in the round, after the one it took. -/
def late (x : Round D A) : Option Bytes := x.after.world.mailbox.latest

end Round

namespace Session
variable {D A : Type} [Peer D A] (link : Link D A)

/-- The rounds of a stream, as `stream` takes its turns. -/
def rounds : Nat → TransferReport → Session D A → List (Round D A)
  | 0, _, _ => []
  | turns + 1, report, s =>
    match turn link report s with
    | .ok (t, report') s' =>
      ⟨s, some t, s'⟩ :: if t.isLast then [] else rounds turns report' s'
    | .error _ s' => [⟨s, none, s'⟩]

/-- How the rounds of a stream follow each other. -/
inductive Runs : TransferReport → Session D A → List (Round D A) → Prop
  | nil {report s} : Runs report s []
  | halted {report s e s'} : turn link report s = .error e s' → Runs report s [⟨s, none, s'⟩]
  | ended {report s t report' s' xs} : turn link report s = .ok (t, report') s' →
      (t.isLast = true → xs = []) → Runs report' s' xs → Runs report s (⟨s, some t, s'⟩ :: xs)

variable {link}

theorem runs_rounds (turns : Nat) (report : TransferReport) (s : Session D A) :
    Runs link report s (rounds link turns report s) := by
  induction turns generalizing report s with
  | zero => exact .nil
  | succ turns ih =>
    unfold rounds
    cases h : turn link report s with
    | error e s' => exact .halted h
    | ok a s' =>
      obtain ⟨t, report'⟩ := a
      simp only
      split
      · exact .ended h (fun _ => rfl) .nil
      · next ht => exact .ended h (fun hlast => absurd hlast ht) (ih report' s')

section
variable {turns : Nat} {report report' : TransferReport} {t : Turn} {s s' : Session D A}

theorem stream_of_last (h : turn link report s = .ok (t, report') s') (ht : t.isLast = true) :
    stream link (turns + 1) report s = .ok report' s' := by
  refine (bind_of_ok h).trans ?_
  show (if t.isLast then pure report' else stream link turns report') s' = _
  rw [if_pos ht]
  rfl

theorem stream_of_not_last (h : turn link report s = .ok (t, report') s')
    (ht : t.isLast = false) :
    stream link (turns + 1) report s = stream link turns report' s' := by
  refine (bind_of_ok h).trans ?_
  show (if t.isLast then pure report' else stream link turns report') s' = _
  rw [ht, if_neg nofun]

end

/-- A stream that comes to its end has a last round, which ends where the stream
    does. -/
theorem stream_eq_ok {turns : Nat} {report report' : TransferReport} {s s' : Session D A}
    (h : stream link turns report s = .ok report' s') :
    ∃ pre x t, rounds link turns report s = pre ++ [x] ∧ x.turn = some t ∧ t.isLast = true ∧
      x.after = s' := by
  induction turns generalizing report s with
  | zero => cases h
  | succ turns ih =>
    obtain ⟨⟨t, report₁⟩, s₁, hturn, h⟩ := bind_eq_ok.1 h
    unfold rounds
    rw [hturn]
    simp only at h ⊢
    split at h
    · next ht =>
      cases h
      exact ⟨[], ⟨s, some t, s'⟩, t, by rw [if_pos ht]; rfl, rfl, ht, rfl⟩
    · next ht =>
      obtain ⟨pre, x, t', hrounds, hx⟩ := ih h
      exact ⟨⟨s, some t, s₁⟩ :: pre, x, t', by rw [if_neg ht, hrounds]; rfl, hx⟩

/-- A turn that is not the last is followed by another if there may be one more. -/
theorem rounds_succ {turns : Nat} {report : TransferReport} {s : Session D A}
    {pre post : List (Round D A)} {x : Round D A} {t : Turn}
    (h : rounds link turns report s = pre ++ x :: post) (hx : x.turn = some t)
    (ht : t.isLast = false) :
    ∃ y post', rounds link (turns + 1) report s = pre ++ x :: y :: post' := by
  induction turns generalizing report s pre with
  | zero => simp [rounds] at h
  | succ turns ih =>
    unfold rounds at h ⊢
    cases hturn : turn link report s with
    | error e s' =>
      rw [hturn] at h
      rcases List.cons_eq_append_iff.1 h with ⟨rfl, hx'⟩ | ⟨pre', rfl, hrest⟩
      · cases hx'
        cases hx
      · simp at hrest
    | ok a s' =>
      obtain ⟨t', report'⟩ := a
      rw [hturn] at h
      simp only at h ⊢
      rcases List.cons_eq_append_iff.1 h with ⟨rfl, hx'⟩ | ⟨pre', rfl, hrest⟩
      · cases hx'
        cases hx
        obtain ⟨y, post', hnext⟩ : ∃ y post', rounds link (turns + 1) report' s' = y :: post' := by
          unfold rounds
          cases turn link report' s' <;> exact ⟨_, _, rfl⟩
        exact ⟨y, post', by simp [ht, hnext]⟩
      · cases hlast : t'.isLast with
        | true => simp [hlast] at hrest
        | false =>
          simp only [hlast, Bool.false_eq_true, if_false] at hrest ⊢
          obtain ⟨y, post', hnext⟩ := ih hrest
          exact ⟨y, post', by rw [hnext]; rfl⟩

namespace Runs
variable {report : TransferReport} {s : Session D A} {xs pre post : List (Round D A)}
  {x y : Round D A}

theorem history_from {H : List (Round D A) → TransferReport → Session D A → Prop}
    (hstep : ∀ pre x report t report', H pre report x.before → x.turn = some t →
      t.isLast = false → Turned link x.before report t report' x.after →
      H (pre ++ [x]) report' x.after)
    (h : Runs link report s xs) (pre₀ : List (Round D A)) (h₀ : H pre₀ report s) :
    ∀ pre x post, xs = pre ++ x :: post → ∃ report', H (pre₀ ++ pre) report' x.before ∧
      ∀ t, x.turn = some t → ∃ report'', Turned link x.before report' t report'' x.after := by
  -- `pre₀` are the rounds before the part of the stream that the induction is at
  induction h generalizing pre₀ with
  | nil => intro pre x post hxs; simp at hxs
  | halted hturn =>
    intro pre x post hxs
    rcases List.cons_eq_append_iff.1 hxs with ⟨rfl, hx⟩ | ⟨pre', rfl, hx⟩
    · cases hx
      exact ⟨_, by simpa using h₀, fun t ht => by cases ht⟩
    · simp at hx
  | @ended report s t report₁ s₁ xs hturn hlast _ ih =>
    intro pre x post hxs
    have hturned := turned_of_turn hturn
    rcases List.cons_eq_append_iff.1 hxs with ⟨rfl, hx⟩ | ⟨pre', rfl, hx⟩
    · cases hx
      exact ⟨report, by simpa using h₀, fun t' ht => by cases ht; exact ⟨report₁, hturned⟩⟩
    · have ht : t.isLast = false := by
        cases ht : t.isLast with
        | false => rfl
        | true => rw [hlast ht] at hx; simp at hx
      have h₁ := hstep pre₀ ⟨s, some t, s₁⟩ report t report₁ h₀ rfl ht hturned
      obtain ⟨report', hpre, hx'⟩ := ih _ h₁ pre' x post hx
      exact ⟨report', by simpa using hpre, hx'⟩

/-- **What every turn but the last carries on** holds, of the rounds so far and
    of the session, at the beginning of each round. -/
theorem history {H : List (Round D A) → TransferReport → Session D A → Prop}
    (hstep : ∀ pre x report t report', H pre report x.before → x.turn = some t →
      t.isLast = false → Turned link x.before report t report' x.after →
      H (pre ++ [x]) report' x.after)
    (h : Runs link report s (pre ++ x :: post)) (h₀ : H [] report s) :
    ∃ report', H pre report' x.before ∧
      ∀ t, x.turn = some t → ∃ report'', Turned link x.before report' t report'' x.after :=
  h.history_from hstep [] h₀ pre x post rfl

theorem before_eq (h : Runs link report s (x :: post)) : x.before = s := by
  cases h <;> rfl

/-- A round with another one behind it is not the last, and the stream goes on
    from where it ended. -/
theorem of_cons_append (h : Runs link report s (x :: xs ++ y :: post)) :
    x.before = s ∧ ∃ t report', x.turn = some t ∧ Turned link s report t report' x.after ∧
      Runs link report' x.after (xs ++ y :: post) := by
  rw [List.cons_append] at h
  generalize hrest : xs ++ y :: post = rest at h
  cases h with
  | halted => simp at hrest
  | ended hturn hlast hruns => exact ⟨rfl, _, _, rfl, turned_of_turn hturn, hrest ▸ hruns⟩

/-- A round without a completed write only heeds its notification. -/
theorem flow_eq_of_unsent (h : Runs link report s (x :: xs ++ y :: post))
    (hunsent : x.completed? = none) : x.after.flow = x.before.heeded.flow := by
  obtain ⟨rfl, t, _, ht, hturned, -⟩ := h.of_cons_append
  rw [hturned.flow_eq, if_neg]
  intro hsends
  have hcompleted := Round.completed?_eq_some.2 ⟨t, ht, hsends, hturned.attempt?_of_sends hsends⟩
  rw [hunsent] at hcompleted
  cases hcompleted

/-- The rounds from one on are those of a stream that begins there. -/
theorem of_append (h : Runs link report s (pre ++ x :: post)) :
    ∃ report', Runs link report' x.before (x :: post) := by
  induction pre generalizing report s with
  | nil =>
    have hx : x.before = s := h.before_eq
    exact ⟨report, hx ▸ h⟩
  | cons z pre ih =>
    obtain ⟨-, _, _, -, -, hrest⟩ := h.of_cons_append
    exact ih hrest

/-- If the last round came to its end, all did. -/
theorem exists_turn {t : Turn} (h : Runs link report s (pre ++ [x])) (hx : x.turn = some t) :
    ∀ z ∈ pre ++ [x], ∃ t, z.turn = some t := by
  intro z hz
  rcases List.mem_append.1 hz with hz | hz
  · obtain ⟨a, b, rfl⟩ := List.append_of_mem hz
    rw [List.append_assoc] at h
    obtain ⟨_, hruns⟩ := h.of_append
    obtain ⟨-, t', _, hturn, -, -⟩ := hruns.of_cons_append
    exact ⟨t', hturn⟩
  · exact ⟨t, List.mem_singleton.1 hz ▸ hx⟩

/-- Each round begins where the one before it ended. -/
theorem before_eq_after (h : Runs link report s (pre ++ x :: y :: post)) : y.before = x.after := by
  obtain ⟨report', hruns⟩ := h.of_append
  have hruns : Runs link report' x.before (x :: [] ++ y :: post) := hruns
  obtain ⟨-, _, _, -, -, hrest⟩ := hruns.of_cons_append
  exact hrest.before_eq

/-- What holds at the beginning of a stream and is carried on by every turn but
    the last holds at the beginning of each round. -/
theorem before_mem {P : Session D A → Prop}
    (hstep : ∀ s report t report' s', P s → t.isLast = false →
      Turned link s report t report' s' → P s')
    (h : Runs link report s xs) (h₀ : P s) (hx : x ∈ xs) : P x.before := by
  obtain ⟨pre, post, rfl⟩ := List.append_of_mem hx
  obtain ⟨_, hP, -⟩ := h.history (H := fun _ _ s => P s)
    (fun _ x report t report' hx _ hlast hturned =>
      hstep x.before report t report' x.after hx hlast hturned)
    h₀
  exact hP

theorem image_eq (h : Runs link report s xs) (hx : x ∈ xs) :
    x.before.image = s.image ∧ x.before.config = s.config := by
  refine h.before_mem (P := fun s' => s'.image = s.image ∧ s'.config = s.config) ?_ ⟨rfl, rfl⟩ hx
  rintro _ _ _ _ _ ⟨himage, hconfig⟩ - hturned
  exact ⟨hturned.image_eq.trans himage, hturned.config_eq.trans hconfig⟩

theorem turned_mem (h : Runs link report s xs) (hx : x ∈ xs) {t : Turn} (ht : x.turn = some t) :
    ∃ report' report'', Turned link x.before report' t report'' x.after := by
  obtain ⟨pre, post, rfl⟩ := List.append_of_mem hx
  obtain ⟨report', -, hturned⟩ := h.history (H := fun _ _ _ => True)
    (fun _ _ _ _ _ _ _ _ _ => trivial) trivial
  exact ⟨report', hturned t ht⟩

end Runs

end Session

end AirUpdate
