/-
  Air updates — the bell of a mailbox.

  Whoever finds the mailbox empty waits for its bell, which is rung behind
  every delivery.  A ring that nobody waits for is kept, one at most, and the
  next one who waits goes on at once.  The bell does not say what is in the
  mailbox: the notification of a ring that is kept may have been taken long
  ago, and a notification may be there whose ring has been answered.  No more
  than one waits at a time.
-/
namespace AirUpdate

inductive Bell where
  | silent
  /-- it was rung while nobody waited -/
  | kept
  /-- somebody waits -/
  | awaited
  /-- it was rung for who waits, and perhaps once more since -/
  | heard (again : Bool)
  deriving DecidableEq, Repr

namespace Bell

def ring : Bell → Bell
  | silent | kept => kept
  | awaited => heard false
  | heard _ => heard true

/-- Somebody begins to wait; a ring that was kept is for that one. -/
def await : Bell → Bell
  | silent => awaited
  | kept => heard false
  | b => b

def isHeard : Bell → Bool
  | heard _ => true
  | _ => false

/-- Who waited has heard the bell and goes on; a ring that came later is kept. -/
def answer : Bell → Bell
  | heard false => silent
  | heard true => kept
  | b => b

/-- Who waited gives up; a ring for that one is kept for the next. -/
def leave : Bell → Bell
  | awaited => silent
  | heard _ => kept
  | b => b

/-- Nobody waits. -/
def isFree : Bell → Bool
  | silent | kept => true
  | awaited | heard _ => false

/-- Who waits hears the next ring, and every ring is for who waits. -/
@[simp] theorem isHeard_ring (b : Bell) : b.ring.isHeard = !b.isFree := by cases b <;> rfl

@[simp] theorem isFree_ring (b : Bell) : b.ring.isFree = b.isFree := by cases b <;> rfl

@[simp] theorem isFree_await (b : Bell) : b.await.isFree = false := by cases b <;> rfl

/-- Who goes on does not wait any more. -/
theorem isFree_answer {b : Bell} (h : b.isHeard = true) : b.answer.isFree = true := by
  cases b with
  | heard again => cases again <;> rfl
  | silent | kept | awaited => cases h

@[simp] theorem isFree_leave (b : Bell) : b.leave.isFree = true := by cases b <;> rfl

/-- One who begins to wait while nobody waits goes on at once exactly if a ring is kept. -/
theorem isHeard_await {b : Bell} (h : b.isFree = true) : b.await.isHeard = decide (b = kept) := by
  cases b with
  | silent | kept => rfl
  | awaited | heard _ => cases h

/-- A ring is kept, or it is for who waits. -/
theorem kept_or_heard_ring (b : Bell) : b.ring = kept ∨ b.ring.isHeard = true := by
  cases b with
  | silent | kept => exact Or.inl rfl
  | awaited | heard _ => exact Or.inr rfl

theorem not_isFree_of_isHeard {b : Bell} (h : b.isHeard = true) : b.isFree = false := by
  cases b with
  | heard again => rfl
  | silent | kept | awaited => cases h

end Bell

end AirUpdate
