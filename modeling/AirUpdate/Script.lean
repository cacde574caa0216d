/-
  Air updates — how a scripted device answers writes.

  A script is a list of rules.  Each rule waits for writes that match its
  trigger and counts them; from a given match on, and for a given number of
  matches, it answers with its actions.  `Script.react` gives the answers of
  all rules to a write, in order.
-/
import AirUpdate.Uuid

namespace AirUpdate

/-- Whether the device has to answer a write. -/
inductive WriteMode where
  /-- the device answers -/
  | request
  /-- the device does not answer -/
  | command
  deriving DecidableEq, Repr

/-- Which writes a rule looks at. -/
inductive Trigger where
  /-- a write of exactly this byte to the control characteristic -/
  | control (byte : UInt8)
  /-- a write to the binary stream that starts with this id -/
  | fragment (id : UInt8)
  /-- any write to the binary stream -/
  | anyFragment
  deriving DecidableEq, Repr

def Trigger.matches (t : Trigger) (characteristic : Uuid) (data : Bytes) : Bool :=
  match t with
  | .control byte => characteristic = Uuid.control ∧ data = [byte]
  | .fragment id => characteristic = Uuid.binaryStream ∧ data.head? = some id
  | .anyFragment => characteristic = Uuid.binaryStream

structure Rule (A : Type) where
  trigger : Trigger
  /-- how many matches go unanswered first -/
  skip : Nat
  /-- how many matches are answered after that; zero means all -/
  times : Nat
  /-- the answer: actions, each after so many milliseconds -/
  answer : List (Nat × A)
  /-- how many matches there were -/
  count : Nat

abbrev Script (A : Type) := List (Rule A)

namespace Rule
variable {A : Type}

/-- Whether the rule answers its `n`-th match. -/
def answers (r : Rule A) (n : Nat) : Bool :=
  r.skip < n ∧ (r.times = 0 ∨ n ≤ r.skip + r.times)

/-- The answer of a rule to a write, and the rule after it. -/
def react (r : Rule A) (characteristic : Uuid) (data : Bytes) : List (Nat × A) × Rule A :=
  if r.trigger.matches characteristic data then
    (if r.answers (r.count + 1) then r.answer else [], { r with count := r.count + 1 })
  else ([], r)

end Rule

namespace Script
variable {A : Type}

/-- The answers of all rules to a write, and the rules after it. -/
def react (s : Script A) (characteristic : Uuid) (data : Bytes) : List (Nat × A) × Script A :=
  (s.flatMap fun r => (r.react characteristic data).1, s.map fun r => (r.react characteristic data).2)

end Script

/-- How many more writes of a fragment hang, by fragment id. -/
abbrev Stalls := List (UInt8 × Nat)

namespace Stalls

/-- How many more writes of this fragment hang. -/
def left (s : Stalls) (id : UInt8) : Nat :=
  match s with
  | [] => 0
  | (key, n) :: rest => if key = id then n else left rest id

/-- One write of this fragment has hung. -/
def use (s : Stalls) (id : UInt8) : Stalls :=
  match s with
  | [] => []
  | (key, n) :: rest => if key = id then (key, n - 1) :: rest else (key, n) :: use rest id

/-- Whether a write hangs, and what is left after it. -/
def onWrite (s : Stalls) (characteristic : Uuid) (data : Bytes) : Bool × Stalls :=
  match data with
  | [] => (false, s)
  | id :: _ =>
    if characteristic = Uuid.binaryStream ∧ 0 < s.left id then (true, s.use id) else (false, s)

@[simp] theorem left_use_self (s : Stalls) (id : UInt8) : (s.use id).left id = s.left id - 1 := by
  induction s with
  | nil => rfl
  | cons e rest ih =>
    by_cases h : e.1 = id <;> simp [use, left, h, ih]

theorem left_use_of_ne {s : Stalls} {id other : UInt8} (h : other ≠ id) :
    (s.use id).left other = s.left other := by
  induction s with
  | nil => rfl
  | cons e rest ih =>
    obtain ⟨key, n⟩ := e
    by_cases he : key = id
    · simp [use, left, he, h.symm]
    · simp [use, left, he, ih]

end Stalls

/-- For how long a hanging write hangs, unless it is given up. -/
def stallTime : Nat := 3600000

end AirUpdate
