/-
  Air updates — the agenda: what will happen at fixed moments.

  An agenda lists actions with the moments at which they are due, the
  earliest first.  `insert` puts an action behind all that are due no later,
  so actions that are due at the same moment stay in the order in which they
  were entered (`sorted_insert`, `mem_insert`).
-/
namespace AirUpdate

/-- An action and the moment at which it happens, in milliseconds. -/
structure Due (A : Type) where
  due : Nat
  action : A

/-- Actions to come, the earliest first. -/
abbrev Agenda (A : Type) := List (Due A)

namespace Agenda
variable {A : Type}

/-- Enters an action behind all that are due no later. -/
def insert (entry : Due A) : Agenda A → Agenda A
  | [] => [entry]
  | first :: rest =>
    if first.due ≤ entry.due then first :: insert entry rest else entry :: first :: rest

/-- The earliest entry comes first. -/
def Sorted (agenda : Agenda A) : Prop :=
  agenda.Pairwise fun x y => x.due ≤ y.due

/-- Whether the next action is due at this very moment. -/
def dueAt (moment : Nat) : Agenda A → Bool
  | [] => false
  | first :: _ => first.due = moment

@[simp] theorem mem_insert {entry x : Due A} {agenda : Agenda A} :
    x ∈ insert entry agenda ↔ x = entry ∨ x ∈ agenda := by
  induction agenda with
  | nil => simp [insert]
  | cons first rest ih =>
    simp only [insert]
    split
    · simp [ih, or_left_comm]
    · simp

/-- An agenda stays in order. -/
theorem sorted_insert {entry : Due A} {agenda : Agenda A} (h : Sorted agenda) :
    Sorted (insert entry agenda) := by
  induction agenda with
  | nil => simp [insert, Sorted]
  | cons first rest ih =>
    obtain ⟨hfirst, hrest⟩ := List.pairwise_cons.1 h
    simp only [insert]
    split
    · next hle =>
      refine List.pairwise_cons.2 ⟨fun x hx => ?_, ih hrest⟩
      rcases mem_insert.1 hx with rfl | hx
      · exact hle
      · exact hfirst x hx
    · next hlt =>
      refine List.pairwise_cons.2 ⟨fun x hx => ?_, h⟩
      rcases List.mem_cons.1 hx with rfl | hx
      · omega
      · have := hfirst x hx
        omega

end Agenda

end AirUpdate
