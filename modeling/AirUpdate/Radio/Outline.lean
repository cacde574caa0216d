/-
  Air updates — the order of things with one identifier.

  A set is written down as the ascending list of its members (`ascending`), and
  such lists are compared like words in a dictionary.  `leastBy?` picks, of
  several things, the one whose list comes first; the earlier one, if the
  lists are the same.

  * `mem_ascending`: writing a set down loses nothing and adds nothing.
  * `mem_of_leastBy?`, `isSome_leastBy?`: the pick is one of the things, and
    there is one if there are things.
-/
namespace AirUpdate

section
variable {α κ : Type} [LT κ] [DecidableLT κ]

/-- Enters a member into an ascending list, unless it is there. -/
def enter [DecidableEq κ] (x : κ) : List κ → List κ
  | [] => [x]
  | y :: rest =>
    if x = y then y :: rest
    else if x < y then x :: y :: rest
    else y :: enter x rest

/-- The members of a list, in ascending order and each of them once. -/
def ascending [DecidableEq κ] (xs : List κ) : List κ := xs.foldr enter []

/-- The thing with the least key. -/
def leastBy? (key : α → κ) : List α → Option α
  | [] => none
  | a :: rest =>
    match leastBy? key rest with
    | some b => if key b < key a then some b else some a
    | none => some a

@[simp] theorem mem_enter [DecidableEq κ] {x y : κ} {xs : List κ} :
    y ∈ enter x xs ↔ y = x ∨ y ∈ xs := by
  induction xs with
  | nil => simp [enter]
  | cons z rest ih =>
    simp only [enter]
    split
    · next h => simp [h]
    · split
      · simp
      · simp [ih, or_left_comm]

@[simp] theorem mem_ascending [DecidableEq κ] {y : κ} {xs : List κ} :
    y ∈ ascending xs ↔ y ∈ xs := by
  induction xs with
  | nil => simp [ascending]
  | cons x rest ih => simpa [ascending] using or_congr_right ih

theorem mem_of_leastBy? {key : α → κ} {as : List α} {a : α} (h : leastBy? key as = some a) :
    a ∈ as := by
  induction as generalizing a with
  | nil => simp [leastBy?] at h
  | cons b rest ih =>
    simp only [leastBy?] at h
    split at h
    · next c hc =>
      split at h
      · obtain rfl := Option.some.inj h
        exact List.mem_cons_of_mem _ (ih hc)
      · obtain rfl := Option.some.inj h
        exact List.mem_cons_self
    · obtain rfl := Option.some.inj h
      exact List.mem_cons_self

@[simp] theorem isSome_leastBy? {key : α → κ} {as : List α} :
    (leastBy? key as).isSome = !as.isEmpty := by
  cases as with
  | nil => rfl
  | cons a rest =>
    simp only [leastBy?]
    split
    · split <;> rfl
    · rfl

end

end AirUpdate
