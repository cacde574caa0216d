/-
  Air updates — the mailbox for notifications.

  A mailbox holds the latest notification that nobody has taken yet; a newer
  one replaces it.  `take` empties it.
-/
import AirUpdate.Bytes

namespace AirUpdate

/-- The latest notification that nobody has taken. -/
structure Mailbox where
  latest : Option Bytes
  deriving DecidableEq, Repr

namespace Mailbox

def empty : Mailbox := ⟨none⟩

/-- Puts a notification in, in the place of one that was not taken. -/
def deliver (_ : Mailbox) (value : Bytes) : Mailbox := ⟨some value⟩

def hasPending (m : Mailbox) : Bool := m.latest.isSome

/-- Takes the notification out, if there is one. -/
def take (m : Mailbox) : Option Bytes × Mailbox := (m.latest, empty)

end Mailbox

end AirUpdate
