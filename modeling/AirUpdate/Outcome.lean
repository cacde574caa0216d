/-
  Air updates — the outcome of an update.

  An update counts as successful if the device runs another revision after it
  than before; there is no other sign of success.
-/
import AirUpdate.Revision
import AirUpdate.Session

namespace AirUpdate

/-- What an update came to. -/
structure Outcome where
  before : Revision
  /-- the revision after the update, if it was read -/
  after : Option Revision
  report : TransferReport
  deriving DecidableEq, Repr

/-- Whether the revision changed, if it was read again. -/
def Outcome.succeeded (o : Outcome) : Option Bool :=
  o.after.map fun after => after.revision ≠ o.before.revision

end AirUpdate
