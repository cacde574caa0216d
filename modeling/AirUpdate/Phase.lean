/-
  Air updates — the phases of a session.

      idle → starting → streaming → committing → closed
                 └──────────┴────────────┴─────→ failed

  A session fails with the cause of the error that ended it.
-/
import AirUpdate.Status

namespace AirUpdate

/-- What ended a session. -/
inductive Failure where
  /-- START was not answered with XON -/
  | handshakeTimeout
  /-- the device reported this status while streaming -/
  | deviceStatus (status : Status)
  | transport
  deriving DecidableEq, Repr

/-- Where a session stands. -/
inductive Phase where
  | idle
  | starting
  | streaming
  | committing
  | closed
  | failed (failure : Failure)
  deriving DecidableEq, Repr

def Failure.name : Failure → String
  | .handshakeTimeout => "HandshakeTimeout"
  | .deviceStatus status => "DeviceStatus(" ++ status.phaseName ++ ")"
  | .transport => "Transport"

def Phase.name : Phase → String
  | .idle => "Idle"
  | .starting => "Starting"
  | .streaming => "Streaming"
  | .committing => "Committing"
  | .closed => "Closed"
  | .failed failure => "Failed(" ++ failure.name ++ ")"

end AirUpdate
