/-
  Air updates — the op codes of the control characteristic.
-/
namespace AirUpdate

/-- What the controller may ask of a device. -/
inductive Control where
  /-- open a session; the device answers with XON once it is ready -/
  | start
  /-- abort the session -/
  | stop
  /-- all fragments are sent: validate and install the image -/
  | commit
  /-- ask for an XOFF report -/
  | setXoff
  /-- ask for an XON report -/
  | setXon
  /-- set the fragment id that the device expects next -/
  | setFragmentId
  deriving DecidableEq, Repr

/-- Every op code, in the order of the list in the service description. -/
def Control.all : List Control :=
  [.start, .stop, .commit, .setXoff, .setXon, .setFragmentId]

/-- The op code on the wire. -/
def Control.toByte : Control → UInt8
  | .start => 0x01
  | .stop => 0x02
  | .commit => 0x03
  | .setXoff => 0x41
  | .setXon => 0x42
  | .setFragmentId => 0x43

end AirUpdate
