/-
  Air updates — the settings of a session and of an update.

  Times are in milliseconds or whole seconds.  Counts and times are words of
  the size that a settings file may hold.
-/
import AirUpdate.Fragment

namespace AirUpdate

structure SessionConfig where
  /-- payload bytes per fragment; zero counts as one (`payloadSize`) -/
  fragmentSize : UInt64
  /-- how long each wait for the answer to START takes -/
  startTimeout : UInt64
  /-- how many such waits may end without a notification -/
  startAttempts : UInt32
  /-- how long a single write of a fragment may take -/
  writeTimeout : UInt64
  /-- the pause after a stalled write -/
  writeBackoff : UInt64
  /-- the pause after every fragment -/
  pacing : UInt64
  /-- the pause between two looks at the mailbox while the stream is held -/
  pausePoll : UInt64
  /-- whether a failure that the device reports while streaming ends the session -/
  failOnDeviceError : Bool
  deriving DecidableEq, Repr

namespace SessionConfig

/-- The settings that hold unless a file says otherwise. -/
def default : SessionConfig where
  fragmentSize := 128
  startTimeout := 10000
  startAttempts := 5
  writeTimeout := 25
  writeBackoff := 100
  pacing := 75
  pausePoll := 1
  failOnDeviceError := false

/-- The payload bytes of a full fragment. -/
def payloadSize (c : SessionConfig) : Nat := max c.fragmentSize.toNat 1

end SessionConfig

structure UpdateConfig where
  /-- the name or the address of the device -/
  deviceName : String
  /-- how long to scan, in seconds -/
  scanSecs : UInt64
  connectAttempts : UInt32
  /-- how long the device gets to install the image, in seconds -/
  rebootWaitSecs : UInt64
  session : SessionConfig
  deriving DecidableEq, Repr

namespace UpdateConfig

/-- The settings that hold unless a file says otherwise. -/
def default : UpdateConfig where
  deviceName := "FOTA"
  scanSecs := 5
  connectAttempts := 5
  rebootWaitSecs := 60
  session := .default

/-- How long to scan, in milliseconds. -/
def scanTime (c : UpdateConfig) : Nat := 1000 * c.scanSecs.toNat

/-- How long to wait for the device to install the image, in milliseconds. -/
def rebootWait (c : UpdateConfig) : Nat := 1000 * c.rebootWaitSecs.toNat

end UpdateConfig

end AirUpdate
