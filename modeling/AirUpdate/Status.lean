/-
  Air updates — the status codes a device reports.

  A device reports one of twelve codes on its status characteristic.  Three
  of them (`xoff`, `xon`, `syncLost`) steer the stream and carry a fragment
  id; seven say that something went wrong on the device.  `Status.toByte` and
  `Status.ofByte?` are the code, `ofByte?_eq_some_iff` says that each known
  byte stands for one status.
-/
namespace AirUpdate

/-- What a device reports about its update. -/
inductive Status where
  | ok
  | updateSuccessful
  /-- the device cannot take more fragments for now -/
  | xoff
  /-- the device takes fragments (again) -/
  | xon
  /-- the device expects another fragment than the one it got -/
  | syncLost
  | unspecifiedError
  | validationFailure
  | installationFailure
  | outOfMemory
  | memoryError
  | hardwareError
  | noFotaSession
  deriving DecidableEq, Repr, Inhabited

namespace Status

/-- Every status, in the order of the codes. -/
def all : List Status :=
  [ok, updateSuccessful, xoff, xon, syncLost, unspecifiedError, validationFailure,
    installationFailure, outOfMemory, memoryError, hardwareError, noFotaSession]

def toByte : Status → UInt8
  | ok => 0x00
  | updateSuccessful => 0x01
  | xoff => 0x02
  | xon => 0x03
  | syncLost => 0x04
  | unspecifiedError => 0x05
  | validationFailure => 0x06
  | installationFailure => 0x07
  | outOfMemory => 0x08
  | memoryError => 0x09
  | hardwareError => 0x0a
  | noFotaSession => 0x0b

/-- The status with this code; codes above `0x0b` stand for none. -/
def ofByte? (b : UInt8) : Option Status :=
  all[b.toNat]?

/-- Whether the device says that something went wrong on its side. -/
def isFailure : Status → Bool
  | ok | updateSuccessful | xoff | xon | syncLost => false
  | unspecifiedError | validationFailure | installationFailure | outOfMemory | memoryError
  | hardwareError | noFotaSession => true

/-- Whether a report of this status carries the device's fragment id. -/
def carriesId : Status → Bool
  | xoff | xon | syncLost => true
  | _ => false

/-- The name of a status in messages. -/
def label : Status → String
  | ok => "OK"
  | updateSuccessful => "UPDATE_SUCCESSFUL"
  | xoff => "XOFF"
  | xon => "XON"
  | syncLost => "SYNC_LOST"
  | unspecifiedError => "UNSPECIFIED_ERROR"
  | validationFailure => "VALIDATION_FAILURE"
  | installationFailure => "INSTALLATION_FAILURE"
  | outOfMemory => "OUT_OF_MEMORY"
  | memoryError => "MEMORY_ERROR"
  | hardwareError => "HARDWARE_ERROR"
  | noFotaSession => "NO_FOTA_SESSION"

/-- The name of a status inside the name of a session phase. -/
def phaseName : Status → String
  | ok => "Ok"
  | updateSuccessful => "UpdateSuccessful"
  | xoff => "Xoff"
  | xon => "Xon"
  | syncLost => "SyncLost"
  | unspecifiedError => "UnspecifiedError"
  | validationFailure => "ValidationFailure"
  | installationFailure => "InstallationFailure"
  | outOfMemory => "OutOfMemory"
  | memoryError => "MemoryError"
  | hardwareError => "HardwareError"
  | noFotaSession => "NoFotaSession"

@[simp] theorem ofByte?_toByte (s : Status) : ofByte? s.toByte = some s := by
  cases s <;> rfl

/-- A byte stands for a status exactly if it is the status's code. -/
theorem ofByte?_eq_some_iff {b : UInt8} {s : Status} : ofByte? b = some s ↔ b = s.toByte := by
  refine ⟨fun h => ?_, fun h => h ▸ ofByte?_toByte s⟩
  have hlt : b.toNat < 12 := by
    have := (List.getElem?_eq_some_iff.1 h).1
    simpa [all] using this
  have hn : all[b.toNat]? = some s := h
  apply UInt8.toNat_inj.1
  generalize b.toNat = n at hn hlt
  match n, hlt with
  | 0, _ | 1, _ | 2, _ | 3, _ | 4, _ | 5, _ | 6, _ | 7, _ | 8, _ | 9, _ | 10, _ | 11, _ =>
    cases hn; rfl

end Status

end AirUpdate
