/-
  Air updates — the link to a connected device.

  A `Link` is what a session and a revision probe ask of a connected device
  whose services are known: reading, writing and subscribing by identifier.
  It is given for a kind of device, and acts on its `World`.
-/
import AirUpdate.Script
import AirUpdate.World

namespace AirUpdate

/-- The operations on a connected device. -/
structure Link (D A : Type) where
  /-- whether the service has the characteristic -/
  has (service characteristic : Uuid) : D → Bool
  read (service characteristic : Uuid) : Act D A Bytes
  /-- a descriptor of a characteristic, if the characteristic has it -/
  readDescriptor (service characteristic descriptor : Uuid) : Act D A (Option Bytes)
  write (characteristic : Uuid) (data : Bytes) (mode : WriteMode) : Act D A Unit
  /-- lets notifications of the characteristic reach the mailbox -/
  subscribe (characteristic : Uuid) : Act D A Unit
  disconnect : Act D A Unit

end AirUpdate
