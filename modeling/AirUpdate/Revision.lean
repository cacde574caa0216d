/-
  Air updates — firmware revisions.

  A device tells its revision in the update service or, failing that, in the
  device information service.  Only the former may describe which part of the
  device runs the firmware.  Texts may be padded with NULs, which do not
  count.
-/
import AirUpdate.Link
import AirUpdate.Text.Utf8

namespace AirUpdate

/-- What firmware a device runs. -/
structure Revision where
  revision : String
  /-- which part of the device runs it, if the device says -/
  description : Option String
  deriving DecidableEq, Repr

namespace Revision

def text (r : Revision) : String :=
  match r.description with
  | some description => r.revision ++ " for device \"" ++ description ++ "\""
  | none => r.revision

/-- A text without the NULs at its end. -/
def trimNuls (cs : List Char) : List Char :=
  (cs.reverse.dropWhile fun c => c.toNat = 0).reverse

/-- Reads a padded text; what is no text shows as a replacement. -/
def decode (value : Bytes) : String :=
  String.ofList (trimNuls (Utf8.decodeLossy value))

variable {D A : Type} [Peer D A]

/-- Reads the revision of a connected device. -/
def read (link : Link D A) : Act D A Revision := do
  if ← World.seen (link.has .fotaService .firmwareRevision) then
    let revision ← link.read .fotaService .firmwareRevision
    let description ← link.readDescriptor .fotaService .firmwareRevision .userDescription
    pure ⟨decode revision, description.map decode⟩
  else if ← World.seen (link.has .deviceInformation .firmwareRevision) then
    let revision ← link.read .deviceInformation .firmwareRevision
    pure ⟨decode revision, none⟩
  else World.fail .revisionNotFound

end Revision

end AirUpdate
