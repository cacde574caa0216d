/-
  Air updates — firmware images.

  An image is the byte string to flash: the content of a file, taken as it is.
  It is identified by its SHA-256 digest and sent in `fragmentCount`
  fragments.
-/
import AirUpdate.Digest
import AirUpdate.Files
import AirUpdate.Fragment

namespace AirUpdate

/-- The binary to flash. -/
structure Image where
  bytes : Bytes
  deriving DecidableEq, Repr

namespace Image

def load (fs : Files) (path : String) : Except UpdateError Image :=
  match fs.read path with
  | .ok content => .ok ⟨content⟩
  | .error cause => .error (.fileUnreadable path cause)

def size (i : Image) : Nat := i.bytes.length

def isEmpty (i : Image) : Bool := i.bytes.isEmpty

/-- The SHA-256 digest in hexadecimal. -/
def digest (i : Image) : String := (Digest.sha256 i.bytes).toHex

/-- The number of fragments of this size; a size of zero counts as one. -/
def fragmentCount (i : Image) (fragmentSize : Nat) : Nat :=
  chunkCount i.bytes fragmentSize

end Image

end AirUpdate
