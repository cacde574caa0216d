/-
  Air updates — the identifiers of services, characteristics and descriptors.

  A UUID is a 128-bit number, ordered as a number.  Its text has 32 lowercase
  digits in groups of 8, 4, 4, 4 and 12.  The identifiers of the update
  service share one base and differ in their first 32 bits; those of the
  device information service are assigned numbers of the Bluetooth standard.
-/
import AirUpdate.Bytes

namespace AirUpdate

/-- An identifier of a service, characteristic or descriptor. -/
structure Uuid where
  bits : BitVec 128
  deriving DecidableEq, Repr

namespace Uuid

/-- The order of UUIDs is the order of their numbers. -/
def le (a b : Uuid) : Bool := a.bits.toNat ≤ b.bits.toNat

/-- The 32 digits of a UUID, the most significant first. -/
def digits (u : Uuid) : List Char :=
  (List.range 32).map fun i => hexDigit (u.bits.toNat >>> (4 * (31 - i)) % 16)

/-- Cuts a text into groups of these sizes, with a hyphen between two groups. -/
def grouped : List Nat → List Char → List Char
  | [], _ => []
  | [n], cs => cs.take n
  | n :: m :: ns, cs => cs.take n ++ '-' :: grouped (m :: ns) (cs.drop n)

/-- The sizes of the groups of digits. -/
def groupSizes : List Nat := [8, 4, 4, 4, 12]

def text (u : Uuid) : String :=
  String.ofList (grouped groupSizes u.digits)

/-- The number with these digits. -/
def ofDigits? : List Char → Option Nat :=
  List.foldlM (fun n c => (hexValue? c).map (16 * n + ·)) 0

/-- The UUID with this text, in either case. -/
def ofText? (s : String) : Option Uuid :=
  let plain := s.toList.filter (· ≠ '-')
  if plain.length = 32 ∧ grouped groupSizes plain = s.toList then
    (ofDigits? plain).map fun n => ⟨BitVec.ofNat 128 n⟩
  else none

/-- The identifier of the update service that starts with these 32 bits. -/
def ofVendor (first : BitVec 32) : Uuid :=
  ⟨first ++ 0x65fd4651ba8e91527f06c887#96⟩

/-- An assigned number of the Bluetooth standard. -/
def ofAssigned (number : BitVec 16) : Uuid :=
  ⟨0#16 ++ number ++ 0x00001000800000805f9b34fb#96⟩

def fotaService : Uuid := ofVendor 0x53880000

/-- Fragments, one a write, without response. -/
def binaryStream : Uuid := ofVendor 0x53880001

/-- Op codes, one a write, with response. -/
def control : Uuid := ofVendor 0x53880002

/-- Notifies status reports. -/
def status : Uuid := ofVendor 0x53880003

/-- The version of the service. -/
def version : Uuid := ofVendor 0x53880004

def firmwareRevision : Uuid := ofAssigned 0x2a26

def deviceInformation : Uuid := ofAssigned 0x180a

/-- The user description of a characteristic. -/
def userDescription : Uuid := ofAssigned 0x2901

end Uuid

end AirUpdate
