/-
  Air updates — what a peripheral offers to a connected program.

  A peripheral has services, services have characteristics, and
  characteristics have descriptors, each with an identifier.  Different
  services may have characteristics with the same identifier.

  * `find?` looks a characteristic up in a given service.  Should several
    services of a peripheral, or characteristics of a service, have one
    identifier, it is the one whose outline comes first that is found.
  * `value` and `descriptor?` are what the peripheral answers when it is asked
    for the characteristic; it takes the first one in its own list.
  * `owner?` is the service that a write or a subscription goes to, which name
    a characteristic only: of the services that have it, the one with the
    least identifier.
-/
import AirUpdate.Radio.Outline
import AirUpdate.Uuid

namespace AirUpdate

structure Characteristic where
  uuid : Uuid
  /-- what one read after another gives; the last value stays -/
  values : List Bytes
  descriptors : List (Uuid × Bytes)
  deriving DecidableEq, Repr

structure Service where
  uuid : Uuid
  characteristics : List Characteristic
  deriving DecidableEq, Repr

abbrev Gatt := List Service

namespace Characteristic

/-- What a read gives; nothing, if there is no value. -/
def value (c : Characteristic) : Bytes := c.values.headD []

/-- The characteristic after a read. -/
def afterRead (c : Characteristic) : Characteristic :=
  match c.values with
  | _ :: next :: rest => { c with values := next :: rest }
  | _ => c

/-- The outline of a characteristic: its identifier and those of its descriptors. -/
def outline (c : Characteristic) : List Nat :=
  c.uuid.bits.toNat :: ascending (c.descriptors.map (·.1.bits.toNat))

end Characteristic

namespace Service

def find? (s : Service) (characteristic : Uuid) : Option Characteristic :=
  leastBy? Characteristic.outline (s.characteristics.filter (·.uuid = characteristic))

def exposes (s : Service) (characteristic : Uuid) : Bool :=
  s.characteristics.any (·.uuid = characteristic)

/-- The outline of a service: those of its characteristics. -/
def outline (s : Service) : List (List Nat) :=
  ascending (s.characteristics.map (·.outline))

@[simp] theorem isSome_find? {s : Service} {characteristic : Uuid} :
    (s.find? characteristic).isSome = s.exposes characteristic := by
  rw [Bool.eq_iff_iff]
  simp [find?, exposes]

end Service

namespace Gatt

/-- The service with an identifier. -/
def service? (g : Gatt) (service : Uuid) : Option Service :=
  leastBy? Service.outline (g.filter (·.uuid = service))

def find? (g : Gatt) (service characteristic : Uuid) : Option Characteristic :=
  (g.service? service).bind (·.find? characteristic)

/-- All characteristics with these identifiers, in the peripheral's own order. -/
def all (g : Gatt) (service characteristic : Uuid) : List Characteristic :=
  (g.filter (·.uuid = service)).flatMap (·.characteristics.filter (·.uuid = characteristic))

/-- What a read gives. -/
def value (g : Gatt) (service characteristic : Uuid) : Bytes :=
  ((g.all service characteristic).head?.map (·.value)).getD []

/-- What a read of a descriptor gives. -/
def descriptor? (g : Gatt) (service characteristic descriptor : Uuid) : Option Bytes :=
  (g.all service characteristic).findSome? (·.descriptors.lookup descriptor)

/-- The service that a write to a characteristic or a subscription goes to. -/
def owner? (g : Gatt) (characteristic : Uuid) : Option Uuid :=
  (leastBy? (·.uuid.bits.toNat) (g.filter (·.exposes characteristic))).map (·.uuid)

/-- The services after a characteristic was read. -/
def afterRead (g : Gatt) (service characteristic : Uuid) : Gatt :=
  g.map fun s =>
    if s.uuid = service then
      { s with characteristics := s.characteristics.map fun c =>
          if c.uuid = characteristic then c.afterRead else c }
    else s

/-- A write goes to a service that has the characteristic. -/
theorem exists_exposes_of_owner? {g : Gatt} {characteristic service : Uuid}
    (h : g.owner? characteristic = some service) :
    ∃ s ∈ g, s.uuid = service ∧ s.exposes characteristic := by
  obtain ⟨s, hs, rfl⟩ := Option.map_eq_some_iff.1 h
  have := List.mem_filter.1 (mem_of_leastBy? hs)
  exact ⟨s, this.1, rfl, this.2⟩

end Gatt

end AirUpdate
