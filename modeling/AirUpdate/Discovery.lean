/-
  Air updates — finding a device and connecting to it.

  * `scan` lists the devices in range after a time of scanning.
  * `find` looks for the first device with a given name or address.
  * `connect` tries to connect to it a number of times, and asks for its
    services once it is connected.

  A device that advertises nothing is passed over.  Whatever goes wrong on the
  way ends the activity at that point; only failed attempts to connect are
  made good by further ones.
-/
import AirUpdate.Config
import AirUpdate.Radio.Link

namespace AirUpdate

structure ScannedDevice where
  name : String
  address : String
  rssi : Option Int
  /-- whether it advertises the update service -/
  isFota : Bool
  deriving DecidableEq, Repr

namespace Radio

def addressOf (i : Nat) : Use String := World.seen fun r : Radio => (r.peripheral i).address

def openAdapter : Use Unit := do
  call .manager
  call .adapters
  let adapters ← World.seen fun r : Radio => r.adapters
  if adapters = 0 then World.fail .noAdapter else pure ()

def peripheralsInSight : Use (List Nat) := do
  let earlier ← World.seen fun r : Radio => r.callCount .peripherals
  call .peripherals
  World.seen fun r : Radio =>
    (List.range r.peripherals.length).filter fun i => (r.peripheral i).isSighted earlier

def advertisementOf (i : Nat) : Use (Option Advertisement) := do
  call (.properties (← addressOf i))
  World.seen fun r : Radio => (r.peripheral i).advertisement

/-- Scans for so many milliseconds and lists the peripherals in sight. -/
def look (milliseconds : Nat) : Use (List Nat) := do
  call .startScan
  World.sleep milliseconds
  peripheralsInSight

end Radio

namespace Discovery

def describe (address : String) (a : Advertisement) : ScannedDevice where
  name := a.name.getD "Unknown"
  address := address
  rssi := a.rssi
  isFota := a.services.contains Uuid.fotaService

/-- Describes those of some peripherals that advertise something. -/
def describeAll : List Nat → Radio.Use (List ScannedDevice)
  | [] => pure []
  | i :: rest => do
    let advertisement ← Radio.advertisementOf i
    let address ← Radio.addressOf i
    let devices ← describeAll rest
    pure ((advertisement.map (describe address)).toList ++ devices)

/-- Lists the devices in range after so many milliseconds. -/
def scan (milliseconds : Nat) : Radio.Use (List ScannedDevice) := do
  let inSight ← Radio.look milliseconds
  let devices ← describeAll inSight
  Radio.call .stopScan
  pure devices

/-- Whether a device is meant by a name or an address, in either case. -/
def isMeant (target address : String) (a : Advertisement) : Bool :=
  a.name = some target || address.toList.map Char.toLower = target.toList.map Char.toLower

/-- The first of some peripherals that is meant. -/
def firstMeant (target : String) : List Nat → Radio.Use (Option Nat)
  | [] => pure none
  | i :: rest => do
    let advertisement ← Radio.advertisementOf i
    let address ← Radio.addressOf i
    if advertisement.any (isMeant target address) then pure (some i)
    else firstMeant target rest

/-- Looks for a device after so many milliseconds of scanning. -/
def find (target : String) (milliseconds : Nat) : Radio.Use Nat := do
  let inSight ← Radio.look milliseconds
  let found ← firstMeant target inSight
  Radio.call .stopScan
  match found with
  | some i => pure i
  | none => World.fail (.deviceNotFound target)

/-- Tries to bring the link up, so many times at most; says whether it is up. -/
def bringUp (i : Nat) : Nat → Radio.Use Bool
  | 0 => pure false
  | attempts + 1 => do
    match ← World.caught (Radio.call (.connect (← Radio.addressOf i))) with
    | .ok () => do
      World.onDevice (Radio.onPeripheral i fun p => { p with linked := true })
      pure true
    | .error _ => bringUp i attempts

/-- Asks a connected device for its services. -/
def learnServices (i : Nat) : Radio.Use Unit := do
  Radio.call (.discoverServices (← Radio.addressOf i))
  Radio.needLink i
  World.onDevice (Radio.onPeripheral i fun p => { p with discovered := true })

/-- Connects to a device, with so many attempts at most. -/
def connect (i attempts : Nat) : Radio.Use Unit := do
  if ← bringUp i attempts then learnServices i
  else World.fail (.connectionFailed (← Radio.addressOf i) attempts)

end Discovery

end AirUpdate
