/-
  Air updates — a radio and the peripherals in its range.

  Peripherals are scripted: they answer writes, and may drop the link, by
  rules.  What they notify goes to the notification streams that are open,
  each of which belongs to a `Forwarder`; what happens to links is announced
  to the event stream, if a `Watch` follows it.

  Forwarders hand on what has come in as soon as the program waits, before
  any time passes, in the order in which they were set up (`Radio.settle`).
  A watch is over when the link of its peripheral is lost, or when the event
  stream ends (`Watch.see`).
-/
import AirUpdate.Radio.Call
import AirUpdate.Radio.Gatt
import AirUpdate.World

namespace AirUpdate

/-- Something that happens to a peripheral, told to all who watch. -/
inductive RadioEvent where
  | discovered (address : String)
  | updated (address : String)
  | connected (address : String)
  | disconnected (address : String)
  deriving DecidableEq, Repr

/-- What a peripheral does. -/
inductive PeripheralAction where
  | notify (characteristic : Uuid) (value : Bytes)
  | drop
  /-- makes the radio announce an event -/
  | announce (event : RadioEvent)
  /-- makes the radio end the event stream -/
  | endEvents
  deriving DecidableEq, Repr

/-- What one of the peripherals in range does. -/
structure RadioAction where
  peripheral : Nat
  action : PeripheralAction
  deriving DecidableEq, Repr

/-- What a peripheral advertises. -/
structure Advertisement where
  name : Option String
  rssi : Option Int
  services : List Uuid
  deriving DecidableEq, Repr

structure Peripheral where
  address : String
  /-- some peripherals advertise nothing -/
  advertisement : Option Advertisement
  /-- whether one listing after another shows it; the last entry stays -/
  sightings : List Bool
  gatt : Gatt
  script : Script PeripheralAction
  stalls : Stalls
  linked : Bool
  /-- whether the program knows its services -/
  discovered : Bool

def Peripheral.absent : Peripheral where
  address := ""
  advertisement := none
  sightings := []
  gatt := []
  script := []
  stalls := []
  linked := false
  discovered := false

/-- Whether the `n`-th listing shows the peripheral, counted from zero. -/
def Peripheral.isSighted (p : Peripheral) (n : Nat) : Bool :=
  (p.sightings[n]?).getD (p.sightings.getLastD true)

/-- The services that the program knows. -/
def Peripheral.known (p : Peripheral) : Gatt :=
  if p.discovered then p.gatt else []

/-- Hands notifications of a characteristic on to the mailbox. -/
structure Forwarder where
  peripheral : Nat
  characteristic : Uuid
  /-- what has come in, in order -/
  queue : List Bytes
  isOpen : Bool
  deriving DecidableEq, Repr

namespace Forwarder

/-- A peripheral notifies; other peripherals and characteristics do not matter. -/
def hear (f : Forwarder) (peripheral : Nat) (characteristic : Uuid) (value : Bytes) : Forwarder :=
  if f.isOpen ∧ f.peripheral = peripheral ∧ f.characteristic = characteristic then
    { f with queue := f.queue ++ [value] }
  else f

/-- The notifications of a peripheral end. -/
def close (f : Forwarder) (peripheral : Nat) : Forwarder :=
  if f.peripheral = peripheral then { f with isOpen := false } else f

/-- The forwarder after it has handed on what came in; none, if no more may come. -/
def drained? (f : Forwarder) : Option Forwarder :=
  if f.isOpen then some { f with queue := [] } else none

end Forwarder

/-- Follows the event stream until the link of a peripheral is lost. -/
structure Watch where
  address : String
  isOver : Bool
  deriving DecidableEq, Repr

/-- A watch after an event. -/
def Watch.see (w : Watch) (event : RadioEvent) : Watch :=
  { w with isOver := w.isOver || event = .disconnected w.address }

/-- A watch after the end of the event stream. -/
def Watch.finish (w : Watch) : Watch := { w with isOver := true }

structure Radio where
  adapters : Nat
  /-- the peripherals in range, in the order in which they are listed -/
  peripherals : List Peripheral
  faults : List Fault
  forwarders : List Forwarder
  watch : Option Watch
  /-- the calls that were made, the latest first -/
  log : List CallEntry

namespace Radio

/-- A radio that has not been used. -/
def unused (adapters : Nat) (peripherals : List Peripheral) (faults : List Fault) : Radio :=
  ⟨adapters, peripherals, faults, [], none, []⟩

/-- The calls that were made, in order. -/
def calls (r : Radio) : List CallEntry := r.log.reverse

/-- How many calls of a kind were made. -/
def callCount (r : Radio) (kind : CallKind) : Nat :=
  r.log.countP fun entry => entry.call.kind = kind

def peripheral (r : Radio) (i : Nat) : Peripheral := r.peripherals.getD i .absent

def onPeripheral (i : Nat) (f : Peripheral → Peripheral) (r : Radio) : Radio :=
  { r with peripherals := r.peripherals.modify i f }

def notify (r : Radio) (i : Nat) (characteristic : Uuid) (value : Bytes) : Radio :=
  { r with forwarders := r.forwarders.map (·.hear i characteristic value) }

/-- Tells an event to all who watch. -/
def announce (r : Radio) (event : RadioEvent) : Radio :=
  { r with watch := r.watch.map (·.see event) }

def endEvents (r : Radio) : Radio := { r with watch := r.watch.map (·.finish) }

/-- The link of a peripheral goes down, its notifications end, and all who watch
    are told. -/
def drop (r : Radio) (i : Nat) : Radio :=
  let severed : Radio := r.onPeripheral i fun p => { p with linked := false }
  let silent : Radio := { severed with forwarders := severed.forwarders.map (·.close i) }
  silent.announce (.disconnected (r.peripheral i).address)

def perform (r : Radio) (a : RadioAction) : Radio :=
  match a.action with
  | .notify characteristic value => r.notify a.peripheral characteristic value
  | .drop => r.drop a.peripheral
  | .announce event => r.announce event
  | .endEvents => r.endEvents

/-- What has come in and was not handed on yet, in the order of handing on. -/
def undelivered (r : Radio) : List Bytes := r.forwarders.flatMap (·.queue)

/-- Hands on what has come in. -/
def settle (r : Radio) (m : Mailbox) : Radio × Mailbox :=
  ({ r with forwarders := r.forwarders.filterMap (·.drained?) },
    r.undelivered.foldl Mailbox.deliver m)

end Radio

/-- What a peripheral notifies reaches the mailbox when the program waits. -/
instance : Peer Radio RadioAction where
  perform a r m := (r.perform a, m)
  settle r m := r.settle m

namespace Radio

/-- An activity that uses the radio. -/
abbrev Use (α : Type) := Act Radio RadioAction α

/-- Fails with an error of the radio. -/
def refuse {α : Type} (e : RadioError) : Use α := World.fail (.link (.radio e))

/-- The fault that refuses a call, if one does. -/
def fault? (r : Radio) (c : Call) : Option Fault :=
  r.faults.find? fun f => f.refuses c fun _ => r.callCount c.kind

/-- Makes a call: it is written down, and has no effect if a fault refuses it. -/
def call (c : Call) : Use Unit := fun w =>
  match w.device.fault? c with
  | some f =>
    .error (.failed (.link (.radio f.error)))
      { w with device := { w.device with log := ⟨w.now, c, true⟩ :: w.device.log } }
  | none => .ok () { w with device := { w.device with log := ⟨w.now, c, false⟩ :: w.device.log } }

end Radio

end AirUpdate
