/-
  Air updates — the link over a radio.

  `Radio.link i` is the link to the peripheral with number `i`, once its
  services are known.  What the peripheral does not have is not asked for;
  what it is asked for needs the link to be up.  A subscription sets up a
  forwarder; a disconnect takes all forwarders away, even if the radio
  refuses it.
-/
import AirUpdate.Link
import AirUpdate.Radio.Basic

namespace AirUpdate

namespace Radio

/-- Fails unless the link of the peripheral is up. -/
def needLink (i : Nat) : Use Unit := do
  let linked ← World.seen fun r : Radio => (r.peripheral i).linked
  if linked then pure () else refuse .notConnected

/-- Fails with the lack of a characteristic. -/
def lacks {α : Type} (characteristic : Uuid) : Use α :=
  World.fail (.link (.characteristicNotFound characteristic))

/-- Takes all forwarders away. -/
def stopForwarding (r : Radio) : Radio := { r with forwarders := [] }

def read (i : Nat) (service characteristic : Uuid) : Use Bytes := do
  match ← World.seen fun r : Radio => (r.peripheral i).known.find? service characteristic with
  | none => lacks characteristic
  | some _ => do
    call (.read service characteristic)
    needLink i
    let value ← World.seen fun r : Radio => (r.peripheral i).gatt.value service characteristic
    World.onDevice (onPeripheral i fun p =>
      { p with gatt := p.gatt.afterRead service characteristic })
    pure value

/-- Reads a descriptor of a characteristic, if the characteristic has it. -/
def readDescriptor (i : Nat) (service characteristic descriptor : Uuid) : Use (Option Bytes) := do
  match ← World.seen fun r : Radio => (r.peripheral i).known.find? service characteristic with
  | none => lacks characteristic
  | some c =>
    if c.descriptors.any (·.1 = descriptor) then do
      call (.readDescriptor service characteristic descriptor)
      needLink i
      World.seen fun r : Radio => (r.peripheral i).gatt.descriptor? service characteristic descriptor
    else pure none

/-- The peripheral takes a write and answers it. -/
def complete (i : Nat) (characteristic : Uuid) (data : Bytes) : Use Unit := fun w =>
  let (answers, script) := (w.device.peripheral i).script.react characteristic data
  let r := w.device.onPeripheral i fun p => { p with script := script }
  .ok () (World.react (answers.map fun a => (a.1, ⟨i, a.2⟩)) { w with device := r })

/-- Writes to a characteristic; the write may hang for a while. -/
def write (i : Nat) (characteristic : Uuid) (data : Bytes) (mode : WriteMode) : Use Unit := do
  match ← World.seen fun r : Radio => (r.peripheral i).known.owner? characteristic with
  | none => lacks characteristic
  | some service => do
    call (.write service characteristic data mode)
    needLink i
    let (hangs, stalls) ← World.seen fun r : Radio =>
      (r.peripheral i).stalls.onWrite characteristic data
    World.onDevice (onPeripheral i fun p => { p with stalls := stalls })
    if hangs then World.sleep stallTime
    complete i characteristic data

/-- Opens a stream of notifications and lets the peripheral notify. -/
def subscribe (i : Nat) (characteristic : Uuid) : Use Unit := do
  match ← World.seen fun r : Radio => (r.peripheral i).known.owner? characteristic with
  | none => lacks characteristic
  | some service => do
    call (.notifications (← World.seen fun r : Radio => (r.peripheral i).address))
    call (.subscribe service characteristic)
    needLink i
    World.onDevice fun r : Radio =>
      { r with forwarders := r.forwarders ++ [⟨i, characteristic, [], true⟩] }

def disconnect (i : Nat) : Use Unit := do
  World.onDevice stopForwarding
  call (.disconnect (← World.seen fun r : Radio => (r.peripheral i).address))
  World.onDevice fun r : Radio => r.drop i

/-- The operations on a peripheral whose services are known. -/
def link (i : Nat) : Link Radio RadioAction where
  has service characteristic r := ((r.peripheral i).known.find? service characteristic).isSome
  read := read i
  readDescriptor := readDescriptor i
  write := write i
  subscribe := subscribe i
  disconnect := disconnect i

end Radio

end AirUpdate
