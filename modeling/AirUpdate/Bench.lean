/-
  Air updates — a device on the test bench.

  A bench device answers writes by its script, and may be told to misbehave:
  writes that hang, a fragment whose write fails, and operations that are
  refused.  It keeps a list of the writes that came to their end.  Its
  notifications go to the mailbox of the session that subscribed last, and to
  none after a disconnect.
-/
import AirUpdate.Control
import AirUpdate.Fragment
import AirUpdate.Link
import AirUpdate.StatusReport

namespace AirUpdate

/-- A write that came to its end. -/
structure BenchWrite where
  moment : Nat
  characteristic : Uuid
  data : Bytes
  mode : WriteMode
  deriving DecidableEq, Repr

structure Readable where
  service : Uuid
  characteristic : Uuid
  value : Bytes
  descriptors : List (Uuid × Bytes)
  deriving DecidableEq, Repr

/-- An operation that a bench device may refuse. -/
inductive BenchOperation where
  | subscribe
  /-- a write of this op code to the control characteristic -/
  | control (op : Control)
  | read
  | readDescriptor
  deriving DecidableEq, Repr

structure Bench where
  script : Script Bytes
  /-- whether START is answered with XON, before the script -/
  answersStart : Bool
  stalls : Stalls
  /-- writes to the binary stream fail that begin with this id, or, with none, that are empty -/
  brokenFragment : Option UInt8
  brokenDisconnect : Bool
  refusals : List (BenchOperation × RadioError)
  readables : List Readable
  subscribed : Bool
  /-- the writes that came to their end, the latest first -/
  log : List BenchWrite

/-- A notification reaches the mailbox at once, if somebody has subscribed. -/
instance : Peer Bench Bytes where
  perform value d m := if d.subscribed then (d, m.deliver value) else (d, m)
  settle d m := (d, m)

namespace Bench

/-- A device that answers START and takes every fragment. -/
def quiet : Bench where
  script := []
  answersStart := true
  stalls := []
  brokenFragment := none
  brokenDisconnect := false
  refusals := []
  readables := []
  subscribed := false
  log := []

/-- The writes that came to their end, in order. -/
def writes (d : Bench) : List BenchWrite := d.log.reverse

/-- The fragments among them, in order. -/
def fragments (d : Bench) : List Fragment :=
  d.writes.filterMap fun w =>
    if w.characteristic = Uuid.binaryStream then Fragment.ofBytes? w.data else none

def refusal? (d : Bench) (operation : BenchOperation) : Option RadioError :=
  d.refusals.lookup operation

/-- The refusable operation that a write is. -/
def operation? (characteristic : Uuid) (data : Bytes) : Option BenchOperation :=
  if characteristic = Uuid.control then
    (Control.all.find? fun op => data = [op.toByte]).map .control
  else none

def allow (operation : BenchOperation) : Act Bench Bytes Unit := fun w =>
  match w.device.refusal? operation with
  | some e => .error (.failed (.link (.radio e))) w
  | none => .ok () w

def readable? (d : Bench) (service characteristic : Uuid) : Option Readable :=
  d.readables.find? fun r => r.service = service ∧ r.characteristic = characteristic

/-- Writes down a write that came to its end, and answers it. -/
def complete (characteristic : Uuid) (data : Bytes) (mode : WriteMode) : Act Bench Bytes Unit := fun w =>
  let d := w.device
  let (answers, script) := d.script.react characteristic data
  let xon := StatusReport.toBytes ⟨.xon, some 0⟩
  let greeting :=
    if d.answersStart ∧ characteristic = Uuid.control ∧ data = [Control.start.toByte] then [(0, xon)]
    else []
  let d := { d with script := script, log := ⟨w.now, characteristic, data, mode⟩ :: d.log }
  .ok () (World.react (greeting ++ answers) { w with device := d })

/-- A write may be refused, hang for a while, or fail; otherwise it comes to
    its end. -/
def write (characteristic : Uuid) (data : Bytes) (mode : WriteMode) : Act Bench Bytes Unit := do
  match operation? characteristic data with
  | some operation => allow operation
  | none => pure ()
  let (hangs, stalls) ← World.seen fun d : Bench => d.stalls.onWrite characteristic data
  World.onDevice fun d => { d with stalls := stalls }
  if hangs then World.sleep stallTime
  let broken ← World.seen fun d : Bench => d.brokenFragment
  if characteristic = Uuid.binaryStream ∧ data.head? = broken then
    World.fail (.link .notConnected)
  else complete characteristic data mode

/-- A new session takes the place of the one before; the device still answers
    to that one, until the new session subscribes. -/
def forNewSession (w : World Bench Bytes) : World Bench Bytes :=
  { w with mailbox := .empty, device := { w.device with subscribed := false } }

def link : Link Bench Bytes where
  has service characteristic d := (d.readable? service characteristic).isSome
  read service characteristic := do
    allow .read
    match ← World.seen fun d : Bench => d.readable? service characteristic with
    | some r => pure r.value
    | none => World.fail (.link (.characteristicNotFound characteristic))
  readDescriptor service characteristic descriptor := do
    allow .readDescriptor
    match ← World.seen fun d : Bench => d.readable? service characteristic with
    | some r => pure (r.descriptors.lookup descriptor)
    | none => World.fail (.link (.characteristicNotFound characteristic))
  write := write
  subscribe _ := do
    allow .subscribe
    World.onDevice fun d => { d with subscribed := true }
  disconnect := do
    World.onDevice fun d => { d with subscribed := false }
    if ← World.seen fun d : Bench => d.brokenDisconnect then World.fail (.link .notConnected)

end Bench

end AirUpdate
