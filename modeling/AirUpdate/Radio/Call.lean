/-
  Air updates — calls into the radio.

  Everything that a program asks of the radio is a `Call`.  A radio keeps a
  list of the calls, and may have faults: a fault refuses calls of one kind,
  all of them or just one of them (`Fault.refuses`).
-/
import AirUpdate.Error
import AirUpdate.Script

namespace AirUpdate

/-- Something that a program asks of the radio. -/
inductive Call where
  | manager
  | adapters
  | startScan
  | stopScan
  /-- lists the peripherals in sight -/
  | peripherals
  /-- opens the stream of events -/
  | events
  /-- asks what a peripheral advertises -/
  | properties (address : String)
  | connect (address : String)
  | discoverServices (address : String)
  | disconnect (address : String)
  /-- opens the stream of notifications of a peripheral -/
  | notifications (address : String)
  | read (service characteristic : Uuid)
  | readDescriptor (service characteristic descriptor : Uuid)
  /-- lets a peripheral notify a characteristic -/
  | subscribe (service characteristic : Uuid)
  | write (service characteristic : Uuid) (data : Bytes) (mode : WriteMode)
  deriving DecidableEq, Repr

/-- What kind of call a call is. -/
inductive CallKind where
  | manager
  | adapters
  | startScan
  | stopScan
  | peripherals
  | events
  | properties
  | connect
  | discoverServices
  | disconnect
  | notifications
  | read
  | readDescriptor
  | subscribe
  | write
  deriving DecidableEq, Repr

def Call.kind : Call → CallKind
  | .manager => .manager
  | .adapters => .adapters
  | .startScan => .startScan
  | .stopScan => .stopScan
  | .peripherals => .peripherals
  | .events => .events
  | .properties _ => .properties
  | .connect _ => .connect
  | .discoverServices _ => .discoverServices
  | .disconnect _ => .disconnect
  | .notifications _ => .notifications
  | .read _ _ => .read
  | .readDescriptor _ _ _ => .readDescriptor
  | .subscribe _ _ => .subscribe
  | .write _ _ _ _ => .write

/-- A call that was made. -/
structure CallEntry where
  moment : Nat
  call : Call
  /-- whether a fault refused it -/
  refused : Bool
  deriving DecidableEq, Repr

structure Fault where
  /-- the calls that it refuses -/
  kind : CallKind
  /-- which of them, counted from one; all, if it does not say -/
  nth : Option Nat
  error : RadioError
  deriving DecidableEq, Repr

/-- Whether a fault refuses a call, before which calls of that kind were made. -/
def Fault.refuses (f : Fault) (call : Call) (earlier : Unit → Nat) : Bool :=
  f.kind = call.kind && (f.nth.isNone || f.nth = some (earlier () + 1))

end AirUpdate
