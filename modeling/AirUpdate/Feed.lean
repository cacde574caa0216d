/-
  Air updates — a consumer of notifications.

  A feed is a device that only notifies: each notification reaches the mailbox
  at once, and then the bell is rung.  Its consumer looks into the mailbox, takes
  what is there, or waits for it (`receive`): it looks, and as long as nothing
  is there it waits for the bell and looks again.  A wait may have a time limit
  (`receiveWithin`), or be given up by someone else (`Errand.abandon`).

  A wait looks as often as it has to, which is not bounded by its time limit;
  it gets the number as an argument and halts as `exhausted` after that.
-/
import AirUpdate.Bell
import AirUpdate.World

namespace AirUpdate

/-- A device that does nothing but notify, and the bell of the mailbox. -/
structure Feed where
  bell : Bell
  /-- the notifications so far, the latest first -/
  log : List Bytes
  deriving DecidableEq, Repr

/-- The mailbox has the notification before the bell is rung. -/
instance : Peer Feed Bytes where
  perform value d m := (⟨d.bell.ring, value :: d.log⟩, m.deliver value)
  settle d m := (d, m)

namespace Feed

/-- A feed that has not notified yet, and nobody waits. -/
def fresh : Feed := ⟨.silent, []⟩

/-- The notifications so far, in order. -/
def sent (d : Feed) : List Bytes := d.log.reverse

def onBell (f : Bell → Bell) (d : Feed) : Feed := { d with bell := f d.bell }

/-- Waits for the bell. -/
def listen : Act Feed Bytes Unit := do
  World.onDevice (onBell Bell.await)
  World.awaitUntil fun w => w.device.bell.isHeard
  World.onDevice (onBell Bell.answer)

/-- Waits for a notification and takes it. -/
def receive : Nat → Act Feed Bytes Bytes
  | 0 => throw .exhausted
  | looks + 1 => do
    match ← World.poll with
    | some value => pure value
    | none => do
      listen
      receive looks

/-- Gives a wait up, unless the bell was rung for it in the last moment. -/
def giveUp : Act Feed Bytes (Option Bytes) := do
  if ← World.seen fun d : Feed => d.bell.isHeard then do
    World.onDevice (onBell Bell.answer)
    World.poll
  else do
    World.onDevice (onBell Bell.leave)
    pure none

/-- Waits for a notification for so many milliseconds at most, and takes it. -/
def receiveWithin (looks milliseconds : Nat) : Act Feed Bytes (Option Bytes) := do
  match ← World.within milliseconds (receive looks) with
  | some value => pure (some value)
  | none => giveUp

/-- What happens at a mailbox, as the consumer goes on. -/
inductive Errand where
  /-- the feed is going to notify, after so many milliseconds or at once -/
  | notify (delay : Nat) (value : Bytes)
  | take
  /-- the consumer asks whether there is something to take -/
  | look
  | sleep (milliseconds : Nat)
  /-- the consumer waits for a notification, for so long at most -/
  | wait (milliseconds : Nat)
  /-- the consumer waits for a notification, and after so long the wait is given up for it; if
      that is late, then behind what happens at that moment, before the consumer looks again -/
  | abandon (milliseconds : Nat) (late : Bool)
  deriving DecidableEq, Repr

/-- What the consumer finds. -/
inductive Finding where
  | done
  | taken (value : Option Bytes)
  | pending (is : Bool)
  | received (value : Bytes)
  | timedOut
  | abandoned
  deriving DecidableEq, Repr

/-- The consumer does something that takes so many milliseconds at most. -/
def spend (milliseconds : Nat) (act : Act Feed Bytes Finding) (w : World Feed Bytes) :
    Finding × World Feed Bytes :=
  match act { w with limit := w.now + milliseconds + 1 } with
  | .ok found w' => (found, { w' with limit := w.limit })
  | .error _ w' => (.abandoned, { w' with limit := w.limit })

/-- Nobody waits any more, and what was waited for is not taken. -/
def forsake (w : World Feed Bytes) : World Feed Bytes :=
  { w with device := w.device.onBell .leave }.charged

/-- The consumer waits until the wait is given up for it. -/
def waitUntil (moment : Nat) (late : Bool) (looks : Nat) (w : World Feed Bytes) :
    Finding × World Feed Bytes :=
  match receive looks { w with limit := moment } with
  | .ok value w' => (.received value, { w' with limit := w.limit })
  | .error _ w' => (.abandoned, forsake { (if late then w'.giveWay else w') with limit := w.limit })

/-- What the consumer finds on an errand, and the world after it. -/
def perform (looks : Nat) (w : World Feed Bytes) : Errand → Finding × World Feed Bytes
  | .notify delay value => (.done, w.after delay value)
  | .take => (.taken w.mailbox.take.1, { w with mailbox := w.mailbox.take.2 })
  | .look => (.pending w.mailbox.hasPending, w)
  | .sleep ms => spend ms (do World.sleep ms; pure .done) w
  | .wait ms => spend ms (do pure (((← receiveWithin looks ms).map .received).getD .timedOut)) w
  | .abandon ms late => waitUntil (w.now + ms) late looks w

end Feed

end AirUpdate
