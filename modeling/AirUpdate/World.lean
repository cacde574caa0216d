/-
  Air updates — a program and its device in time.

  A `World` is a device, the mailbox in which its notifications arrive, the
  agenda of what the device is going to do, and a clock in milliseconds.  The
  clock moves only while the program waits, and then straight to the next due
  moment; what the program does takes no time.

  * `play` lets time pass up to a moment: every action due before it happens
    at its own moment.  An action due at exactly that moment has to wait until
    time passes again: the program goes first.
  * `sleep` and `awaitUntil` are the two ways to wait.  A wait that would go on
    past `limit` is cut there.
  * `blink` is a wait of no length.  The program passes through it and keeps
    the others waiting, but not for ever: after `fullCredit` of them they have
    their turn, at the same moment (`giveWay`).
  * `within` runs an activity under a nearer limit, and says whether it came
    to its end.
-/
import AirUpdate.Agenda
import AirUpdate.Error
import AirUpdate.Mailbox

namespace AirUpdate

/-- A device and a program's view of it, at a moment. -/
structure World (D A : Type) where
  now : Nat
  /-- the moment past which nobody waits -/
  limit : Nat
  /-- how many waits of no length the program may still pass through -/
  credit : Nat
  /-- what the device is going to do -/
  agenda : Agenda A
  mailbox : Mailbox
  device : D

/-- How a device of type `D` acts in time: what an action `A` does to it and to
    the mailbox, and what reaches the mailbox as soon as the program waits. -/
class Peer (D : Type) (A : outParam Type) where
  perform : A → D → Mailbox → D × Mailbox
  settle : D → Mailbox → D × Mailbox

/-- Why an activity did not come to its end. -/
inductive Halt where
  | failed (error : UpdateError)
  /-- the limit came first -/
  | cut
  /-- it used up its turns -/
  | exhausted
  deriving DecidableEq, Repr

/-- An activity of the program.  It changes the world also when it halts. -/
abbrev Act (D A α : Type) := EStateM Halt (World D A) α

namespace World
variable {D A α : Type}

/-- How many waits of no length the program passes through on end. -/
def fullCredit : Nat := 128

def initial (limit : Nat) (device : D) : World D A where
  now := 0
  limit := limit
  credit := fullCredit
  agenda := []
  mailbox := .empty
  device := device

/-- The program has waited: the others had their turn. -/
def refreshed (w : World D A) : World D A := { w with credit := fullCredit }

/-- One wait of the program came to its end by the clock. -/
def charged (w : World D A) : World D A := { w with credit := w.credit - 1 }

variable [Peer D A]

/-- Lets the device do something at once. -/
def perform (action : A) (w : World D A) : World D A :=
  let side := Peer.perform action w.device w.mailbox
  { w with device := side.1, mailbox := side.2 }

/-- Lets what is on its way reach the mailbox. -/
def settle (w : World D A) : World D A :=
  let side := Peer.settle w.device w.mailbox
  { w with device := side.1, mailbox := side.2 }

/-- Enters an action that happens after so many milliseconds, or at once. -/
def after (delay : Nat) (action : A) (w : World D A) : World D A :=
  if delay = 0 then w.perform action
  else { w with agenda := w.agenda.insert ⟨w.now + delay, action⟩ }

/-- Lets the device react with actions, in order. -/
def react (reactions : List (Nat × A)) (w : World D A) : World D A :=
  reactions.foldl (fun w r => w.after r.1 r.2) w

/-- Performs the actions of an agenda that are due before `moment`, and stops at
    the first moment after whose actions `ready` holds.  Says whether it
    stopped there; otherwise it is `moment` now. -/
def playAgenda (ready : World D A → Bool) (moment : Nat) :
    Agenda A → World D A → Bool × World D A
  | [], w => (false, { w with now := moment, agenda := [] })
  | first :: rest, w =>
    if first.due < moment then
      let w := w.perform first.action
      if Agenda.dueAt first.due rest then playAgenda ready moment rest w
      else
        let w := w.settle
        if ready w then (true, { w with now := first.due, agenda := rest })
        else playAgenda ready moment rest w
    else (false, { w with now := moment, agenda := first :: rest })

/-- Lets time pass up to `moment`, or up to the first moment at which `ready` holds. -/
def play (ready : World D A → Bool) (moment : Nat) (w : World D A) : Bool × World D A :=
  playAgenda ready moment w.agenda w

/-- Lets time pass up to `moment`, whatever happens. -/
def pass (moment : Nat) (w : World D A) : World D A :=
  (play (fun _ => false) moment w.settle).2

/-- Gives the others their turn at this moment: what is due by now happens, and
    what is on its way reaches the mailbox. -/
def giveWay (w : World D A) : World D A :=
  let (due, later) := w.agenda.span fun entry => entry.due ≤ w.now
  let w := due.foldl (fun w entry => w.perform entry.action) { w with agenda := later }
  w.settle.refreshed

/-- A wait of no length: the others have their turn only if the credit is used
    up.  At the limit there is no turn for them. -/
def blink : Act D A Unit := fun w =>
  if 0 < w.credit then .ok () w.charged
  else if w.limit ≤ w.now then .error .cut w
  else .ok () w.giveWay.charged

def sleep (milliseconds : Nat) : Act D A Unit := fun w =>
  if milliseconds = 0 then blink w
  else if w.now + milliseconds ≤ w.limit then
    .ok () (w.pass (w.now + milliseconds)).refreshed.charged
  else if w.limit ≤ w.now then .error .cut w
  else .error .cut (w.pass w.limit).refreshed

/-- Waits until `ready` holds; not at all, if it does already. -/
def awaitUntil (ready : World D A → Bool) : Act D A Unit := fun w =>
  if ready w then .ok () w
  else if w.limit ≤ w.now then .error .cut w
  else
    let w := w.settle.refreshed
    if ready w then .ok () w
    else
      match w.play ready w.limit with
      | (true, w) => .ok () w
      | (false, w) => .error .cut w

/-- Looks at the clock. -/
def moment : Act D A Nat := fun w => .ok w.now w

/-- Takes the notification out of the mailbox, if there is one. -/
def poll : Act D A (Option Bytes) := fun w =>
  .ok w.mailbox.take.1 { w with mailbox := w.mailbox.take.2 }

def receive : Act D A Bytes := do
  awaitUntil fun w => w.mailbox.hasPending
  let value ← poll
  pure (value.getD [])

/-- Runs an activity for so many milliseconds at most.  At the end of that time
    the activity goes first; if it has to wait then, it is given up where it
    stands and there is no result. -/
def within (milliseconds : Nat) (act : Act D A α) : Act D A (Option α) := fun w =>
  if w.limit < w.now + milliseconds then
    match act w with
    | .ok a w => .ok (some a) w
    | .error h w => .error h w
  else
    match act { w with limit := w.now + milliseconds } with
    | .ok a w' => .ok (some a) { w' with limit := w.limit }
    | .error .cut w' =>
      let w' := { w' with limit := w.limit }
      if milliseconds = 0 then (do blink; pure none) w' else .ok none w'.charged
    | .error h w' => .error h { w' with limit := w.limit }

/-- Waits for a notification for so many milliseconds at most, and takes it. -/
def receiveWithin (milliseconds : Nat) : Act D A (Option Bytes) := do
  match ← within milliseconds receive with
  | some value => pure (some value)
  | none => poll

def fail (error : UpdateError) : Act D A α := throw (.failed error)

/-- Goes on after a failure, and tells it.  What is cut stays cut. -/
def caught (act : Act D A α) : Act D A (Except UpdateError α) := fun w =>
  match act w with
  | .ok a w => .ok (.ok a) w
  | .error (.failed e) w => .ok (.error e) w
  | .error h w => .error h w

/-- Fails with the failure that was told, if there is one. -/
def ofExcept : Except UpdateError α → Act D A α
  | .ok a => pure a
  | .error e => fail e

def onDevice (f : D → D) : Act D A Unit := fun w => .ok () { w with device := f w.device }

def seen (f : D → α) : Act D A α := fun w => .ok (f w.device) w

end World

end AirUpdate
