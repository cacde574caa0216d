/-
  Air updates — an update session.

  A session opens with START and the device's XON (`start`), streams the image
  in fragments (`transfer`), and ends with COMMIT (`commit`); `run` does all
  three.  Every step has to be taken in its phase.

  While it streams, a session repeats a `turn`: it looks at the latest
  notification, waits if the stream is held, and otherwise writes the next
  fragment.  A fragment whose write does not come to its end in time is
  written again, after a pause, in a later turn.  A turn that sends a fragment
  shorter than the full size, or finds none left to send, is the last one.

  The number of turns of `stream` and of waits of `awaitXon` is not bounded by
  the settings; both get it as an argument and halt as `exhausted` after that.
-/
import AirUpdate.Config
import AirUpdate.Control
import AirUpdate.Flow
import AirUpdate.Link

namespace AirUpdate

/-- What the stream of a session did. -/
structure TransferReport where
  /-- writes of fragments that came to their end, repetitions included -/
  fragmentsSent : Nat
  /-- the payload bytes in them -/
  bytesSent : Nat
  /-- writes that did not come to their end in time -/
  writeTimeouts : Nat
  /-- how often the device held the stream -/
  pauses : Nat
  /-- in milliseconds -/
  elapsed : Nat
  deriving DecidableEq, Repr

def TransferReport.empty : TransferReport := ⟨0, 0, 0, 0, 0⟩

structure Session (D A : Type) where
  image : Bytes
  config : SessionConfig
  flow : Flow
  phase : Phase
  world : World D A

/-- What a turn of the stream came to. -/
inductive Turn where
  /-- the stream is held: the session waited -/
  | held
  /-- a full fragment went out -/
  | sent
  /-- a write did not come to its end in time -/
  | stalled
  /-- a fragment shorter than the full size went out -/
  | sentLast
  /-- no fragment is left -/
  | drained
  deriving DecidableEq, Repr

def Turn.isLast : Turn → Bool
  | .sentLast | .drained => true
  | .held | .sent | .stalled => false

namespace Session
variable {D A α : Type}

/-- A step of a session.  It changes the session also when it halts. -/
abbrev Step (D A α : Type) := EStateM Halt (Session D A) α

def idle (image : Bytes) (config : SessionConfig) (world : World D A) : Session D A :=
  ⟨image, config, .initial, .idle, world⟩

/-- Lets the session do something with its device. -/
def onWorld (act : Act D A α) : Step D A α := fun s =>
  match act s.world with
  | .ok a w => .ok a { s with world := w }
  | .error h w => .error h { s with world := w }

def fail (error : UpdateError) : Step D A α := throw (.failed error)

/-- Fails, and changes nothing, unless the session is in this phase. -/
def expect (phase : Phase) : Step D A Unit := fun s =>
  if s.phase = phase then .ok () s else .error (.failed (.invalidPhase phase s.phase)) s

def enter (phase : Phase) : Step D A Unit := fun s => .ok () { s with phase := phase }

def moveFlow (f : Flow → Flow) : Step D A Unit := fun s => .ok () { s with flow := f s.flow }

/-- An error of this step fails the session. -/
def settling (step : Step D A α) : Step D A α := fun s =>
  match step s with
  | .error (.failed e) s => .error (.failed e) { s with phase := .failed e.failure }
  | r => r

section
variable [Peer D A] (link : Link D A)

/-- Waits for a notification that starts with XON, at most `waits` times.
    `timeouts` of the waits before have ended without a notification. -/
def awaitXon : Nat → Nat → Step D A Unit
  | 0, _ => throw .exhausted
  | waits + 1, timeouts => do
    let config := (← get).config
    match ← onWorld (World.receiveWithin config.startTimeout.toNat) with
    | some value =>
      if value.head?.bind Status.ofByte? = some .xon then pure ()
      else awaitXon waits timeouts
    | none =>
      if config.startAttempts.toNat ≤ timeouts + 1 then
        fail (.handshakeTimeout config.startAttempts.toNat)
      else awaitXon waits (timeouts + 1)

/-- Subscribes to status reports, writes START and waits for XON. -/
def handshake (waits : Nat) : Step D A Unit := do
  onWorld (link.subscribe .status)
  onWorld (link.write .control [Control.start.toByte] .request)
  awaitXon waits 0

def start (waits : Nat) : Step D A Unit := do
  expect .idle
  enter .starting
  settling (handshake link waits)
  enter .streaming

/-- Acts on a notification while streaming; gives the report on. -/
def heed (report : TransferReport) : Option Bytes → Step D A TransferReport
  | none => pure report
  | some value =>
    match StatusReport.ofBytes value with
    | .error _ => pure report
    | .ok r => do
      let s ← get
      if r.status.isFailure ∧ s.config.failOnDeviceError then
        fail (.deviceStatus r.status)
      else
        moveFlow (·.absorb r)
        pure (if s.flow.holds r then { report with pauses := report.pauses + 1 } else report)

/-- Writes a fragment, for as long as a write may take.  Says whether the write
    came to its end. -/
def send (fragment : Fragment) : Step D A Bool := do
  let config := (← get).config
  let written ← onWorld
    (World.within config.writeTimeout.toNat (link.write .binaryStream fragment.toBytes .command))
  pure written.isSome

def turn (report : TransferReport) : Step D A (Turn × TransferReport) := do
  let value ← onWorld World.poll
  let report ← heed report value
  let s ← get
  if s.flow.held then
    onWorld (World.sleep s.config.pausePoll.toNat)
    pure (.held, report)
  else
    let payload := s.flow.sequencer.nextChunk s.image s.config.payloadSize
    if payload.isEmpty then pure (.drained, report)
    else if ← send link ⟨s.flow.sequencer.id, payload⟩ then
      onWorld (World.sleep s.config.pacing.toNat)
      moveFlow Flow.advance
      pure (if payload.length < s.config.payloadSize then .sentLast else .sent,
        { report with
          fragmentsSent := report.fragmentsSent + 1
          bytesSent := report.bytesSent + payload.length })
    else
      onWorld (World.sleep s.config.writeBackoff.toNat)
      pure (.stalled, { report with writeTimeouts := report.writeTimeouts + 1 })

/-- Repeats turns until the last one, at most `turns` of them. -/
def stream : Nat → TransferReport → Step D A TransferReport
  | 0, _ => throw .exhausted
  | turns + 1, report => do
    let (t, report) ← turn link report
    if t.isLast then pure report else stream turns report

/-- Streams the image and takes the time. -/
def timedStream (turns : Nat) : Step D A TransferReport := do
  let started ← onWorld World.moment
  let report ← stream link turns .empty
  let ended ← onWorld World.moment
  pure { report with elapsed := ended - started }

def transfer (turns : Nat) : Step D A TransferReport := do
  expect .streaming
  let report ← settling (timedStream link turns)
  enter .committing
  pure report

/-- Asks the device to install the image. -/
def commit : Step D A Unit := do
  expect .committing
  settling (onWorld (link.write .control [Control.commit.toByte] .request))
  enter .closed

def run (turns : Nat) : Step D A TransferReport := do
  start link turns
  let report ← transfer link turns
  commit link
  pure report

end

/-- Runs a step for so many milliseconds at most.  A step that has to wait at the
    end of that time is given up where it stands. -/
def upTo (milliseconds : Nat) (step : Step D A α) : Step D A α := fun s =>
  match step { s with world := { s.world with limit := s.world.now + milliseconds } } with
  | .error .cut s => .error .cut { s with world := s.world.charged }
  | r => r

/-- Runs a step of a session that is just made, and so has seen no notification,
    as an activity of its own. -/
def asAct (step : Step D A α) (image : Bytes) (config : SessionConfig) : Act D A α := fun w =>
  match step (idle image config { w with mailbox := .empty }) with
  | .ok a s => .ok a s.world
  | .error h s => .error h s.world

end Session

end AirUpdate
