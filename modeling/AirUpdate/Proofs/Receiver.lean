/-
  Air updates — a receiver that falls back.

  A receiver keeps the fragments that it takes in, in order, and takes in only
  the one with the id that comes next for it.  At any moment it may drop up to
  255 of the latest, and reports at once the id that comes next then
  (`Setback`), but not while a report of it is still to be taken, nor once a
  fragment shorter than the full size was written.  A write of a fragment
  reaches it at once or never.

  When it falls back is given by an agenda, and by its answers to the writes;
  which writes never reach it is given too.  So its runs are all the runs of a
  receiver that acts in this way.
-/
import AirUpdate.Control
import AirUpdate.Link
import AirUpdate.Proofs.Chunks
import AirUpdate.Proofs.Waiting
import AirUpdate.StatusReport

namespace AirUpdate

structure Setback where
  status : Status
  /-- the report is XOFF, XON or SYNC_LOST -/
  steers : status.carriesId = true
  /-- how many fragments it drops, unless it has fewer -/
  dropped : UInt8

structure Receiver where
  /-- payload bytes of a full fragment -/
  size : Nat
  /-- the payloads that it holds, in order -/
  held : List Bytes
  /-- whether a fragment shorter than the full size was written -/
  ended : Bool
  /-- what it was last asked to install -/
  installed : Option Bytes
  /-- how many writes there were -/
  count : Nat
  /-- whether a write, by its number, never reaches it if it is of a fragment -/
  loses : Nat → Bool
  /-- what it does after a write, by its number -/
  answers : Nat → List (Nat × Setback)

namespace Receiver

/-- The report of the receiver with this status. -/
def report (d : Receiver) (status : Status) : StatusReport :=
  ⟨status, some (UInt8.ofNat d.held.length)⟩

/-- Drops the latest fragments, if there are so many. -/
def drop (n : Nat) (d : Receiver) : Receiver := { d with held := d.held.take (d.held.length - n) }

instance : Peer Receiver Setback where
  perform a d m :=
    if d.ended ∨ m.hasPending then (d, m)
    else (d.drop a.dropped.toNat, m.deliver ((d.drop a.dropped.toNat).report a.status).toBytes)
  settle d m := (d, m)

/-- A receiver that holds nothing yet. -/
def fresh (size : Nat) (loses : Nat → Bool) (answers : Nat → List (Nat × Setback)) : Receiver where
  size := size
  held := []
  ended := false
  installed := none
  count := 0
  loses := loses
  answers := answers

def counted (d : Receiver) : Receiver := { d with count := d.count + 1 }

/-- Takes a fragment in, if it is the one that comes next. -/
def takeIn (d : Receiver) (f : Fragment) : Receiver :=
  { d with
    held := if f.id = UInt8.ofNat d.held.length then d.held ++ [f.payload] else d.held
    ended := d.ended || decide (f.payload.length < d.size) }

@[simp] theorem held_counted (d : Receiver) : d.counted.held = d.held := rfl

theorem held_takeIn {d : Receiver} {f : Fragment} (h : f.id = UInt8.ofNat d.held.length) :
    (d.takeIn f).held = d.held ++ [f.payload] := if_pos h

theorem ended_takeIn (d : Receiver) (f : Fragment) :
    (d.takeIn f).ended = (d.ended || decide (f.payload.length < d.size)) := rfl

/-- What a write that reaches the receiver does. -/
def takes (d : Receiver) (characteristic : Uuid) (data : Bytes) : Receiver :=
  if characteristic = Uuid.binaryStream then (Fragment.ofBytes? data).elim d d.takeIn
  else if characteristic = Uuid.control ∧ data = [Control.commit.toByte] then
    { d with installed := some d.held.flatten }
  else d

/-- A write of a fragment that is lost never comes to its end. -/
def write (characteristic : Uuid) (data : Bytes) (_ : WriteMode) :
    Act Receiver Setback Unit := fun w =>
  let d := w.device.counted
  if characteristic = Uuid.binaryStream ∧ d.loses d.count then
    World.awaitUntil (fun _ => false) { w with device := d }
  else .ok () (World.react (d.answers d.count) { w with device := d.takes characteristic data })

def link : Link Receiver Setback where
  has _ _ _ := false
  read _ characteristic := World.fail (.link (.characteristicNotFound characteristic))
  readDescriptor _ characteristic _ := World.fail (.link (.characteristicNotFound characteristic))
  write := write
  subscribe _ := pure ()
  disconnect := pure ()

/-! ## What a write does -/

variable {w w' : World Receiver Setback}

/-- Writing a control op code lets the receiver act on it and react. -/
theorem write_control (op : Control) (mode : WriteMode) :
    link.write .control [op.toByte] mode w =
      .ok () (World.react (w.device.counted.answers w.device.counted.count)
        { w with device := w.device.counted.takes .control [op.toByte] }) := by
  have hne : ¬ Uuid.control = Uuid.binaryStream := by decide
  simp only [link, write, hne, false_and, if_false]

/-- A write of a fragment that comes to its end has the receiver take it in and react. -/
theorem of_write_fragment {f : Fragment} {mode : WriteMode}
    (h : link.write .binaryStream f.toBytes mode w = .ok () w') :
    w' = World.react (w.device.counted.answers w.device.counted.count)
      { w with device := w.device.counted.takeIn f } := by
  simp only [link, write] at h
  split at h
  · exact absurd h World.awaitUntil_never
  · cases h
    simp [takes]

/-- A write of a fragment that is cut never reached the receiver. -/
theorem of_write_fragment_cut {f : Fragment} {mode : WriteMode} {e : Halt}
    (h : link.write .binaryStream f.toBytes mode w = .error e w') :
    World.awaitUntil (fun _ => false) { w with device := w.device.counted } = .error e w' := by
  simp only [link, write] at h
  split at h
  · exact h
  · cases h

section
variable {P : Receiver → Mailbox → Prop} {f : Fragment} {ms : Nat}

/-- After a write of a fragment in time, the receiver has taken it in. -/
theorem has_of_sent (hP : Peer.Keeps (A := Setback) P)
    (hwritten : World.within ms (link.write .binaryStream f.toBytes .command) w = .ok (some ()) w')
    (h : P (w.device.counted.takeIn f) w.mailbox) : w'.Has P := by
  obtain ⟨l, w₁, -, hwrite, hw'⟩ := World.within_eq_some hwritten
  rw [of_write_fragment hwrite] at hw'
  have htaken : World.Has P { w with limit := l, device := w.device.counted.takeIn f } := h
  rw [hw']
  exact World.has_react hP _ htaken

/-- After a write of a fragment that was given up, the receiver is where it was. -/
theorem has_of_lost (hP : Peer.Keeps (A := Setback) P)
    (hwritten : World.within ms (link.write .binaryStream f.toBytes .command) w = .ok none w')
    (h : P w.device.counted w.mailbox) : w'.Has P := by
  refine World.has_of_within_eq_none hP hwritten fun l w₁ hcut => ?_
  have hcounted : World.Has P { w with limit := l, device := w.device.counted } := h
  exact (World.keeps_awaitUntil hP _).error hcounted (of_write_fragment_cut hcut)

end

end Receiver

end AirUpdate
