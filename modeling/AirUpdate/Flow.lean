/-
  Air updates — the flow of fragments.

  The flow is what the device steers while an image is streamed: the fragment
  that goes out next, and whether the stream is held.  XOFF holds the stream,
  XON lets it go on, and XOFF, XON and SYNC_LOST move it to the fragment that
  the device names (`absorb`).  Nothing else moves it, and what is no report
  does not either (`onNotification`).
-/
import AirUpdate.Sequencer
import AirUpdate.StatusReport

namespace AirUpdate

/-- Where the stream of fragments stands. -/
structure Flow where
  sequencer : Sequencer
  /-- the device does not take fragments for now -/
  held : Bool
  deriving DecidableEq, Repr

namespace Flow

def initial : Flow := ⟨.initial, false⟩

def absorb (f : Flow) (r : StatusReport) : Flow :=
  match r.status, r.fragmentId with
  | .xoff, some id => ⟨f.sequencer.resync id, true⟩
  | .xon, some id => ⟨f.sequencer.resync id, false⟩
  | .syncLost, some id => { f with sequencer := f.sequencer.resync id }
  | _, _ => f

/-- Whether a report holds a stream that was not held. -/
def holds (f : Flow) (r : StatusReport) : Bool :=
  !f.held && (f.absorb r).held

/-- The flow after a notification, which may be no report. -/
def onNotification (f : Flow) (value : Bytes) : Flow :=
  match StatusReport.ofBytes value with
  | .ok r => f.absorb r
  | .error _ => f

def advance (f : Flow) : Flow := { f with sequencer := f.sequencer.advance }

/-- A report whose status carries no id leaves the flow as it is. -/
theorem absorb_of_not_carriesId {f : Flow} {r : StatusReport} (h : r.status.carriesId = false) :
    f.absorb r = f := by
  obtain ⟨status, id⟩ := r
  cases status <;> simp_all [absorb, Status.carriesId]

end Flow

end AirUpdate
