/-
  Air updates — the whole update of a device.

  `Update.run` connects to the device, reads its revision, runs a session and
  waits for the device to take the link down, which it does to install the
  image.  To verify the update it waits once more and connects again, to read
  the revision a second time.  An error on the first connection ends the
  update with a disconnect, whose own error does not count.
-/
import AirUpdate.Discovery
import AirUpdate.Image
import AirUpdate.Outcome

namespace AirUpdate

namespace Radio

/-- Follows the event stream from now on, until the link of a peripheral is lost. -/
def follow (i : Nat) : Use Unit := do
  let address ← addressOf i
  call .events
  World.onDevice fun r : Radio => { r with watch := some ⟨address, false⟩ }

/-- Whether the watch is over. -/
def watchIsOver (r : Radio) : Bool := r.watch.any (·.isOver)

/-- Waits until the watch is over. -/
def awaitLoss : Use Unit := World.awaitUntil fun w => w.device.watchIsOver

/-- Takes the link of a peripheral down, whatever the radio says. -/
def letGo (i : Nat) : Use Unit := do
  let _ ← World.caught (disconnect i)
  pure ()

end Radio

namespace Update

/-- Finds the device that is meant and connects to it. -/
def connectDevice (config : UpdateConfig) : Radio.Use Nat := do
  let i ← Discovery.find config.deviceName config.scanTime
  Discovery.connect i config.connectAttempts.toNat
  pure i

/-- Connects to the device to read its revision. -/
def probe (config : UpdateConfig) : Radio.Use Revision := do
  let i ← connectDevice config
  let revision ← World.caught (Revision.read (Radio.link i))
  Radio.letGo i
  World.ofExcept revision

/-- Reads the revision of a connected device, runs the session, and waits until
    the device has taken the link down. -/
def transfer (i : Nat) (image : Image) (config : UpdateConfig) (turns : Nat) :
    Radio.Use (Revision × TransferReport) := do
  let before ← Revision.read (Radio.link i)
  Radio.follow i
  let report ← Session.asAct (Session.run (Radio.link i) turns) image.bytes config.session
  Radio.awaitLoss
  pure (before, report)

/-- Updates the device and, if asked to, reads its revision again. -/
def run (image : Image) (config : UpdateConfig) (verify : Bool) (turns : Nat) :
    Radio.Use Outcome := do
  let i ← connectDevice config
  match ← World.caught (transfer i image config turns) with
  | .error e => do
    Radio.letGo i
    World.fail e
  | .ok (before, report) =>
    if verify then do
      World.onDevice Radio.stopForwarding
      World.sleep config.rebootWait
      let after ← probe config
      pure ⟨before, some after, report⟩
    else do
      Radio.letGo i
      pure ⟨before, none, report⟩

end Update

end AirUpdate
