/-
  Air updates — running what a command line asks for.

  A run uses a radio and prints.  The settings come first, then the adapter,
  then the command; what was printed stays printed when the run fails.  An
  update that was verified and left the device with the revision that it had
  is an error.
-/
import AirUpdate.CommandLine.Usage
import AirUpdate.Settings.File
import AirUpdate.Text.Seconds
import AirUpdate.Update

namespace AirUpdate

inductive RunError where
  | config (error : ConfigError)
  | update (error : UpdateError)
  /-- the device still has this revision -/
  | unchanged (revision : Revision)
  deriving DecidableEq, Repr

def RunError.message : RunError → String
  | config error => error.message
  | update error => error.message
  | unchanged revision => "update unsuccessful: still " ++ revision.text

/-- Why a run did not come to its end. -/
inductive RunStop where
  | failed (error : RunError)
  /-- the limit came first -/
  | cut
  /-- it used up its turns -/
  | exhausted
  deriving DecidableEq, Repr

/-- How a run stops when its radio activity halts. -/
def RunStop.ofHalt : Halt → RunStop
  | .failed e => .failed (.update e)
  | .cut => .cut
  | .exhausted => .exhausted

/-- What a run works on. -/
structure Console where
  world : World Radio RadioAction
  /-- what was printed -/
  output : String

namespace Console

abbrev Run (α : Type) := EStateM RunStop Console α

def print (text : String) : Run Unit := fun c => .ok () { c with output := c.output ++ text }

def fail {α : Type} (e : RunError) : Run α := throw (.failed e)

def onRadio {α : Type} (use : Radio.Use α) : Run α := fun c =>
  match use c.world with
  | .ok a w => .ok a { c with world := w }
  | .error h w => .error (.ofHalt h) { c with world := w }

/-- The line of a device in the list of a scan. -/
def deviceLine (d : ScannedDevice) : String :=
  let rssi := match d.rssi with
    | some n => toString n ++ " dBm"
    | none => "N/A"
  "  " ++ d.name ++ " (" ++ d.address ++ ") RSSI: " ++ rssi
    ++ (if d.isFota then " [FOTA]" else "") ++ "\n"

/-- The summary of the stream of an update. -/
def summaryLine (r : TransferReport) : String :=
  "Sent " ++ toString r.fragmentsSent ++ " fragments (" ++ toString r.bytesSent ++ " bytes) in "
    ++ Text.secondsText r.elapsed ++ "s, " ++ toString r.writeTimeouts ++ " write timeouts, "
    ++ toString r.pauses ++ " pauses\n"

def scan (seconds : Nat) : Run Unit := do
  print ("Scanning for devices (" ++ toString seconds ++ " seconds)...\n")
  let devices ← onRadio (Discovery.scan (1000 * seconds))
  print ("\nFound " ++ toString devices.length ++ " devices:\n")
  print (String.join (devices.map deviceLine))

/-- Prints what an update came to. -/
def report (o : Outcome) : Run Unit := do
  print (summaryLine o.report)
  match o.after, o.succeeded with
  | some after, some true =>
    print ("Update successful: " ++ o.before.text ++ " -> " ++ after.text ++ "\n")
  | some after, _ => fail (.unchanged after)
  | none, _ => print ("Update committed (not verified), was " ++ o.before.text ++ "\n")

/-- Settings for the device that a command line names, if it names one. -/
def forDevice (config : UpdateConfig) : Option String → UpdateConfig
  | some name => { config with deviceName := name }
  | none => config

def perform (fs : Files) (config : UpdateConfig) (turns : Nat) : Command → Run Unit
  | .scan seconds => scan seconds.toNat
  | .revision device => do
    let revision ← onRadio (Update.probe (forDevice config device))
    print (revision.text ++ "\n")
  | .update device file verify => do
    let image ← onRadio (World.ofExcept (Image.load fs file))
    let outcome ← onRadio (Update.run image (forDevice config device) verify turns)
    report outcome

/-- Does what a command line asks for. -/
def run (fs : Files) (env : Environment) (turns : Nat) (invocation : Invocation) : Run Unit := do
  match UpdateConfig.resolve fs env invocation.config with
  | .error e => fail (.config e)
  | .ok config => do
    onRadio Radio.openAdapter
    perform fs config turns invocation.command

end Console

end AirUpdate
