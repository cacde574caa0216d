/-
  Air updates — reading settings.

  Settings are a record: named fields in a fixed order (`Field`).  A JSON
  object sets the fields that it names, each at most once; members with other
  names are ignored, but each name has to be a text.  A JSON array sets the
  fields in their order.  A field that is not set keeps its default
  (`readRecord`).
-/
import AirUpdate.Config
import AirUpdate.Json.Reader

namespace AirUpdate

/-- A named field of a record `C`, with the way a value sets it. -/
structure Field (C : Type) where
  name : String
  set : Json → C → Option C

/-- A record of settings: its fields in order. -/
abbrev Schema (C : Type) := List (Field C)

namespace Schema
variable {C : Type}

/-- Sets the fields that the members of an object name.  `seen` are the fields
    that are set already. -/
def setMembers (schema : Schema C) : List String → List (Option String × Json) → C → Option C
  | _, [], c => some c
  | _, (none, _) :: _, _ => none
  | seen, (some name, v) :: rest, c =>
    match schema.find? fun f => f.name = name with
    | none => setMembers schema seen rest c
    | some f => if name ∈ seen then none else do setMembers schema (name :: seen) rest (← f.set v c)

/-- Sets the fields in order to the items of an array. -/
def setItems : Schema C → List Json → C → Option C
  | _, [], c => some c
  | [], _ :: _, _ => none
  | f :: schema, v :: rest, c => do setItems schema rest (← f.set v c)

/-- Sets fields of a record as a value says. -/
def readRecord (schema : Schema C) (c : C) : Json → Option C
  | .object members => schema.setMembers [] members c
  | .array items => schema.setItems items c
  | _ => none

end Schema

namespace Json

def word64? : Json → Option UInt64
  | .number (some n) => if n < UInt64.size then some (UInt64.ofNat n) else none
  | _ => none

def word32? : Json → Option UInt32
  | .number (some n) => if n < UInt32.size then some (UInt32.ofNat n) else none
  | _ => none

def bool? : Json → Option Bool
  | .bool b => some b
  | _ => none

def text? : Json → Option String
  | .string s => s
  | _ => none

end Json

/-- The fields of the settings of a session. -/
def SessionConfig.schema : Schema SessionConfig :=
  [⟨"fragment_size", fun v c => v.word64?.map fun n => { c with fragmentSize := n }⟩,
   ⟨"start_timeout_ms", fun v c => v.word64?.map fun n => { c with startTimeout := n }⟩,
   ⟨"start_attempts", fun v c => v.word32?.map fun n => { c with startAttempts := n }⟩,
   ⟨"write_timeout_ms", fun v c => v.word64?.map fun n => { c with writeTimeout := n }⟩,
   ⟨"write_backoff_ms", fun v c => v.word64?.map fun n => { c with writeBackoff := n }⟩,
   ⟨"pacing_ms", fun v c => v.word64?.map fun n => { c with pacing := n }⟩,
   ⟨"pause_poll_ms", fun v c => v.word64?.map fun n => { c with pausePoll := n }⟩,
   ⟨"fail_on_device_error", fun v c => v.bool?.map fun b => { c with failOnDeviceError := b }⟩]

/-- The fields of the settings of an update; those of the session are a record
    of their own. -/
def UpdateConfig.schema : Schema UpdateConfig :=
  [⟨"device_name", fun v c => v.text?.map fun s => { c with deviceName := s }⟩,
   ⟨"scan_secs", fun v c => v.word64?.map fun n => { c with scanSecs := n }⟩,
   ⟨"connect_attempts", fun v c => v.word32?.map fun n => { c with connectAttempts := n }⟩,
   ⟨"reboot_wait_secs", fun v c => v.word64?.map fun n => { c with rebootWaitSecs := n }⟩,
   ⟨"session", fun v c =>
     (SessionConfig.schema.readRecord .default v).map fun s => { c with session := s }⟩]

/-- The settings in a text: the defaults, with the fields that the text sets. -/
def UpdateConfig.ofText? (text : List Char) : Option UpdateConfig := do
  UpdateConfig.schema.readRecord .default (← Json.ofText? text)

end AirUpdate
