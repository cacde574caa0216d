/-
  Air updates — writing settings.

  Settings are written as a JSON object with every field, in order and without
  blanks.  In a string, quotes, backslashes and control characters are
  escaped, and nothing else.
-/
import AirUpdate.Bytes
import AirUpdate.Config

namespace AirUpdate

namespace Json

/-- A character inside a string. -/
def escapedChar (c : Char) : List Char :=
  if c = '\x22' then ['\\', '\x22']
  else if c = '\\' then ['\\', '\\']
  else if c = '\x08' then ['\\', 'b']
  else if c = '\t' then ['\\', 't']
  else if c = '\n' then ['\\', 'n']
  else if c = '\x0c' then ['\\', 'f']
  else if c = '\r' then ['\\', 'r']
  else if c.toNat < 0x20 then ['\\', 'u', '0', '0', hexDigit (c.toNat / 16), hexDigit (c.toNat % 16)]
  else [c]

def stringText (s : String) : List Char :=
  '\x22' :: s.toList.flatMap escapedChar ++ ['\x22']

def naturalText (n : Nat) : List Char := Nat.toDigits 10 n

def boolText (b : Bool) : List Char :=
  if b then ['t', 'r', 'u', 'e'] else ['f', 'a', 'l', 's', 'e']

/-- A member of an object: its name and its written value. -/
def memberText (m : String × List Char) : List Char :=
  stringText m.1 ++ ':' :: m.2

/-- An object of written members. -/
def objectText (members : List (String × List Char)) : List Char :=
  '\x7b' :: (List.intercalate [','] (members.map memberText)) ++ ['\x7d']

end Json

/-- The written fields of the settings of a session, in order. -/
def SessionConfig.members (c : SessionConfig) : List (String × List Char) :=
  [("fragment_size", Json.naturalText c.fragmentSize.toNat),
   ("start_timeout_ms", Json.naturalText c.startTimeout.toNat),
   ("start_attempts", Json.naturalText c.startAttempts.toNat),
   ("write_timeout_ms", Json.naturalText c.writeTimeout.toNat),
   ("write_backoff_ms", Json.naturalText c.writeBackoff.toNat),
   ("pacing_ms", Json.naturalText c.pacing.toNat),
   ("pause_poll_ms", Json.naturalText c.pausePoll.toNat),
   ("fail_on_device_error", Json.boolText c.failOnDeviceError)]

/-- The written fields of the settings of an update, in order. -/
def UpdateConfig.members (c : UpdateConfig) : List (String × List Char) :=
  [("device_name", Json.stringText c.deviceName),
   ("scan_secs", Json.naturalText c.scanSecs.toNat),
   ("connect_attempts", Json.naturalText c.connectAttempts.toNat),
   ("reboot_wait_secs", Json.naturalText c.rebootWaitSecs.toNat),
   ("session", Json.objectText c.session.members)]

def UpdateConfig.text (c : UpdateConfig) : String :=
  String.ofList (Json.objectText c.members)

end AirUpdate
