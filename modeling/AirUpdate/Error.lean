/-
  Air updates — what can go wrong, and its messages.

  Errors come in three layers: of the radio (`RadioError`), of the link to a
  connected device (`LinkError`) and of the update (`UpdateError`).  Each has
  one `message`.  `UpdateError.failure` is the phase cause that an error
  leaves behind when it ends a session.
-/
import AirUpdate.Phase
import AirUpdate.Uuid
import AirUpdate.Text.Quoted

namespace AirUpdate

inductive RadioError where
  | permissionDenied
  | deviceNotFound
  | notConnected
  | noSuchCharacteristic
  | unexpectedCallback
  | unexpectedCharacteristic
  | notSupported (operation : String)
  | runtime (text : String)
  | other (text : String)
  | timedOut (milliseconds : Nat)
  deriving DecidableEq, Repr

/-- The digits after the decimal point of `n` thousandths, without zeros at the end. -/
def thousandths (n : Nat) : List Char :=
  let digits := ['0', '0', '0'] ++ Nat.toDigits 10 n
  (((digits.drop (digits.length - 3)).reverse.dropWhile (· = '0'))).reverse

/-- The text of a time: whole and fractional seconds from one second on, else
    milliseconds, and no time at all in the smallest unit. -/
def durationText (milliseconds : Nat) : String :=
  if milliseconds = 0 then "0ns"
  else if milliseconds < 1000 then toString milliseconds ++ "ms"
  else
    let fraction := thousandths (milliseconds % 1000)
    toString (milliseconds / 1000)
      ++ (if fraction.isEmpty then "" else "." ++ String.ofList fraction) ++ "s"

def RadioError.message : RadioError → String
  | .permissionDenied => "Permission denied"
  | .deviceNotFound => "Device not found"
  | .notConnected => "Not connected"
  | .noSuchCharacteristic => "No such characteristic"
  | .unexpectedCallback => "Unexpected callback"
  | .unexpectedCharacteristic => "Unexpected characteristic"
  | .notSupported operation => "The operation is not supported: " ++ operation
  | .runtime text => "Runtime Error: " ++ text
  | .other text => text
  | .timedOut milliseconds => "Timed out after " ++ durationText milliseconds

/-- An error of the link to a connected device. -/
inductive LinkError where
  | radio (error : RadioError)
  | characteristicNotFound (uuid : Uuid)
  | notConnected
  deriving DecidableEq, Repr

/-- The message of a link error; the radio's own message stands for itself. -/
def LinkError.message : LinkError → String
  | .radio error => error.message
  | .characteristicNotFound uuid => "characteristic " ++ uuid.text ++ " not found"
  | .notConnected => "device is not connected"

inductive FileError where
  | notFound
  | isDirectory
  | notADirectory
  /-- the path, or a name on it, is longer than a path or a name may be -/
  | nameTooLong
  /-- no file has a NUL in its name -/
  | nulInName
  /-- the content is no text -/
  | notText
  deriving DecidableEq, Repr

def FileError.message : FileError → String
  | .notFound => "No such file or directory (os error 2)"
  | .isDirectory => "Is a directory (os error 21)"
  | .notADirectory => "Not a directory (os error 20)"
  | .nameTooLong => "File name too long (os error 36)"
  | .nulInName => "file name contained an unexpected NUL byte"
  | .notText => "stream did not contain valid UTF-8"

inductive UpdateError where
  | noAdapter
  /-- no device has this name or address -/
  | deviceNotFound (name : String)
  | connectionFailed (address : String) (attempts : Nat)
  /-- START was not answered with XON within that many timeouts -/
  | handshakeTimeout (attempts : Nat)
  | writeTimeout
  | revisionNotFound
  | fileUnreadable (path : String) (cause : FileError)
  /-- the device reported this status while streaming -/
  | deviceStatus (status : Status)
  | invalidPhase (expected actual : Phase)
  | link (error : LinkError)
  deriving DecidableEq, Repr

namespace UpdateError

/-- The message of an update error; the link's own message stands for itself. -/
def message : UpdateError → String
  | noAdapter => "no Bluetooth adapter found"
  | deviceNotFound name => "no device named " ++ Text.quoted name ++ " found"
  | connectionFailed address attempts =>
    "failed to connect to " ++ address ++ " after " ++ toString attempts ++ " attempts"
  | handshakeTimeout attempts =>
    "FOTA session failed to start: no XON after " ++ toString attempts ++ " timeouts"
  | writeTimeout => "binary stream write timed out"
  | revisionNotFound => "firmware revision characteristic not found"
  | fileUnreadable path cause =>
    "could not read firmware image " ++ path ++ ": " ++ cause.message
  | deviceStatus status => "device reported " ++ status.label
  | invalidPhase expected actual =>
    "session is " ++ actual.name ++ ", expected " ++ expected.name
  | link error => error.message

/-- The cause that a session keeps of the error that ended it. -/
def failure : UpdateError → Failure
  | handshakeTimeout _ => .handshakeTimeout
  | deviceStatus status => .deviceStatus status
  | _ => .transport

end UpdateError

end AirUpdate
