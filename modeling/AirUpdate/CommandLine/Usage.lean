/-
  Air updates — what a command line asks for.

  A command line names one command, with its options, and may name a settings
  file before or after the command.  A line that asks for nothing of the kind
  is a `UsageError`.
-/
namespace AirUpdate

/-- What the program is asked to do. -/
inductive Command where
  /-- list the devices in range, after so many seconds -/
  | scan (seconds : UInt64)
  /-- read the revision of a device -/
  | revision (device : Option String)
  /-- send the image in a file to a device -/
  | update (device : Option String) (file : String) (verify : Bool)
  deriving DecidableEq, Repr

/-- What a command line asks for. -/
structure Invocation where
  config : Option String
  command : Command
  deriving DecidableEq, Repr

/-- Why a command line asks for nothing to be done. -/
inductive UsageError where
  | help
  | nothingGiven
  /-- it has options, but no command -/
  | missingCommand
  | unknownCommand
  /-- an option that the command does not have, or a word that nothing asks for -/
  | unknownArgument
  /-- an option without its value, or an empty path -/
  | missingValue
  /-- a time that is no number -/
  | invalidValue
  /-- an option that was given before -/
  | repeatedOption
  /-- a value for an option that takes none -/
  | unwantedValue
  /-- an update without its file -/
  | missingFile
  deriving DecidableEq, Repr

namespace UsageError

/-- The exit code: asking for help is no failure. -/
def exitCode : UsageError → Nat
  | help => 0
  | _ => 2

def usage : String :=
  "usage: [-c FILE] scan [-d SECONDS]\n" ++
  "       [-c FILE] revision [-d DEVICE]\n" ++
  "       [-c FILE] update [-d DEVICE] -f FILE [--no-verify]\n"

def message : UsageError → String
  | help => usage
  | nothingGiven => usage
  | missingCommand => "no command given"
  | unknownCommand => "unknown command"
  | unknownArgument => "unexpected argument"
  | missingValue => "an option lacks its value"
  | invalidValue => "the duration is no number of seconds"
  | repeatedOption => "an option is given twice"
  | unwantedValue => "an option takes no value"
  | missingFile => "no firmware file given"

end UsageError

end AirUpdate
