/-
  Air updates — reading command lines.

  A line is read word by word, on two levels: the words before the command,
  and those after it.  A word that starts with a hyphen is an option, also
  where a value is due; `--` ends the options.  A value that is not attached to
  its option stays open until the next option or the end of the level, and is
  checked then (`Given.close`): so of two faults on one level the earlier one
  shows, unless the later one is a word that nothing asks for.  The command's
  own words are read to their end before an open value in front of the command
  is checked.
-/
import AirUpdate.CommandLine.Usage

namespace AirUpdate

namespace CommandLine

inductive Flag where
  | config
  | duration
  | device
  | file
  | noVerify
  | help
  deriving DecidableEq, Repr

/-- The word that starts the words of a command. -/
inductive CommandName where
  | scan
  | revision
  | update
  | help
  deriving DecidableEq, Repr

namespace CommandName

/-- The command that a word names. -/
def ofWord? : String → Option CommandName
  | "scan" => some .scan
  | "revision" => some .revision
  | "update" => some .update
  | "help" => some .help
  | _ => none

end CommandName

namespace Flag

/-- The long name of an option, after two hyphens. -/
def long : Flag → String
  | config => "config"
  | duration => "duration"
  | device => "device"
  | file => "file"
  | noVerify => "no-verify"
  | help => "help"

/-- The letter of an option, after one hyphen. -/
def letter? : Flag → Option Char
  | config => some 'c'
  | duration => some 'd'
  | device => some 'd'
  | file => some 'f'
  | noVerify => none
  | help => some 'h'

def takesValue : Flag → Bool
  | noVerify | help => false
  | config | duration | device | file => true

end Flag

/-- Where a word stands: before the command, or after it. -/
structure Level where
  flags : List Flag
  /-- whether a command is due -/
  wantsCommand : Bool

namespace Level

def top : Level := ⟨[.config, .help], true⟩

def ofCommand : CommandName → Level
  | .scan => ⟨[.duration, .config, .help], false⟩
  | .revision => ⟨[.device, .config, .help], false⟩
  | .update => ⟨[.device, .file, .noVerify, .config, .help], false⟩
  | .help => ⟨[], false⟩

/-- The command that a word names at this level. -/
def command? (l : Level) (word : String) : Option CommandName :=
  if l.wantsCommand then CommandName.ofWord? word else none

/-- The error of a word that nothing asks for. -/
def stray (l : Level) : UsageError :=
  if l.wantsCommand then .unknownCommand else .unknownArgument

end Level

/-- A number of seconds: digits, after a plus sign at most, that fit in a
    word of 64 bits. -/
def secondsOf? (value : String) : Option UInt64 :=
  let digits := match value.toList with
    | '+' :: rest => rest
    | cs => cs
  if digits.isEmpty ∨ ¬ digits.all Char.isDigit then none
  else
    let n := digits.foldl (fun n c => 10 * n + (c.toNat - 48)) 0
    if n < UInt64.size then some (UInt64.ofNat n) else none

/-- Why an option does not take a value. -/
def Flag.refusal? (f : Flag) (value : String) : Option UsageError :=
  match f with
  | config | file => if value = "" then some .missingValue else none
  | duration => if (secondsOf? value).isNone then some .invalidValue else none
  | device | noVerify | help => none

/-- What was given on a level. -/
structure Given where
  /-- the options, with their values; the latest first -/
  values : List (Flag × String)
  /-- an option whose value is due or was not checked yet -/
  isOpen : Option (Flag × Option String)

namespace Given

def nothing : Given := ⟨[], none⟩

def value? (g : Given) (flag : Flag) : Option String := g.values.lookup flag

def wantsValue (g : Given) : Bool :=
  match g.isOpen with
  | some (_, none) => true
  | _ => false

/-- Takes an option with its value. -/
def record (g : Given) (flag : Flag) (value : String) : Except UsageError Given :=
  if (g.value? flag).isSome then .error .repeatedOption
  else
    match flag.refusal? value with
    | some e => .error e
    | none => .ok ⟨(flag, value) :: g.values, none⟩

/-- Checks the value of the option that is open, if one is. -/
def close (g : Given) : Except UsageError Given :=
  match g.isOpen with
  | none => .ok g
  | some (_, none) => .error .missingValue
  | some (flag, some value) => g.record flag value

/-- Takes a word as the value that is due. -/
def fill (g : Given) (word : String) : Given :=
  { g with isOpen := g.isOpen.map fun o => (o.1, some word) }

/-- Takes an option, with the value that is attached to it, if there is one. -/
def take (g : Given) (flag : Flag) (attached : Option String) : Except UsageError Given :=
  if flag.takesValue then do
    let g ← g.close
    match attached with
    | some value => g.record flag value
    | none => pure { g with isOpen := some (flag, none) }
  else if attached.isSome then .error .unwantedValue
  else do
    let g ← g.close
    if flag = .help then .error .help else g.record flag ""

end Given

/-- What a word looks like. -/
inductive Word where
  | long (name : String) (attached : Option String)
  | letter (char : Char) (attached : Option String)
  | plain
  deriving DecidableEq, Repr

/-- What a word looks like; a lone hyphen is no option. -/
def Word.ofString (word : String) : Word :=
  match word.toList with
  | '-' :: '-' :: rest =>
    let name := String.ofList (rest.takeWhile (· ≠ '='))
    match rest.dropWhile (· ≠ '=') with
    | [] => .long name none
    | _ :: value => .long name (some (String.ofList value))
  | '-' :: c :: rest =>
    match rest with
    | [] => .letter c none
    | '=' :: value => .letter c (some (String.ofList value))
    | value => .letter c (some (String.ofList value))
  | _ => .plain

/-- Takes a word that is an option. -/
def Given.takeOption (g : Given) (flag : Option Flag) (attached : Option String) :
    Except UsageError Given :=
  match flag with
  | none => .error .unknownArgument
  | some flag => g.take flag attached

/-- Takes a word that is no command. -/
def Given.takeWord (g : Given) (l : Level) (word : String) : Except UsageError Given :=
  match Word.ofString word with
  | .long name attached => g.takeOption (l.flags.find? fun f => f.long = name) attached
  | .letter c attached =>
    -- What follows a letter without a value does not count: that letter asks for help.
    match l.flags.find? fun f => f.letter? = some c with
    | some .help => g.take .help none
    | flag => g.takeOption flag attached
  | .plain => if g.wantsValue then .ok (g.fill word) else .error l.stray

/-- Reads the words of a level, up to its end or to the name of a command. -/
def readLevel (l : Level) :
    Given → List String → Except UsageError (Given × Option (CommandName × List String))
  | g, [] => .ok (g, none)
  | g, word :: rest =>
    match if g.wantsValue then none else l.command? word with
    | some name => .ok (g, some (name, rest))
    | none =>
      if word = "--" then
        match rest with
        | [] => .ok (g, none)
        | next :: _ => .error (if (l.command? next).isSome then .unknownArgument else l.stray)
      else
        match g.takeWord l word with
        | .ok g => readLevel l g rest
        | .error e => .error e

/-- Reads the words after a command. -/
def readOptions (name : CommandName) (words : List String) : Except UsageError Given := do
  let (g, _) ← readLevel (.ofCommand name) .nothing words
  g.close

/-- The error of asking for help on a command: help, if there is such a command. -/
def helpOn : List String → UsageError
  | [] => .help
  | [word] => if (CommandName.ofWord? word).isSome then .help else .unknownCommand
  | _ => .unknownCommand

/-- How long to scan unless the line says otherwise, in seconds. -/
def defaultScan : UInt64 := 5

/-- Reads a command with the words after it; gives its settings file apart. -/
def readCommand (name : CommandName) (words : List String) :
    Except UsageError (Option String × Command) :=
  match name with
  | .scan => do
    let g ← readOptions .scan words
    pure (g.value? .config, .scan (((g.value? .duration).bind secondsOf?).getD defaultScan))
  | .revision => do
    let g ← readOptions .revision words
    pure (g.value? .config, .revision (g.value? .device))
  | .update => do
    let g ← readOptions .update words
    match g.value? .file with
    | some file =>
      pure (g.value? .config, .update (g.value? .device) file (g.value? .noVerify).isNone)
    | none => throw .missingFile
  | .help => throw (helpOn words)

end CommandLine

/-- What a command line asks for.  Of two settings files, the one after the command counts. -/
def Invocation.ofWords (words : List String) : Except UsageError Invocation := do
  let (g, command) ← CommandLine.readLevel .top .nothing words
  match command with
  | some (name, rest) => do
    let (config, command) ← CommandLine.readCommand name rest
    let g ← g.close
    pure ⟨config <|> g.value? .config, command⟩
  | none => do
    let g ← g.close
    throw (if g.values.isEmpty then .nothingGiven else .missingCommand)

end AirUpdate
