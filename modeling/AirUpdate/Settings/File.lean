/-
  Air updates — where settings come from.

  A settings file that is asked for has to be there and to be readable.  If
  none is asked for, the file `config.json` of the home for settings is read
  if there is one, and otherwise the defaults hold (`resolve`).
-/
import AirUpdate.Files
import AirUpdate.Settings.Reader
import AirUpdate.Text.Utf8

namespace AirUpdate

inductive ConfigError where
  | unreadable (path : String) (cause : FileError)
  /-- the content of the file is no settings -/
  | invalid (path : String)
  deriving DecidableEq, Repr

def ConfigError.message : ConfigError → String
  | .unreadable path cause => "failed to read config file " ++ path ++ ": " ++ cause.message
  | .invalid path => "invalid config file " ++ path

/-- What the program knows of its user. -/
structure Environment where
  /-- the home for settings, if it is set -/
  settingsHome : Option String
  /-- the home of the user, if it is set -/
  userHome : Option String
  /-- the home that the user's account names, if it names one -/
  accountHome : Option String
  deriving DecidableEq, Repr

/-- The home of the user; one that is set to nothing counts as not set. -/
def Environment.home? (e : Environment) : Option String :=
  match e.userHome with
  | some home => if home = "" then e.accountHome else some home
  | none => e.accountHome

/-- The directory with the settings file. -/
def Environment.configHome? (e : Environment) : Option String :=
  match e.settingsHome with
  | some home => some home
  | none => e.home?.map (pathIn · ".fota")

namespace UpdateConfig

/-- The settings in a file. -/
def load (fs : Files) (path : String) : Except ConfigError UpdateConfig :=
  match fs.read path with
  | .error cause => .error (.unreadable path cause)
  | .ok content =>
    match Utf8.decode? content with
    | none => .error (.unreadable path .notText)
    | some text =>
      match ofText? text with
      | some config => .ok config
      | none => .error (.invalid path)

/-- The settings that hold, given the file that the user asks for, if any. -/
def resolve (fs : Files) (env : Environment) : Option String → Except ConfigError UpdateConfig
  | some path => load fs path
  | none =>
    match env.configHome?.map (pathIn · "config.json") with
    | some path => if fs.contains path then load fs path else .ok default
    | none => .ok default

end UpdateConfig

end AirUpdate
