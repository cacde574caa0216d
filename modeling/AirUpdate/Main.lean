/-
  Air updates — the program.

  It reads its command line, looks up the files that the line and the
  settings speak of, and runs the command.  There is no radio on this side of
  the air, so a run ends where it needs an adapter.
-/
import AirUpdate.CommandLine.Reader
import AirUpdate.CommandLine.Run

namespace AirUpdate

namespace Program

/-- Looks up what stands on the way of a path, name by name: at `names`, which
    the program knows as `path`. -/
def lookUp : List String → String → List String → IO (List (List String × FileNode))
  | _, _, [] => pure []
  | names, path, name :: rest => do
    let path := path ++ "/" ++ name
    let names :=
      if name = "" ∨ name = "." then names
      else if name = ".." then names.dropLast
      else names ++ [name]
    let found ← (IO.FS.readBinFile path).toBaseIO
    let others ← lookUp names path rest
    match found with
    | .ok content => pure ((names, .file content.toList) :: others)
    | .error (.inappropriateType ..) => pure ((names, .directory) :: others)
    | .error _ => pure others

/-- The files that some paths lead to. -/
def files (paths : List String) : IO Files := do
  let here := (← IO.currentDir).toString
  let place := (here.splitOn "/").filter (· ≠ "")
  let entries ← paths.mapM fun path =>
    if path.startsWith "/" then lookUp [] "" (path.splitOn "/")
    else lookUp place "." (path.splitOn "/")
  pure ⟨place, entries.flatten⟩

/-- The paths that an invocation speaks of. -/
def paths (env : Environment) (invocation : Invocation) : List String :=
  let config := match invocation.config with
    | some path => [path]
    | none => (env.configHome?.map (pathIn · "config.json")).toList
  match invocation.command with
  | .update _ file _ => file :: config
  | _ => config

/-- A bound on the turns of a session. -/
def patience : Nat := 1000000000

/-- The world of a computer without a radio. -/
def world : World Radio RadioAction := .initial UInt64.size (.unused 0 [] [])

/-- Runs an invocation; gives the exit code. -/
def execute (invocation : Invocation) : IO UInt32 := do
  let env : Environment := ⟨← IO.getEnv "FOTA_HOME", ← IO.getEnv "HOME", none⟩
  let fs ← files (paths env invocation)
  match Console.run fs env patience invocation ⟨world, ""⟩ with
  | .ok () c => do
    IO.print c.output
    pure 0
  | .error stop c => do
    IO.print c.output
    match stop with
    | .failed e => IO.eprintln ("Error: " ++ e.message)
    | .cut | .exhausted => IO.eprintln "Error: out of time"
    pure 1

end Program

end AirUpdate

open AirUpdate in
def main (args : List String) : IO UInt32 := do
  match Invocation.ofWords args with
  | .ok invocation => Program.execute invocation
  | .error e => do
    if e = .help then IO.print e.message else IO.eprintln e.message
    pure (UInt32.ofNat e.exitCode)
