/-
  Air updates — the files that a program can read.

  `Files` is a tree of files with a place in it from which the program looks.
  A path is followed name by name (`follow`), from the root if it starts with
  a slash and from that place otherwise: a name has to stand in a directory,
  `.` and an empty name stay where they are, and `..` goes up, as far as the
  root.  Paths and the names on them have a greatest length, in bytes.
-/
import AirUpdate.Error

namespace AirUpdate

/-- What a path leads to. -/
inductive FileNode where
  | file (content : Bytes)
  | directory
  deriving DecidableEq, Repr

structure Files where
  /-- the directory from which the program looks, by the names on the way to it -/
  place : List String
  /-- files and directories, by the names on the way to them -/
  entries : List (List String × FileNode)

namespace Files

/-- The greatest length of a path, in bytes. -/
def maximumPathLength : Nat := 4095

/-- The greatest length of a name, in bytes. -/
def maximumNameLength : Nat := 255

/-- What stands at these names; the directories on the way to an entry are there too. -/
def node? (fs : Files) (names : List String) : Option FileNode :=
  match fs.entries.lookup names with
  | some node => some node
  | none =>
    if names.isPrefixOf fs.place ∨ fs.entries.any (fun e => names.isPrefixOf e.1) then some .directory
    else none

/-- Follows names from `place`, where `node` stands. -/
def follow (fs : Files) (place : List String) (node : FileNode) :
    List String → Except FileError FileNode
  | [] => .ok node
  | name :: rest =>
    match node with
    | .file _ => .error .notADirectory
    | .directory =>
      if name = "" ∨ name = "." then fs.follow place .directory rest
      else if name = ".." then fs.follow place.dropLast .directory rest
      else if maximumNameLength < name.utf8ByteSize then .error .nameTooLong
      else
        match fs.node? (place ++ [name]) with
        | some node => fs.follow (place ++ [name]) node rest
        | none => .error .notFound

/-- What a path leads to. -/
def find (fs : Files) (path : String) : Except FileError FileNode :=
  if path.toList.any (fun c => c.toNat = 0) then .error .nulInName
  else if maximumPathLength < path.utf8ByteSize then .error .nameTooLong
  else if path = "" then .error .notFound
  else if path.startsWith "/" then fs.follow [] .directory (path.splitOn "/")
  else fs.follow fs.place .directory (path.splitOn "/")

/-- Whether a path leads anywhere. -/
def contains (fs : Files) (path : String) : Bool :=
  match fs.find path with
  | .ok _ => true
  | .error _ => false

def read (fs : Files) (path : String) : Except FileError Bytes :=
  match fs.find path with
  | .ok (.file content) => .ok content
  | .ok .directory => .error .isDirectory
  | .error e => .error e

end Files

/-- The path of a name in a directory. -/
def pathIn (directory name : String) : String :=
  if directory = "" then name
  else if directory.endsWith "/" then directory ++ name
  else directory ++ "/" ++ name

end AirUpdate
