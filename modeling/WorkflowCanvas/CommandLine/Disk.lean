/-! A file system kept in memory: directories and text files below one root, found by paths with slashes
between names. A path that does not start with a slash starts at the working directory. -/
namespace WorkflowCanvas

/-- Why a file or a directory could not be used. -/
inductive DiskFault where
  | notFound | fileExists | notDirectory | isDirectory | nameTooLong
  | other (reason : String)
  deriving DecidableEq, Repr

def DiskFault.message : DiskFault → String
  | .notFound => "No such file or directory (os error 2)"
  | .fileExists => "File exists (os error 17)"
  | .notDirectory => "Not a directory (os error 20)"
  | .isDirectory => "Is a directory (os error 21)"
  | .nameTooLong => "File name too long (os error 36)"
  | .other reason => reason

/-- The names on the way from the root. -/
abbrev Place := List String

inductive Entry where
  | directory
  | file (text : String)
  deriving DecidableEq, Repr

/-- What there is below the root, each place once, and the working directory. -/
structure Disk where
  entries : List (Place × Entry) := []
  home : Place := []
  deriving DecidableEq, Repr

namespace Disk

/-- What stands at a place. The working directory and those on the way to it are always there. -/
def entry? (d : Disk) (place : Place) : Option Entry :=
  if place.isPrefixOf d.home then some .directory else d.entries.lookup place

/-- Put an entry at a place, over what is there. -/
def put (d : Disk) (place : Place) (e : Entry) : Disk :=
  { d with entries := (d.entries.filter (·.1 ≠ place)) ++ [(place, e)] }

/-! Paths -/

def names (path : String) : List String := ((path.split '/').toList.map (·.copy)).filter (· ≠ "")

/-- The longest name, in bytes, and the longest path. -/
def longestName : Nat := 255

def longestPath : Nat := 4095

/-- Follow names from a place. Every name but the last has to lead to a directory. -/
def walk (d : Disk) : Place → List String → Except DiskFault Place
  | here, [] => .ok here
  | here, name :: rest =>
    match d.entry? here with
    | none => .error .notFound
    | some (.file _) => .error .notDirectory
    | some .directory =>
      if name = "." then d.walk here rest
      else if name = ".." then d.walk here.dropLast rest
      else if longestName < name.utf8ByteSize then .error .nameTooLong
      else d.walk (here ++ [name]) rest

/-- Where a path starts. -/
def start (d : Disk) (path : String) : Place := if path.startsWith "/" then [] else d.home

/-- The place of a path. -/
def locate (d : Disk) (path : String) : Except DiskFault Place :=
  if path = "" then .error .notFound
  else if longestPath < path.utf8ByteSize then .error .nameTooLong
  else d.walk (d.start path) (names path)

/-! Files -/

def read (d : Disk) (path : String) : Except DiskFault String := do
  match d.entry? (← d.locate path) with
  | none => throw .notFound
  | some .directory => throw .isDirectory
  | some (.file text) => if path.endsWith "/" then throw .notDirectory else return text

/-- Write a file in a directory that is there. A path with a slash at its end names no file. -/
def write (d : Disk) (path text : String) : Except DiskFault Disk := do
  let place ← d.locate path
  if d.entry? place = some .directory ∨ path.endsWith "/" then throw .isDirectory
  return d.put place (.file text)

/-! Directories -/

/-- Make one directory, where names lead from a place. -/
def makeDir (d : Disk) (here : Place) (names : List String) : Except DiskFault Disk := do
  let place ← d.walk here names
  match d.entry? place with
  | some _ => throw .fileExists
  | none => return d.put place .directory

/-- Whether names lead to a directory. -/
def isDir (d : Disk) (here : Place) (names : List String) : Bool :=
  match d.walk here names with
  | .ok place => d.entry? place == some .directory
  | .error _ => false

/-- Make the first of some directories. If something is missing on the way to it, make the next one
first. -/
def makeFirst (d : Disk) (here : Place) : List (List String) → Except DiskFault Disk
  | [] => .ok d
  | names :: shorter =>
    let make (d : Disk) : Except DiskFault Disk :=
      match d.makeDir here names with
      | .error .fileExists => if d.isDir here names then .ok d else .error .fileExists
      | made => made
    match make d with
    | .error .notFound => d.makeFirst here shorter >>= make
    | made => made

/-- The starts of a list, the longest one first. -/
def starts : List String → List (List String)
  | [] => []
  | name :: rest => (starts rest).map (name :: ·) ++ [[name]]

/-- Make a directory, and those on the way to it that are missing. -/
def makeDirs (d : Disk) (path : String) : Except DiskFault Disk :=
  if longestPath < path.utf8ByteSize then .error .nameTooLong
  else
    let way := (names path).filter (· ≠ ".")
    d.makeFirst (d.start path) (names path :: starts way.dropLast)

/-! Whole disks -/

/-- The files below the working directory, by path. -/
def files (d : Disk) : List (String × String) :=
  d.entries.filterMap fun (place, e) =>
    match e with
    | .file text =>
      if d.home.isPrefixOf place then some ("/".intercalate (place.drop d.home.length), text) else none
    | .directory => none

/-- Put files below the working directory, with the directories on the way to them. -/
def putFiles (d : Disk) (files : List (String × String)) : Disk :=
  files.foldl (fun d (path, text) =>
    match d.makeFirst d.home (starts (names path).dropLast) with
    | .ok made => made.put (made.home ++ names path) (.file text)
    | .error _ => d) d

end Disk
end WorkflowCanvas
