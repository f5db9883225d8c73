import Retrace.Site.Path

/-!
# Files

The files that a trace can see. A path is followed name by name, and each step starts from a
directory: also a point, two points or a slash at the end need one. So a way that goes into a name
that does not exist and out again leads nowhere.
-/

namespace Retrace

/-- Files and directories. A directory that holds anything need not be listed itself. -/
structure FileTree where
  /-- The contents of each file. -/
  files : List (Place × List UInt8) := []
  directories : List Place := []
  deriving Repr, Inhabited

namespace FileTree

-- ---------------------------------------------------------------------------
-- What is there
-- ---------------------------------------------------------------------------

/-- Some file or directory lies inside a place. -/
def holds (tree : FileTree) (place : Place) : Bool :=
  let inside (other : Place) : Bool := place.isPrefixOf other && place.length < other.length
  tree.files.any (inside ·.1) || tree.directories.any inside

/-- A place is a directory, as the root always is. -/
def isDirectory (tree : FileTree) (place : Place) : Bool :=
  place.isEmpty || tree.directories.contains place || tree.holds place

/-- A place is a file. -/
def isFile (tree : FileTree) (place : Place) : Bool :=
  tree.files.any (·.1 = place)

/-- The contents of a file. -/
def read? (tree : FileTree) (place : Place) : Option (List UInt8) :=
  (tree.files.find? (·.1 = place)).map (·.2)

/-- The names of the files directly in a directory. -/
def fileNames (tree : FileTree) (directory : Place) : List String :=
  tree.files.filterMap fun (place, _) =>
    if place.dropLast = directory then place.getLast? else none

-- ---------------------------------------------------------------------------
-- Following a path
-- ---------------------------------------------------------------------------

/-- One step of a path. -/
def step (tree : FileTree) (place : Place) (name : String) : Except PathError Place :=
  if !tree.isDirectory place then .error .notDirectory
  else if Path.nameLimit < name.utf8ByteSize then .error .tooLong
  else
    let next := place.enter name
    if tree.isDirectory next || tree.isFile next then .ok next else .error .missing

/-- The file or directory to which a path leads from a place. -/
def find (tree : FileTree) (place : Place) (path : String) : Except PathError Place :=
  if path.toList.contains '\x00' then .error .invalid
  else if path = "" then .error .missing
  else if Path.lengthLimit ≤ path.utf8ByteSize then .error .tooLong
  else (Path.names path).foldlM tree.step (Path.start place path)

/-- The directory to which a path leads. A file is refused for a reason that hangs on what the
directory is wanted for. -/
def findDirectory (tree : FileTree) (place : Place) (path : String) (refusal : PathError) :
    Except PathError Place :=
  match tree.find place path with
  | .ok found => if tree.isDirectory found then .ok found else .error refusal
  | .error e => .error e

-- ---------------------------------------------------------------------------
-- Changes
-- ---------------------------------------------------------------------------

/-- Puts a file in a place. -/
def write (tree : FileTree) (place : Place) (contents : List UInt8) : FileTree :=
  { tree with files := (place, contents) :: tree.files.filter (·.1 ≠ place) }

/-- Takes a file away. -/
def remove (tree : FileTree) (place : Place) : FileTree :=
  { tree with files := tree.files.filter (·.1 ≠ place) }

/-- Adds directories. -/
def withDirectories (tree : FileTree) (places : List Place) : FileTree :=
  { tree with directories := places ++ tree.directories }

/-- Adds the empty file, or, if the path ends with a slash, the directory, to which a path leads
from a place, and the directories on the way. -/
def add (tree : FileTree) (base : Place) (path : String) : FileTree :=
  let way := base.way path
  if path.toList.getLast? = some '/' then tree.withDirectories way
  else (tree.withDirectories way.dropLast).write (base.resolve path) []

end FileTree

end Retrace
