import Retrace.Text.Lines

/-!
# Paths

A place is a list of names from the root down. A path is the text that leads there, from the root
if it starts with a slash and from another place if not. A path that leads nowhere is refused for
one of a few reasons, for each of which the operating system has a number, a symbol and a text.
-/

namespace Retrace

/-- A place among the files: names from the root down. -/
abbrev Place := List String

-- ---------------------------------------------------------------------------
-- Ways
-- ---------------------------------------------------------------------------

namespace Path

/-- A path that leads from the root. -/
def isAbsolute (path : String) : Bool :=
  path.toList.head? = some '/'

/-- The place from which a path leads. -/
def start (place : Place) (path : String) : Place :=
  if isAbsolute path then [] else place

/-- What stands between the slashes of a path. -/
def names (path : String) : List String :=
  (Text.splitOn '/' path.toList).map String.ofList

/-- Names with more bytes than this do not exist. -/
def nameLimit : Nat := 255

/-- Paths with this many bytes or more are not followed. -/
def lengthLimit : Nat := 4096

end Path

namespace Place

/-- One step of a path. Nothing and a single point stay, two points go up. -/
def enter (place : Place) (name : String) : Place :=
  if name = "" ∨ name = "." then place
  else if name = ".." then place.dropLast
  else place ++ [name]

/-- The places through which steps lead, with the first and the last one. -/
def through (place : Place) : List String → List Place
  | [] => [place]
  | name :: rest => place :: through (place.enter name) rest

/-- The places on the way of a path, if every name on it exists. -/
def way (place : Place) (path : String) : List Place :=
  through (Path.start place path) (Path.names path)

/-- The place to which a path leads, if every name on it exists. -/
def resolve (place : Place) (path : String) : Place :=
  (Path.names path).foldl enter (Path.start place path)

end Place

-- ---------------------------------------------------------------------------
-- Refusals
-- ---------------------------------------------------------------------------

/-- Why a path is refused. -/
inductive PathError where
  /-- A name on the way does not exist. -/
  | missing
  /-- What is there must not be run. -/
  | denied
  /-- The way leads on from something that is no directory. -/
  | notDirectory
  /-- The path holds the character zero. -/
  | invalid
  /-- The path, or a name in it, is too long. -/
  | tooLong
  deriving DecidableEq, Repr

namespace PathError

/-- The number of a refusal. -/
def code : PathError → Nat
  | .missing => 2
  | .denied => 13
  | .notDirectory => 20
  | .invalid => 22
  | .tooLong => 36

/-- The symbol of a refusal. -/
def symbol : PathError → String
  | .missing => "ENOENT"
  | .denied => "EACCES"
  | .notDirectory => "ENOTDIR"
  | .invalid => "EINVAL"
  | .tooLong => "ENAMETOOLONG"

/-- The text of a refusal. -/
def text : PathError → String
  | .missing => "No such file or directory"
  | .denied => "Permission denied"
  | .notDirectory => "Not a directory"
  | .invalid => "Invalid argument"
  | .tooLong => "File name too long"

/-- The class of a refusal, as a report for developers names it. -/
def kind : PathError → String
  | .missing => "NotFound"
  | .denied => "PermissionDenied"
  | .notDirectory => "NotADirectory"
  | .invalid => "InvalidInput"
  | .tooLong => "InvalidFilename"

/-- A refusal with its text and its number. -/
def message (e : PathError) : String :=
  e.text ++ " (os error " ++ toString e.code ++ ")"

end PathError

end Retrace
