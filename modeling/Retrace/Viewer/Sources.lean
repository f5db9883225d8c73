import Retrace.NameMap
import Retrace.Site.FileTree
import Retrace.Text.Utf8

/-!
# Source files

The source text of a class is looked for in the file of its outermost class and read at most once:
what was found, or that nothing was found, is remembered.
-/

namespace Retrace.Viewer

/-- Where sources are read from and what is already known of them. -/
structure Sources where
  /-- The path under which the packages lie. -/
  root : String := ""
  files : FileTree := {}
  /-- The source of each class that was asked for, if it has one. -/
  known : NameMap (Option String) := .empty
  deriving Repr, Inhabited

namespace Sources

/-- A path with a file ending. A path without a file name stays as it is, and slashes at the end
are dropped. -/
def withEnding (path ending : List Char) : List Char :=
  if path.all (· = '/') then path
  else (path.reverse.dropWhile (· = '/')).reverse ++ '.' :: ending

/-- A path below another one; a path that starts with a slash replaces it. -/
def join (root path : List Char) : List Char :=
  if path.head? = some '/' ∨ root = [] then path
  else if root.getLast? = some '/' then root ++ path
  else root ++ '/' :: path

/-- The name of the outermost class that holds a class. -/
def outermost (className : List Char) : List Char :=
  className.takeWhile (· ≠ '$')

/-- The path of the file that should hold a class. -/
def path (sources : Sources) (className : String) : String :=
  let name := (outermost className.toList).map fun c => if c = '.' then '/' else c
  String.ofList (join sources.root.toList (withEnding name "java".toList))

/-- The contents of a file, if it can be read and is text. -/
def read? (sources : Sources) (path : String) : Option String := do
  let place ← (sources.files.find [] path).toOption
  let contents ← sources.files.read? place
  let text ← Text.Utf8.decode? contents
  return String.ofList text

/-- Uses a text for a class instead of a file. -/
def provide (sources : Sources) (className text : String) : Sources :=
  { sources with known := sources.known.insert className (some text) }

/-- The source of a class, and the sources that remember the answer. -/
def lookUp (sources : Sources) (className : String) : Option String × Sources :=
  match sources.known.get? className with
  | some answer => (answer, sources)
  | none =>
    let answer := sources.read? (sources.path className)
    (answer, { sources with known := sources.known.insert className answer })

end Sources

end Retrace.Viewer
