import Retrace.Text.Lines

/-!
# Class paths

Where classes are looked for: a list of entries, or one text in which the
entries stand between colons; the semicolons of Windows are left out. The
current directory is always among them, since that is where freshly compiled
classes are.
-/

namespace Retrace

/-- A class path as it was given. -/
inductive ClassPath where
  | entries (list : List String)
  | joined (text : String)
  deriving DecidableEq, Repr, Inhabited

namespace ClassPath

/-- Stands between the entries of a joined class path. -/
def separator : Char := ':'

/-- The current directory. -/
def here : String := "."

/-- Entries with a separator between them. -/
def join (list : List String) : String :=
  (String.singleton separator).intercalate list

/-- The argument for a command. The current directory is put in front unless it is an entry. -/
def argument : ClassPath → String
  | .entries list => join (if list.contains here then list else here :: list)
  | .joined text =>
    if (Text.splitOn separator text.toList).contains here.toList then text
    else if text.isEmpty then here
    else here ++ String.singleton separator ++ text

/-- The class path of a trace: the current directory is added at the end of the entries unless it
is one of them, and it is all there is if nothing was given. -/
def effective : Option ClassPath → ClassPath
  | none => .entries [here]
  | some (.entries list) => .entries (if list.contains here then list else list ++ [here])
  | some (.joined text) => .joined text

end ClassPath

end Retrace
