import Retrace.Text.Blank

/-!
# Lines

A line ends with a line feed, which may follow a carriage return; the last line
may lack its ending. `splitOn` and `joinWith` cut and join text at a character.
-/

namespace Retrace.Text

/-- The pieces of a text between the occurrences of a separator; never empty. -/
def splitOn (sep : Char) : List Char → List (List Char)
  | [] => [[]]
  | c :: rest =>
    if c = sep then
      [] :: splitOn sep rest
    else
      match splitOn sep rest with
      | [] => [[c]]
      | piece :: pieces => (c :: piece) :: pieces

/-- A line without the carriage return before its line feed. -/
def dropReturn (line : List Char) : List Char :=
  if line.getLast? = some '\r' then line.dropLast else line

/-- The lines of a text without their endings. A final line that is empty is no line. -/
def lines (s : List Char) : List (List Char) :=
  let pieces := splitOn '\n' s
  let ended := pieces.dropLast.map dropReturn
  match pieces.getLast? with
  | some [] | none => ended
  | some last => ended ++ [last]

/-- Line endings of two characters become line feeds. -/
def unifyEndings : List Char → List Char
  | [] => []
  | '\r' :: '\n' :: rest => '\n' :: unifyEndings rest
  | c :: rest => c :: unifyEndings rest

/-- The text before the first occurrence of a character and the text after it. -/
def cutAt (sep : Char) : List Char → Option (List Char × List Char)
  | [] => none
  | c :: rest =>
    if c = sep then some ([], rest)
    else (cutAt sep rest).map fun (before, after) => (c :: before, after)

/-- The text before the last occurrence of a character and the text after it. -/
def cutAtLast (sep : Char) (s : List Char) : Option (List Char × List Char) :=
  (cutAt sep s.reverse).map fun (after, before) => (before.reverse, after.reverse)

end Retrace.Text
