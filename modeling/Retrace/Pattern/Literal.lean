import Retrace.Pattern.Search

/-!
# Patterns from free text

A pattern that matches a given text as it stands. In the written form the
characters that have a meaning of their own follow a backslash.
-/

namespace Retrace.Pattern

/-- The characters with a meaning of their own in the written form of a pattern. -/
def special : List Char :=
  ['\\', '.', '+', '*', '?', '(', ')', '|', '[', ']', '{', '}', '^', '$', '#', '&', '-', '~']

/-- The written form of a text as it stands. -/
def escape (s : List Char) : List Char :=
  s.flatMap fun c => if special.contains c then ['\\', c] else [c]

/-- Exactly this text. -/
def literal (s : String) : Pattern where
  source := String.ofList (escape s.toList)
  expr := .lit s

end Retrace.Pattern
