/-!
# Finding a text in another
-/

namespace Retrace.Text

/-- Whether a text occurs in another. -/
def occursIn (needle : List Char) : List Char → Bool
  | [] => needle.isEmpty
  | c :: rest => needle.isPrefixOf (c :: rest) || occursIn needle rest

/-- A text occurs in another exactly if the other one continues it somewhere. -/
theorem occursIn_iff {needle s : List Char} : occursIn needle s = true ↔ needle <:+: s := by
  induction s with
  | nil => simp [occursIn]
  | cons c rest ih =>
    simp only [occursIn, Bool.or_eq_true, List.isPrefixOf_iff_prefix, ih, List.infix_cons_iff]

/-- What follows a text at the start of another. -/
def stripStart? (start s : List Char) : Option (List Char) :=
  if start.isPrefixOf s then some (s.drop start.length) else none

/-- What precedes a text at the end of another. -/
def stripEnd? (ending s : List Char) : Option (List Char) :=
  if ending.isSuffixOf s then some (s.take (s.length - ending.length)) else none

@[simp] theorem stripStart?_append (start rest : List Char) :
    stripStart? start (start ++ rest) = some rest := by
  simp [stripStart?]

@[simp] theorem stripEnd?_append (front ending : List Char) :
    stripEnd? ending (front ++ ending) = some front := by
  simp [stripEnd?]

end Retrace.Text
