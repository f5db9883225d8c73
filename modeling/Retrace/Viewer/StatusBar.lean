import Retrace.Viewer.Style

/-!
# Status bar

The last row of the screen: the position in the trace and the last message on the left, the keys
and what is special about the position on the right.
-/

namespace Retrace.Viewer

/-- What the status bar tells. -/
structure Status where
  message : String
  /-- Index of the step on the screen. -/
  position : Nat
  total : Nat
  playing : Bool
  exceptionOccurred : Bool

namespace Status

/-- The style of what is not written. -/
def ground : Style := { background := some Palette.slate }

def words : Style := (Style.plain Palette.ink).on Palette.slate
def rule : Style := (Style.plain Palette.grey).on Palette.slate
def keys : Style := (Style.plain .black).on Palette.grey

/-- Bold black text on a colour. -/
def badge (color : Color) (text : String) : Span :=
  ⟨text, (Style.strong .black).on color⟩

/-- The position and the message. -/
def left (status : Status) : StyledLine :=
  let step := if status.total = 0 then 0 else status.position + 1
  [badge Palette.blue (" Step " ++ toString step ++ "/" ++ toString status.total ++ " "),
    ⟨" | ", rule⟩, ⟨" " ++ status.message ++ " ", words⟩]

/-- What is special about the position, the most important first. -/
def mark? (status : Status) : Option Span :=
  let atEnd := status.total ≤ status.position + 1
  if status.playing then some (badge Palette.orange " ▶ PLAYING ")
  else if atEnd ∧ status.exceptionOccurred then some (badge Palette.red " EXCEPTION ")
  else if atEnd then some (badge Palette.red " END ")
  else if status.position = 0 then some (badge Palette.green " START ")
  else none

/-- The keys and what they do. -/
def legend : List (String × String) :=
  [(" ←/→ ", " step "), (" ⎵ ", " play "), (" ↵ / ⌫ ", " end/start "), (" q ", " quit ")]

/-- The keys and the mark. -/
def right (status : Status) : StyledLine :=
  let separator : Span := ⟨"│", rule⟩
  let entries := legend.map fun (key, effect) => [(⟨key, keys⟩ : Span), ⟨effect, words⟩]
  let marks := status.mark?.toList.map ([·])
  [separator].intercalate (entries ++ marks)

end Status

end Retrace.Viewer
