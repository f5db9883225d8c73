import Retrace.Text.Lines
import Retrace.Viewer.Highlight

/-!
# Listing of the source

A window on the lines of a source file that follows the current line: the line stays on one row of
the window as long as the ends of the file allow it. Without the file the text of the current
instruction is shown alone.
-/

namespace Retrace.Viewer

-- ---------------------------------------------------------------------------
-- The window
-- ---------------------------------------------------------------------------

/-- Where the window on a file stands. -/
structure Scroll where
  /-- How many lines lie before the window. -/
  offset : Nat := 0
  /-- The row of the window on which the current line is kept; the middle row at first. -/
  row : Option Nat := none
  deriving DecidableEq, Repr, Inhabited

namespace Scroll

/-- The row for the current line in a window of some lines. -/
def rowIn (scroll : Scroll) (visible : Nat) : Nat :=
  min (scroll.row.getD (visible / 2)) (visible - 1)

/-- The window of `visible` lines moves so that a line of the file, counted from one, is on its row;
it does not leave the file. A line that is not in the file moves nothing. -/
def follow (scroll : Scroll) (visible total line : Nat) : Scroll where
  row := some (scroll.rowIn visible)
  offset :=
    if 1 ≤ line ∧ line ≤ total then
      if visible < total then min (line - 1 - scroll.rowIn visible) (total - visible) else 0
    else scroll.offset

/-- The current line is kept one row lower. -/
def lower (scroll : Scroll) : Scroll :=
  { scroll with row := scroll.row.map (· + 1) }

/-- The current line is kept one row higher. -/
def higher (scroll : Scroll) : Scroll :=
  { scroll with row := scroll.row.map (· - 1) }

end Scroll

/-- The number of lines in a pane: those inside its border, and at least one. -/
def visibleLines (height : Nat) : Nat :=
  max 1 (height - 2)

-- ---------------------------------------------------------------------------
-- The lines
-- ---------------------------------------------------------------------------

/-- What the listing shows. -/
structure Listing where
  /-- The lines of the file, if it was found. -/
  source : Option (List (List Char))
  /-- The number of the current line. -/
  line : Option Nat
  /-- The text of the current instruction. -/
  instruction : Option String
  /-- The program failed at this step. -/
  failed : Bool

namespace Listing

/-- A line number in four columns and a space. -/
def numberText (n : Nat) : String :=
  String.ofList ((toString n).toList.leftpad 4 ' ') ++ " "

/-- One line of the file with its number. -/
def numbered (listing : Listing) (n : Nat) (line : List Char) : StyledLine :=
  if listing.line = some n then
    let numberColor := if listing.failed then Palette.red else Palette.orange
    let background := if listing.failed then Palette.red else Palette.slate
    ⟨numberText n, .strong numberColor⟩ ::
      (highlight line).map fun span => { span with style := span.style.on background }
  else
    ⟨numberText n, .plain Palette.grey⟩ :: highlight line

/-- What is shown without the file. -/
def fallback (listing : Listing) : StyledLine :=
  match listing.line, listing.instruction with
  | some n, some text => ⟨numberText n, .plain Palette.orange⟩ :: highlight text.toList
  | none, some text => highlight text.toList
  | _, none => [⟨"source not available", .plain Palette.grey⟩]

/-- The lines of a pane of some height and where its window then stands. -/
def lines (listing : Listing) (height : Nat) (scroll : Scroll) : List StyledLine × Scroll :=
  match listing.source with
  | none => ([listing.fallback], scroll)
  | some source =>
    let visible := visibleLines height
    let scroll := scroll.follow visible source.length (listing.line.getD 0)
    let window := (source.zipIdx 1).drop scroll.offset |>.take visible
    (window.map fun (line, n) => listing.numbered n line, scroll)

end Listing

end Retrace.Viewer
