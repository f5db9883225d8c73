import Retrace.Viewer.Basic
import Retrace.Viewer.FrameSummary
import Retrace.Viewer.Screen
import Retrace.Viewer.StatusBar

/-!
# Drawing

The source on the left, the frame on the right, the status bar in the last row. Drawing fixes the
scrolling of both panes to what they can show, and reads the source of the class on the screen.
-/

namespace Retrace.Viewer

/-- What is drawn around a pane. -/
def borderStyle (v : Viewer) (pane : Pane) : Style :=
  if v.focus = pane then .strong Palette.yellow else .plain Palette.grey

/-- The class of the step on the screen. -/
def className? (v : Viewer) : Option String :=
  v.current?.bind (·.event.className?)

/-- The source of the class on the screen, and the viewer that remembers it. -/
def currentSource (v : Viewer) : Option String × Viewer :=
  match v.className? with
  | some name =>
    let (source, sources) := v.sources.lookUp name
    (source, { v with sources })
  | none => (none, v)

/-- What the source pane lists, given the source. -/
def listing (v : Viewer) (source : Option String) : Listing where
  source := source.map fun text => Text.lines text.toList
  line := v.current?.bind (·.event.line)
  instruction := v.current?.bind (·.event.instruction)
  failed := v.exceptionOccurred && v.isAtEnd

/-- The box with the source. -/
def sourceBox (v : Viewer) (height : Nat) : Box × Viewer :=
  let (source, v) := v.currentSource
  let (lines, scroll) := (v.listing source).lines height v.scroll
  let title := " " ++ v.className?.getD "Source" ++ " "
  ({ title, border := v.borderStyle .source, lines }, { v with scroll })

/-- The box with the frame. It does not scroll beyond the last line. -/
def frameBox (v : Viewer) (height : Nat) : Box × Viewer :=
  let lines := frameLines v.current?
  let frameScroll := min v.frameScroll (lines.length - (height - 2))
  ({ title := " Frame ", border := v.borderStyle .frame, lines := lines.drop frameScroll },
    { v with frameScroll })

def status (v : Viewer) : Status where
  message := v.message
  position := v.position
  total := v.steps.size
  playing := v.playing
  exceptionOccurred := v.exceptionOccurred

/-- The two halves of the status bar. -/
def statusRow (v : Viewer) (width : Nat) : Row :=
  let half := width / 2
  Row.ofLine Status.ground half .left v.status.left ++
    Row.ofLine Status.ground (width - half) .right v.status.right

/-- The screen of some size and the viewer after drawing it. -/
def draw (v : Viewer) (width height : Nat) : List Row × Viewer :=
  let sourceWidth := width * 6 / 10
  let (sourceBox, v) := v.sourceBox (height - 1)
  let (frameBox, v) := v.frameBox (height - 1)
  let panes := List.zipWith (· ++ ·) (sourceBox.rows sourceWidth (height - 1))
    (frameBox.rows (width - sourceWidth) (height - 1))
  let rows := (panes ++ [v.statusRow width]).drop (1 - height)
  (rows.map fun row => row.shown, v)

end Retrace.Viewer
