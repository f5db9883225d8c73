import Retrace.Text.Quoted

/-!
# Styled text

Text with colours, as the viewer puts it on the screen, and the colours that it uses.
-/

namespace Retrace.Viewer

/-- A colour of the terminal. -/
inductive Color where
  | black
  /-- Red, green and blue, eight bits each from the highest. -/
  | rgb (code : Nat)
  deriving DecidableEq, Repr

/-- The look of a text; a colour that is not set is the terminal's own or shows what is there. -/
structure Style where
  foreground : Option Color := none
  background : Option Color := none
  bold : Bool := false
  deriving DecidableEq, Repr, Inhabited

/-- Text of one style. -/
structure Span where
  text : String
  style : Style
  deriving DecidableEq, Repr

/-- One line on the screen. -/
abbrev StyledLine := List Span

/-- The text of a line without its styles. -/
def StyledLine.text (line : StyledLine) : String :=
  String.join (line.map (·.text))

namespace Color

/-- The name of a colour. -/
def name : Color → String
  | .black => "black"
  | .rgb code => "#" ++ String.ofList ((Text.hexDigits code).leftpad 6 '0')

end Color

namespace Style

/-- The style of a text that is written where another style was set. -/
def onto (style base : Style) : Style where
  foreground := style.foreground.or base.foreground
  background := style.background.or base.background
  bold := style.bold || base.bold

/-- The style with another background. -/
def on (style : Style) (background : Color) : Style :=
  { style with background := some background }

/-- The two colours, a dash for one that is not set, and the weight. -/
def describe (style : Style) : String :=
  let color (c : Option Color) : String := (c.map Color.name).getD "-"
  color style.foreground ++ " " ++ color style.background ++ if style.bold then " bold" else ""

/-- Plain text of a colour. -/
def plain (color : Color) : Style := { foreground := some color }

/-- Bold text of a colour. -/
def strong (color : Color) : Style := { foreground := some color, bold := true }

end Style

-- ---------------------------------------------------------------------------
-- The colours of the viewer
-- ---------------------------------------------------------------------------

namespace Palette

def ink : Color := .rgb 0xCDD6F4
def blue : Color := .rgb 0x89B4FA
def orange : Color := .rgb 0xFAB387
def grey : Color := .rgb 0x6C7086
def green : Color := .rgb 0xA6E3A1
def red : Color := .rgb 0xF38BA8
def yellow : Color := .rgb 0xF9E2AF
def teal : Color := .rgb 0x94E2D5
def pink : Color := .rgb 0xF5C2E7

/-- Behind the current line and the status bar. -/
def slate : Color := .rgb 0x323246

end Palette

end Retrace.Viewer
