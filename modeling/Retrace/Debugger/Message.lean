import Retrace.Pattern.Literal
import Retrace.Text.Blank
import Retrace.Text.Digit

/-!
# What the debugger writes

Every message of the debugger that the library looks for is described here, so
a release that words its messages differently needs changes in this file only.
Lines end with a carriage return and a line feed.
-/

namespace Retrace.Message

-- ---------------------------------------------------------------------------
-- Sets of characters
-- ---------------------------------------------------------------------------

/-- All characters but these. -/
def but (cs : List Char) (c : Char) : Bool :=
  !cs.contains c

/-- The characters that do not end a line. -/
def inLine : Char → Bool :=
  but ['\r', '\n']

/-- What may stand in the name of a thread at the prompt. -/
def inThread (c : Char) : Bool :=
  !Text.isBlank c && but ['[', ']', '='] c

def blankOrTab (c : Char) : Bool :=
  c = ' ' || c = '\t'

-- ---------------------------------------------------------------------------
-- Fixed texts
-- ---------------------------------------------------------------------------

/-- Announces an exception that nothing in the program catches. -/
def exceptionMarker : String := "Exception occurred:"

/-- Announces that a method has been entered. -/
def methodEnteredMarker : String := "Method entered:"

/-- Starts the list of the arguments of a method. -/
def methodArgumentsHeader : String := "Method arguments:"

-- ---------------------------------------------------------------------------
-- Steps
-- ---------------------------------------------------------------------------

open Retrace.Expr (lit many1 opt firstOf)

/-- The header line that ends a step: a step completion, a method entry or exit, or an exception.

Only a complete line fits. A method entry is either on the line of the step completion or on a
line of its own before it. -/
def stepHeader : Pattern where
  source := r"(Exception occurred:|Method entered: ?\r\nStep completed:|Step completed:|Method entered: |Method exited: [^,\r\n]+, )[^\r\n]+\r\n"
  expr :=
    .group 1 (firstOf (lit "Exception occurred:") [
      lit "Method entered:" ++ opt (lit " ") ++ lit "\r\nStep completed:",
      lit "Step completed:",
      lit "Method entered: ",
      lit "Method exited: " ++ many1 (but [',', '\r', '\n']) ++ lit ", "]) ++
    many1 inLine ++ lit "\r\n"

/-- The place in a header line. The groups are 1 the title, 2 the value a method returns, 3 the
thread, 4 the class and method, 5 the last part of these, 6 the line and 7 the byte code index. -/
def stepLocation : Pattern where
  source := r#"(Step completed:|Method entered:|Method exited: return value = ([^,]+),) "thread=([^"]*)", ([^.]+(\.[^.]+)+\(\)), line=([0-9]+) bci=([0-9]+)"#
  expr :=
    .group 1 (firstOf (lit "Step completed:") [
      lit "Method entered:",
      lit "Method exited: return value = " ++ .group 2 (many1 (but [','])) ++ lit ","]) ++
    lit " \"thread=" ++ .group 3 (.many (but ['"'])) ++ lit "\", " ++
    .group 4 (many1 (but ['.']) ++ .plus (.group 5 (lit "." ++ many1 (but ['.']))) ++ lit "()") ++
    lit ", line=" ++ .group 6 (many1 Char.isDigit) ++ lit " bci=" ++ .group 7 (many1 Char.isDigit)

/-- The source line shown after a step: 1 its number and 2 its text, at the start of a line. -/
def sourceListing : Pattern where
  source := r"(?m)^([0-9]+)[ \t]+([^\r\n]+)"
  expr :=
    .lineStart ++ .group 1 (many1 Char.isDigit) ++ many1 blankOrTab ++ .group 2 (many1 inLine)

-- ---------------------------------------------------------------------------
-- Variables
-- ---------------------------------------------------------------------------

/-- The first answer to a request for the variables of the frame. -/
def localsAnswer : Pattern where
  source := r"(No local variables[^\r\n]*|[^\r\n]*ocal variable information not available[^\r\n]*|Method arguments:)"
  expr :=
    .group 1 (firstOf (lit "No local variables" ++ .many inLine) [
      .many inLine ++ lit "ocal variable information not available" ++ .many inLine,
      lit "Method arguments:"])

/-- Stands between the arguments of a method and its other variables. -/
def localVariablesHeader : Pattern where
  source := r"Local variables:"
  expr := lit "Local variables:"

/-- The prompt of a suspended thread, such as `main[1] `, at the start of a line.

The name of the thread is a single word, so a variable such as `a = instance of int[3] (id=5)` is
not taken for a prompt. -/
def prompt : Pattern where
  source := r"(?m)^[^\s\[\]=]+\[\d+\] "
  expr := .lineStart ++ many1 inThread ++ lit "[" ++ many1 Text.isDigit ++ lit "] "

/-- The answer to a request for the value of a name, up to the next prompt: the name, an equals
sign, and everything up to the last occurrence of the prompt. -/
def dump (name prompt : String) : Pattern where
  source :=
    "(?s)" ++ (Pattern.literal name).source ++ " = .*" ++ (Pattern.literal prompt).source
  expr := lit name ++ lit " = " ++ .many (fun _ => true) ++ lit prompt

-- ---------------------------------------------------------------------------
-- Starting
-- ---------------------------------------------------------------------------

/-- Confirms a breakpoint, before or after the class is loaded. -/
def breakpointSet : Pattern where
  source := r"(Deferring breakpoint|Set breakpoint)[^\r\n]*"
  expr :=
    .group 1 (firstOf (lit "Deferring breakpoint") [lit "Set breakpoint"]) ++ .many inLine

/-- The program has reached a breakpoint. -/
def breakpointHit : Pattern where
  source := r"Breakpoint hit:"
  expr := lit "Breakpoint hit:"

/-- A program that was started apart waits for the debugger at a port. -/
def listening : Pattern where
  source := r"Listening[^:]*: \d+"
  expr := lit "Listening" ++ .many (but [':']) ++ lit ": " ++ many1 Text.isDigit

/-- A word that is a version: one to three numbers with points between them. -/
def versionWord : Pattern where
  source := r"^[0-9]+(\.[0-9]+(\.[0-9]+)?)?$"
  expr :=
    .textStart ++ many1 Char.isDigit ++
    opt (.group 1 (lit "." ++ many1 Char.isDigit ++
      opt (.group 2 (lit "." ++ many1 Char.isDigit)))) ++
    .textEnd

end Retrace.Message
