import Retrace.Session.Basic
import Retrace.Text.Lines

/-!
# Input for the program

A program that was started apart has a standard input of its own, which the
session can write to. Whether that succeeded is all there is to say.
-/

namespace Retrace.Session

variable {C L : Type} [Channel C]

/-- Writes a line to the program. -/
def sendTargetLine (line : String) (s : Session C L) : Bool × Session C L :=
  match s.target with
  | none => (false, s)
  | some target =>
    match (Channel.send line : Exchange C Unit) target with
    | .ok _ target => (true, { s with target := some target })
    | .error _ target => (false, { s with target := some target })

/-- Writes lines to the program until one fails. -/
def sendTargetLines : List String → Session C L → Bool × Session C L
  | [], s => (true, s)
  | line :: rest, s =>
    match sendTargetLine line s with
    | (true, s) => sendTargetLines rest s
    | (false, s) => (false, s)

/-- Writes the lines of a file to the program. A file that is missing or is not text has none. -/
def sendTargetFile (contents : Option (List UInt8)) (s : Session C L) : Bool × Session C L :=
  if s.target.isNone then (false, s)
  else
    match contents.bind Text.Utf8.decode? with
    | none => (false, s)
    | some text => sendTargetLines ((Text.lines text).map String.ofList) s

end Retrace.Session
