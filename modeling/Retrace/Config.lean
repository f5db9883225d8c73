import Retrace.Duration
import Retrace.Number.Numeral
import Retrace.Text.Blank
import Retrace.Trace.History

/-!
# Configuration

The programs to run, and the limits and names that a session uses. Variables of
the environment override the defaults; a number that cannot be read is ignored.
-/

namespace Retrace

/-- The settings of sessions and traces. -/
structure Config where
  jdb : String := "jdb"
  java : String := "java"
  javac : String := "javac"
  /-- Where a separately started program waits for the debugger. -/
  port : UInt16 := 8899
  /-- How long to wait for one answer. -/
  timeout : Duration := .ofSeconds 30
  /-- How many records a session keeps outside of a full trace; no limit if there is none. -/
  traceCapacity : Option Nat := some (History.defaultCapacity)
  /-- The method in which the first breakpoint is set. -/
  entryMethod : String := "main"
  /-- Classes to step over, besides those of the standard library. -/
  excluded : List String := []
  /-- Compile before tracing. -/
  compile : Bool := true
  deriving Repr, Inhabited

namespace Config

/-- A port number, with blanks around it. -/
def readPort? (text : String) : Option UInt16 :=
  (Numeral.natBelow? (twoTo 16) (Text.trim text.toList)).map UInt16.ofNat

/-- A number of seconds above zero, with blanks around it. -/
def readTimeout? (text : String) : Option Duration :=
  ((Numeral.binary64? (Text.trim text.toList)).filter Binary64.isPositive).bind Duration.ofBinary64?

/-- Whether the flag against compiling leaves compiling on: it is empty, `0` or `false`. -/
def flagUnset (text : String) : Bool :=
  let word := String.ofList (Text.trim text.toList)
  word = "" || word = "0" || word = "false"

/-- The variables of the environment that are looked up. -/
def environmentNames : List String :=
  ["JDBTRACE_JDB", "JDBTRACE_JAVA", "JDBTRACE_JAVAC", "JDBTRACE_PORT", "JDBTRACE_TIMEOUT_SECS",
   "JDBTRACE_NO_COMPILE"]

/-- The settings with what the environment says in their place. -/
def overlay (config : Config) (lookup : String → Option String) : Config :=
  { config with
    jdb := (lookup "JDBTRACE_JDB").getD config.jdb
    java := (lookup "JDBTRACE_JAVA").getD config.java
    javac := (lookup "JDBTRACE_JAVAC").getD config.javac
    port := ((lookup "JDBTRACE_PORT").bind readPort?).getD config.port
    timeout := ((lookup "JDBTRACE_TIMEOUT_SECS").bind readTimeout?).getD config.timeout
    compile := ((lookup "JDBTRACE_NO_COMPILE").map flagUnset).getD config.compile }

end Config

end Retrace
