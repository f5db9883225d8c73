import Retrace.Config
import Retrace.Debugger.Message
import Retrace.Launch.ClassPath
import Retrace.Launch.Command

/-!
# The commands of a trace

How the debugger, the program and the compiler are started, and how the version
of the debugger is read.
-/

namespace Retrace.Command

/-- The class path, if there is one, and the class. -/
def classArguments (className : String) : Option ClassPath → List String
  | some path => [classPathFlag, path.argument, className]
  | none => [className]

/-- The debugger runs the class. -/
def debugger (config : Config) (className : String) (path : Option ClassPath)
    (args : List String) : Command where
  program := config.jdb
  args := classArguments className path ++ args

/-- The debugger connects to a program that waits for it. -/
def attach (config : Config) (port : UInt16) : Command where
  program := config.jdb
  args := ["-attach", toString port.toNat]

/-- The class runs apart and waits for the debugger. -/
def waiting (config : Config) (className : String) (path : Option ClassPath)
    (args : List String) (port : UInt16) : Command where
  program := config.java
  args :=
    ["-Xdebug",
      "-Xrunjdwp:transport=dt_socket,address=" ++ toString port.toNat ++ ",server=y,suspend=y"] ++
    classArguments className path ++ args

/-- Compiles sources with what the debugger needs to show variables. -/
def compiler (config : Config) (path : ClassPath) (sources : List String) : Command where
  program := config.javac
  args := [classPathFlag, path.argument, "-g"] ++ sources

end Retrace.Command

namespace Retrace

/-- The first word that is a version. -/
def parseVersion? (text : String) : Option String :=
  ((Text.words text.toList).find? Message.versionWord.isMatch).map String.ofList

end Retrace
