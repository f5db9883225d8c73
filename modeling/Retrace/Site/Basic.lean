import Retrace.Session.Start
import Retrace.Site.Compiler

/-!
# Where traces run

A site has files, a current directory, a compiler and what starts processes. A
trace enters a directory and opens a session there. However it ends, it lets go
of all processes first and goes back to the directory it came from then.
-/

namespace Retrace

/-- Where traces run. -/
structure Site (C L : Type) where
  files : FileTree := {}
  /-- The current directory. -/
  directory : Place := []
  compiler : Compiler
  launcher : L
  /-- The channels of sessions that are over, in the order in which they were opened. -/
  past : List C := []
  /-- What sessions launched and closed, and which directories were entered. -/
  journal : Journal C := []

/-- What is done at a site. -/
abbrev Errand (C L α : Type) := EStateM SessionError (Site C L) α

namespace Site

variable {C L : Type} {α : Type}

/-- The directory of a path, seen from the current directory, which is the one if no path is given. -/
def destination (site : Site C L) : Option String → Except PathError Place
  | none => .ok site.directory
  | some path => site.files.findDirectory site.directory path .notDirectory

/-- Makes a directory the current one, if a path is given. -/
def goTo (path : Option String) (directory : Place) (site : Site C L) : Site C L :=
  match path with
  | none => site
  | some _ => { site with directory, journal := site.journal ++ [.entered directory] }

/-- Goes to a directory, if one is given, and comes back. -/
def inDirectory (path : Option String) (body : Errand C L α) : Errand C L α := fun site =>
  match site.destination path with
  | .error cause => .error (.io (.path cause)) site
  | .ok directory =>
    match body (site.goTo path directory) with
    | .ok a s => .ok a (s.goTo path site.directory)
    | .error e s => .error e (s.goTo path site.directory)

/-- Compiles the sources of the current directory. -/
def compile (config : Config) (className : String) (path : ClassPath) : Errand C L Bool :=
  fun site =>
    let sources := Compiler.sources site.files site.directory
    let (compiled, compiler) := site.compiler.compile config className path sources
    .ok compiled { site with compiler }

/-- The site after a session: its channels belong to the past. -/
def afterSession (site : Site C L) (s : Session C L) : Site C L :=
  { site with
    launcher := s.launcher
    past := site.past ++ s.channels
    journal := site.journal ++ s.journal }

/-- Runs an exchange of a session in the current directory, then lets go of all its channels. The
session is made with what starts processes there. -/
def withSession [Channel C] [Launcher L C] (session : L → Session C L) (body : Talk C L α) :
    Errand C L α := fun site =>
  match body (session (Launcher.moveTo site.directory site.launcher)) with
  | .ok a s => .ok a (site.afterSession s.close)
  | .error e s => .error e (site.afterSession s.close)

end Site

end Retrace
