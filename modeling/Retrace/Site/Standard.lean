import Retrace.Site.FileTree

/-!
# Standard files

The directories and the devices that every system of the usual layout has. They are places that a
path can lead to even where nothing was put. What the files hold does not matter: no trace reads
them.
-/

namespace Retrace.FileTree

/-- The directory in which programs are at their start. -/
def home : Place := ["home", "user"]

/-- The directories in which programs are looked for by their names. -/
def searched : List Place :=
  [["usr", "local", "sbin"], ["usr", "local", "bin"], ["usr", "sbin"], ["usr", "bin"], ["sbin"],
    ["bin"]]

/-- The directories of the usual layout. -/
def standardDirectories : List Place :=
  [["bin"], ["boot"], ["dev"], ["dev", "pts"], ["dev", "shm"], ["etc"], home, ["lib"], ["media"],
    ["mnt"], ["opt"], ["proc"], ["root"], ["run"], ["sbin"], ["srv"], ["sys"], ["tmp"],
    ["usr", "bin"], ["usr", "lib"], ["usr", "local", "bin"], ["usr", "local", "lib"],
    ["usr", "local", "sbin"], ["usr", "local", "share"], ["usr", "sbin"], ["usr", "share"],
    ["var", "cache"], ["var", "lib"], ["var", "log"], ["var", "tmp"]]

/-- The devices and tables of the usual layout. None of them can be run. -/
def standardFiles : List Place :=
  [["dev", "full"], ["dev", "null"], ["dev", "random"], ["dev", "tty"], ["dev", "urandom"],
    ["dev", "zero"], ["etc", "group"], ["etc", "hostname"], ["etc", "hosts"], ["etc", "passwd"]]

/-- A system in which nothing was added to the usual layout. -/
def standard : FileTree where
  files := standardFiles.map (·, [])
  directories := standardDirectories

end Retrace.FileTree
