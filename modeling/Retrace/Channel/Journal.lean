import Retrace.Launch.Command
import Retrace.Site.Path

/-!
# Journals

A journal says in which order sessions launched their processes and closed their channels, and
directories were entered. Nothing is decided by it: it holds what would otherwise be lost when the
state changes.
-/

namespace Retrace

/-- What is noted in a journal. -/
inductive Deed (C : Type) where
  /-- A process was to be started. It is noted even if that failed. -/
  | launched (command : Command)
  /-- A channel was closed, and this is what became of it. -/
  | closed (channel : C)
  /-- The current directory was changed to this one. -/
  | entered (directory : Place)

namespace Deed

variable {C : Type}

/-- The command that was launched. -/
def command? : Deed C → Option Command
  | launched command => some command
  | _ => none

/-- The channel that was closed. -/
def channel? : Deed C → Option C
  | closed channel => some channel
  | _ => none

/-- The directory that was entered. -/
def directory? : Deed C → Option Place
  | entered directory => some directory
  | _ => none

end Deed

/-- Deeds, in the order in which they were done. -/
abbrev Journal (C : Type) := List (Deed C)

namespace Journal

variable {C : Type}

/-- The commands that were launched. -/
def commands (journal : Journal C) : List Command :=
  journal.filterMap Deed.command?

/-- The channels that were closed. -/
def channels (journal : Journal C) : List C :=
  journal.filterMap Deed.channel?

/-- The directories that were entered. -/
def directories (journal : Journal C) : List Place :=
  journal.filterMap Deed.directory?

-- ---------------------------------------------------------------------------
-- Parts of a journal
-- ---------------------------------------------------------------------------

variable (first later : Journal C) (cs : List C)

@[simp] theorem commands_nil : commands ([] : Journal C) = [] :=
  rfl

@[simp] theorem commands_launched (command : Command) :
    commands (.launched command :: later) = command :: commands later :=
  rfl

@[simp] theorem commands_closed (c : C) : commands (.closed c :: later) = commands later :=
  rfl

@[simp] theorem commands_append : commands (first ++ later) = commands first ++ commands later :=
  List.filterMap_append

@[simp] theorem channels_append : channels (first ++ later) = channels first ++ channels later :=
  List.filterMap_append

@[simp] theorem directories_append :
    directories (first ++ later) = directories first ++ directories later :=
  List.filterMap_append

@[simp] theorem commands_map_closed : commands (cs.map .closed) = [] := by
  simp [commands, Deed.command?]

@[simp] theorem channels_map_closed : channels (cs.map .closed) = cs := by
  rw [channels, List.filterMap_map]
  exact List.filterMap_some

@[simp] theorem directories_map_closed : directories (cs.map .closed) = [] := by
  simp [directories, Deed.directory?]

end Journal

end Retrace
