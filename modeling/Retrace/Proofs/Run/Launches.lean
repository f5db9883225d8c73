import Retrace.Proofs.Launch.ClassPath
import Retrace.Proofs.Run.Rounds
import Retrace.Proofs.Session.Ordering

/-!
# What a run launches

A run launches its processes when its session is spawned and at no other time:
the debugger, or the program first and then the debugger that connects to it. The
first command has the class path of the request, in which the current directory
is an entry.
-/

namespace Retrace

/-- The commands that a run launches its processes with. -/
def Request.commands (request : Request) (config : Config) : List Command :=
  if request.feedsStdin then
    [.waiting config request.className (some request.effectiveClassPath) request.args config.port,
      .attach config config.port]
  else [.debugger config request.className (some request.effectiveClassPath) request.args]

/-- The first command of a run has the class path of its request. -/
theorem Request.classPathArgument?_of_prefix {request : Request} {config : Config} {first : Command}
    {later : List Command} (launched : first :: later <+: request.commands config) :
    first.classPathArgument? = some request.effectiveClassPath.argument := by
  unfold commands at launched
  split at launched
  · rw [(List.cons_prefix_cons.1 launched).1]
    exact Command.classPathArgument?_waiting ..
  · rw [(List.cons_prefix_cons.1 launched).1]
    exact Command.classPathArgument?_debugger ..

-- ---------------------------------------------------------------------------
-- Logs
-- ---------------------------------------------------------------------------

/-- A log of what a launcher was asked to launch. -/
structure Launcher.Log (L : Type) {C : Type} [Launcher L C] where
  commands : L → List Command
  noted : ∀ (command : Command) (l : L),
    commands (stateAfter (Launcher.launch command l)) = commands l ++ [command]
  /-- To go to another directory launches nothing. -/
  moved : ∀ (place : Place) (l : L), commands (Launcher.moveTo place l) = commands l

theorem Launcher.Log.commands_after {C L : Type} [Launcher L C] (log : Launcher.Log L)
    (commands : List Command) (l : L) :
    log.commands (Launcher.after commands l) = log.commands l ++ commands := by
  induction commands generalizing l with
  | nil => exact (List.append_nil _).symm
  | cons command later ih =>
    rw [Launcher.after, ih, log.noted, List.append_assoc, List.singleton_append]

theorem Rehearsal.launched_launch (command : Command) (r : Rehearsal) :
    (stateAfter (Launcher.launch command r)).launched = r.launched ++ [command] := by
  change (stateAfter (launch command r)).launched = _
  cases waiting : r.waiting <;> simp [launch, waiting, stateAfter]

/-- A rehearsal keeps such a log. -/
def Rehearsal.log : Launcher.Log Rehearsal where
  commands := launched
  noted := launched_launch
  moved _ _ := rfl

-- ---------------------------------------------------------------------------
-- Sessions
-- ---------------------------------------------------------------------------

namespace Session

variable {C L : Type} [Channel C]

theorem launcher_step (modifier : StepModifier) (includeLocals : Bool) (s : Session C L) :
    (stateAfter (step modifier includeLocals s)).launcher = s.launcher := by
  obtain ⟨result, debugger, trace, ends, -⟩ := s.step_ending modifier includeLocals
  rw [ends, stateAfter_ending]

theorem launcher_locals (s : Session C L) : (stateAfter (locals s)).launcher = s.launcher := by
  obtain ⟨result, debugger, ends, -⟩ := Dialogue.locals.whenActive.run_ending s
  rw [locals_eq_run, ends, stateAfter_ending]

end Session

-- ---------------------------------------------------------------------------
-- Runs
-- ---------------------------------------------------------------------------

namespace Trace

open Session

section
variable {C L : Type} [Channel C] (s : Session C L)

theorem launcher_allSteps : (stateAfter (allSteps s)).launcher = s.launcher :=
  allSteps_invariant (P := fun s' => s'.launcher = s.launcher)
    (fun s' same => (launcher_step .into true s').trans same) rfl

theorem launcher_allValues : (stateAfter (allValues s)).launcher = s.launcher :=
  allValues_invariant (P := fun s' => s'.launcher = s.launcher)
    (fun s' same => (launcher_step .into false s').trans same)
    (fun s' same => (launcher_locals s').trans same) rfl

/-- Giving the program its line launches nothing. -/
theorem launcher_openSession [Launcher L C] (request : Request) :
    (stateAfter (openSession request s)).launcher =
      (stateAfter (spawn request.args request.feedsStdin s)).launcher := by
  cases started : spawn request.args request.feedsStdin s with
  | ok a s' =>
    obtain ⟨target, opened, -⟩ := openSession_of_ok started
    rw [opened]
    rfl
  | error e s' =>
    rw [openSession_of_error started]

end

variable {C L α : Type} [Channel C] [Launcher L C] {config : Config} {request : Request}
  {site : Site C L} {body : Talk C L α}

/-- What a run launched from one site to the other. -/
inductive Launched (log : Launcher.Log L) (config : Config) (request : Request)
    (site after : Site C L) : Prop where
  /-- Without the directory nothing is launched. -/
  | refused {cause : PathError} (missing : site.destination request.path = .error cause)
      (silent : log.commands after.launcher = log.commands site.launcher)
  /-- The commands were launched in their order, as far as the run came. The first one has the class
  path of the request. -/
  | launched {directory : Place} {first : Command} {later : List Command}
      (there : site.destination request.path = .ok directory)
      (noted : log.commands after.launcher = log.commands site.launcher ++ first :: later)
      (turn : first :: later <+: request.commands config)
      (finds : first.classPathArgument? = some request.effectiveClassPath.argument)

/-- A body that launches nothing leaves the log as the spawn of its session does. -/
theorem launched_run (log : Launcher.Log L)
    (silent : ∀ s, (stateAfter (body s)).launcher = s.launcher) :
    Launched log config request site (stateAfter (run config request body site)) := by
  cases there : site.destination request.path with
  | error cause =>
    rw [run, Site.inDirectory_of_error there]
    exact .refused there rfl
  | ok directory =>
    let s₀ : Session C L := fresh config request (launcherAt site directory)
    obtain ⟨first, deeds, begun⟩ := begun_of_spawn request.args request.feedsStdin s₀
    have opened := invariant_bind (f := fun _ => body)
      (P := fun s => s.launcher = (stateAfter (openSession request s₀)).launcher) rfl
      fun _ s same => (silent s).trans same
    generalize left : stateAfter ((openSession request >>= fun _ => body) s₀) = s at opened
    obtain ⟨compiler, ran⟩ := stateAfter_run there left
    have noted : log.commands s.launcher = log.commands site.launcher ++ first :: deeds.commands := by
      rw [opened, launcher_openSession, begun.launcher_eq, log.commands_after]
      exact congrArg (· ++ first :: deeds.commands) (log.moved directory site.launcher)
    have turn : first :: deeds.commands <+: request.commands config := begun.turn
    rw [ran]
    refine .launched there ?_ turn (Request.classPathArgument?_of_prefix turn)
    rw [Site.launcher_goTo]
    exact noted

/-- The current directory is an entry of every class path that is handed to a command. The argument
has the entries that were given, in their order, and the current directory in front of them if it is
not one of them, and making an argument of it again changes nothing. The commands for the debugger,
for a program that waits and for the compiler have it as their class path argument, whatever comes
after it. So has the first command that a run launches, with its debugger alone or with a program
that gets input. -/
theorem launches_find_here :
    (∀ path : ClassPath,
      ClassPath.here ∈ ClassPath.cut path.argument ∧
      (ClassPath.joined path.argument).argument = path.argument ∧
      ClassPath.cut path.argument =
        (if ClassPath.here ∈ path.given then path.given
          else ClassPath.here :: path.given).flatMap ClassPath.cut) ∧
    (∀ (config : Config) (className : String) (path : ClassPath) (args : List String),
      (Command.debugger config className (some path) args).classPathArgument? =
        some path.argument ∧
      (∀ port, (Command.waiting config className (some path) args port).classPathArgument? =
        some path.argument) ∧
      ∀ sources, (Command.compiler config path sources).classPathArgument? = some path.argument) ∧
    ∀ {C L : Type} [Channel C] [Launcher L C] (log : Launcher.Log L) (config : Config)
      (request : Request) (site : Site C L),
      Launched log config request site (stateAfter (program config request site)) ∧
      ∀ unique, Launched log config request site
        (stateAfter (variableHistory config request unique site)) := by
  refine ⟨fun path => ⟨path.here_mem_cut_argument, path.argument_argument, path.cut_argument⟩,
    fun config className path args => ⟨Command.classPathArgument?_debugger .., fun port =>
      Command.classPathArgument?_waiting .., fun sources => Command.classPathArgument?_compiler ..⟩,
    fun log config request site => ⟨launched_run log launcher_allSteps, fun unique => ?_⟩⟩
  rw [stateAfter_variableHistory]
  exact launched_run log launcher_allValues

/-- A class path that ends in a separator, and a program with an argument that looks like the flag. -/
def flagged : Request where
  className := "Main"
  classPath := some (.joined "lib:")
  args := ["-classpath", "x"]

/-- The current directory is put in front, and the argument of the program makes no difference. -/
theorem launches_of_flagged :
    ∃ first later,
      (stateAfter (program { compile := false } flagged brief)).launcher.launched =
        first :: later ∧
      first.classPathArgument? = some ".:lib:" := by
  have noted {after : Site Scripted Rehearsal}
      (h : Launched Rehearsal.log { compile := false } flagged brief after) :
      ∃ first later, after.launcher.launched = first :: later ∧
        first.classPathArgument? = some ".:lib:" := by
    cases h with
    | refused missing => cases missing
    | launched there noted turn finds => exact ⟨_, _, noted, finds⟩
  obtain ⟨-, -, runs⟩ := launches_find_here
  exact noted (runs Rehearsal.log { compile := false } flagged brief).1

end Trace

end Retrace
