import Retrace.Proofs.Session.Call
import Retrace.Run.Trace

/-!
# How a run is put together

A run goes to the directory of its request, compiles there if it is asked to, and does its work with
a session that is new. So what it answers is what the session answers, unless the directory is
refused, and of the site it changes the compiler, the launcher and the channels of the past.
-/

namespace Retrace

/-- Every exchange ends. -/
theorem exists_eq_ending {ε σ α : Type} (r : EStateM.Result ε σ α) :
    ∃ result s, r = ending result s := by
  cases r with
  | ok a s => exact ⟨.ok a, s, rfl⟩
  | error e s => exact ⟨.error e, s, rfl⟩

variable {C L α : Type} {site : Site C L} {config : Config} {request : Request}

-- ---------------------------------------------------------------------------
-- The directory
-- ---------------------------------------------------------------------------

namespace Site

variable (path : Option String) (directory : Place)

@[simp] theorem launcher_goTo (site : Site C L) :
    (site.goTo path directory).launcher = site.launcher := by
  cases path <;> rfl

@[simp] theorem past_goTo (site : Site C L) : (site.goTo path directory).past = site.past := by
  cases path <;> rfl

/-- What is noted about a way to a directory. -/
def passage (C : Type) : Journal C :=
  (path.map fun _ => .entered directory).toList

@[simp] theorem journal_goTo (site : Site C L) :
    (site.goTo path directory).journal = site.journal ++ passage path directory C := by
  cases path with
  | none => exact (List.append_nil _).symm
  | some name => rfl

variable {path directory}

/-- The way to the directory of a path leads there. -/
theorem directory_goTo (there : site.destination path = .ok directory) :
    (site.goTo path directory).directory = directory := by
  cases path with
  | none => exact Except.ok.inj there
  | some name => rfl

/-- The way back leads home from where nothing else was entered. -/
theorem directory_goTo_back (there : site.destination path = .ok directory) {inside : Site C L}
    (stays : inside.directory = directory) :
    (inside.goTo path site.directory).directory = site.directory := by
  cases path with
  | none => exact stays.trans (Except.ok.inj there).symm
  | some name => rfl

/-- Without the directory nothing is done. -/
theorem inDirectory_of_error {cause : PathError} (missing : site.destination path = .error cause)
    (body : Errand C L α) : inDirectory path body site = .error (.io (.path cause)) site := by
  simp only [inDirectory, missing]

/-- What is done in a directory that exists ends on the way back. -/
theorem inDirectory_of_ok (there : site.destination path = .ok directory) {body : Errand C L α}
    {result : Except SessionError α} {inside : Site C L}
    (ends : body (site.goTo path directory) = ending result inside) :
    inDirectory path body site = ending result (inside.goTo path site.directory) := by
  cases result <;> simp only [inDirectory, there, ends, ending]

end Site

-- ---------------------------------------------------------------------------
-- The session
-- ---------------------------------------------------------------------------

namespace Trace

variable [Channel C] [Launcher L C]

/-- After a start that succeeded only the program of the session is given its line. -/
theorem openSession_of_ok {s s' : Session C L}
    (started : Session.spawn request.args request.feedsStdin s = .ok () s') :
    ∃ target, openSession request s = .ok () { s' with target } ∧
      target.isSome = s'.target.isSome := by
  rw [openSession, bind_of_ok started]
  cases request.input? with
  | none => exact ⟨s'.target, rfl, rfl⟩
  | some line =>
    obtain ⟨success, target, sent, held⟩ := s'.sendTargetLine_eq line
    refine ⟨target, ?_, held⟩
    change EStateM.Result.ok () (s'.sendTargetLine line).2 = _
    rw [sent]

theorem openSession_of_error {s s' : Session C L} {e : SessionError}
    (failed : Session.spawn request.args request.feedsStdin s = .error e s') :
    openSession request s = .error e s' := by
  rw [openSession, bind_of_error failed]

/-- The launcher for the sessions in a directory. -/
def launcherAt (site : Site C L) (directory : Place) : L :=
  Launcher.moveTo directory site.launcher

theorem withSession_ending {session : L → Session C L} {body : Talk C L α}
    {result : Except SessionError α} {s : Session C L}
    (ends : body (session (launcherAt site site.directory)) = ending result s) :
    Site.withSession session body site = ending result (site.afterSession s.close) := by
  rw [launcherAt] at ends
  cases result <;> simp only [Site.withSession, ends, ending]

/-- A visit ends as its session does, and then lets go of the channels of the session. -/
theorem visit_ending {body : Talk C L α} {result : Except SessionError α} {s : Session C L}
    (ends : (openSession request >>= fun _ => body)
      (fresh config request (launcherAt site site.directory)) = ending result s) :
    ∃ compiler, visit config request body site =
      ending result ({ site with compiler }.afterSession s.close) := by
  unfold visit
  cases config.compile with
  | false => exact ⟨site.compiler, withSession_ending ends⟩
  | true =>
    let compiled := site.compiler.compile config request.className request.effectiveClassPath
      (Compiler.sources site.files site.directory)
    refine ⟨compiled.2, ?_⟩
    have first : (Site.compile config request.className request.effectiveClassPath : Errand C L Bool)
        site = .ok compiled.1 { site with compiler := compiled.2 } := rfl
    exact (bind_of_ok first).trans (withSession_ending ends)

/-- A run in a directory that exists ends as its session does, and then goes back. -/
theorem run_ending {directory : Place} (there : site.destination request.path = .ok directory)
    {body : Talk C L α} {result : Except SessionError α} {s : Session C L}
    (ends : (openSession request >>= fun _ => body)
      (fresh config request (launcherAt site directory)) = ending result s) :
    ∃ compiler, run config request body site =
      ending result (({ site.goTo request.path directory with compiler }.afterSession
        s.close).goTo request.path site.directory) := by
  have launcher : launcherAt (site.goTo request.path directory)
      (site.goTo request.path directory).directory = launcherAt site directory := by
    rw [Site.directory_goTo there, launcherAt, launcherAt, Site.launcher_goTo]
  rw [← launcher] at ends
  obtain ⟨compiler, inside⟩ := visit_ending ends
  exact ⟨compiler, Site.inDirectory_of_ok there inside⟩

/-- What a run in a directory that exists leaves of its site is what its session left. -/
theorem stateAfter_run {directory : Place} (there : site.destination request.path = .ok directory)
    {body : Talk C L α} {s : Session C L}
    (left : stateAfter ((openSession request >>= fun _ => body)
      (fresh config request (launcherAt site directory))) = s) :
    ∃ compiler, stateAfter (run config request body site) =
      ({ site.goTo request.path directory with compiler }.afterSession s.close).goTo request.path
        site.directory := by
  obtain ⟨result, s', ends⟩ := exists_eq_ending ((openSession request >>= fun _ => body)
    (fresh config request (launcherAt site directory)))
  rw [ends, stateAfter_ending] at left
  subst left
  obtain ⟨compiler, ran⟩ := run_ending there ends
  exact ⟨compiler, by rw [ran, stateAfter_ending]⟩

/-- A history is made of the values at the end of its run. -/
theorem variableHistory_ending {result : Except SessionError VariableHistory} {site' : Site C L}
    (h : run config request allValues site = ending result site') (unique : Bool) :
    variableHistory config request unique site =
      ending (result.map fun history => if unique then history.unique else history) site' := by
  cases result with
  | ok history => exact bind_of_ok h
  | error e => exact bind_of_error h

/-- To make a history unique changes nothing at the site. -/
theorem stateAfter_variableHistory (config : Config) (request : Request) (unique : Bool)
    (site : Site C L) : stateAfter (variableHistory config request unique site) =
      stateAfter (run config request allValues site) := by
  obtain ⟨result, after, ends⟩ := exists_eq_ending (run config request allValues site)
  rw [variableHistory_ending ends, ends, stateAfter_ending, stateAfter_ending]

end Trace
end Retrace
