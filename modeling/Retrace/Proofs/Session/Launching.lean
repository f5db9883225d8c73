import Retrace.Proofs.Session.Call

/-!
# How a spawn goes

A spawn lets go of everything, launches its processes and prepares the debugger. The launches have
six ways to end, two of which leave a debugger to prepare; everything that is known of a spawn is
read off these.
-/

namespace Retrace

theorem Rehearsal.waiting_of_launch {command : Command} {r r' : Rehearsal} {c : Scripted}
    (h : Launcher.launch command r = .ok c r') : r.waiting = c :: r'.waiting := by
  change Rehearsal.launch command r = _ at h
  cases queue : r.waiting with
  | nil => simp [Rehearsal.launch, queue] at h
  | cons first others =>
    simp only [Rehearsal.launch, queue] at h
    obtain ⟨rfl, rfl⟩ := EStateM.Result.ok.inj h
    rfl

theorem Rehearsal.waiting_of_failure {command : Command} {r r' : Rehearsal} {e : SessionError}
    (h : Launcher.launch command r = .error e r') : r.waiting = r'.waiting := by
  change Rehearsal.launch command r = _ at h
  cases queue : r.waiting with
  | nil =>
    simp only [Rehearsal.launch, queue] at h
    obtain ⟨-, rfl⟩ := EStateM.Result.error.inj h
    rfl
  | cons first others => simp [Rehearsal.launch, queue] at h

/-- What launches processes, after it was asked to launch these one after another. -/
def Launcher.after {L C : Type} [Launcher L C] : List Command → L → L
  | [], launcher => launcher
  | command :: later, launcher => after later (stateAfter (Launcher.launch command launcher))

namespace Session

variable {C L : Type} [Launcher L C]

omit [Launcher L C] in
/-- The commands that a spawn launches its processes with. -/
def launchCommands (s : Session C L) (args : List String) (apart : Bool) : List Command :=
  if apart then [s.targetCommand args, .attach s.config s.config.port] else [s.launchCommand args]

theorem launch_of_error {command : Command} {s : Session C L} {e : SessionError} {launcher : L}
    (h : Launcher.launch command s.launcher = .error e launcher) :
    (launch command s : EStateM.Result _ _ C) =
      .error e { s with launcher, journal := s.journal ++ [.launched command] } := by
  simp [launch, h]

variable [Channel C]

omit [Launcher L C] in
theorem adopt_of_ok {target listener : C} {s : Session C L} {found : Expectation}
    (listens : Channel.expect Message.listening s.config.timeout target = .ok found listener) :
    adopt target s = .ok () { s with target := some (Channel.discard listener) } := by
  simp [adopt, listens]

omit [Launcher L C] in
theorem adopt_of_error {target target' : C} {s : Session C L} {e : SessionError}
    (silent : Channel.expect Message.listening s.config.timeout target = .error e target') :
    adopt target s = .error e { s with
      retired := s.retired ++ [shut target']
      journal := s.journal ++ [.closed (shut target')] } := by
  simp [adopt, silent]

/-- The ends that the launches for a session can come to. -/
inductive Launching (s : Session C L) (args : List String) :
    Bool → EStateM.Result SessionError (Session C L) Unit → Prop where
  | direct {debugger : C} {launcher : L}
      (launched : Launcher.launch (s.launchCommand args) s.launcher = .ok debugger launcher) :
    Launching s args false (.ok () { s with
      launcher
      debugger := some debugger
      journal := s.journal ++ [.launched (s.launchCommand args)] })
  /-- The debugger could not be launched. -/
  | undone {e : SessionError} {launcher : L}
      (failed : Launcher.launch (s.launchCommand args) s.launcher = .error e launcher) :
    Launching s args false (.error e { s with
      launcher
      journal := s.journal ++ [.launched (s.launchCommand args)] })
  | apart {target listener debugger : C} {between launcher : L} {found : Expectation}
      (launched : Launcher.launch (s.targetCommand args) s.launcher = .ok target between)
      (listens : Channel.expect Message.listening s.config.timeout target = .ok found listener)
      (attached : Launcher.launch (.attach s.config s.config.port) between = .ok debugger launcher) :
    Launching s args true (.ok () { s with
      launcher
      target := some (Channel.discard listener)
      debugger := some debugger
      journal := s.journal ++ [.launched (s.targetCommand args)] ++
        [.launched (.attach s.config s.config.port)] })
  /-- The program listens, and the debugger could not be launched. -/
  | unattached {target listener : C} {between launcher : L} {found : Expectation} {e : SessionError}
      (launched : Launcher.launch (s.targetCommand args) s.launcher = .ok target between)
      (listens : Channel.expect Message.listening s.config.timeout target = .ok found listener)
      (failed : Launcher.launch (.attach s.config s.config.port) between = .error e launcher) :
    Launching s args true (.error e { s with
      launcher
      target := some (Channel.discard listener)
      journal := s.journal ++ [.launched (s.targetCommand args)] ++
        [.launched (.attach s.config s.config.port)] })
  /-- The program does not listen. -/
  | deaf {target target' : C} {launcher : L} {e : SessionError}
      (launched : Launcher.launch (s.targetCommand args) s.launcher = .ok target launcher)
      (silent : Channel.expect Message.listening s.config.timeout target = .error e target') :
    Launching s args true (.error e { s with
      launcher
      retired := s.retired ++ [shut target']
      journal := s.journal ++ [.launched (s.targetCommand args)] ++ [.closed (shut target')] })
  /-- The program could not be launched. -/
  | targetless {e : SessionError} {launcher : L}
      (failed : Launcher.launch (s.targetCommand args) s.launcher = .error e launcher) :
    Launching s args true (.error e { s with
      launcher
      journal := s.journal ++ [.launched (s.targetCommand args)] })

/-- Launching comes to one of its ends. -/
theorem launching (s : Session C L) (args : List String) (apart : Bool) :
    Launching s args apart (launchProcesses args apart s) := by
  cases apart with
  | false =>
    rw [launchProcesses, if_neg (by simp), launchDirect, get_bind]
    cases launched : Launcher.launch (s.launchCommand args) s.launcher with
    | ok debugger launcher =>
      rw [bind_of_ok (launch_eq_ok.2 ⟨_, launched, rfl⟩)]
      exact .direct launched
    | error e launcher =>
      rw [bind_of_error (launch_of_error launched)]
      exact .undone launched
  | true =>
    rw [launchProcesses, if_pos rfl, launchApart, get_bind]
    cases launched : Launcher.launch (s.targetCommand args) s.launcher with
    | error e launcher =>
      rw [bind_of_error (launch_of_error launched)]
      exact .targetless launched
    | ok target between =>
      rw [bind_of_ok (launch_eq_ok.2 ⟨_, launched, rfl⟩)]
      cases answer : (Channel.expect Message.listening s.config.timeout :
          Exchange C Expectation) target with
      | error e target' =>
        rw [bind_of_error (adopt_of_error (s := { s with launcher := between, journal := _ }) answer)]
        exact .deaf launched answer
      | ok found listener =>
        rw [bind_of_ok (adopt_of_ok (s := { s with launcher := between, journal := _ }) answer),
          attach, get_bind]
        cases attached : Launcher.launch (.attach s.config s.config.port) between with
        | ok debugger launcher =>
          rw [bind_of_ok (launch_eq_ok.2 ⟨_, attached, rfl⟩)]
          exact .apart launched answer attached
        | error e launcher =>
          rw [bind_of_error (launch_of_error attached)]
          exact .unattached launched answer attached

/-- What a session did from `s` to `s'`: it launched `first`, and then did these deeds. All that it
launched is the beginning of what a spawn of `s` launches. -/
structure Begun (s s' : Session C L) (args : List String) (apart : Bool) (first : Command)
    (deeds : Journal C) : Prop where
  journal_eq : s'.journal = s.journal ++ .launched first :: deeds
  launcher_eq : s'.launcher = Launcher.after (first :: deeds.commands) s.launcher
  turn : first :: deeds.commands <+: s.launchCommands args apart

section
variable {s s' : Session C L} {args : List String} {apart : Bool} {first : Command}
  {deeds : Journal C}

omit [Channel C] in
theorem Begun.congr (h : Begun s s' args apart first deeds) {s'' : Session C L}
    (journal : s''.journal = s'.journal) (launcher : s''.launcher = s'.launcher) :
    Begun s s'' args apart first deeds where
  journal_eq := journal.trans h.journal_eq
  launcher_eq := launcher.trans h.launcher_eq
  turn := h.turn

/-- To let go of the channels comes after what was done before. -/
theorem Begun.close (h : Begun s s' args apart first deeds) :
    ∃ deeds, Begun s s'.close args apart first deeds := by
  let closed := (s'.debugger.map shut).toList ++ (s'.target.map shut).toList
  have commands : Journal.commands (deeds ++ closed.map .closed) = deeds.commands := by simp
  refine ⟨deeds ++ closed.map .closed, ?_, ?_, ?_⟩
  · change s'.journal ++ closed.map .closed = _
    rw [h.journal_eq, List.append_assoc, List.cons_append]
  · rw [commands]
    exact h.launcher_eq
  · rw [commands]
    exact h.turn

/-- However the launches end, the first one was tried, and none out of turn. -/
theorem Launching.exists_begun {ends : EStateM.Result SessionError (Session C L) Unit}
    (h : Launching s args apart ends) :
    ∃ first deeds, Begun s (stateAfter ends) args apart first deeds := by
  cases h with
  | direct launched =>
    refine ⟨s.launchCommand args, [], rfl, ?_, List.prefix_rfl⟩
    simp [Launcher.after, stateAfter, launched]
  | undone failed =>
    refine ⟨s.launchCommand args, [], rfl, ?_, List.prefix_rfl⟩
    simp [Launcher.after, stateAfter, failed]
  | apart launched listens attached =>
    refine ⟨s.targetCommand args, [.launched (.attach s.config s.config.port)],
      List.append_assoc .., ?_, List.prefix_rfl⟩
    simp [Launcher.after, stateAfter, launched, attached]
  | unattached launched listens failed =>
    refine ⟨s.targetCommand args, [.launched (.attach s.config s.config.port)],
      List.append_assoc .., ?_, List.prefix_rfl⟩
    simp [Launcher.after, stateAfter, launched, failed]
  | @deaf target target' launcher e launched silent =>
    refine ⟨s.targetCommand args, [.closed (shut target')], List.append_assoc .., ?_,
      List.prefix_append [s.targetCommand args] _⟩
    simp [Launcher.after, stateAfter, launched]
  | targetless failed =>
    refine ⟨s.targetCommand args, [], rfl, ?_, List.prefix_append [s.targetCommand args] _⟩
    simp [Launcher.after, stateAfter, failed]

end

/-- A spawn prepares the debugger that its launches leave, and clears the trace then. If the launches
or the preparation fail, it lets go of everything. -/
theorem spawn_cases (args : List String) (apart : Bool) (s : Session C L) :
    (∃ e s₁, Launching s.close args apart (.error e s₁) ∧
      spawn args apart s = .error e s₁.close) ∨
    (∃ s₁ debugger, Launching s.close args apart (.ok () s₁) ∧ debugger.isSome = s₁.debugger.isSome ∧
      ((prepare s₁ = .ok () { s₁ with debugger } ∧
          spawn args apart s = .ok () { s₁ with debugger, trace := s₁.trace.clear }) ∨
        (∃ e, prepare s₁ = .error e { s₁ with debugger } ∧
          spawn args apart s = .error e { s₁ with debugger }.close))) := by
  have ends := launching s.close args apart
  unfold spawn start
  cases launched : launchProcesses args apart s.close with
  | error e s₁ =>
    rw [launched] at ends
    exact .inl ⟨e, s₁, ends, by rw [bind_of_error launched]⟩
  | ok a s₁ =>
    rw [launched] at ends
    obtain ⟨result, debugger, prepared, held⟩ :=
      (Dialogue.prepare s₁.breakpointCommand s₁.excludeCommand).run_ending s₁
    rw [← Dialogue.run_prepare] at prepared
    refine .inr ⟨s₁, debugger, ends, held, ?_⟩
    rw [bind_of_ok launched]
    cases result with
    | ok a =>
      rw [bind_of_ok prepared]
      exact .inl ⟨prepared, rfl⟩
    | error e =>
      rw [bind_of_error prepared]
      exact .inr ⟨e, prepared, rfl⟩

/-- A spawn lets go of everything, and after that it launches its processes in turn. -/
theorem begun_of_spawn (args : List String) (apart : Bool) (s : Session C L) :
    ∃ first deeds, Begun s.close (stateAfter (spawn args apart s)) args apart first deeds := by
  rcases spawn_cases args apart s with
    ⟨e, s₁, launched, same⟩ | ⟨s₁, debugger, launched, -, ⟨-, same⟩ | ⟨e, -, same⟩⟩
  all_goals
    obtain ⟨first, deeds, begun⟩ := launched.exists_begun
    rw [same]
  · exact ⟨first, begun.close⟩
  · exact ⟨first, deeds, begun.congr rfl rfl⟩
  · have later : Begun s.close { s₁ with debugger } args apart first deeds := begun.congr rfl rfl
    exact ⟨first, later.close⟩

/-- A spawn that succeeds has launched its processes, and after that it changed its debugger and
cleared the trace. -/
theorem launched_of_spawn {args : List String} {apart : Bool} {s s' : Session C L}
    (h : spawn args apart s = .ok () s') :
    ∃ s₁ debugger, Launching s.close args apart (.ok () s₁) ∧
      debugger.isSome = s₁.debugger.isSome ∧
      s' = { s₁ with debugger, trace := s₁.trace.clear } := by
  rcases spawn_cases args apart s with
    ⟨e, s₁, -, ends⟩ | ⟨s₁, debugger, launched, held, ⟨-, ends⟩ | ⟨e, -, ends⟩⟩
  · simp [ends] at h
  · rw [ends] at h
    exact ⟨s₁, debugger, launched, held, (EStateM.Result.ok.inj h).2.symm⟩
  · simp [ends] at h

/-- A debugger of few words, which answers the handshake and then the lines of a script. -/
def terse (script : List Reply) : Scripted where
  script := [
    ⟨"stop in Main.main", "Deferring breakpoint Main.main.\r\n", false⟩,
    ⟨"run", "Breakpoint hit: \"thread=main\", Main.main(), line=3 bci=0\r\n", false⟩,
    ⟨"exclude java.*,javax.*,sun.*,com.sun.*,jdk.*", "", false⟩,
    ⟨"trace methods 1", "", false⟩,
    ⟨"locals", "No local variables\r\nmain[1] ", false⟩] ++ script

end Session
end Retrace
