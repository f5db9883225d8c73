import Retrace.Proofs.Run.VariableHistory
import Retrace.Proofs.Run.Visit
import Retrace.Proofs.Session.Launching
import Retrace.Proofs.Session.Unread
import Retrace.Proofs.Trace.History

/-!
# Loops that end

A trace takes one round after another until a round has no result or fails. Nothing in such a loop
counts the rounds. It ends because each round takes output of the debugger, of which there is no
more than its script has; a loop that is bounded by that output is never cut short.
-/

namespace Retrace

namespace Trace

open Session

-- ---------------------------------------------------------------------------
-- Loops without a bound
-- ---------------------------------------------------------------------------

section
variable {C L α β : Type} {round : Talk C L (Option β)}

/-- How a loop of rounds goes that nothing bounds: the results of its rounds, the error of the last
one if there is one, and the session after it. A loop that does not end has no such course. -/
inductive Rounds (round : Talk C L (Option β)) :
    Session C L → List β → Except SessionError Unit → Session C L → Prop where
  | done {s s' : Session C L} (last : round s = .ok none s') : Rounds round s [] (.ok ()) s'
  | failed {s s' : Session C L} {e : SessionError} (last : round s = .error e s') :
    Rounds round s [] (.error e) s'
  | next {s s₁ s' : Session C L} {result : β} {later : List β} {outcome : Except SessionError Unit}
      (first : round s = .ok (some result) s₁) (rest : Rounds round s₁ later outcome s') :
    Rounds round s (result :: later) outcome s'

/-- A loop ends if every round with a result makes something smaller. -/
theorem exists_rounds (size : Session C L → Nat)
    (shrinks : ∀ {s result s'}, round s = .ok (some result) s' → size s' < size s)
    (s : Session C L) :
    ∃ results outcome s', Rounds round s results outcome s' ∧ results.length ≤ size s := by
  induction bound : size s using Nat.strongRecOn generalizing s with
  | ind n ih =>
    cases first : round s with
    | error e s' => exact ⟨[], .error e, s', .failed first, Nat.zero_le n⟩
    | ok answer s' =>
      cases answer with
      | none => exact ⟨[], .ok (), s', .done first, Nat.zero_le n⟩
      | some result =>
        have smaller : size s' < n := bound ▸ shrinks first
        obtain ⟨later, outcome, s'', rest, short⟩ := ih (size s') smaller s' rfl
        refine ⟨result :: later, outcome, s'', .next first rest, ?_⟩
        exact Nat.lt_of_le_of_lt short smaller

/-- What a trace makes of the end of its loop. -/
def concluded (outcome : Except SessionError Unit) (result : Bool → α) : Except SessionError α :=
  match outcome with
  | .ok () => .ok (result false)
  | .error e =>
    match ending? e with
    | some exceptionOccurred => .ok (result exceptionOccurred)
    | none => .error e

theorem endedBy_eq (e : SessionError) (result : Bool → α) (s : Session C L) :
    endedBy e result s = ending (concluded (.error e) result) s := by
  cases known : ending? e <;> simp only [endedBy, concluded, known, ending]

end

-- ---------------------------------------------------------------------------
-- Loops with a bound
-- ---------------------------------------------------------------------------

section
variable {C L : Type} [Channel C] {s s' : Session C L} {outcome : Except SessionError Unit}

theorem stepToEnd_of_step {record : StepRecord}
    (h : Session.step .into true s = .ok (some record) s') (fuel : Nat) :
    stepToEnd (fuel + 1) s = stepToEnd fuel s' := by
  simp only [stepToEnd, h]

theorem stepToEnd_of_none (h : Session.step .into true s = .ok none s') (fuel : Nat) :
    stepToEnd (fuel + 1) s = .ok false s' := by
  simp only [stepToEnd, h]

theorem stepToEnd_of_error {e : SessionError} (h : Session.step .into true s = .error e s')
    (fuel : Nat) : stepToEnd (fuel + 1) s = endedBy e id s' := by
  simp only [stepToEnd, h]

theorem observeToEnd_of_frame {frame : Frame} (h : nextFrame s = .ok (some frame) s') (fuel : Nat)
    (history : VariableHistory) :
    observeToEnd (fuel + 1) history s = observeToEnd fuel (history.observeFrame frame) s' := by
  simp only [observeToEnd, h]

omit [Channel C] in
@[simp] theorem stateAfter_endedBy {α : Type} (e : SessionError) (result : Bool → α)
    (s : Session C L) : stateAfter (endedBy e result s) = s := by
  rw [endedBy_eq, stateAfter_ending]

/-- What every step keeps, a loop of steps keeps, however it ends. -/
theorem stepToEnd_invariant {P : Session C L → Prop}
    (kept : ∀ s, P s → P (stateAfter (Session.step .into true s))) (fuel : Nat) (h : P s) :
    P (stateAfter (stepToEnd fuel s)) := by
  induction fuel generalizing s with
  | zero => exact h
  | succ fuel ih =>
    have later := kept s h
    cases stepped : Session.step .into true s with
    | ok answer s₁ =>
      rw [stepped] at later
      cases answer with
      | some record =>
        rw [stepToEnd_of_step stepped]
        exact ih later
      | none =>
        rw [stepToEnd_of_none stepped]
        exact later
    | error e s₁ =>
      rw [stepped] at later
      rw [stepToEnd_of_error stepped, stateAfter_endedBy]
      exact later

/-- What every look at the variables keeps, a loop of them keeps. -/
theorem observeToEnd_invariant {P : Session C L → Prop}
    (kept : ∀ s, P s → P (stateAfter (nextFrame s))) (fuel : Nat) (history : VariableHistory)
    (h : P s) : P (stateAfter (observeToEnd fuel history s)) := by
  induction fuel generalizing s history with
  | zero => exact h
  | succ fuel ih =>
    have later := kept s h
    cases next : nextFrame s with
    | ok answer s₁ =>
      rw [next] at later
      cases answer with
      | some frame =>
        rw [observeToEnd_of_frame next]
        exact ih _ later
      | none =>
        simp only [observeToEnd, next]
        exact later
    | error e s₁ =>
      rw [next] at later
      simp only [observeToEnd, next, stateAfter_endedBy]
      exact later

theorem nextFrame_invariant {P : Session C L → Prop}
    (step : ∀ s, P s → P (stateAfter (Session.step .into false s)))
    (locals : ∀ s, P s → P (stateAfter (Session.locals s))) (h : P s) :
    P (stateAfter (nextFrame s)) := by
  apply invariant_bind (step s h)
  intro answer s₁ later
  cases answer with
  | none => exact later
  | some record => exact locals s₁ later

/-- What every step keeps, recording all steps keeps. -/
theorem allSteps_invariant {P : Session C L → Prop}
    (step : ∀ s, P s → P (stateAfter (Session.step .into true s)))
    (h : P (s.setTraceCapacity none)) : P (stateAfter (allSteps s)) := by
  have later := stepToEnd_invariant step (rounds (s.setTraceCapacity none)) h
  unfold allSteps
  dsimp only
  cases ends : stepToEnd (rounds (s.setTraceCapacity none)) (s.setTraceCapacity none) with
  | ok exceptionOccurred s₁ =>
    rw [ends] at later
    exact later
  | error e s₁ =>
    rw [ends] at later
    exact later

/-- What every step and every look at the variables keep, recording all values keeps. -/
theorem allValues_invariant {P : Session C L → Prop}
    (step : ∀ s, P s → P (stateAfter (Session.step .into false s)))
    (locals : ∀ s, P s → P (stateAfter (Session.locals s)))
    (h : P (s.setTraceCapacity (some keptSteps))) : P (stateAfter (allValues s)) :=
  observeToEnd_invariant (fun _ => nextFrame_invariant step locals) _ _ h

/-- With enough rounds the bounded loop is the loop without a bound. -/
theorem stepToEnd_of_rounds {records : List StepRecord}
    (h : Rounds (Session.step .into true) s records outcome s') {fuel : Nat}
    (enough : records.length < fuel) :
    stepToEnd fuel s = ending (concluded outcome id) s' := by
  obtain ⟨fuel, rfl⟩ := Nat.exists_eq_add_one_of_ne_zero (Nat.ne_zero_of_lt enough)
  induction h generalizing fuel with
  | done last => exact stepToEnd_of_none last fuel
  | failed last => exact (stepToEnd_of_error last fuel).trans (endedBy_eq _ _ _)
  | next first rest ih =>
    have left := Nat.lt_of_succ_lt_succ enough
    obtain ⟨fuel, rfl⟩ := Nat.exists_eq_add_one_of_ne_zero (Nat.ne_zero_of_lt left)
    exact (stepToEnd_of_step first _).trans (ih fuel left)

/-- With enough rounds all frames are observed. -/
theorem observeToEnd_of_rounds {frames : List Frame} (h : Rounds nextFrame s frames outcome s')
    {fuel : Nat} (enough : frames.length < fuel) (history : VariableHistory)
    (clean : history.exceptionOccurred = false) :
    observeToEnd fuel history s =
      ending (concluded outcome fun exceptionOccurred =>
        { frames.foldl VariableHistory.observeFrame history with exceptionOccurred }) s' := by
  obtain ⟨fuel, rfl⟩ := Nat.exists_eq_add_one_of_ne_zero (Nat.ne_zero_of_lt enough)
  induction h generalizing fuel history with
  | done last =>
    have same : { history with exceptionOccurred := false } = history := by rw [← clean]
    simp only [observeToEnd, last, List.foldl_nil, concluded, same, ending]
  | failed last =>
    simp only [observeToEnd, last]
    exact endedBy_eq _ _ _
  | next first rest ih =>
    have left := Nat.lt_of_succ_lt_succ enough
    obtain ⟨fuel, rfl⟩ := Nat.exists_eq_add_one_of_ne_zero (Nat.ne_zero_of_lt left)
    rw [observeToEnd_of_frame first]
    exact ih _ ((VariableHistory.exceptionOccurred_observeFrame history _).trans clean) fuel left

/-- The records of a loop are in the trace of its session, if that drops none. -/
theorem toList_of_rounds {records : List StepRecord}
    (h : Rounds (Session.step .into true) s records outcome s')
    (unbounded : s.trace.capacity = none) :
    s'.trace.toList = s.trace.toList ++ records := by
  have adds := adds_step (C := C) (L := L) .into true
  induction h with
  | @done s s' last =>
    have same : s'.trace = s.trace := adds.ok last
    rw [same, List.append_nil]
  | failed last => rw [adds.error last, List.append_nil]
  | @next s s₁ s' record later outcome first rest ih =>
    have pushed : s₁.trace = s.trace.push record := adds.ok first
    rw [ih (by rw [pushed]; exact unbounded), pushed, History.toList_push_of_unbounded unbounded,
      List.append_assoc]
    rfl

end

-- ---------------------------------------------------------------------------
-- Rounds with a rehearsed process
-- ---------------------------------------------------------------------------

section
variable {L β : Type} {round : Talk Scripted L (Option β)} {s s' : Session Scripted L}

/-- What every round records, a loop of rounds records. -/
theorem Rounds.exists_records {results : List β} {outcome : Except SessionError Unit}
    (each : ∀ s, ∃ records, Records s records (stateAfter (round s)))
    (h : Rounds round s results outcome s') : ∃ records, Records s records s' := by
  induction h with
  | @done s s' last =>
    obtain ⟨records, recorded⟩ := each s
    exact ⟨records, by rwa [last] at recorded⟩
  | @failed s s' e last =>
    obtain ⟨records, recorded⟩ := each s
    exact ⟨records, by rwa [last] at recorded⟩
  | @next s s₁ s' result later outcome first rest ih =>
    obtain ⟨records, recorded⟩ := each s
    rw [first] at recorded
    obtain ⟨more, recorded'⟩ := ih
    exact ⟨records ++ more, recorded.trans recorded'⟩

theorem exists_records_nextFrame (s : Session Scripted L) :
    ∃ records, Records s records (stateAfter (nextFrame s)) := by
  obtain ⟨records, recorded⟩ := records_step .into false s
  refine ⟨records, ?_⟩
  rw [nextFrame]
  cases stepped : Session.step .into false s with
  | error e s₁ =>
    rw [stepped] at recorded
    rw [bind_of_error stepped]
    exact recorded
  | ok answer s₁ =>
    rw [stepped] at recorded
    rw [bind_of_ok stepped]
    cases answer with
    | none => exact recorded
    | some record =>
      have both := recorded.trans (records_locals s₁)
      rwa [List.append_nil] at both

theorem unread_lt_of_nextFrame {frame : Frame} (h : nextFrame s = .ok (some frame) s') :
    s'.unread < s.unread := by
  rw [nextFrame] at h
  obtain ⟨answer, s₁, stepped, rest⟩ := bind_eq_ok.1 h
  cases answer with
  | none => exact absurd (EStateM.Result.ok.inj rest).1 (by simp)
  | some record =>
    have asked := unread_locals_le s₁
    rw [show locals s₁ = .ok (some frame) s' from rest] at asked
    exact Nat.lt_of_le_of_lt asked (unread_lt_of_step stepped)

/-- The bound of a loop is what the debugger has still to write. -/
theorem rounds_eq (s : Session Scripted L) : rounds s = s.unread + 1 := by
  unfold rounds unread
  cases s.debugger <;> rfl

/-- All steps of a session are taken, however many there are. -/
theorem exists_allSteps (s : Session Scripted L) :
    ∃ records outcome s',
      Rounds (Session.step .into true) (s.setTraceCapacity none) records outcome s' ∧
      records.length ≤ s.unread ∧
      allSteps s = ending (concluded outcome fun exceptionOccurred =>
        { exceptionOccurred, steps := s.trace.toList ++ records }) s' := by
  obtain ⟨records, outcome, s', course, short⟩ :=
    exists_rounds Session.unread unread_lt_of_step (s.setTraceCapacity none)
  have all : s'.trace.toList = s.trace.toList ++ records := by
    rw [toList_of_rounds course rfl]
    exact congrArg (· ++ records) (History.toList_setCapacity s.trace none)
  refine ⟨records, outcome, s', course, short, ?_⟩
  have loop := stepToEnd_of_rounds course (Nat.lt_add_one_of_le short)
  rw [← rounds_eq] at loop
  simp only [allSteps, loop]
  cases outcome with
  | ok a => simp only [concluded, ending, all, id]
  | error e =>
    cases known : ending? e <;> simp only [concluded, ending, known, all, id]

/-- The frames of all steps are observed, however many there are. -/
theorem exists_allValues (s : Session Scripted L) :
    ∃ frames outcome s', Rounds nextFrame (s.setTraceCapacity (some keptSteps)) frames outcome s' ∧
      frames.length ≤ s.unread ∧
      allValues s = ending (concluded outcome fun exceptionOccurred =>
        { frames.foldl VariableHistory.observeFrame {} with exceptionOccurred }) s' := by
  obtain ⟨frames, outcome, s', course, short⟩ :=
    exists_rounds Session.unread unread_lt_of_nextFrame (s.setTraceCapacity (some keptSteps))
  refine ⟨frames, outcome, s', course, short, ?_⟩
  have loop := observeToEnd_of_rounds course (Nat.lt_add_one_of_le short) {} rfl
  rw [← rounds_eq] at loop
  exact loop

end

-- ---------------------------------------------------------------------------
-- Whole runs
-- ---------------------------------------------------------------------------

/-- The debugger is the first process that is launched, or the second one beside a program of its
own. -/
theorem waiting_of_launching {s s' : Session Scripted Rehearsal} {args : List String} {apart : Bool}
    (h : Launching s args apart (.ok () s')) :
    ∃ c, s.launcher.waiting[apart.toNat]? = some c ∧ s'.debugger = some c := by
  cases h with
  | @direct debugger launcher launched =>
    refine ⟨debugger, ?_, rfl⟩
    rw [Rehearsal.waiting_of_launch launched]
    rfl
  | @apart target listener debugger between launcher found launched listens attached =>
    refine ⟨debugger, ?_, rfl⟩
    rw [Rehearsal.waiting_of_launch launched, Rehearsal.waiting_of_launch attached]
    rfl

/-- A session that was opened has a debugger with no more output to come than at its launch, and an
empty trace. -/
theorem exists_debugger_of_openSession {request : Request} {s s' : Session Scripted Rehearsal}
    (h : openSession request s = .ok () s') :
    ∃ c, s.launcher.waiting[request.feedsStdin.toNat]? = some c ∧ s'.unread ≤ c.unread ∧
      s'.trace.toList = [] := by
  rcases spawn_cases request.args request.feedsStdin s with
    ⟨e, s₁, -, failed⟩ | ⟨s₁, debugger, launched, -, ⟨prepared, started⟩ | ⟨e, -, failed⟩⟩
  · rw [openSession_of_error failed] at h
    cases h
  · obtain ⟨target, ends, -⟩ := openSession_of_ok started
    rw [ends] at h
    obtain ⟨-, rfl⟩ := EStateM.Result.ok.inj h
    obtain ⟨c, place, held⟩ := waiting_of_launching launched
    have least := unread_run_le (Dialogue.prepare s₁.breakpointCommand s₁.excludeCommand) s₁
    rw [← Dialogue.run_prepare, prepared] at least
    have launched_unread : s₁.unread = c.unread := by
      rw [unread, held]
      rfl
    exact ⟨c, place, launched_unread ▸ least, History.toList_clear _⟩
  · rw [openSession_of_error failed] at h
    cases h

variable {config : Config} {request : Request} {site : Site Scripted Rehearsal} {directory : Place}
  {s : Session Scripted Rehearsal}

/-- Once the session is open, a run ends as the exchange after that does. -/
theorem run_of_openSession {α : Type} (there : site.destination request.path = .ok directory)
    (opened : openSession request (fresh config request (launcherAt site directory)) = .ok () s)
    {body : Talk Scripted Rehearsal α} {result : Except SessionError α}
    {s' : Session Scripted Rehearsal} (ends : body s = ending result s') :
    ∃ site', run config request body site = ending result site' := by
  obtain ⟨compiler, same⟩ := run_ending there ((bind_of_ok opened).trans ends)
  exact ⟨_, same⟩

/-- Every run ends. Neither a step nor a request for variables adds to what the debugger has still
to write, and a step that is recorded takes some of it. So the loops of both kinds of traces, in
which nothing counts the rounds, come to an end, with no more records than the debugger that was
launched has characters of output, and the trace or the history is what that loop makes it. -/
theorem runs_terminate (config : Config) (request : Request) (site : Site Scripted Rehearsal) :
    (∀ s : Session Scripted Rehearsal, (stateAfter (locals s)).unread ≤ s.unread ∧
      ∀ modifier includeLocals, (stateAfter (step modifier includeLocals s)).unread ≤ s.unread ∧
        ∀ record s', step modifier includeLocals s = .ok (some record) s' → s'.unread < s.unread) ∧
    ∀ directory s, site.destination request.path = .ok directory →
      openSession request (fresh config request (launcherAt site directory)) = .ok () s →
      ∃ c, site.launcher.waiting[request.feedsStdin.toNat]? = some c ∧
        (∃ records outcome s' site',
          Rounds (step .into true) (s.setTraceCapacity none) records outcome s' ∧
          records.length ≤ c.unread ∧
          program config request site = ending (concluded outcome fun exceptionOccurred =>
            { exceptionOccurred, steps := records }) site') ∧
        ∃ frames records outcome s' site',
          Rounds nextFrame (s.setTraceCapacity (some keptSteps)) frames outcome s' ∧
          Records (s.setTraceCapacity (some keptSteps)) records s' ∧ records.length ≤ c.unread ∧
          ∀ unique, variableHistory config request unique site =
            ending ((concluded outcome fun exceptionOccurred =>
              { frames.foldl VariableHistory.observeFrame {} with exceptionOccurred }).map
                fun history => if unique then history.unique else history) site' := by
  refine ⟨fun s => ⟨unread_locals_le s, fun modifier includeLocals =>
    ⟨unread_step_le modifier includeLocals s, fun _ _ => unread_lt_of_step⟩⟩, ?_⟩
  intro directory s there opened
  obtain ⟨c, place, least, empty⟩ := exists_debugger_of_openSession opened
  refine ⟨c, place, ?_, ?_⟩
  · obtain ⟨records, outcome, s', course, short, ends⟩ := exists_allSteps s
    rw [empty] at ends
    obtain ⟨site', whole⟩ := run_of_openSession there opened ends
    exact ⟨records, outcome, s', site', course, Nat.le_trans short least, whole⟩
  · obtain ⟨frames, outcome, s', course, -, ends⟩ := exists_allValues s
    obtain ⟨records, recorded⟩ := course.exists_records exists_records_nextFrame
    obtain ⟨site', whole⟩ := run_of_openSession there opened ends
    have few : records.length ≤ s.unread := Nat.le_trans (Nat.le_add_right _ _) recorded.taken
    exact ⟨frames, records, outcome, s', site', course, recorded, Nat.le_trans few least,
      variableHistory_ending whole⟩

/-- A site with a debugger whose script has the answers to one step. -/
def brief : Site Scripted Rehearsal where
  compiler := { program := "javac" }
  launcher := ⟨[terse [
    ⟨"step in", "Step completed: \"thread=main\", Main.main(), line=4 bci=2\r\n" ++
      "4    i++;\r\nmain[1] ", false⟩,
    ⟨"locals", "No local variables\r\nmain[1] ", false⟩,
    ⟨"step in", "\r\nThe application exited\r\n", true⟩]], []⟩

/-- The loop ends after the one step. -/
theorem runs_terminate_brief :
    ∃ s records outcome s',
      openSession { className := "Main" } (fresh { compile := false } { className := "Main" }
        (launcherAt brief [])) = .ok () s ∧
      Rounds (step .into true) (s.setTraceCapacity none) records outcome s' ∧ records.length = 1 := by
  obtain ⟨s, opened⟩ : ∃ s, openSession { className := "Main" } (fresh { compile := false }
      { className := "Main" } (launcherAt brief [])) = .ok () s := ⟨_, rfl⟩
  obtain ⟨-, loops⟩ := runs_terminate { compile := false } { className := "Main" } brief
  obtain ⟨c, -, ⟨records, outcome, s', site', course, -, whole⟩, -⟩ := loops [] s rfl opened
  have steps : (match program { compile := false } { className := "Main" } brief with
      | .ok trace _ => trace.steps.length
      | .error _ _ => 0) = 1 := by decide +kernel
  refine ⟨s, records, outcome, s', opened, course, ?_⟩
  rw [whole] at steps
  cases outcome with
  | ok a => simpa [concluded, ending] using steps
  | error e =>
    cases known : ending? e with
    | none => simp [concluded, known, ending] at steps
    | some exceptionOccurred => simpa [concluded, known, ending] using steps

end Trace
end Retrace
