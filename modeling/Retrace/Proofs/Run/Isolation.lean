import Retrace.Proofs.Run.Rounds
import Retrace.Proofs.Session.Isolation

/-!
# Traces of programs that get input

A program that gets input is started apart. Its trace depends on what its debugger writes, and on
the program only by the lines that it accepts: what it writes itself makes no difference.
-/

namespace Retrace.Trace

open Session

variable {L α : Type}

-- ---------------------------------------------------------------------------
-- Loops
-- ---------------------------------------------------------------------------

theorem blind_endedBy (e : SessionError) (result : Bool → α) :
    Blind (endedBy e result : Talk Scripted L α) := by
  intro s₁ s₂ h
  unfold endedBy
  cases ending? e with
  | none => exact .error e h
  | some exceptionOccurred => exact .ok _ h

theorem blind_stepToEnd (fuel : Nat) : Blind (stepToEnd fuel : Talk Scripted L Bool) := by
  induction fuel with
  | zero => exact blind_pure false
  | succ fuel ih =>
    intro s₁ s₂ h
    have stepped := blind_step .into true s₁ s₂ h
    unfold stepToEnd
    generalize Session.step .into true s₁ = r₁ at stepped ⊢
    generalize Session.step .into true s₂ = r₂ at stepped ⊢
    cases stepped with
    | ok answer alike =>
      cases answer with
      | some record => exact ih _ _ alike
      | none => exact .ok false alike
    | error e alike => exact blind_endedBy e id _ _ alike

theorem blind_nextFrame : Blind (nextFrame : Talk Scripted L (Option Frame)) := by
  apply (blind_step .into false).bind
  intro answer
  cases answer with
  | none => exact blind_pure none
  | some record => exact blind_locals

theorem blind_observeToEnd (fuel : Nat) (history : VariableHistory) :
    Blind (observeToEnd fuel history : Talk Scripted L VariableHistory) := by
  induction fuel generalizing history with
  | zero => exact blind_pure history
  | succ fuel ih =>
    intro s₁ s₂ h
    have next := blind_nextFrame s₁ s₂ h
    unfold observeToEnd
    generalize nextFrame s₁ = r₁ at next ⊢
    generalize nextFrame s₂ = r₂ at next ⊢
    cases next with
    | ok answer alike =>
      cases answer with
      | some frame => exact ih _ _ _ alike
      | none => exact .ok history alike
    | error e alike => exact blind_endedBy e _ _ _ alike

/-- The bound of a loop does not depend on the program. -/
theorem rounds_eq_of_alike {s₁ s₂ : Session Scripted L} (h : Alike s₁ s₂) :
    rounds s₁ = rounds s₂ := by
  unfold rounds
  rw [h.debugger_eq]

theorem blind_allSteps : Blind (allSteps : Talk Scripted L ProgramTrace) := by
  intro s₁ s₂ h
  have sized := h.update (·.setTraceCapacity none) (fun _ => rfl) fun _ => rfl
  have stepped := blind_stepToEnd (rounds (s₁.setTraceCapacity none)) _ _ sized
  unfold allSteps
  dsimp only
  rw [← rounds_eq_of_alike sized]
  generalize stepToEnd _ (s₁.setTraceCapacity none) = r₁ at stepped ⊢
  generalize stepToEnd _ (s₂.setTraceCapacity none) = r₂ at stepped ⊢
  cases stepped with
  | ok exceptionOccurred alike =>
    dsimp only
    rw [alike.view.trace_eq]
    exact .ok _ alike
  | error e alike => exact .error e alike

theorem blind_allValues : Blind (allValues : Talk Scripted L VariableHistory) := by
  intro s₁ s₂ h
  have sized := h.update (·.setTraceCapacity (some keptSteps)) (fun _ => rfl) fun _ => rfl
  unfold allValues
  dsimp only
  rw [← rounds_eq_of_alike sized]
  exact blind_observeToEnd _ _ _ _ sized

-- ---------------------------------------------------------------------------
-- Runs
-- ---------------------------------------------------------------------------

theorem blind_sendTargetLine (line : String) :
    Blind (modify fun s => (s.sendTargetLine line).2 : Talk Scripted L Unit) :=
  fun _ _ h => .ok () (h.sendTargetLine line).2

/-- Sessions with either of two programs that are alike but for their texts open alike. -/
theorem alikeEnds_openSession {t₁ t₂ : Scripted} (twins : Twins t₁ t₂) {request : Request}
    (feeds : request.feedsStdin = true) (s : Session Scripted Rehearsal) :
    AlikeEnds (openSession request { s with launcher := s.launcher.leading t₁ })
      (openSession request { s with launcher := s.launcher.leading t₂ }) := by
  unfold openSession
  rw [feeds]
  apply (twins.spawn s request.args).bind
  intro _
  cases request.input? with
  | none => exact blind_pure ()
  | some line => exact blind_sendTargetLine line

/-- What was done at a site: the launches, and what was sent to the channels of the past. -/
def traffic (site : Site Scripted Rehearsal) : List Command × List (List String) :=
  (site.launcher.launched, site.past.map (·.sent))

@[simp] theorem traffic_goTo (path : Option String) (directory : Place)
    (site : Site Scripted Rehearsal) : traffic (site.goTo path directory) = traffic site := by
  simp [traffic]

theorem traffic_afterSession (site : Site Scripted Rehearsal) (s : Session Scripted Rehearsal) :
    traffic (site.afterSession s) = (s.launcher.launched, site.past.map (·.sent) ++ s.logs) := by
  simp [traffic, Site.afterSession, logs]

/-- Runs with either of two such programs answer the same. -/
theorem run_of_twins {t₁ t₂ : Scripted} (twins : Twins t₁ t₂) {request : Request}
    (feeds : request.feedsStdin = true) (config : Config) (site : Site Scripted Rehearsal)
    {body : Talk Scripted Rehearsal α} (blind : Blind body) :
    mapState traffic (run config request body { site with launcher := site.launcher.leading t₁ }) =
      mapState traffic
        (run config request body { site with launcher := site.launcher.leading t₂ }) := by
  have anywhere (launcher : Rehearsal) :
      ({ site with launcher }).destination request.path = site.destination request.path := by
    cases request.path <;> rfl
  cases there : site.destination request.path with
  | error cause =>
    rw [run, Site.inDirectory_of_error ((anywhere _).trans there),
      Site.inDirectory_of_error ((anywhere _).trans there)]
    rfl
  | ok directory =>
    have opened := alikeEnds_openSession twins feeds (fresh config request site.launcher)
    obtain ⟨result, s₁, s₂, ends₁, ends₂, alike⟩ :=
      (opened.bind (f := fun _ => body) fun _ => blind).exists_ending
    obtain ⟨compiler₁, run₁⟩ := run_ending ((anywhere (site.launcher.leading t₁)).trans there) ends₁
    obtain ⟨compiler₂, run₂⟩ := run_ending ((anywhere (site.launcher.leading t₂)).trans there) ends₂
    rw [run₁, run₂, mapState_ending, mapState_ending, traffic_goTo, traffic_goTo,
      traffic_afterSession, traffic_afterSession, alike.close.view.logs_eq,
      alike.close.view.launcher_eq, Site.past_goTo, Site.past_goTo]

/-- Nothing depends on what a program that was started apart writes, once it listens. With two such
programs that accept the same lines, and with the same debugger, a session that is spawned and then
asked whatever one likes answers the same and looks the same, and so do the traces and the histories
of a program that gets input. -/
theorem isolated_from_program {t₁ t₂ : Scripted} (twins : Twins t₁ t₂) :
    (∀ (s : Session Scripted Rehearsal) (args : List String) (calls : List (Call Rehearsal)),
      answers (.spawn args true :: calls) { s with launcher := s.launcher.leading t₁ } =
          answers (.spawn args true :: calls) { s with launcher := s.launcher.leading t₂ } ∧
        SameView (after (.spawn args true :: calls) { s with launcher := s.launcher.leading t₁ })
          (after (.spawn args true :: calls) { s with launcher := s.launcher.leading t₂ })) ∧
    ∀ (config : Config) (request : Request) (site : Site Scripted Rehearsal),
      request.feedsStdin = true →
      mapState traffic (program config request { site with launcher := site.launcher.leading t₁ }) =
          mapState traffic
            (program config request { site with launcher := site.launcher.leading t₂ }) ∧
        ∀ unique, mapState traffic (variableHistory config request unique
              { site with launcher := site.launcher.leading t₁ }) =
            mapState traffic (variableHistory config request unique
              { site with launcher := site.launcher.leading t₂ }) := by
  constructor
  · intro s args calls
    obtain ⟨answered, alike⟩ := twins.history s args calls
    exact ⟨answered, alike.view⟩
  · intro config request site feeds
    refine ⟨run_of_twins twins feeds config site blind_allSteps, fun unique => ?_⟩
    have values := run_of_twins twins feeds config site blind_allValues
    obtain ⟨result₁, site₁, ends₁⟩ := exists_eq_ending
      (run config request allValues { site with launcher := site.launcher.leading t₁ })
    obtain ⟨result₂, site₂, ends₂⟩ := exists_eq_ending
      (run config request allValues { site with launcher := site.launcher.leading t₂ })
    rw [ends₁, ends₂, mapState_ending, mapState_ending] at values
    obtain ⟨rfl, same⟩ := ending_inj values
    rw [variableHistory_ending ends₁, variableHistory_ending ends₂, mapState_ending, mapState_ending,
      same]

/-- A program that listens at once and says nothing to its line. -/
def quiet : Scripted where
  buffer := { pending := "Listening for transport dt_socket at address: 8000\r\n".toList }
  script := [⟨"1", "", false⟩]

/-- One that writes before it listens, and prints what looks like a step in answer to its line. -/
def chatty : Scripted where
  buffer := { pending := "Hello!\r\nListening for transport dt_socket at address: 8000\r\n> ".toList }
  script := [⟨"1", "Step completed: \"thread=main\", Main.main(), line=4 bci=2\r\nmain[1] ", false⟩]

/-- The two programs have the same trace, and each of them is sent its line. -/
theorem isolated_from_chatty :
    Twins quiet chatty ∧
      mapState traffic (program { compile := false } { className := "Main", stdin := some "1" }
          { brief with launcher := brief.launcher.leading quiet }) =
        mapState traffic (program { compile := false } { className := "Main", stdin := some "1" }
          { brief with launcher := brief.launcher.leading chatty }) ∧
      (traffic (stateAfter (program { compile := false } { className := "Main", stdin := some "1" }
        { brief with launcher := brief.launcher.leading chatty }))).2.head? = some ["1"] := by
  have twins : Twins quiet chatty :=
    ⟨by decide +kernel, by decide +kernel, rfl, rfl, rfl, rfl⟩
  obtain ⟨-, runs⟩ := isolated_from_program twins
  refine ⟨twins, (runs _ _ brief rfl).1, ?_⟩
  decide +kernel

end Retrace.Trace
