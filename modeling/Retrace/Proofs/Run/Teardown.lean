import Retrace.Proofs.Run.Rounds
import Retrace.Proofs.Session.Custody

/-!
# What a run leaves behind

However a run ends, all its channels are closed, and it is in the directory that it came from. If it
went to another directory, the journal of the site says that the channels were closed there, and that
it went back after that. A run that is refused its directory launches nothing.
-/

namespace Retrace.Trace

open Session

variable {C L α : Type} [Channel C] [Launcher L C]

-- ---------------------------------------------------------------------------
-- The books of a run
-- ---------------------------------------------------------------------------

/-- The books and the accounts of a session are right. -/
structure Kept (start : L) (s : Session C L) : Prop where
  books : s.Books start
  accounted : s.Accounted

section
variable {start : L} {s : Session C L}

theorem kept_fresh (config : Config) (request : Request) (start : L) :
    Kept start (fresh config request start : Session C L) where
  books := books_of_no_channels (fresh config request start) rfl ⟨rfl, rfl⟩
  accounted := (accounted_new request.className config start).congr rfl rfl

theorem Kept.close (h : Kept start s) : Kept start s.close :=
  ⟨h.books.close, h.accounted.close⟩

theorem Kept.setTraceCapacity (h : Kept start s) (capacity : Option Nat) :
    Kept start (s.setTraceCapacity capacity) :=
  ⟨h.books.congr rfl rfl rfl rfl, h.accounted.congr rfl rfl⟩

theorem Kept.step (h : Kept start s) (modifier : StepModifier) (includeLocals : Bool) :
    Kept start (stateAfter (step modifier includeLocals s)) :=
  ⟨h.books.step modifier includeLocals, h.accounted.step modifier includeLocals⟩

theorem Kept.locals (h : Kept start s) : Kept start (stateAfter (locals s)) :=
  ⟨h.books.locals, h.accounted.locals⟩

theorem Kept.allSteps (h : Kept start s) : Kept start (stateAfter (allSteps s)) :=
  allSteps_invariant (fun _ stepped => stepped.step .into true) (h.setTraceCapacity none)

theorem Kept.allValues (h : Kept start s) : Kept start (stateAfter (allValues s)) :=
  allValues_invariant (fun _ stepped => stepped.step .into false) (fun _ looked => looked.locals)
    (h.setTraceCapacity (some keptSteps))

theorem Kept.openSession (h : Kept start s) (request : Request) :
    Kept start (stateAfter (openSession request s)) := by
  have spawned : Kept start (stateAfter (spawn request.args request.feedsStdin s)) :=
    ⟨h.books.spawn .., h.accounted.spawn ..⟩
  apply invariant_bind spawned
  intro _ s₁ later
  cases request.input? with
  | none => exact later
  | some line => exact ⟨later.books.sendTargetLine line, later.accounted.sendTargetLine line⟩

end

-- ---------------------------------------------------------------------------
-- Leaving
-- ---------------------------------------------------------------------------

/-- What a run in a directory leaves of a site. Between the ways there and back it did these deeds;
it was handed some channels, and this is what became of them. -/
structure Left (request : Request) (site after : Site C L) (directory : Place) (deeds : Journal C)
    (issued released : List C) : Prop where
  there : site.destination request.path = .ok directory
  home : after.directory = site.directory
  journal : after.journal = site.journal ++ Site.passage request.path directory C ++ deeds ++
    Site.passage request.path site.directory C
  still : deeds.directories = []
  launched : Issues (launcherAt site directory) issued after.launcher
  /-- Each channel was used and closed once. -/
  retired : List.Forall₂ Retired issued released
  shut : ∀ c ∈ released, Shut c
  /-- They were closed before the way back. -/
  noted : deeds.channels.Perm released
  past : after.past = site.past ++ released

/-- What a run leaves of a site. -/
inductive TornDown (request : Request) (site after : Site C L) : Prop where
  /-- Without the directory nothing happens. -/
  | refused {cause : PathError} (missing : site.destination request.path = .error cause)
      (same : after = site)
  /-- All that was launched is closed, and the way back comes after that. -/
  | left {directory : Place} {deeds : Journal C} {issued released : List C}
      (left : Left request site after directory deeds issued released)

variable {config : Config} {request : Request} {site : Site C L} {body : Talk C L α}

theorem TornDown.directory_eq {after : Site C L} (h : TornDown request site after) :
    after.directory = site.directory := by
  cases h with
  | refused missing same => rw [same]
  | left left => exact left.home

/-- Of a queue of rehearsed processes, those that were handed out are closed. -/
def HandedBack (site after : Site Scripted Rehearsal) : Prop :=
  ∃ issued released, site.launcher.waiting = issued ++ after.launcher.waiting ∧
    after.past = site.past ++ released ∧ released.length = issued.length ∧
    ∀ c ∈ released, c.closed = true

theorem TornDown.handedBack {site after : Site Scripted Rehearsal}
    (h : TornDown request site after) : HandedBack site after := by
  cases h with
  | refused missing same => exact ⟨[], [], by simp [same]⟩
  | @left directory deeds issued released left =>
    exact ⟨issued, released, left.launched.waiting_eq, left.past, left.retired.length_eq.symm,
      fun c mem => (left.shut c mem).closed inferInstance⟩

/-- A body that keeps the books leaves nothing open. -/
theorem tornDown_run
    (keeps : ∀ {start} {s : Session C L}, Kept start s → Kept start (stateAfter (body s))) :
    TornDown request site (stateAfter (run config request body site)) := by
  cases there : site.destination request.path with
  | error cause =>
    rw [run, Site.inDirectory_of_error there]
    exact .refused there rfl
  | ok directory =>
    -- The books are opened with the session and closed with it.
    have opened := (kept_fresh config request (launcherAt site directory)).openSession request
    have worked := invariant_bind (f := fun _ => body) opened fun _ _ later => keeps later
    generalize left : stateAfter ((openSession request >>= fun _ => body)
      (fresh config request (launcherAt site directory))) = s at worked
    have kept : Kept (launcherAt site directory) s.close := worked.close
    obtain ⟨returned, program, debugger, issued, retired, target, held⟩ := kept.books
    obtain rfl := List.forall₂_nil_right_iff.1 target
    obtain rfl := List.forall₂_nil_right_iff.1 held
    rw [List.append_nil, List.append_nil] at issued
    have released : s.close.channels = s.close.retired := by simp [channels, close]
    obtain ⟨compiler, ran⟩ := stateAfter_run there left
    rw [ran]
    exact .left {
      there
      home := Site.directory_goTo_back there (Site.directory_goTo there)
      journal := by simp [Site.afterSession]
      still := kept.accounted.still
      launched := by simpa [Site.afterSession] using issued
      retired
      shut := kept.accounted.shut
      noted := kept.accounted.noted
      past := by simp [Site.afterSession, released] }

theorem tornDown_program (config : Config) (request : Request) (site : Site C L) :
    TornDown request site (stateAfter (program config request site)) :=
  tornDown_run Kept.allSteps

theorem tornDown_variableHistory (config : Config) (request : Request) (unique : Bool)
    (site : Site C L) :
    TornDown request site (stateAfter (variableHistory config request unique site)) := by
  rw [stateAfter_variableHistory]
  exact tornDown_run Kept.allValues

/-- However a trace or a history of variables ends, it ends in the directory in which it began. All
channels that were launched for it, and no others, were closed once; if it went to another directory,
this happened there, and only then it went back. So of a queue of rehearsed processes those that were
handed out are closed after it. -/
theorem traces_torn_down :
    (∀ {C L : Type} [Channel C] [Launcher L C] (config : Config) (request : Request)
      (site : Site C L),
      ((stateAfter (program config request site)).directory = site.directory ∧
        TornDown request site (stateAfter (program config request site))) ∧
      ∀ unique,
        (stateAfter (variableHistory config request unique site)).directory = site.directory ∧
        TornDown request site (stateAfter (variableHistory config request unique site))) ∧
    ∀ (config : Config) (request : Request) (site : Site Scripted Rehearsal),
      HandedBack site (stateAfter (program config request site)) ∧
      ∀ unique, HandedBack site (stateAfter (variableHistory config request unique site)) := by
  refine ⟨fun config request site => ?_, fun config request site => ?_⟩
  · have trace := tornDown_program config request site
    refine ⟨⟨trace.directory_eq, trace⟩, fun unique => ?_⟩
    have history := tornDown_variableHistory config request unique site
    exact ⟨history.directory_eq, history⟩
  · exact ⟨(tornDown_program config request site).handedBack,
      fun unique => (tornDown_variableHistory config request unique site).handedBack⟩

end Retrace.Trace
