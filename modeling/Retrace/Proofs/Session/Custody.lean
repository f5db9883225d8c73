import Mathlib.Data.List.Forall2
import Retrace.Proofs.Session.Ownership

/-!
# What becomes of the channels

Every channel that a launcher hands out is used by the session that asked for it and closed once, at
the end. The books of a session say how far it is with this: of the channels that were handed out,
in this order, some were closed, and the others are held.
-/

namespace Retrace

variable {C L α β : Type} [Channel C]

-- ---------------------------------------------------------------------------
-- One channel
-- ---------------------------------------------------------------------------

/-- A channel after some exchanges, none of which closes it. -/
inductive Used : C → C → Prop where
  | new (c : C) : Used c c
  | sent {c c' : C} (line : String) (earlier : Used c c') :
    Used c (stateAfter ((Channel.send line : Exchange C Unit) c'))
  | heard {c c' : C} (p : Pattern) (limit : Duration) (earlier : Used c c') :
    Used c (stateAfter ((Channel.expect p limit : Exchange C Expectation) c'))
  | discarded {c c' : C} (earlier : Used c c') : Used c (Channel.discard c')

/-- A channel that was used, and then closed once. -/
def Retired (c c' : C) : Prop :=
  ∃ last, Used c last ∧ c' = Session.shut last

/-- A launcher handed out these channels, one after another. -/
inductive Issues [Launcher L C] (start : L) : List C → L → Prop where
  | start : Issues start [] start
  | issued {cs : List C} {l l' : L} {command : Command} {c : C} (earlier : Issues start cs l)
      (launched : Launcher.launch command l = .ok c l') : Issues start (cs ++ [c]) l'
  | refused {cs : List C} {l l' : L} {command : Command} {e : SessionError}
      (earlier : Issues start cs l) (failed : Launcher.launch command l = .error e l') :
    Issues start cs l'

theorem Used.of_expect {c c' c'' : C} {p : Pattern} {limit : Duration} {found : Expectation}
    (earlier : Used c c') (h : (Channel.expect p limit : Exchange C Expectation) c' = .ok found c'') :
    Used c c'' := by
  have later := earlier.heard p limit
  rwa [h] at later

/-- A rehearsal hands out its processes in order. -/
theorem Issues.waiting_eq {r r' : Rehearsal} {issued : List Scripted} (h : Issues r issued r') :
    r.waiting = issued ++ r'.waiting := by
  induction h with
  | start => rfl
  | issued earlier launched ih =>
    rw [ih, Rehearsal.waiting_of_launch launched, List.append_assoc]
    rfl
  | refused earlier failed ih => rw [ih, Rehearsal.waiting_of_failure failed]

namespace Session

-- ---------------------------------------------------------------------------
-- The books
-- ---------------------------------------------------------------------------

variable [Launcher L C] {start : L} {s s' : Session C L}

theorem forall₂_map {C : Type} {R S : C → C → Prop} {f : C → C} {cs : List C} {held : Option C}
    (step : ∀ c c', R c c' → S c (f c')) (h : List.Forall₂ R cs held.toList) :
    List.Forall₂ S cs (held.map f).toList := by
  rw [Option.toList_map, List.forall₂_map_right_iff]
  exact h.imp step

/-- The channels that were handed out since the start are accounted for: those that the session let
go of were closed, and those that it holds are in use. -/
def Books (start : L) (s : Session C L) : Prop :=
  ∃ returned program debugger : List C, Issues start (returned ++ program ++ debugger) s.launcher ∧
    List.Forall₂ Retired returned s.retired ∧ List.Forall₂ Used program s.target.toList ∧
    List.Forall₂ Used debugger s.debugger.toList

/-- The books speak of the launcher and the channels only. -/
theorem Books.congr (h : Books start s) (launcher : s'.launcher = s.launcher)
    (retired : s'.retired = s.retired) (target : s'.target = s.target)
    (debugger : s'.debugger = s.debugger) : Books start s' := by
  unfold Books
  rw [launcher, retired, target, debugger]
  exact h

theorem books_of_no_channels (s : Session C L) (retired : s.retired = []) (empty : s.Empty) :
    Books s.launcher s := by
  refine ⟨[], [], [], .start, ?_, ?_, ?_⟩
  · rw [retired]
    exact .nil
  · rw [empty.no_target]
    exact .nil
  · rw [empty.no_debugger]
    exact .nil

/-- Letting go of all channels closes those that are held. -/
theorem Books.close (h : Books start s) : Books start s.close := by
  obtain ⟨returned, program, debugger, issued, retired, target, held⟩ := h
  have shutting (c c' : C) (used : Used c c') : Retired c (shut c') := ⟨c', used, rfl⟩
  refine ⟨returned ++ program ++ debugger, [], [], ?_, ?_, .nil, .nil⟩
  · rw [List.append_nil, List.append_nil]
    exact issued
  · exact List.rel_append (List.rel_append retired (forall₂_map shutting target))
      (forall₂_map shutting held)

omit [Channel C] [Launcher L C] in
theorem stateAfter_withDebugger (x : Exchange C α) (s : Session C L) :
    stateAfter (withDebugger x s) =
      { s with debugger := s.debugger.map fun c => stateAfter (x c) } := by
  unfold withDebugger
  cases held : s.debugger with
  | none =>
    cases s
    subst held
    rfl
  | some c => cases answer : x c <;> simp [answer, stateAfter]

/-- An exchange with the debugger is one more use of it. -/
theorem Books.withDebugger {x : Exchange C α} (h : Books start s)
    (use : ∀ c c', Used c c' → Used c (stateAfter (x c'))) :
    Books start (stateAfter (withDebugger x s)) := by
  obtain ⟨returned, program, debugger, issued, retired, target, held⟩ := h
  rw [stateAfter_withDebugger]
  exact ⟨returned, program, debugger, issued, retired, target, forall₂_map use held⟩

/-- A line for the program is one more use of that. -/
theorem Books.sendTargetLine (h : Books start s) (line : String) :
    Books start (s.sendTargetLine line).2 := by
  obtain ⟨returned, program, debugger, issued, retired, target, held⟩ := h
  rw [sendTargetLine_snd]
  exact ⟨returned, program, debugger, issued, retired,
    forall₂_map (fun _ _ earlier => earlier.sent line) target, held⟩

end Session

-- ---------------------------------------------------------------------------
-- Dialogues and steps
-- ---------------------------------------------------------------------------

section
variable [Launcher L C] {start : L} {s : Session C L}

/-- A dialogue keeps the books, however it ends. -/
theorem Dialogue.books_run (d : Dialogue α) (h : s.Books start) :
    (stateAfter (d.run s)).Books start := by
  induction d generalizing s with
  | done a => exact h
  | reject output => exact h
  | say line next ih =>
    apply invariant_bind (h.withDebugger fun c c' earlier => earlier.sent line)
    intro _ s' later
    exact ih later
  | hear p next ih =>
    apply invariant_bind (h.withDebugger fun c c' earlier => earlier.heard p s.config.timeout)
    intro found s' later
    exact ih found later
  | look next ih => exact ih s.isActive h

/-- A step keeps the books. -/
theorem Session.Books.step (h : s.Books start) (modifier : StepModifier) (includeLocals : Bool) :
    (stateAfter (step modifier includeLocals s)).Books start := by
  cases active : s.isActive with
  | false =>
    rw [Session.step, whenActive_of_inactive active]
    exact h
  | true =>
    obtain ⟨result, debugger, ends, -⟩ := (Dialogue.step modifier includeLocals).run_ending s
    have later := (Dialogue.step modifier includeLocals).books_run h
    rw [ends, stateAfter_ending] at later
    rw [step_of_active active ends, stateAfter_ending]
    cases result with
    | ok record => exact later.congr rfl rfl rfl rfl
    | error e => exact later

theorem Session.Books.locals (h : s.Books start) : (stateAfter (locals s)).Books start := by
  rw [locals_eq_run]
  exact Dialogue.locals.whenActive.books_run h

-- ---------------------------------------------------------------------------
-- Spawns
-- ---------------------------------------------------------------------------

namespace Session

/-- The launches of a session without channels enter all that they are handed into the books. -/
theorem Launching.books {args : List String} {apart : Bool}
    {ends : EStateM.Result SessionError (Session C L) Unit} (h : Launching s args apart ends)
    (books : s.Books start) (empty : s.Empty) : (stateAfter ends).Books start := by
  obtain ⟨returned, program, debugger, issued, retired, target, held⟩ := books
  rw [empty.no_target] at target
  rw [empty.no_debugger] at held
  obtain rfl := List.forall₂_nil_right_iff.1 target
  obtain rfl := List.forall₂_nil_right_iff.1 held
  rw [List.append_nil, List.append_nil] at issued
  -- What is used is the channel that was handed out, or what the wait for the program left of it.
  have only {c c' : C} (used : Used c c') : List.Forall₂ Used [c] [c'] := .cons used .nil
  have no_target : List.Forall₂ Used [] s.target.toList := by
    rw [empty.no_target]
    exact .nil
  have no_debugger : List.Forall₂ Used [] s.debugger.toList := by
    rw [empty.no_debugger]
    exact .nil
  cases h with
  | @direct debugger launcher launched =>
    refine ⟨returned, [], [debugger], ?_, retired, no_target, only (.new debugger)⟩
    rw [List.append_nil]
    exact issued.issued launched
  | undone failed =>
    refine ⟨returned, [], [], ?_, retired, no_target, no_debugger⟩
    rw [List.append_nil, List.append_nil]
    exact issued.refused failed
  | @apart target listener debugger between launcher found launched listens attached =>
    have heard := (Used.new target).of_expect listens
    exact ⟨returned, [target], [debugger], (issued.issued launched).issued attached, retired,
      only heard.discarded, only (.new debugger)⟩
  | @unattached target listener between launcher found e launched listens failed =>
    have heard := (Used.new target).of_expect listens
    refine ⟨returned, [target], [], ?_, retired, only heard.discarded, no_debugger⟩
    rw [List.append_nil]
    exact (issued.issued launched).refused failed
  | @deaf target target' launcher e launched silent =>
    have heard := (Used.new target).heard Message.listening s.config.timeout
    rw [silent] at heard
    refine ⟨returned ++ [target], [], [], ?_, ?_, no_target, no_debugger⟩
    · rw [List.append_nil, List.append_nil]
      exact issued.issued launched
    · exact List.rel_append retired (.cons ⟨target', heard, rfl⟩ .nil)
  | targetless failed =>
    refine ⟨returned, [], [], ?_, retired, no_target, no_debugger⟩
    rw [List.append_nil, List.append_nil]
    exact issued.refused failed

/-- A spawn keeps the books, whether it succeeds or fails. -/
theorem Books.spawn (h : s.Books start) (args : List String) (apart : Bool) :
    (stateAfter (spawn args apart s)).Books start := by
  rcases spawn_cases args apart s with
    ⟨e, s₁, launched, ends⟩ | ⟨s₁, debugger, launched, -, ends⟩
  · rw [ends]
    exact (launched.books h.close (empty_close s)).close
  · have first : s₁.Books start := launched.books h.close (empty_close s)
    have prepared := (Dialogue.prepare s₁.breakpointCommand s₁.excludeCommand).books_run first
    rw [← Dialogue.run_prepare] at prepared
    rcases ends with ⟨done, ends⟩ | ⟨e, done, ends⟩
    · rw [done] at prepared
      rw [ends]
      exact prepared.congr rfl rfl rfl rfl
    · rw [done] at prepared
      rw [ends]
      exact Books.close prepared

end Session
end
end Retrace
